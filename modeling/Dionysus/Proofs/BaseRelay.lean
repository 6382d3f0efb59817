import Dionysus.Relay
import Dionysus.Proofs.BaseRuns

/-! The base node is a relay. Its loop, its flags and its scan never tear a line: the
three fields are the readings of one moment. -/

namespace Dionysus.Proofs.BaseRelay
open Base BaseRuns Relay History

variable {guard : Guard State Base.Event Entry} {trace : List Entry} {state : State}

theorem value_store (globals : Globals) (channel : Channel) (word : UInt16) :
    (globals.store channel word).value = receive globals.value channel word := by
  funext other
  by_cases same : other = channel
  · subst same
    simp [receive]
  · simp [receive, same, Globals.value_store_other _ _ _ _ same]

theorem value_reset (globals : Globals) : ({ globals with clap := 0 } : Globals).value = reported globals.value := by
  funext channel
  cases channel <;> rfl

/-- Every run of the base node is a run of the relay. -/
theorem refines (reached : Base.machine.Reaches guard trace state) :
    Relay.machine.Reaches Guard.free trace state.globals.value := by
  apply reached.project fun state => state.globals.value
  · funext channel
    cases channel <;> rfl
  · intro trace before event after emitted _ moved
    cases step_moves moved with
    | test _ | stop _ | start _ | ignored _ => exact Or.inl ⟨rfl, rfl⟩
    | clear channel _ => exact Or.inl ⟨funext (value_cleared before.globals channel), rfl⟩
    | print _ =>
      refine Or.inr ⟨.report, trivial, ?_⟩
      simp only [value_reset]
      rfl
    | @received packet ad channel value _ _ =>
      refine Or.inr ⟨.receive packet channel value, trivial, ?_⟩
      simp only [value_store]
      rfl

/-- The globals are the readings that the history leaves, and every line of the console
shows those of its moment. -/
theorem shows_readings (reached : Base.machine.Reaches Guard.free trace state) :
    state.globals.value = readings (fun _ => 0) trace ∧ ShowsReadings trace :=
  lines_show_readings (refines reached)

theorem shows_readings_claps_used_up :
    ∃ trace state, Base.machine.Reaches Guard.free trace state ∧
      trace = [.received 0 .clap 3, .printed ⟨0, 0, 3⟩, .received 1 .temp 21, .received 2 .light 9,
        .printed ⟨21, 9, 0⟩] ∧
      state.globals.value = readings (fun _ => 0) trace ∧ ShowsReadings trace := by
  obtain ⟨trace, state, reached, found⟩ := Base.machine.reaches_of_run Guard.free
    [.deviceFound 0 (Packets.report .clap 3), .main, .main, .main, .main, .main, .main,
      .deviceFound 1 (Packets.report .temp 21), .deviceFound 2 (Packets.report .light 9), .main, .main, .main, .main]
    (fun trace _ => trace == [.received 0 .clap 3, .printed ⟨0, 0, 3⟩, .received 1 .temp 21, .received 2 .light 9,
      .printed ⟨21, 9, 0⟩]) (by decide)
  exact ⟨trace, state, reached, beq_iff_eq.mp found, shows_readings reached⟩

end Dionysus.Proofs.BaseRelay
