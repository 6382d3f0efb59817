import Dionysus.Progress
import Dionysus.Proofs.BaseRelay

/-! The base node never waits for long. Its loop takes a bounded number of statements
to report what is new, and to turn the scan on again, however the callback interleaves. -/

namespace Dionysus.Proofs.BaseProgress
open Base BaseRuns BaseRelay Relay

variable {guard : Guard State Base.Event Entry} {trace : List Entry} {state : State}

/-- Something new is there that the loop has not printed yet: a temperature with a
light, or claps. Behind a print its flags are still up, and stand for nothing new. -/
def waiting (state : State) : Bool :=
  match state.point with
  | .clearTemp | .clearLight => state.globals.newClap
  | .clearClap => state.globals.newTemp && state.globals.newLight
  | _ => state.globals.newTemp && state.globals.newLight || state.globals.newClap

/-- How many statements of the loop it takes, at most, up to and including the one that
prints. -/
def due (state : State) : Nat :=
  match state.point with
  | .testTemp => if state.globals.newTemp && state.globals.newLight then 4 else 5
  | .testLight => if state.globals.newLight then 3 else 4
  | .stopBoth | .stopClap => 2
  | .printBoth | .printClap => 1
  | .clearTemp => 6
  | .clearLight => 5
  | .startBoth => if state.globals.newClap then 4 else 6
  | .testClap => if state.globals.newClap then 3 else 5
  | .clearClap => 6
  | .startClap => if state.globals.newTemp && state.globals.newLight then 5 else 6

def ofMain : Base.Event → Bool
  | .main => true
  | _ => false

theorem due_pos (state : State) : 0 < due state := by
  unfold due
  split
  all_goals first | omega | (split <;> omega)

theorem due_le (state : State) : due state ≤ 6 := by
  unfold due
  split
  all_goals first | omega | (split <;> omega)

theorem due_main (waits : waiting state = true) :
    (∃ line, (mainStep state).2 = [.printed line]) ∨
      waiting (mainStep state).1 = true ∧ due (mainStep state).1 + 1 ≤ due state := by
  obtain ⟨⟨temp, light, clap, newTemp, newLight, newClap⟩, point, scanning⟩ := state
  cases point with
  | printBoth | printClap => exact Or.inl ⟨_, rfl⟩
  | _ =>
    revert waits
    cases newTemp <;> cases newLight <;> cases newClap <;> simp [mainStep, waiting, due]

theorem due_received (waits : waiting state = true) (channel : Channel) (value : UInt16) :
    waiting { state with globals := state.globals.store channel value } = true ∧
      due { state with globals := state.globals.store channel value } ≤ due state := by
  obtain ⟨⟨temp, light, clap, newTemp, newLight, newClap⟩, point, scanning⟩ := state
  revert waits
  cases channel <;> cases point <;> cases newTemp <;> cases newLight <;> cases newClap <;>
    simp [waiting, due, Globals.store]

def prints (emitted : List Entry) (_ : State) : Prop := ∃ line, emitted = [.printed line]

theorem serves : Base.machine.Serves Guard.free (fun state => waiting state = true) prints ofMain due where
  positive state _ := due_pos state
  closer trace before event after emitted _ waits _ moved := by
    cases event with
    | main =>
      have executed := Option.some.inj moved
      rw [← show (mainStep before).1 = after by rw [executed], ← show (mainStep before).2 = emitted by rw [executed]]
      exact due_main waits
    | deviceFound packet ad =>
      cases step_moves moved with
      | ignored _ => exact Or.inr ⟨waits, Nat.le_refl _⟩
      | received _ _ => exact Or.inr (due_received waits _ _)

/-- What waits is reported within six statements of the loop, whatever is received
meanwhile, in a line with all the readings of that moment. -/
theorem reports_in_time (reached : Base.machine.Reaches Guard.free trace state) (waits : waiting state = true)
    {events : List Base.Event} {last : List Entry} {final : State}
    (executed : Base.machine.run Guard.free trace state events = some (last, final))
    (enough : 6 ≤ events.countP ofMain) :
    ∃ since later, last = trace ++ since ++ .printed (line (readings (fun _ => 0) (trace ++ since))) :: later := by
  obtain ⟨first, event, rest, middle, before, emitted, after, -, -, runs, there, ⟨shown, rfl⟩, remaining⟩ :=
    serves.served reached waits executed (Nat.le_trans (due_le state) enough)
  obtain ⟨since, rfl⟩ := Machine.prefix_of_run runs
  obtain ⟨later, rfl⟩ := Machine.prefix_of_run remaining
  have shows := (lines_show_readings (refines (reached.run there))).2 shown (trace ++ since) _ [] rfl rfl
  exact ⟨since, later, by rw [← shows]; simp⟩

/-- A temperature and a light that come while the loop clears the flag of a clap line. -/
theorem reports_in_time_both :
    ∃ trace state last final, Base.machine.Reaches Guard.free trace state ∧ waiting state = true ∧
      Base.machine.run Guard.free trace state (List.replicate 6 .main) = some (last, final) ∧
      ∃ since later, last = trace ++ since ++ .printed (line (readings (fun _ => 0) (trace ++ since))) :: later := by
  have executed : Base.machine.run Guard.free [] Base.machine.initial
      [.deviceFound 0 (Packets.report .temp 21), .deviceFound 1 (Packets.report .light 9),
        .deviceFound 2 (Packets.report .clap 3), .main, .main, .main, .main, .main, .main] =
      some ([.received 0 .temp 21, .received 1 .light 9, .received 2 .clap 3, .printed ⟨21, 9, 3⟩],
        ⟨⟨21, 9, 0, false, false, true⟩, .startBoth, false⟩) := by decide
  have later : Base.machine.run Guard.free
      [.received 0 .temp 21, .received 1 .light 9, .received 2 .clap 3, .printed ⟨21, 9, 3⟩]
      ⟨⟨21, 9, 0, false, false, true⟩, .startBoth, false⟩ (List.replicate 6 .main) =
      some ([.received 0 .temp 21, .received 1 .light 9, .received 2 .clap 3, .printed ⟨21, 9, 3⟩, .printed ⟨21, 9, 0⟩],
        ⟨⟨21, 9, 0, false, false, false⟩, .testTemp, true⟩) := by decide
  have reached := Machine.Reaches.start.run executed
  exact ⟨_, _, _, _, reached, rfl, later, reports_in_time reached rfl later (by decide)⟩

/-- How many statements are left until the scan is on again. -/
def pause (state : State) : Nat :=
  match state.point with
  | .printBoth => 4
  | .clearTemp | .printClap => 3
  | .clearLight | .clearClap => 2
  | .startBoth | .startClap => 1
  | _ => 0

theorem pause_pos (quiet' : quiet state.point = true) : 0 < pause state := by
  unfold pause
  split
  all_goals first | omega | simp_all [quiet]

theorem pause_le (state : State) : pause state ≤ 4 := by
  unfold pause
  split <;> omega

theorem pause_main (quiet' : quiet state.point = true) :
    (mainStep state).1.scanning = true ∨
      quiet (mainStep state).1.point = true ∧ pause (mainStep state).1 + 1 ≤ pause state := by
  obtain ⟨globals, point, scanning⟩ := state
  revert quiet'
  cases point <;> simp [mainStep, quiet, pause]

/-- The scan is off only between a stop and the start behind it. -/
theorem quiet_of_stopped (reached : Base.machine.Reaches guard trace state) (stopped : state.scanning = false) :
    quiet state.point = true := by
  induction reached with
  | start => cases stopped
  | @step trace before event after emitted _ _ moved ih =>
    cases event with
    | main =>
      have executed := Option.some.inj moved
      rw [← show (mainStep before).1 = after by rw [executed]] at stopped ⊢
      obtain ⟨globals, point, scanning⟩ := before
      revert stopped ih
      cases scanning <;> cases point <;> simp [mainStep, quiet]
    | deviceFound packet ad =>
      cases step_moves moved with
      | ignored _ => exact ih stopped
      | received scanning _ => exact absurd scanning (by simpa using stopped)

theorem resumes : Base.machine.Serves Guard.free (fun state => quiet state.point = true)
    (fun _ after => after.scanning = true) ofMain pause where
  positive state := pause_pos
  closer trace before event after emitted reached quiet' _ moved := by
    cases event with
    | main =>
      have executed := Option.some.inj moved
      rw [← show (mainStep before).1 = after by rw [executed]]
      exact pause_main quiet'
    | deviceFound packet ad =>
      have stopped := quiet_not_scanning reached quiet'
      cases step_moves moved with
      | ignored _ => exact Or.inr ⟨quiet', Nat.le_refl _⟩
      | received scanning _ => exact absurd scanning (by simp [stopped])

/-- Whenever the base node is deaf, it has its scan on again within four statements of
the loop. -/
theorem scans_again (reached : Base.machine.Reaches Guard.free trace state) (stopped : state.scanning = false)
    {events : List Base.Event} {last : List Entry} {final : State}
    (executed : Base.machine.run Guard.free trace state events = some (last, final))
    (enough : 4 ≤ events.countP ofMain) :
    ∃ first rest middle after, events = first ++ rest ∧ first.countP ofMain ≤ 4 ∧
      Base.machine.run Guard.free trace state first = some (middle, after) ∧ after.scanning = true := by
  obtain ⟨first, event, rest, middle, before, emitted, after, split, few, -, there, scanning, -⟩ :=
    resumes.served reached (quiet_of_stopped reached stopped) executed (Nat.le_trans (pause_le state) enough)
  exact ⟨first ++ [event], rest, _, after, by rw [split]; simp, Nat.le_trans few (pause_le state), there, scanning⟩

theorem scans_again_claps :
    ∃ trace state last final, Base.machine.Reaches Guard.free trace state ∧ state.scanning = false ∧
      Base.machine.run Guard.free trace state (List.replicate 5 .main) = some (last, final) ∧
      ∃ first rest middle after, List.replicate 5 .main = first ++ rest ∧ first.countP ofMain ≤ 4 ∧
        Base.machine.run Guard.free trace state first = some (middle, after) ∧ after.scanning = true := by
  have executed : Base.machine.run Guard.free [] Base.machine.initial
      [.deviceFound 0 (Packets.report .clap 3), .main, .main, .main] =
      some ([.received 0 .clap 3], ⟨⟨0, 0, 3, false, false, true⟩, .printClap, false⟩) := by decide
  have later : Base.machine.run Guard.free [.received 0 .clap 3]
      ⟨⟨0, 0, 3, false, false, true⟩, .printClap, false⟩ (List.replicate 5 .main) =
      some ([.received 0 .clap 3, .printed ⟨0, 0, 3⟩], ⟨⟨0, 0, 0, false, false, false⟩, .testTemp, true⟩) := by decide
  have reached := Machine.Reaches.start.run executed
  exact ⟨_, _, _, _, reached, rfl, later, scans_again reached rfl later (by decide)⟩

end Dionysus.Proofs.BaseProgress
