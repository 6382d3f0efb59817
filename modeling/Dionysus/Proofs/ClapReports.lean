import Dionysus.Radio
import Dionysus.Proofs.BaseRuns

/-! A line that shows a clap count owes it to the last clap packet received. The
count is reset when it is printed, so a packet is reported again only if it is
delivered again after its line, which the scan restart behind every line allows. -/

namespace Dionysus.Proofs.ClapReports
open Base BaseRuns

def lastClap (last : Option Nat) : List Entry → Option Nat
  | [] => last
  | .received packet .clap _ :: rest => lastClap (some packet) rest
  | _ :: rest => lastClap last rest

/-- The packets behind the lines with a nonzero clap field, one for each such line. -/
def reported (last : Option Nat) : List Entry → List Nat
  | [] => []
  | .received packet .clap _ :: rest => reported (some packet) rest
  | .printed line :: rest => (if line.clap = 0 then [] else last.toList) ++ reported last rest
  | _ :: rest => reported last rest

theorem lastClap_append (last : Option Nat) (trace later : List Entry) :
    lastClap last (trace ++ later) = lastClap (lastClap last trace) later := by
  induction trace generalizing last with
  | nil => rfl
  | cons first rest ih =>
    cases first with
    | printed line => exact ih last
    | received packet channel value => cases channel <;> exact ih _

theorem reported_append (last : Option Nat) (trace later : List Entry) :
    reported last (trace ++ later) = reported last trace ++ reported (lastClap last trace) later := by
  induction trace generalizing last with
  | nil => rfl
  | cons first rest ih =>
    cases first with
    | printed line => simp [reported, lastClap, ih]
    | received packet channel value => cases channel <;> exact ih _

def Fresh : Guard Base.State Base.Event Entry := fun trace _ event =>
  match event with
  | .main => True
  | .deviceFound packet ad => ∀ value, accepted ad = some (.clap, value) → packet ∉ reported none trace

structure Once (trace : List Entry) (state : Base.State) : Prop where
  nodup : (reported none trace).Nodup
  pending : state.globals.clap ≠ 0 → ∃ packet, lastClap none trace = some packet ∧ packet ∉ reported none trace

theorem once {trace : List Entry} {state : Base.State} (reached : Base.machine.Reaches Fresh trace state) :
    Once trace state := by
  refine reached.invariant ⟨List.nodup_nil, fun zero => absurd rfl zero⟩ ?_
  intro trace before event after emitted held fresh moved
  cases step_moves moved with
  | test _ | stop _ | start _ | ignored _ =>
    rw [List.append_nil]
    exact ⟨held.nodup, held.pending⟩
  | clear channel _ =>
    have same : (cleared before.globals channel).clap = before.globals.clap :=
      value_cleared before.globals channel .clap
    rw [List.append_nil]
    exact ⟨held.nodup, by simpa only [same] using held.pending⟩
  | print _ =>
    refine ⟨?_, fun zero => absurd rfl zero⟩
    rw [reported_append]
    by_cases zero : before.globals.clap = 0
    · simpa [reported, jsonPrint, zero] using held.nodup
    · obtain ⟨packet, last, unreported⟩ := held.pending zero
      have shown : (jsonPrint before.globals).2.data.clap ≠ 0 := by
        intro none
        exact zero (UInt16.toNat_inj.mp (Int.ofNat_inj.mp none))
      simp only [reported, shown, ↓reduceIte, last, Option.toList_some, List.append_nil]
      exact List.nodup_append.mpr ⟨held.nodup, by simp, fun other member another single same =>
        unreported (by rw [← List.mem_singleton.mp single, ← same]; exact member)⟩
  | @received packet ad channel value _ delivered =>
    by_cases clap : channel = .clap
    · subst channel
      have unreported := fresh value delivered
      rw [← List.append_nil (reported none trace)] at unreported
      exact ⟨by simpa [reported_append, reported] using held.nodup,
        fun _ => ⟨packet, by rw [lastClap_append]; rfl, by rw [reported_append]; exact unreported⟩⟩
    · have same : (before.globals.store channel value).clap = before.globals.clap :=
        Globals.value_store_other before.globals channel .clap value (Ne.symm clap)
      have skip : reported none (trace ++ [.received packet channel value]) = reported none trace := by
        rw [reported_append]
        cases channel <;> exact List.append_nil _
      have last : lastClap none (trace ++ [.received packet channel value]) = lastClap none trace := by
        rw [lastClap_append]
        cases channel <;> first | rfl | exact absurd rfl clap
      exact ⟨by simpa only [skip] using held.nodup, by simpa only [same, skip, last] using held.pending⟩

def clapDelivered (state : Radio.State) : Radio.Event → Option Nat
  | .deliver packet =>
    match (Radio.onAir state packet).bind accepted with
    | some (.clap, _) => some packet
    | _ => none
  | _ => none

/-- No clap packet is delivered once a line has reported it. -/
def Unrepeated : Guard Radio.State Radio.Event Entry := fun trace state event =>
  ∀ packet ∈ clapDelivered state event, packet ∉ reported none trace

instance (trace : List Entry) (state : Radio.State) (event : Radio.Event) :
    Decidable (Unrepeated trace state event) :=
  inferInstanceAs (Decidable (∀ packet ∈ clapDelivered state event, packet ∉ reported none trace))

theorem base_run {trace : List Entry} {state : Radio.State} (reached : Radio.machine.Reaches Unrepeated trace state) :
    Base.machine.Reaches Fresh trace state.base := by
  apply reached.project Radio.State.base rfl
  intro trace before event after emitted unrepeated moved
  cases event with
  | advStart ad =>
    cases moved
    exact Or.inl ⟨rfl, rfl⟩
  | advStop packet =>
    cases moved
    exact Or.inl ⟨rfl, rfl⟩
  | main =>
    cases moved
    exact Or.inr ⟨.main, trivial, rfl⟩
  | deliver packet =>
    simp only [Radio.machine, Radio.step] at moved
    split at moved
    next => cases moved
    next ad aired =>
      split at moved
      next => cases moved
      next passed =>
        split at moved
        next => cases moved
        next base entries handled =>
          cases moved
          refine Or.inr ⟨.deviceFound packet ad, fun value clap => ?_, handled⟩
          exact unrepeated packet (by simp [clapDelivered, aired, clap])

/-- Each clap packet contributes a nonzero clap field to at most one line, as long as
no packet is delivered after the line that reported it. -/
theorem reported_at_most_once {trace : List Entry} {state : Radio.State}
    (reached : Radio.machine.Reaches Unrepeated trace state) (packet : Nat) :
    (reported none trace).count packet ≤ 1 :=
  List.nodup_iff_count.mp (once (base_run reached)).nodup packet

theorem seven_claps_reported_once :
    ∃ trace state, Radio.machine.Reaches Unrepeated trace state ∧ reported none trace = [0] ∧
      (reported none trace).count 0 ≤ 1 := by
  obtain ⟨trace, state, reached, found⟩ := Machine.reaches_of_run Radio.machine Unrepeated
    [.advStart (Packets.report .clap 7), .deliver 0, .main, .main, .main, .main, .advStop 0, .main, .main]
    (fun trace _ => reported none trace == [0]) (by decide)
  exact ⟨trace, state, reached, by simpa using found, reported_at_most_once reached 0⟩

/-- A packet still on air when the scan restarts passes the new session's filter and
is printed a second time. -/
theorem seven_claps_reported_twice :
    ¬∀ trace state, Radio.machine.Reaches Guard.free trace state →
      ∀ packet, (reported none trace).count packet ≤ 1 := by
  intro once
  obtain ⟨trace, state, reached, found⟩ := Machine.reaches_of_run Radio.machine Guard.free
    [.advStart (Packets.report .clap 7), .deliver 0, .main, .main, .main, .main, .main, .main,
      .deliver 0, .main, .main, .main, .main] (fun trace _ => reported none trace == [0, 0]) (by decide)
  have bound := once trace state reached 0
  rw [beq_iff_eq.mp found] at bound
  exact absurd bound (by decide)

end Dionysus.Proofs.ClapReports
