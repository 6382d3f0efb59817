import Dionysus.Proofs.BaseRuns

/-! Clap counts are conserved up to overwriting. The global holds one count: a packet
that arrives before the last one was printed replaces it, and every count that is
not replaced is printed exactly once. -/

namespace Dionysus.Proofs.BaseClaps
open Base BaseRuns

def printedClaps : List Entry → Int
  | [] => 0
  | .printed line :: rest => line.clap + printedClaps rest
  | _ :: rest => printedClaps rest

def receivedClaps : List Entry → Int
  | [] => 0
  | .received _ .clap value :: rest => value.toNat + receivedClaps rest
  | _ :: rest => receivedClaps rest

def overwritten : List Entry → Bool
  | [] => false
  | .printed _ :: _ => false
  | .received _ .clap _ :: _ => true
  | .received _ _ _ :: rest => overwritten rest

/-- The counts of the clap packets that no other clap packet overwrites. -/
def standingClaps : List Entry → Int
  | [] => 0
  | .received _ .clap value :: rest => (if overwritten rest then 0 else (value.toNat : Int)) + standingClaps rest
  | _ :: rest => standingClaps rest

def waiting (count : Int) : List Entry → Int
  | [] => count
  | .printed _ :: rest => waiting 0 rest
  | .received _ .clap value :: rest => waiting value.toNat rest
  | .received _ _ _ :: rest => waiting count rest

theorem printedClaps_append (trace later : List Entry) :
    printedClaps (trace ++ later) = printedClaps trace + printedClaps later := by
  induction trace with
  | nil => simp [printedClaps]
  | cons entry rest ih => cases entry <;> simp [printedClaps, ih, Int.add_assoc]

private def standingAfter (count : Int) (trace : List Entry) : Int :=
  (if overwritten trace then 0 else count) + standingClaps trace

private theorem standingAfter_received (count : Int) (packet : Nat) (value : UInt16) (rest : List Entry) :
    standingAfter count (.received packet .clap value :: rest) = standingAfter value.toNat rest := by
  simp [standingAfter, overwritten, standingClaps]

private theorem standingAfter_other {channel : Channel} (other : channel ≠ .clap) (count : Int) (packet : Nat)
    (value : UInt16) (rest : List Entry) :
    standingAfter count (.received packet channel value :: rest) = standingAfter count rest := by
  cases channel <;> first | rfl | exact absurd rfl other

private theorem standingAfter_printed (count : Int) (line : JsonData) (rest : List Entry) :
    standingAfter count (.printed line :: rest) = count + standingAfter 0 rest := by
  simp [standingAfter, overwritten, standingClaps]

private theorem standingClaps_eq (trace : List Entry) : standingClaps trace = standingAfter 0 trace := by
  simp [standingAfter]

private theorem standingAfter_snoc (count : Int) (trace : List Entry) (entry : Entry) :
    standingAfter count (trace ++ [entry]) =
      standingAfter count trace - waiting count trace + standingAfter (waiting count trace) [entry] := by
  induction trace generalizing count with
  | nil => simp [waiting, standingAfter, overwritten, standingClaps]
  | cons first rest ih =>
    cases first with
    | printed line =>
      simp only [List.cons_append, standingAfter_printed, waiting, ih]
      omega
    | received packet channel value =>
      by_cases clap : channel = .clap
      · subst channel
        simp only [List.cons_append, standingAfter_received, waiting, ih]
      · have skip : waiting count (.received packet channel value :: rest) = waiting count rest := by
          cases channel <;> first | rfl | exact absurd rfl clap
        simp only [List.cons_append, standingAfter_other clap, skip, ih]

private theorem waiting_append (count : Int) (trace later : List Entry) :
    waiting count (trace ++ later) = waiting (waiting count trace) later := by
  induction trace generalizing count with
  | nil => rfl
  | cons first rest ih =>
    cases first with
    | printed line => exact ih 0
    | received packet channel value => cases channel <;> exact ih _

theorem standingClaps_snoc (trace : List Entry) (entry : Entry) :
    standingClaps (trace ++ [entry]) =
      standingClaps trace - waiting 0 trace + standingAfter (waiting 0 trace) [entry] := by
  rw [standingClaps_eq, standingClaps_eq, standingAfter_snoc]

structure Conserved (trace : List Entry) (state : State) : Prop where
  waiting : waiting 0 trace = state.globals.clap.toNat
  standing : printedClaps trace + state.globals.clap.toNat = standingClaps trace

theorem conserved {guard : Guard State Event Entry} {trace : List Entry} {state : State}
    (reached : machine.Reaches guard trace state) : Conserved trace state := by
  refine reached.invariant ⟨rfl, rfl⟩ ?_
  intro trace before event after emitted held _ moved
  cases step_moves moved with
  | test _ | stop _ | start _ | ignored _ =>
    rw [List.append_nil]
    exact ⟨held.waiting, held.standing⟩
  | clear channel _ =>
    have same : (cleared before.globals channel).clap = before.globals.clap :=
      value_cleared before.globals channel .clap
    rw [List.append_nil]
    exact ⟨by simpa only [same] using held.waiting, by simpa only [same] using held.standing⟩
  | print _ =>
    have shown : (jsonPrint before.globals).2.data.clap = before.globals.clap.toNat := rfl
    constructor
    · rw [waiting_append]
      rfl
    · rw [standingClaps_snoc, printedClaps_append, held.waiting, ← held.standing]
      simp [printedClaps, standingAfter, overwritten, standingClaps, shown]
  | @received packet ad channel value _ _ =>
    by_cases clap : channel = .clap
    · subst channel
      constructor
      · rw [waiting_append]
        rfl
      · rw [standingClaps_snoc, printedClaps_append, held.waiting, ← held.standing]
        simp [printedClaps, standingAfter, overwritten, standingClaps, Globals.store]
    · have same : (before.globals.store channel value).clap = before.globals.clap :=
        Globals.value_store_other before.globals channel .clap value (Ne.symm clap)
      have skip : waiting 0 (trace ++ [.received packet channel value]) = waiting 0 trace := by
        rw [waiting_append]
        cases channel <;> first | rfl | exact absurd rfl clap
      refine ⟨by simpa only [same, skip] using held.waiting, ?_⟩
      rw [standingClaps_snoc, printedClaps_append, standingAfter_other clap, held.waiting, ← held.standing]
      simp [printedClaps, standingAfter, overwritten, standingClaps, same]

/-- In every run the clap fields printed so far and the count still held add up to
the counts of the packets that no later clap packet overwrote before a line. -/
theorem claps_conserved {trace : List Entry} {state : State} (reached : machine.Reaches Guard.free trace state) :
    printedClaps trace + state.globals.clap.toNat = standingClaps trace :=
  (conserved reached).standing

theorem one_of_two_counts_printed :
    ∃ trace state, machine.Reaches Guard.free trace state ∧
      printedClaps trace + state.globals.clap.toNat = standingClaps trace ∧ standingClaps trace = 4 := by
  obtain ⟨trace, state, reached, found⟩ := machine.reaches_of_run Guard.free
    [.deviceFound 0 (Packets.report .clap 3), .deviceFound 1 (Packets.report .clap 4),
      .main, .main, .main, .main] (fun trace _ => standingClaps trace == 4) (by decide)
  exact ⟨trace, state, reached, claps_conserved reached, by simpa using found⟩

/-- A clap packet that arrives before the last one was printed replaces it: three
and four claps leave four. -/
theorem second_clap_replaces_first :
    ¬∀ trace state, machine.Reaches Guard.free trace state →
      receivedClaps trace ≤ printedClaps trace + state.globals.clap.toNat := by
  intro kept
  obtain ⟨trace, state, reached, found⟩ := machine.reaches_of_run Guard.free
    [.deviceFound 0 (Packets.report .clap 3), .deviceFound 1 (Packets.report .clap 4)]
    (fun trace state => receivedClaps trace == 7 && printedClaps trace + state.globals.clap.toNat == 4) (by decide)
  simp only [Bool.and_eq_true, beq_iff_eq] at found
  have bound := kept trace state reached
  omega

end Dionysus.Proofs.BaseClaps
