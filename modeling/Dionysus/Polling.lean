import Mathlib.Data.Nat.Find

/-! Polling with a timeout on a counter that wraps around. The loop sees elapsed time
modulo the span of the counter, and what it is meant to bound is true elapsed time. -/

namespace Dionysus.Polling

/-- Reads until something changed or it is late, and tells which; a read comes first
and a sample of the clock behind every read without a change. -/
def poll (unchanged late : Nat → Bool) : Nat → Nat → Option Bool
  | 0, _ => none
  | fuel + 1, round =>
    if unchanged round then
      if late round then some true else poll unchanged late fuel (round + 1)
    else some false

variable {unchanged late : Nat → Bool}

theorem poll_skip {fuel start : Nat} (count : Nat)
    (goesOn : ∀ round, round < count → unchanged (start + round) = true ∧ late (start + round) = false) :
    poll unchanged late (fuel + count) start = poll unchanged late fuel (start + count) := by
  induction count generalizing start with
  | zero => rfl
  | succ count ih =>
    obtain ⟨same, early⟩ := goesOn 0 (Nat.succ_pos count)
    rw [Nat.add_zero] at same early
    rw [← Nat.add_assoc fuel, poll, if_pos same, early, if_neg Bool.false_ne_true, ih, Nat.add_assoc, Nat.add_comm 1]
    intro round below
    rw [Nat.add_assoc, Nat.add_comm 1]
    exact goesOn (round + 1) (Nat.succ_lt_succ below)

/-- A loop that something ends by some round ends, and it times out exactly when it is
late at a round up to which nothing changed. -/
theorem poll_ends (unchanged late : Nat → Bool) {bound : Nat} (ends : unchanged bound = false ∨ late bound = true) :
    ∃ timedOut, (∀ fuel, bound < fuel → poll unchanged late fuel 0 = some timedOut) ∧
      (timedOut = true ↔ ∃ round, (∀ earlier, earlier ≤ round → unchanged earlier = true) ∧ late round = true) := by
  have some' : ∃ round, unchanged round = false ∨ late round = true := ⟨bound, ends⟩
  have first := Nat.find_spec some'
  have goesOn : ∀ round, round < Nat.find some' → unchanged round = true ∧ late round = false := by
    intro round below
    simpa using Nat.find_min some' below
  have within : Nat.find some' ≤ bound := Nat.find_min' some' ends
  generalize Nat.find some' = last at first goesOn within
  refine ⟨unchanged last, ?_, ?_⟩
  · intro fuel enough
    obtain ⟨more, rfl⟩ : ∃ more, fuel = more + 1 + last := ⟨fuel - last - 1, by omega⟩
    rw [poll_skip last (by simpa using goesOn), Nat.zero_add, poll]
    cases same : unchanged last with
    | true =>
      have overdue : late last = true := by simpa [same] using first
      simp [overdue]
    | false => simp
  · constructor
    · intro same
      refine ⟨last, ?_, by simpa [same] using first⟩
      intro earlier le
      rcases Nat.lt_or_eq_of_le le with below | rfl
      · exact (goesOn earlier below).1
      · exact same
    · intro ⟨round, stays, overdue⟩
      apply stays
      by_contra beyond
      rw [(goesOn round (Nat.lt_of_not_le beyond)).2] at overdue
      cases overdue

/-- Times at which a counter is sampled. Each is later than the one before, by less
than what separates the limit from the counter's span. -/
structure Advances (span limit : Nat) (time : Nat → Nat) : Prop where
  moves : ∀ sample, time sample < time (sample + 1)
  near : ∀ sample, time (sample + 1) < time sample + (span - limit)

variable {span limit : Nat} {time : Nat → Nat}

theorem Advances.le (advances : Advances span limit time) (sample : Nat) : time 0 + sample ≤ time sample := by
  induction sample with
  | zero => exact Nat.le_refl _
  | succ sample ih =>
    have later := advances.moves sample
    omega

/-- As long as no sample was late, the next one is within the span. -/
theorem Advances.within (advances : Advances span limit time) {sample : Nat}
    (early : ∀ earlier, earlier < sample → time (earlier + 1) - time 0 ≤ limit) :
    time (sample + 1) - time 0 < span := by
  have near := advances.near sample
  have moves := advances.moves sample
  cases sample with
  | zero => omega
  | succ sample =>
    have last := early sample (Nat.lt_succ_self sample)
    omega

/-- The first sample that is late is seen to be late. -/
theorem Advances.seen (advances : Advances span limit time) {sample : Nat}
    (overdue : limit < time (sample + 1) - time 0) :
    ∃ first, first ≤ sample ∧ limit < (time (first + 1) - time 0) % span := by
  have some' : ∃ first, limit < time (first + 1) - time 0 := ⟨sample, overdue⟩
  refine ⟨Nat.find some', Nat.find_min' some' overdue, ?_⟩
  have within : time (Nat.find some' + 1) - time 0 < span :=
    advances.within fun earlier below => Nat.le_of_not_lt (Nat.find_min some' below)
  rw [Nat.mod_eq_of_lt within]
  exact Nat.find_spec some'

theorem Advances.seen_within (advances : Advances span limit time) :
    ∃ first, first ≤ limit ∧ limit < (time (first + 1) - time 0) % span := by
  apply advances.seen
  have passed := advances.le (limit + 1)
  omega

/-- A loop that sees wrapped times is late when it is late by true time. -/
theorem Advances.seen_iff (advances : Advances span limit time) {stays : Nat → Prop} :
    (∃ round, (∀ earlier, earlier ≤ round → stays earlier) ∧ limit < (time (round + 1) - time 0) % span) ↔
      ∃ round, (∀ earlier, earlier ≤ round → stays earlier) ∧ limit < time (round + 1) - time 0 := by
  constructor
  · intro ⟨round, same, late⟩
    exact ⟨round, same, Nat.lt_of_lt_of_le late (Nat.mod_le _ _)⟩
  · intro ⟨round, same, late⟩
    obtain ⟨first, le, seen⟩ := advances.seen late
    exact ⟨first, fun earlier before => same earlier (Nat.le_trans before le), seen⟩

end Dionysus.Polling
