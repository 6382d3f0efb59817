import Dionysus.Polling
import Dionysus.Ultrasonic

/-! How the two waits of a distance measurement end. The loops only see differences of
32-bit counter samples, and time out by true elapsed time all the same. -/

namespace Dionysus.Proofs.EchoWaits
open Ultrasonic Polling

/-- The largest number of cycles that is not more than this many microseconds. -/
def cyclesWithin (clock : Clock) (us : Nat) : Nat := ((us + 1) * clock.hz - 1) / 1000000

/-- What the free-running counter shows at a time in cycles. -/
def counterAt (time : Nat) : UInt32 := UInt32.ofNat time

/-- At some sample the elapsed time, in whole microseconds, was over the limit and the
pin had not changed. -/
def TimesOut (clock : Clock) (us : Nat) (waits : Int → Prop) (pin : Nat → Int) (time : Nat → Nat) : Prop :=
  ∃ round, (∀ earlier, earlier ≤ round → waits (pin earlier)) ∧
    us < (time (round + 1) - time 0) * 1000000 / clock.hz

/-- The loop ends with this result once it is given enough rounds. -/
def Ends {α : Type} (loop : Nat → Option α) (result : α) : Prop :=
  ∃ bound, ∀ fuel, bound < fuel → loop fuel = some result

variable {clock : Clock} {pin : Nat → Int} {counter : Nat → UInt32} {time : Nat → Nat} {start : UInt32}

theorem late_iff (clock : Clock) (us cycles : Nat) :
    us < cycles * 1000000 / clock.hz ↔ cyclesWithin clock us < cycles := by
  have fast := clock.fast
  have positive : 0 < (us + 1) * clock.hz := Nat.mul_pos (Nat.succ_pos us) (by omega)
  calc us < cycles * 1000000 / clock.hz
      ↔ (us + 1) * clock.hz ≤ cycles * 1000000 := Nat.le_div_iff_mul_le (by omega)
    _ ↔ (us + 1) * clock.hz - 1 < cycles * 1000000 := by omega
    _ ↔ cyclesWithin clock us < cycles := (Nat.div_lt_iff_lt_mul (by decide)).symm

/-- Differences of samples are differences of times, modulo the span of the counter. -/
theorem counterAt_sub {earlier later : Nat} (before : earlier ≤ later) :
    (counterAt later - counterAt earlier).toNat = (later - earlier) % UInt32.size := by
  simp only [counterAt, UInt32.toNat_sub, UInt32.toNat_ofNat', UInt32.size]
  omega

/-- The wait for the echo is a poll of the pin. -/
theorem waitForEcho_eq_poll (fuel round : Nat) :
    waitForEcho clock pin counter start fuel round =
      poll (fun round => pin round = 0)
        (fun round => echoTimeoutUs < (kCycToUsFloor32 clock (counter round - start)).toNat) fuel round := by
  induction fuel generalizing round with
  | zero => rfl
  | succ fuel ih => simp only [waitForEcho, poll, decide_eq_true_eq, gt_iff_lt, ih]

theorem waitForEnd_eq_poll (fuel round : Nat) (stopTime : UInt32) :
    (waitForEnd clock pin counter start fuel round stopTime).map Prod.fst =
      poll (fun round => pin round = 1)
        (fun round => maxRangeTimeoutUs < (kCycToUsFloor32 clock (counter round - start)).toNat) fuel round := by
  induction fuel generalizing round stopTime with
  | zero => rfl
  | succ fuel ih =>
    simp only [waitForEnd, poll, decide_eq_true_eq, gt_iff_lt, ← ih round.succ (counter round)]
    split
    next =>
      split
      next => rfl
      next => rfl
    next => rfl

/-- The events of so many rounds of a wait. -/
def rounds (pin : Nat → Int) (counter : Nat → UInt32) : Nat → Nat → List Event
  | 0, _ => []
  | count + 1, round => .pin (pin round) :: .counter (counter round) :: rounds pin counter count (round + 1)

theorem waitForEcho_round {value : Int} (same : value = 0) (sample stopTime : UInt32) (trace : List Mark)
    (rest : List Event) :
    (machine clock).run Guard.free trace ⟨.waitingForEcho start, stopTime⟩ (.pin value :: .counter sample :: rest) =
      (machine clock).run Guard.free (trace ++ [.sampled sample])
        ⟨if (kCycToUsFloor32 clock (sample - start)).toNat > echoTimeoutUs then .triggering
          else .waitingForEcho start, stopTime⟩ rest := by
  simp [Machine.run, machine, step, Guard.free, same]

theorem waitForEnd_round {value : Int} (same : value = 1) (sample stopTime : UInt32) (trace : List Mark)
    (rest : List Event) :
    (machine clock).run Guard.free trace ⟨.waitingForEnd start, stopTime⟩ (.pin value :: .counter sample :: rest) =
      (machine clock).run Guard.free (trace ++ [.sampled sample])
        ⟨if (kCycToUsFloor32 clock (sample - start)).toNat > maxRangeTimeoutUs then .triggering
          else .waitingForEnd start, sample⟩ rest := by
  simp [Machine.run, machine, step, Guard.free, same]

/-- What the loop computes is what a run of the measurement does on the same reads. -/
theorem waitForEcho_run {fuel round : Nat} {timedOut : Bool} (stopTime : UInt32) (trace : List Mark)
    (ended : waitForEcho clock pin counter start fuel round = some timedOut) :
    ∃ count samples, (machine clock).run Guard.free trace ⟨.waitingForEcho start, stopTime⟩
      (rounds pin counter count round ++ if timedOut then [] else [.pin (pin (round + count))]) =
        some (trace ++ samples, ⟨if timedOut then .triggering else .readingStart, stopTime⟩) := by
  induction fuel generalizing round trace with
  | zero => cases ended
  | succ fuel ih =>
    rw [waitForEcho] at ended
    split at ended
    next same =>
      split at ended
      next late =>
        cases ended
        refine ⟨1, [.sampled (counter round)], ?_⟩
        rw [rounds, List.cons_append, List.cons_append, waitForEcho_round same, if_pos late]
        rfl
      next early =>
        obtain ⟨count, samples, executed⟩ := ih (trace ++ [.sampled (counter round)]) ended
        refine ⟨count + 1, .sampled (counter round) :: samples, ?_⟩
        rw [rounds, List.cons_append, List.cons_append, waitForEcho_round same, if_neg early, ← Nat.add_assoc,
          Nat.add_right_comm, executed, List.append_assoc, List.singleton_append]
    next changed =>
      cases ended
      exact ⟨0, [], by simp [rounds, Machine.run, machine, step, Guard.free, changed]⟩

/-- A distance is reported from `stop_time` exactly when the loop did not time out. -/
theorem waitForEnd_run {fuel round : Nat} {timedOut : Bool} {stopTime stopped : UInt32} (trace : List Mark)
    (ended : waitForEnd clock pin counter start fuel round stopTime = some (timedOut, stopped)) :
    ∃ (count : Nat) (samples : List UInt32), (machine clock).run Guard.free trace ⟨.waitingForEnd start, stopTime⟩
      (rounds pin counter count round ++ if timedOut then [] else [.pin (pin (round + count))]) =
        some (trace ++ samples.map .sampled ++ (if timedOut then [] else [report clock start stopped]),
          ⟨.triggering, stopped⟩) := by
  induction fuel generalizing round stopTime trace with
  | zero => cases ended
  | succ fuel ih =>
    rw [waitForEnd] at ended
    split at ended
    next same =>
      split at ended
      next late =>
        cases ended
        refine ⟨1, [counter round], ?_⟩
        rw [rounds, List.cons_append, List.cons_append, waitForEnd_round same, if_pos late]
        simp [rounds, Machine.run]
      next early =>
        obtain ⟨count, samples, executed⟩ := ih (trace ++ [.sampled (counter round)]) ended
        refine ⟨count + 1, counter round :: samples, ?_⟩
        rw [rounds, List.cons_append, List.cons_append, waitForEnd_round same, if_neg early, ← Nat.add_assoc,
          Nat.add_right_comm, executed, List.map_cons, List.append_assoc trace, List.singleton_append]
    next changed =>
      cases ended
      exact ⟨0, [], by simp [rounds, Machine.run, machine, step, Guard.free, changed]⟩

/-- A poll of the wrapping counter ends, and times out by true elapsed time. -/
theorem poll_timesOut {us : Nat} (waits : Int → Prop) [DecidablePred waits] (pin : Nat → Int)
    (advances : Advances UInt32.size (cyclesWithin clock us) time) :
    ∃ timedOut, Ends (fun fuel => poll (fun round => waits (pin round))
        (fun round => us < (kCycToUsFloor32 clock (counterAt (time (round + 1)) - counterAt (time 0))).toNat) fuel 0)
          timedOut ∧
      (timedOut = true ↔ TimesOut clock us waits pin time) := by
  have seen : ∀ round, us < (kCycToUsFloor32 clock (counterAt (time (round + 1)) - counterAt (time 0))).toNat ↔
      cyclesWithin clock us < (time (round + 1) - time 0) % UInt32.size := by
    intro round
    have passed := advances.le (round + 1)
    rw [kCycToUsFloor32_toNat, late_iff, counterAt_sub (by omega)]
  obtain ⟨bound, -, late⟩ := advances.seen_within
  obtain ⟨timedOut, ends, times⟩ := poll_ends (fun round => waits (pin round))
    (fun round => us < (kCycToUsFloor32 clock (counterAt (time (round + 1)) - counterAt (time 0))).toNat)
    (Or.inr (decide_eq_true ((seen bound).mpr late)))
  refine ⟨timedOut, ⟨bound, ends⟩, times.trans ?_⟩
  simp only [decide_eq_true_eq, seen]
  rw [advances.seen_iff]
  simp only [TimesOut, late_iff]

/-- Both waits end, whatever the echo pin does and wherever the counter starts, and
`timeout_occurred` is set exactly when too much time passed before the pin changed. -/
theorem waits_end (clock : Clock) (pin : Nat → Int) (time : Nat → Nat) (stopTime : UInt32) :
    (Advances UInt32.size (cyclesWithin clock echoTimeoutUs) time →
      ∃ timedOut, Ends (fun fuel => waitForEcho clock pin (fun round => counterAt (time (round + 1)))
          (counterAt (time 0)) fuel 0) timedOut ∧
        (timedOut = true ↔ TimesOut clock echoTimeoutUs (· = 0) pin time)) ∧
    (Advances UInt32.size (cyclesWithin clock maxRangeTimeoutUs) time →
      ∃ timedOut, Ends (fun fuel => (waitForEnd clock pin (fun round => counterAt (time (round + 1)))
          (counterAt (time 0)) fuel 0 stopTime).map Prod.fst) timedOut ∧
        (timedOut = true ↔ TimesOut clock maxRangeTimeoutUs (· = 1) pin time)) := by
  constructor
  · intro advances
    simp only [waitForEcho_eq_poll]
    exact poll_timesOut (· = 0) pin advances
  · intro advances
    simp only [waitForEnd_eq_poll]
    exact poll_timesOut (· = 1) pin advances

/-- The counter wraps around between the first two samples of an echo that never comes. -/
theorem waits_end_wrapped :
    (∃ timedOut, Ends (fun fuel => waitForEcho ⟨1000000, by decide⟩ (fun _ => 0)
        (fun round => counterAt (4294967290 + 20000 * (round + 1))) (counterAt 4294967290) fuel 0) timedOut ∧
      (timedOut = true ↔
        TimesOut ⟨1000000, by decide⟩ echoTimeoutUs (· = 0) (fun _ => 0) (4294967290 + 20000 * ·))) ∧
    (∃ timedOut, Ends (fun fuel => (waitForEnd ⟨1000000, by decide⟩ (fun _ => 0)
        (fun round => counterAt (4294967290 + 20000 * (round + 1))) (counterAt 4294967290) fuel 0 0).map Prod.fst)
          timedOut ∧
      (timedOut = true ↔
        TimesOut ⟨1000000, by decide⟩ maxRangeTimeoutUs (· = 1) (fun _ => 0) (4294967290 + 20000 * ·))) := by
  have advances : ∀ us, us ≤ maxRangeTimeoutUs →
      Advances UInt32.size (cyclesWithin ⟨1000000, by decide⟩ us) (4294967290 + 20000 * ·) := by
    intro us short
    unfold maxRangeTimeoutUs at short
    constructor
    · intro sample
      show 4294967290 + 20000 * sample < 4294967290 + 20000 * (sample + 1)
      omega
    · intro sample
      show 4294967290 + 20000 * (sample + 1) <
        4294967290 + 20000 * sample + (4294967296 - ((us + 1) * 1000000 - 1) / 1000000)
      omega
  have both := waits_end ⟨1000000, by decide⟩ (fun _ => 0) (4294967290 + 20000 * ·) 0
  exact ⟨both.1 (advances _ (by decide)), both.2 (advances _ (Nat.le_refl _))⟩

end Dionysus.Proofs.EchoWaits
