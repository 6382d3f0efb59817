import Dionysus.History
import Dionysus.Ultrasonic

/-! Which echo a reported distance belongs to. `stop_time` is only written while the
echo lasts, so an echo that is over at the first read is measured with the end of an
earlier one. -/

namespace Dionysus.Proofs.EchoDistance
open Ultrasonic History

/-- What happened since the last trigger, the newest first. -/
def current (trace : List Mark) : List Mark := trace.reverse.takeWhile (· != .triggered)

/-- The distance belongs to the time between `start_time` and a counter sample of the
current measurement, that many cycles later, and is passed on whole. -/
def FromEcho (clock : Clock) (distance : UInt32) (advertised : UInt16) (past : List Mark) : Prop :=
  ∃ startTime elapsed, .started startTime ∈ current past ∧ elapsed < UInt32.size ∧
    .sampled (startTime + UInt32.ofNat elapsed) ∈ current past ∧
    distance.toNat = elapsed * 1000000000 / clock.hz / 58000 ∧
    distance.toNat ≤ 689 ∧ advertised.toNat = distance.toNat

def ReportsEchoes (clock : Clock) (trace : List Mark) : Prop :=
  ∀ distance advertised, Whenever (· = .reported distance advertised) (FromEcho clock distance advertised) trace

/-- `start_time` was taken and the echo pin has not been read since. -/
def justStarted (trace : List Mark) : Bool :=
  match trace.getLast? with
  | some (.started _) => true
  | _ => false

/-- The echo pin is still high when it is read first after `start_time` was taken. -/
def echoSeen : Guard State Event Mark := fun trace _ event =>
  match event with
  | .pin value => justStarted trace = true → value = 1
  | .trigger | .counter _ => True

instance (trace : List Mark) (state : State) (event : Event) : Decidable (echoSeen trace state event) :=
  match event with
  | .pin value => inferInstanceAs (Decidable (_ → value = 1))
  | .trigger | .counter _ => .isTrue trivial

variable {clock : Clock} {trace : List Mark} {state before after : State} {event : Event} {emitted : List Mark}

@[simp] theorem current_snoc (trace : List Mark) (mark : Mark) :
    current (trace ++ [mark]) = if mark = .triggered then [] else mark :: current trace := by
  by_cases trigger : mark = .triggered <;> simp [current, trigger]

/-- `stop_time` ends an echo of the current measurement that was not too long. -/
def Stopped (clock : Clock) (trace : List Mark) (startTime stopTime : UInt32) : Prop :=
  .sampled stopTime ∈ current trace ∧ (kCycToUsFloor32 clock (stopTime - startTime)).toNat ≤ maxRangeTimeoutUs

/-- What is known at each statement of the loop. -/
def Measuring (clock : Clock) (trace : List Mark) (state : State) : Prop :=
  match state.point with
  | .waitingForEnd startTime =>
    .started startTime ∈ current trace ∧
      (trace.getLast? = some (.started startTime) ∨ Stopped clock trace startTime state.stopTime)
  | .readingStop startTime => .started startTime ∈ current trace
  | _ => True

/-- Less than 40.001 ms of cycles are less than 40.001 million nanoseconds. -/
private theorem nanoseconds_lt {cycles hz : Nat} (positive : 0 < hz) (near : cycles * 1000000 / hz ≤ 40000) :
    cycles * 1000000000 / hz < 40001000 := by
  have below : cycles * 1000000 / hz < 40001 := Nat.lt_of_le_of_lt near (by decide)
  have less : cycles * 1000000 < 40001 * hz := (Nat.div_lt_iff_lt_mul positive).mp below
  apply (Nat.div_lt_iff_lt_mul positive).mpr
  calc cycles * 1000000000 = cycles * 1000000 * 1000 := by simp only [Nat.mul_assoc, Nat.reduceMul]
    _ < 40001 * hz * 1000 := Nat.mul_lt_mul_of_pos_right less (by decide)
    _ = 40001000 * hz := by rw [Nat.mul_right_comm]

theorem distance_le (clock : Clock) {startTime stopTime : UInt32}
    (near : (kCycToUsFloor32 clock (stopTime - startTime)).toNat ≤ maxRangeTimeoutUs) :
    (distanceCm clock startTime stopTime).toNat ≤ 689 := by
  have fast := clock.fast
  rw [kCycToUsFloor32_toNat] at near
  have time := nanoseconds_lt (by omega) near
  rw [distanceCm_toNat, kCycToNsFloor64_toNat]
  omega

private theorem fromEcho {startTime : UInt32} (started : .started startTime ∈ current trace)
    (stopped : Stopped clock trace startTime state.stopTime) :
    FromEcho clock (distanceCm clock startTime state.stopTime)
      (distanceCm clock startTime state.stopTime).toUInt16 trace := by
  have near := distance_le clock stopped.2
  have sample : startTime + UInt32.ofNat (state.stopTime - startTime).toNat = state.stopTime := by
    rw [UInt32.ofNat_toNat, UInt32.add_comm, UInt32.sub_add_cancel]
  refine ⟨startTime, (state.stopTime - startTime).toNat, started, UInt32.toNat_lt _, ?_, ?_, near, ?_⟩
  · rw [sample]
    exact stopped.1
  · rw [distanceCm_toNat, kCycToNsFloor64_toNat]
  · rw [UInt32.toNat_toUInt16]
    exact Nat.mod_eq_of_lt (by omega)

private theorem measuring_step (kept : Measuring clock trace before) (reports : ReportsEchoes clock trace)
    (allowed : echoSeen trace before event) (moved : step clock before event = some (after, emitted)) :
    Measuring clock (trace ++ emitted) after ∧ ReportsEchoes clock (trace ++ emitted) := by
  have silent : (∀ mark ∈ emitted, ∀ distance advertised, mark ≠ .reported distance advertised) →
      ReportsEchoes clock (trace ++ emitted) := by
    intro none distance advertised
    exact (reports distance advertised).append fun mark member => none mark member distance advertised
  unfold step at moved
  split at moved
  next here =>
    cases moved
    exact ⟨trivial, silent (by simp)⟩
  next sample here =>
    cases moved
    exact ⟨trivial, silent (by simp)⟩
  next echoStartTime value here =>
    by_cases low : value = 0
    · rw [if_pos low] at moved
      cases moved
      exact ⟨trivial, silent (by simp)⟩
    · rw [if_neg low] at moved
      cases moved
      exact ⟨trivial, silent (by simp)⟩
  next echoStartTime sample here =>
    by_cases late : (kCycToUsFloor32 clock (sample - echoStartTime)).toNat > echoTimeoutUs
    · rw [if_pos late] at moved
      cases moved
      exact ⟨trivial, silent (by simp)⟩
    · rw [if_neg late] at moved
      cases moved
      exact ⟨trivial, silent (by simp)⟩
  next sample here =>
    cases moved
    exact ⟨⟨by simp, Or.inl (by simp)⟩, silent (by simp)⟩
  next startTime value here =>
    simp only [Measuring, here] at kept
    obtain ⟨started, last⟩ := kept
    by_cases high : value = 1
    · rw [if_pos high] at moved
      cases moved
      exact ⟨by simpa [Measuring] using started, silent (by simp)⟩
    · rw [if_neg high] at moved
      cases moved
      refine ⟨trivial, ?_⟩
      intro distance advertised
      refine whenever_snoc.mpr ⟨reports distance advertised, ?_⟩
      intro same
      obtain ⟨rfl, rfl⟩ := Mark.reported.inj same
      rcases last with first | stopped
      · exact absurd (allowed (by simp [justStarted, first])) high
      · exact fromEcho started stopped
  next startTime sample here =>
    simp only [Measuring, here] at kept
    by_cases late : (kCycToUsFloor32 clock (sample - startTime)).toNat > maxRangeTimeoutUs
    · rw [if_pos late] at moved
      cases moved
      exact ⟨trivial, silent (by simp)⟩
    · rw [if_neg late] at moved
      cases moved
      exact ⟨⟨by simpa using kept, Or.inr ⟨by simp, Nat.le_of_not_lt late⟩⟩, silent (by simp)⟩
  next => cases moved

/-- Every reported distance is that of the echo it was measured on, as long as every
echo is seen once. -/
theorem reports_echoes (reached : (machine clock).Reaches echoSeen trace state) : ReportsEchoes clock trace := by
  suffices both : Measuring clock trace state ∧ ReportsEchoes clock trace from both.2
  apply reached.invariant
  · exact ⟨trivial, fun _ _ => whenever_nil⟩
  · intro trace before event after emitted kept allowed moved
    exact measuring_step kept.1 kept.2 allowed moved

/-- 300 microseconds are five centimetres. -/
theorem reports_echoes_run : ∃ trace state, (machine ⟨1000000, by decide⟩).Reaches echoSeen trace state ∧
    .reported 5 5 ∈ trace ∧ ReportsEchoes ⟨1000000, by decide⟩ trace := by
  obtain ⟨trace, state, reached, found⟩ := (machine ⟨1000000, by decide⟩).reaches_of_run echoSeen
    [.trigger, .counter 0, .pin 1, .counter 10, .pin 1, .counter 310, .pin 0]
    (fun trace _ => decide (.reported 5 5 ∈ trace)) (by decide)
  exact ⟨trace, state, reached, by simpa using found, reports_echoes reached⟩

/-- An echo that is over at the first read is measured with the end of the one before. -/
theorem stale_stop_reported : ¬∀ clock trace state, (machine clock).Reaches Guard.free trace state →
    ReportsEchoes clock trace := by
  intro always
  obtain ⟨trace, state, reached, found⟩ := (machine ⟨1000000, by decide⟩).reaches_of_run Guard.free
    [.trigger, .counter 0, .pin 1, .counter 10, .pin 1, .counter 310, .pin 0,
      .trigger, .counter 1000, .pin 1, .counter 1010, .pin 0]
    (fun trace _ => decide (trace = [.triggered, .sampled 0, .started 10, .sampled 310, .reported 5 5,
      .triggered, .sampled 1000, .started 1010] ++ [.reported 74051148 61004])) (by decide)
  obtain rfl := of_decide_eq_true found
  obtain ⟨startTime, elapsed, -, -, -, -, near, -⟩ := always _ _ _ reached 74051148 61004 _ _ [] rfl rfl
  exact absurd near (by decide)

end Dionysus.Proofs.EchoDistance
