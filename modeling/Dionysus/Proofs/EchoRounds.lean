import Dionysus.Script
import Dionysus.Ultrasonic

/-! The rounds of the measurement. A trigger leads to one report at most, of a time
that starts in the same round; a round that times out reports nothing. -/

namespace Dionysus.Proofs.EchoRounds
open Ultrasonic

def isTriggered : Mark → Bool
  | .triggered => true
  | _ => false

def isStarted : Mark → Bool
  | .started _ => true
  | _ => false

def isReported : Mark → Bool
  | .reported _ _ => true
  | _ => false

/-- The samples of the waits left out. -/
def inRound (mark : Mark) : Bool := isTriggered mark || isStarted mark || isReported mark

def rounds (trace : List Mark) : List Mark := trace.filter inRound

inductive Follows (clock : Clock) : Option Mark → Mark → Prop where
  | trigger (last : Option Mark) : Follows clock last .triggered
  | echo (startTime : UInt32) : Follows clock (some .triggered) (.started startTime)
  | report (startTime stopTime : UInt32) : Follows clock (some (.started startTime)) (report clock startTime stopTime)

def Stands (point : Point) (last : Option Mark) : Prop :=
  match point with
  | .triggering => True
  | .readingEchoStart | .waitingForEcho _ | .checkingEcho _ | .readingStart => last = some .triggered
  | .waitingForEnd startTime | .readingStop startTime => last = some (.started startTime)

variable {clock : Clock} {trace : List Mark} {state : State}

theorem scripts (clock : Clock) :
    (machine clock).Scripts inRound (Follows clock) (fun state last => Stands state.point last) := by
  refine ⟨trivial, ?_⟩
  intro before event after emitted last stands moved
  simp only [machine, step] at moved
  split at moved
  next here =>
    cases moved
    exact Or.inr ⟨_, rfl, .trigger last, rfl⟩
  next sample here =>
    rw [here] at stands
    cases moved
    exact Or.inl ⟨rfl, stands⟩
  next echoStartTime value here =>
    rw [here] at stands
    cases moved
    refine Or.inl ⟨rfl, ?_⟩
    dsimp only
    split <;> exact stands
  next echoStartTime sample here =>
    rw [here] at stands
    cases moved
    refine Or.inl ⟨rfl, ?_⟩
    dsimp only
    split
    · trivial
    · exact stands
  next sample here =>
    rw [here] at stands
    cases moved
    exact Or.inr ⟨_, rfl, stands ▸ .echo sample, rfl⟩
  next startTime value here =>
    rw [here] at stands
    split at moved <;> cases moved
    · exact Or.inl ⟨rfl, stands⟩
    · exact Or.inr ⟨_, rfl, stands ▸ .report startTime _, trivial⟩
  next startTime sample here =>
    rw [here] at stands
    cases moved
    refine Or.inl ⟨rfl, ?_⟩
    dsimp only
    split
    · trivial
    · exact stands
  next => cases moved

theorem countP_rounds (looks : Mark → Bool) (among : ∀ mark, looks mark = true → inRound mark = true) :
    (rounds trace).countP looks = trace.countP looks := by
  rw [rounds, List.countP_filter]
  apply List.countP_congr
  intro mark _
  constructor
  · intro both
    exact (Bool.and_eq_true _ _ ▸ both : _ ∧ _).1
  · intro looked
    rw [looked, among mark looked]
    rfl

/-- In every run a report comes directly behind the start of its own time, and the start
directly behind a trigger, so there are no more reports than starts and no more starts
than triggers. -/
theorem one_report_a_trigger (reached : (machine clock).Reaches Guard.free trace state) :
    Scripted (Follows clock) (rounds trace) ∧ trace.countP isReported ≤ trace.countP isStarted ∧
      trace.countP isStarted ≤ trace.countP isTriggered := by
  have scripted := ((scripts clock).scripted reached).1
  have reports := scripted.count_le isStarted isReported (fun mark => by cases mark <;> simp [isStarted, isReported])
    fun last mark follows reported => by
      cases follows with
      | report startTime stopTime => exact ⟨_, rfl, rfl⟩
      | _ => cases reported
  have starts := scripted.count_le isTriggered isStarted (fun mark => by cases mark <;> simp [isTriggered, isStarted])
    fun last mark follows started => by
      cases follows with
      | echo startTime => exact ⟨_, rfl, rfl⟩
      | _ => cases started
  have triggered := @countP_rounds trace isTriggered (by simp +contextual [inRound])
  have started := @countP_rounds trace isStarted (by simp +contextual [inRound])
  have reported := @countP_rounds trace isReported (by simp +contextual [inRound])
  rw [← rounds] at reports starts
  exact ⟨scripted, by omega, by omega⟩

/-- The first round times out without an echo, the second reports. -/
theorem one_report_a_trigger_timeout :
    ∃ trace state, (machine ⟨1000000, by decide⟩).Reaches Guard.free trace state ∧
      trace.countP isTriggered = 2 ∧ trace.countP isReported = 1 ∧
      Scripted (Follows ⟨1000000, by decide⟩) (rounds trace) ∧ trace.countP isReported ≤ trace.countP isStarted ∧
      trace.countP isStarted ≤ trace.countP isTriggered := by
  obtain ⟨trace, state, reached, found⟩ := (machine ⟨1000000, by decide⟩).reaches_of_run Guard.free
    [.trigger, .counter 0, .pin 0, .counter 30000, .trigger, .counter 60000, .pin 1, .counter 60010, .pin 1,
      .counter 60310, .pin 0]
    (fun trace _ => trace.countP isTriggered == 2 && trace.countP isReported == 1) (by decide)
  simp only [Bool.and_eq_true, beq_iff_eq] at found
  exact ⟨trace, state, reached, found.1, found.2, one_report_a_trigger reached⟩

end Dionysus.Proofs.EchoRounds
