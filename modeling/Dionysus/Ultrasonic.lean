import Dionysus.Machine

/-! The distance measurement of the Disco board (the loop of `main` in
`Project/Disco_L475/src/main.c`). Every read of the echo pin and of the cycle
counter is an event. -/

namespace Dionysus.Ultrasonic

def echoTimeoutUs : Nat := 25000

def maxRangeTimeoutUs : Nat := 40000

/-- The rate of the cycle counter. -/
structure Clock where
  hz : Nat
  fast : 1000000 ≤ hz := by decide
deriving DecidableEq, Repr

def kCycToUsFloor32 (clock : Clock) (cycles : UInt32) : UInt32 := UInt32.ofNat (cycles.toNat * 1000000 / clock.hz)

def kCycToNsFloor64 (clock : Clock) (cycles : UInt32) : UInt64 := UInt64.ofNat (cycles.toNat * 1000000000 / clock.hz)

/-- The statement executed next, with the variables that are set anew in every
measurement. -/
inductive Point where
  | triggering
  | readingEchoStart
  | waitingForEcho (echoStartTime : UInt32)
  | checkingEcho (echoStartTime : UInt32)
  | readingStart
  | waitingForEnd (startTime : UInt32)
  | readingStop (startTime : UInt32)
deriving DecidableEq, Repr

/-- `stopTime` is set once before the loop and keeps its value between measurements. -/
structure State where
  point : Point := .triggering
  stopTime : UInt32 := 0
deriving DecidableEq, Repr

inductive Event where
  | trigger
  | pin (value : Int)
  | counter (sample : UInt32)
deriving DecidableEq, Repr

inductive Mark where
  | triggered
  | sampled (sample : UInt32)
  | started (startTime : UInt32)
  | reported (distanceCm : UInt32) (advertised : UInt16)
deriving DecidableEq, Repr

def distanceCm (clock : Clock) (startTime stopTime : UInt32) : UInt32 :=
  (kCycToNsFloor64 clock (stopTime - startTime) / 58000).toUInt32

def report (clock : Clock) (startTime stopTime : UInt32) : Mark :=
  .reported (distanceCm clock startTime stopTime) (distanceCm clock startTime stopTime).toUInt16

def step (clock : Clock) (state : State) (event : Event) : Option (State × List Mark) :=
  match state.point, event with
  | .triggering, .trigger => some ({ state with point := .readingEchoStart }, [.triggered])
  | .readingEchoStart, .counter sample => some ({ state with point := .waitingForEcho sample }, [.sampled sample])
  | .waitingForEcho echoStartTime, .pin value =>
    some ({ state with point := if value = 0 then .checkingEcho echoStartTime else .readingStart }, [])
  | .checkingEcho echoStartTime, .counter sample =>
    some ({ state with
      point := if (kCycToUsFloor32 clock (sample - echoStartTime)).toNat > echoTimeoutUs then .triggering
        else .waitingForEcho echoStartTime }, [.sampled sample])
  | .readingStart, .counter sample => some ({ state with point := .waitingForEnd sample }, [.started sample])
  | .waitingForEnd startTime, .pin value =>
    if value = 1 then some ({ state with point := .readingStop startTime }, [])
    else some ({ state with point := .triggering }, [report clock startTime state.stopTime])
  | .readingStop startTime, .counter sample =>
    some (⟨if (kCycToUsFloor32 clock (sample - startTime)).toNat > maxRangeTimeoutUs then .triggering
      else .waitingForEnd startTime, sample⟩, [.sampled sample])
  | _, _ => none

def machine (clock : Clock) : Machine State Event Mark := ⟨{}, step clock⟩

/-- The wait for the echo as a loop of its own, over what the pin and the counter read
in every round. The result is `timeout_occurred`. -/
def waitForEcho (clock : Clock) (pin : Nat → Int) (counter : Nat → UInt32) (echoStartTime : UInt32) :
    Nat → Nat → Option Bool
  | 0, _ => none
  | fuel + 1, round =>
    if pin round = 0 then
      if (kCycToUsFloor32 clock (counter round - echoStartTime)).toNat > echoTimeoutUs then some true
      else waitForEcho clock pin counter echoStartTime fuel (round + 1)
    else some false

/-- The wait for the end of the echo, with `stop_time` behind it. -/
def waitForEnd (clock : Clock) (pin : Nat → Int) (counter : Nat → UInt32) (startTime : UInt32) :
    Nat → Nat → UInt32 → Option (Bool × UInt32)
  | 0, _, _ => none
  | fuel + 1, round, stopTime =>
    if pin round = 1 then
      if (kCycToUsFloor32 clock (counter round - startTime)).toNat > maxRangeTimeoutUs then
        some (true, counter round)
      else waitForEnd clock pin counter startTime fuel (round + 1) (counter round)
    else some (false, stopTime)

@[simp] theorem kCycToUsFloor32_toNat (clock : Clock) (cycles : UInt32) :
    (kCycToUsFloor32 clock cycles).toNat = cycles.toNat * 1000000 / clock.hz := by
  have fast := clock.fast
  have fits : cycles.toNat * 1000000 / clock.hz < UInt32.size :=
    calc cycles.toNat * 1000000 / clock.hz ≤ cycles.toNat * clock.hz / clock.hz :=
          Nat.div_le_div_right (Nat.mul_le_mul_left _ fast)
      _ = cycles.toNat := Nat.mul_div_cancel _ (by omega)
      _ < UInt32.size := cycles.toNat_lt
  exact UInt32.toNat_ofNat_of_lt' fits

@[simp] theorem kCycToNsFloor64_toNat (clock : Clock) (cycles : UInt32) :
    (kCycToNsFloor64 clock cycles).toNat = cycles.toNat * 1000000000 / clock.hz := by
  have bounded := cycles.toNat_lt
  have fits : cycles.toNat * 1000000000 / clock.hz < UInt64.size :=
    calc cycles.toNat * 1000000000 / clock.hz ≤ cycles.toNat * 1000000000 := Nat.div_le_self _ _
      _ < UInt64.size := by unfold UInt64.size; omega
  exact UInt64.toNat_ofNat_of_lt' fits

/-- A clock this fast leaves no distance that 32 bits cannot hold. -/
theorem distanceCm_toNat (clock : Clock) (startTime stopTime : UInt32) :
    (distanceCm clock startTime stopTime).toNat = (kCycToNsFloor64 clock (stopTime - startTime)).toNat / 58000 := by
  have bounded := (stopTime - startTime).toNat_lt
  have fast := clock.fast
  have fits : (kCycToNsFloor64 clock (stopTime - startTime)).toNat / 58000 < UInt32.size := by
    rw [kCycToNsFloor64_toNat]
    calc (stopTime - startTime).toNat * 1000000000 / clock.hz / 58000
        ≤ (stopTime - startTime).toNat * 1000000000 / 1000000 / 58000 :=
          Nat.div_le_div_right (Nat.div_le_div_left fast (by decide))
      _ < UInt32.size := by unfold UInt32.size; omega
  rw [distanceCm, UInt64.toNat_toUInt32, UInt64.toNat_div]
  exact Nat.mod_eq_of_lt fits

end Dionysus.Ultrasonic
