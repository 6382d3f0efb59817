import Dionysus.Microphone

/-! The loop of the Thingy:52 (`main` in `Project/Thingy52/src/main.c`): two sensors, the
microphone, and one advertisement a round. The results of all calls are its input. -/

namespace Dionysus.ThingyNode
open Thingy Microphone

/-- `struct sensor_value`. -/
structure SensorValue where
  val1 : Int32
  val2 : Int32
deriving DecidableEq, Repr

/-- What the driver of a sensor answers in one round. -/
structure Sensor where
  ready : Bool
  sampleFetch : Int
  channelGet : Int
  value : SensorValue
deriving DecidableEq, Repr

def Sensor.reads (sensor : Sensor) : Bool := sensor.ready && sensor.sampleFetch == 0 && sensor.channelGet == 0

structure Boot where
  btEnable : Int
  dmicReady : Bool
  ledConfigure : Int
  hts221Ready : Bool
  expanderReady : Bool
deriving DecidableEq, Repr

structure Round where
  temperature : Sensor
  light : Sensor
  driver : Driver
  advStart : Int

inductive Action where
  | mic (action : Microphone.Action)
  | advStop
  | advStart (ad : List BtData) (err : Int)
deriving DecidableEq

variable (hundredths : SensorValue → UInt16)

/-- `hundredths` is `sensor_value_to_double` times 100, cut to 16 bits. -/
def readTemperature (sensor : Sensor) (data : Values) : Values :=
  if sensor.ready = false then data
  else if sensor.sampleFetch = 0 ∧ sensor.channelGet = 0 then
    { data with temp := hundredths sensor.value, newtemp := 1 }
  else data

def readLight (sensor : Sensor) (data : Values) : Values :=
  if sensor.ready = false then data
  else if sensor.sampleFetch = 0 ∧ sensor.channelGet = 0 then
    { data with light := sensor.value.val1.toUInt32.toUInt16, newlight := 1 }
  else data

def readSensors (round : Round) : Values := readLight round.light (readTemperature hundredths round.temperature {})

def transfer (round : Round) : Transfer := doPdmTransfer round.driver blockCount (readSensors hundredths round)

/-- `advertise_thingy`; the results of the two stops are not looked at. -/
def advertise (data : Values) (err : Int) : List Action :=
  if err ≠ 0 then [.advStop, .advStart (advertiseThingy data) err]
  else [.advStop, .advStart (advertiseThingy data) err, .advStop]

/-- The loop over so many rounds: whether it still runs, and what it has done. -/
def loop : List Round → Bool × List Action
  | [] => (true, [])
  | round :: rest =>
    if (transfer hundredths round).ret < 0 then (false, (transfer hundredths round).actions.map .mic)
    else
      ((loop rest).1, (transfer hundredths round).actions.map .mic ++
        (advertise (transfer hundredths round).data round.advStart ++ (loop rest).2))

def main (boot : Boot) (rounds : List Round) : Bool × List Action :=
  if boot.btEnable ≠ 0 then (false, [])
  else if boot.dmicReady = false then (false, [])
  else if boot.ledConfigure < 0 then (false, [])
  else if boot.hts221Ready = false then (false, [])
  else if boot.expanderReady = false then (false, [])
  else loop hundredths rounds

end Dionysus.ThingyNode
