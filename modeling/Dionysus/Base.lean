import Dionysus.BigEndian
import Dionysus.Bluetooth
import Dionysus.Json
import Dionysus.Machine

/-! The base node (`Project/nRF52840_DK/src/main.c`): a scan callback stores what
the beacons carry, a polling loop prints it. The loop and the callback share six
globals; while the scan is stopped no callback runs. -/

namespace Dionysus.Base
open BigEndian Json

inductive Channel where
  | temp | light | clap
deriving DecidableEq, Repr

structure Globals where
  temp : UInt16 := 0
  light : UInt16 := 0
  clap : UInt16 := 0
  newTemp : Bool := false
  newLight : Bool := false
  newClap : Bool := false
deriving DecidableEq, Repr

namespace Globals

def value (globals : Globals) : Channel → UInt16
  | .temp => globals.temp
  | .light => globals.light
  | .clap => globals.clap

def isNew (globals : Globals) : Channel → Bool
  | .temp => globals.newTemp
  | .light => globals.newLight
  | .clap => globals.newClap

def store (globals : Globals) (channel : Channel) (value : UInt16) : Globals :=
  match channel with
  | .temp => { globals with temp := value, newTemp := true }
  | .light => { globals with light := value, newLight := true }
  | .clap => { globals with clap := value, newClap := true }

variable (globals : Globals) (channel other : Channel) (word : UInt16)

@[simp] theorem value_store_self : (globals.store channel word).value channel = word := by
  cases channel <;> rfl

@[simp] theorem isNew_store_self : (globals.store channel word).isNew channel = true := by
  cases channel <;> rfl

theorem value_store_other (different : other ≠ channel) :
    (globals.store channel word).value other = globals.value other := by
  cases channel <;> cases other <;> first | rfl | exact absurd rfl different

theorem isNew_store_other (different : other ≠ channel) :
    (globals.store channel word).isNew other = globals.isNew other := by
  cases channel <;> cases other <;> first | rfl | exact absurd rfl different

end Globals

def iBeaconHeader : List UInt8 := [0x4C, 0x00, 0x02, 0x15]

def expectedUuid : List UInt8 :=
  [0x19, 0xEE, 0x15, 0x16, 0x01, 0x6B, 0x4B, 0xEC,
   0xAD, 0x96, 0xBC, 0xB9, 0x6D, 0x16, 0x6E, 0x97]

/-- Compares the bytes from an offset on, one at a time, as `&&` and `memcmp` do.
There is no result when a byte outside the structure is read. -/
def sameBytes (payload : List UInt8) (offset : Nat) : List UInt8 → Option Bool
  | [] => some true
  | expected :: rest => do
    let byte ← payload[offset]?
    if byte = expected then sameBytes payload (offset + 1) rest else some false

def bigEndianAt (payload : List UInt8) (offset : Nat) : Option UInt16 := do
  return word (← payload[offset]?) (← payload[offset + 1]?)

structure Handled where
  more : Bool
  globals : Globals
  console : Text
deriving DecidableEq

def receivedText (value : UInt16) : Text := "Temp received ".toList ++ intText value.toNat

def advDataCb (data : BtData) (globals : Globals) : Option Handled :=
  if data.type ≠ BtData.manufacturerData ∨ data.dataLen < 25 then some ⟨true, globals, []⟩
  else do
    let payload := data.data
    let header ← sameBytes payload 0 iBeaconHeader
    if header = false then some ⟨true, globals, []⟩
    else
      let uuid ← sameBytes payload 4 expectedUuid
      if uuid = false then some ⟨true, globals, []⟩
      else
        let major ← bigEndianAt payload 20
        let minor ← bigEndianAt payload 22
        if major = 0 then
          some ⟨false, { globals with temp := minor, newTemp := true }, receivedText minor⟩
        else if major = 1 then
          some ⟨false, { globals with light := minor, newLight := true }, receivedText minor⟩
        else if major = 2 then
          some ⟨false, { globals with clap := minor, newClap := true }, receivedText minor⟩
        else some ⟨false, globals, []⟩

/-- `bt_data_parse`: the callback on each structure in order until it returns false. -/
def deviceFound : List BtData → Globals → Option (Globals × Text)
  | [], globals => some (globals, [])
  | data :: rest, globals => do
    let handled ← advDataCb data globals
    if handled.more = false then some (handled.globals, handled.console)
    else
      let (final, console) ← deviceFound rest handled.globals
      some (final, handled.console ++ console)

structure JsonData where
  temp : Int
  light : Int
  clap : Int
deriving DecidableEq, Repr

def dataStruct : List (Text × (JsonData → Int)) :=
  [("temp".toList, JsonData.temp), ("light".toList, JsonData.light), ("clap".toList, JsonData.clap)]

def enomem : Int := -12

/-- The encoder of the JSON library: a buffer too small for the text and its
terminator is an error. -/
def jsonObjEncodeBuf (descr : List (Text × (JsonData → Int))) (data : JsonData) (size : Nat) : Except Int Text :=
  let text := objectText (descr.map fun field => (field.1, field.2 data))
  if text.length < size then .ok text else .error enomem

structure Printed where
  data : JsonData
  encoded : Except Int Text

/-- `json_print`, which uses neither of its arguments: the record is copied, the clap
count is reset, then the copy is encoded. -/
def jsonPrint (globals : Globals) : Globals × Printed :=
  let data : JsonData := ⟨globals.temp.toNat, globals.light.toNat, globals.clap.toNat⟩
  let globals := if globals.clap ≠ 0 then { globals with clap := 0 } else globals
  (globals, ⟨data, jsonObjEncodeBuf dataStruct data 256⟩)

/-- The console line of `printk("%s\r\n", json_output)`. After an encoding error the
buffer holds no record, and there is no line to speak of. -/
def Printed.line (printed : Printed) : Option Text :=
  match printed.encoded with
  | .ok text => some (text ++ ['\r', '\n'])
  | .error _ => none

def JsonData.field (data : JsonData) : Channel → Int
  | .temp => data.temp
  | .light => data.light
  | .clap => data.clap

/-- The statement `main` executes next. The sleep is part of the test that follows
it. -/
inductive Point where
  | testTemp | testLight
  | stopBoth | printBoth | clearTemp | clearLight | startBoth
  | testClap
  | stopClap | printClap | clearClap | startClap
deriving DecidableEq, Repr

structure State where
  globals : Globals := {}
  point : Point := .testTemp
  scanning : Bool := true
deriving DecidableEq, Repr

inductive Event where
  | main
  | deviceFound (packet : Nat) (ad : List BtData)

inductive Entry where
  | received (packet : Nat) (channel : Channel) (value : UInt16)
  | printed (line : JsonData)
deriving DecidableEq, Repr

def mainStep (state : State) : State × List Entry :=
  let globals := state.globals
  match state.point with
  | .testTemp => ({ state with point := if globals.newTemp then .testLight else .testClap }, [])
  | .testLight => ({ state with point := if globals.newLight then .stopBoth else .testClap }, [])
  | .stopBoth => ({ state with scanning := false, point := .printBoth }, [])
  | .printBoth =>
    let (globals, printed) := jsonPrint globals
    ({ state with globals, point := .clearTemp }, [.printed printed.data])
  | .clearTemp => ({ state with globals := { globals with newTemp := false }, point := .clearLight }, [])
  | .clearLight => ({ state with globals := { globals with newLight := false }, point := .startBoth }, [])
  | .startBoth => ({ state with scanning := true, point := .testClap }, [])
  | .testClap => ({ state with point := if globals.newClap then .stopClap else .testTemp }, [])
  | .stopClap => ({ state with scanning := false, point := .printClap }, [])
  | .printClap =>
    let (globals, printed) := jsonPrint globals
    ({ state with globals, point := .clearClap }, [.printed printed.data])
  | .clearClap => ({ state with globals := { globals with newClap := false }, point := .startClap }, [])
  | .startClap => ({ state with scanning := true, point := .testTemp }, [])

/-- The major and minor of a structure that `adv_data_cb` takes for one of the
project's beacons. -/
def beacon (data : BtData) : Option (UInt16 × UInt16) :=
  if data.type = BtData.manufacturerData ∧ 25 ≤ data.dataLen ∧
      data.data.take 20 = iBeaconHeader ++ expectedUuid then
    some (word (data.data.getD 20 0) (data.data.getD 21 0), word (data.data.getD 22 0) (data.data.getD 23 0))
  else none

def Channel.ofMajor (major : UInt16) : Option Channel :=
  if major = 0 then some .temp else if major = 1 then some .light else if major = 2 then some .clap else none

def Channel.number : Channel → Nat
  | .temp => 0
  | .light => 1
  | .clap => 2

/-- What a report delivers: the first beacon in it, if its major names a channel. -/
def accepted (ad : List BtData) : Option (Channel × UInt16) := do
  let (major, minor) ← ad.findSome? beacon
  let channel ← Channel.ofMajor major
  return (channel, minor)

def step (state : State) : Event → Option (State × List Entry)
  | .main => some (mainStep state)
  | .deviceFound packet ad =>
    if state.scanning then
      match deviceFound ad state.globals with
      | some (globals, _) =>
        let entries := match accepted ad with
          | some (channel, value) => [.received packet channel value]
          | none => []
        some ({ state with globals }, entries)
      | none => none
    else none

def machine : Machine State Event Entry := ⟨{}, step⟩

end Dionysus.Base
