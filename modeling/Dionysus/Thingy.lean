import Dionysus.BigEndian
import Dionysus.Bluetooth

/-! The Thingy:52 node (`Project/Thingy52/src/main.c`): one record of measurements
per round, advertised as an iBeacon. -/

namespace Dionysus.Thingy
open BigEndian

structure Values where
  temp : UInt16 := 0
  light : UInt16 := 0
  clap : UInt16 := 0
  newtemp : UInt16 := 0
  newlight : UInt16 := 0
  newclap : UInt16 := 0
deriving DecidableEq, Repr

def majorOffset : Nat := 20

def minorOffset : Nat := 22

def sysPutBe16 (value : UInt16) (offset : Nat) (bytes : List UInt8) : List UInt8 :=
  (bytes.set offset (high value)).set (offset + 1) (low value)

def beaconTemplate : List UInt8 :=
  [0x4C, 0x00, 0x02, 0x15,
   0x19, 0xEE, 0x15, 0x16, 0x01, 0x6B, 0x4B, 0xEC,
   0xAD, 0x96, 0xBC, 0xB9, 0x6D, 0x16, 0x6E, 0x97,
   0x00, 0x00, 0x00, 0x00,
   0xC8]

def majorPart (data : Values) : UInt16 := ((data.temp &&& 0xFF) <<< 8) ||| (data.light &&& 0xFF)

def minorPart (data : Values) : UInt16 := ((data.clap &&& 0xFF) <<< 8) ||| 0x01

def beaconData (data : Values) : List UInt8 :=
  sysPutBe16 (minorPart data) minorOffset (sysPutBe16 (majorPart data) majorOffset beaconTemplate)

theorem beaconData_eq (data : Values) :
    beaconData data = beaconTemplate.take 20 ++
      [high (majorPart data), low (majorPart data), high (minorPart data), low (minorPart data), 0xC8] := rfl

def manufacturerStructure (data : Values) : BtData where
  type := BtData.manufacturerData
  data := beaconData data
  bounded := by simp [beaconData_eq, beaconTemplate]

/-- The `ad` array that `advertise_thingy` keeps on air for 200 ms. -/
def advertiseThingy (data : Values) : List BtData :=
  [⟨BtData.flags, [BtData.leNoBredr], by decide⟩, manufacturerStructure data]

/-- A major is two truncated readings side by side, a minor is a truncated clap
count above the constant byte 1. -/
theorem majorPart_eq (data : Values) : majorPart data = word (low data.temp) (low data.light) := by
  simp only [majorPart, word, mask_eq_low]

theorem minorPart_eq (data : Values) : minorPart data = word (low data.clap) 0x01 := by
  simp only [minorPart, word, mask_eq_low]
  rfl

theorem majorPart_toNat (data : Values) :
    (majorPart data).toNat = 256 * (data.temp.toNat % 256) + data.light.toNat % 256 := by
  rw [majorPart_eq, word_toNat, low_toNat, low_toNat]

theorem minorPart_toNat (data : Values) : (minorPart data).toNat = 256 * (data.clap.toNat % 256) + 1 := by
  rw [minorPart_eq, word_toNat, low_toNat]
  rfl

end Dionysus.Thingy
