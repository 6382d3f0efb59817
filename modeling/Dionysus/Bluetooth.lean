/-! Advertising data as the Bluetooth host hands it to an application. -/

namespace Dionysus

/-- `struct bt_data`: one AD structure, whose length fits the one-byte `data_len`. -/
structure BtData where
  type : UInt8
  data : List UInt8
  bounded : data.length < 256
deriving DecidableEq

namespace BtData

def dataLen (ad : BtData) : Nat := ad.data.length

def flags : UInt8 := 0x01

def manufacturerData : UInt8 := 0xFF

def leNoBredr : UInt8 := 0x04

end BtData
end Dionysus
