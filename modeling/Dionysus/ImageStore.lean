import Dionysus.KeyedStore

/-! The store-and-forward server (`Project/MQTT_Server/mqtt_image_store_and_forward.py`):
its folder, its publications, and the name it gives an image. -/

namespace Dionysus.ImageStore

abbrev Payload := List UInt8

/-- The local time; `month` and `day` count from 0, as `tm_mon` does. -/
structure LocalTime where
  year : Nat
  month : Fin 12
  day : Fin 31
  hour : Fin 24
  minute : Fin 60
  second : Fin 62
deriving DecidableEq, Repr

structure Clock where
  time : LocalTime
  microsecond : Fin 1000000
deriving DecidableEq, Repr

structure Message where
  payload : Payload
  clock : Clock
deriving DecidableEq, Repr

structure State where
  folder : List Char → Option Payload
  published : List (String × Payload)

def imageFolder : List Char := "stored_images".toList

def twoDigits (number : Nat) : List Char := [(number / 10).digitChar, (number % 10).digitChar]

/-- `time.strftime("%Y%m%d-%H%M%S")`. -/
def timestamp (clock : Clock) : List Char :=
  Nat.toDigits 10 clock.time.year ++ (twoDigits (clock.time.month + 1) ++ (twoDigits (clock.time.day + 1) ++
    '-' :: (twoDigits clock.time.hour ++ (twoDigits clock.time.minute ++ twoDigits clock.time.second))))

def filename (clock : Clock) : List Char :=
  imageFolder ++ "/image_".toList ++ (timestamp clock ++ ".jpg".toList)

def onMessage (state : State) (message : Message) : State where
  folder := KeyedStore.put state.folder (filename message.clock) message.payload
  published := state.published ++ [("image/stored", message.payload)]

def process (state : State) (messages : List Message) : State := messages.foldl onMessage state

end Dionysus.ImageStore
