import Dionysus.Buffer

/-! The PUBLISH branch of `mqtt_evt_handler` (`Project/M5_Core2/src/main.c` and
`Project/ESP32_DK/src/main.c`, the same code). The library parses headers in
`rx_buff`, so the topic is a slice of the buffer that the payload is read into. -/

namespace Dionysus.MqttClient

def mqttClientRxBufLen : Nat := 128

abbrev RxBuff := Buffer mqttClientRxBufLen

/-- A PUBLISH as the library hands it over: `rx_buff` at that moment, where the topic
lies in it, and the payload that has not been read yet. -/
structure Publish where
  rxBuff : RxBuff
  topicOffset : Nat
  topicSize : Nat
  payload : List UInt8
  topicInside : topicOffset + topicSize ≤ mqttClientRxBufLen
  payloadBounded : payload.length < UInt32.size
deriving DecidableEq, Repr

def Publish.topic (message : Publish) : List UInt8 := message.rxBuff.slice message.topicOffset message.topicSize

/-- `len`, a `uint16_t` that is assigned a 32-bit length and bounded afterwards. -/
def publishLen (message : Publish) : Nat :=
  if message.payload.length % UInt16.size > mqttClientRxBufLen - 1 then mqttClientRxBufLen - 1
  else message.payload.length % UInt16.size

/-- The results `mqtt_read_publish_payload` can have when it is asked for `len` bytes. -/
def MayRead (message : Publish) (ret : Int) : Prop :=
  ret < 0 ∨ ret ≤ publishLen message ∧ (0 < ret ∨ publishLen message = 0)

instance (message : Publish) (ret : Int) : Decidable (MayRead message ret) :=
  inferInstanceAs (Decidable (_ ∨ _))

structure Printed where
  topic : List UInt8
  text : List UInt8
deriving DecidableEq, Repr

/-- What a PUBLISH prints when the read returns `ret`, unless a write leaves `rx_buff`. -/
def onPublish (message : Publish) (ret : Int) : Option (Option Printed) :=
  if ret < 0 then some none
  else
    (message.rxBuff.fill (message.payload.take ret.toNat)).bind fun read =>
      (read.store (publishLen message) 0).map fun ended =>
        some ⟨cString (ended.slice message.topicOffset message.topicSize), cString ended.bytes⟩

/-- The library's count of payload bytes still to be read. -/
def remainingPayload (message : Publish) (ret : Int) : Nat := message.payload.length - ret.toNat

theorem publishLen_lt (message : Publish) : publishLen message < mqttClientRxBufLen := by
  unfold publishLen mqttClientRxBufLen
  split <;> omega

theorem publishLen_le (message : Publish) : publishLen message ≤ message.payload.length := by
  have shorter := Nat.mod_le message.payload.length UInt16.size
  unfold publishLen
  split <;> omega

theorem MayRead.le {message : Publish} {ret : Int} (may : MayRead message ret) : ret.toNat ≤ publishLen message := by
  unfold MayRead at may
  omega

end Dionysus.MqttClient
