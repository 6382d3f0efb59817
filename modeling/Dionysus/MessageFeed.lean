import Dionysus.MqttClient

/-! Messages from the PC (`Project/PC/server.py`) over the broker to the display board
(`Project/M5_Core2/src/main.c`). The PC publishes with quality of service 0, so the
broker keeps the order and may lose any message, as it does while nobody subscribes. -/

namespace Dionysus.MessageFeed
open MqttClient

/-- `str.encode` of an ASCII text. -/
def encode (text : List Char) : List UInt8 := text.map Char.toUInt8

def topic : List UInt8 := encode ['p', 'y', 't', 'h', 'o', 'n', '/', 'm', 'q', 't', 't']

def heading : List Char := ['m', 'e', 's', 's', 'a', 'g', 'e', 's', ':', ' ']

/-- `f"messages: {msg_count}"`, as `publish` puts it into the payload. -/
def msg (msgCount : Nat) : List UInt8 := encode (heading ++ Nat.toDigits 10 msgCount)

/-- `waiting` holds the counts of the messages on their way, the oldest first. -/
structure State where
  msgCount : Nat := 0
  waiting : List Nat := []
  client : MqttClient.State := {}
deriving DecidableEq, Repr

/-- The PUBLISH that brings a message. In front of its topic stand a header of two to
five bytes and the length of the topic. -/
structure Brings (message : Publish) (msgCount : Nat) : Prop where
  payload : message.payload = msg msgCount
  topic : message.topic = topic
  header : 4 ≤ message.topicOffset ∧ message.topicOffset ≤ 7

instance (message : Publish) (msgCount : Nat) : Decidable (Brings message msgCount) :=
  decidable_of_iff (message.payload = msg msgCount ∧ message.topic = topic ∧
    4 ≤ message.topicOffset ∧ message.topicOffset ≤ 7)
    ⟨fun ⟨payload, topic, header⟩ => ⟨payload, topic, header⟩,
      fun brings => ⟨brings.payload, brings.topic, brings.header⟩⟩

/-- A round of `publish`, a message lost or delivered, or anything else that happens on
the board. -/
inductive Event where
  | publish
  | lose (index : Nat)
  | deliver (message : Publish) (ret : Int) (internal : Nat)
  | client (event : MqttClient.Event)

def isPublish : MqttClient.Event → Bool
  | .delivered (.publish _ _) _ => true
  | _ => false

def deliver (state : State) (event : MqttClient.Event) : Option (State × List Mark) :=
  (MqttClient.step .m5Core2 state.client event).map fun moved => ({ state with client := moved.1 }, moved.2)

def step (state : State) : Event → Option (State × List Mark)
  | .publish =>
    some ({ state with msgCount := state.msgCount + 1, waiting := state.waiting ++ [state.msgCount] }, [])
  | .lose index => some ({ state with waiting := state.waiting.eraseIdx index }, [])
  | .deliver message ret internal =>
    match state.waiting with
    | [] => none
    | msgCount :: rest =>
      if Brings message msgCount then
        deliver { state with waiting := rest } (.delivered (.publish message ret) internal)
      else none
  | .client event => if isPublish event then none else deliver state event

def machine : Machine State Event Mark := ⟨{ client := (MqttClient.machine .m5Core2).initial }, step⟩

end Dionysus.MessageFeed
