import Dionysus.ImageStore
import Dionysus.Machine

/-! The three image programs around the broker (`Project/MQTT_Server`): the sender, the
store-and-forward server, and the receiver. They publish and subscribe with quality of
service 0, so the broker keeps the order of a topic and may lose any message. -/

namespace Dionysus.ImagePipeline
open ImageStore

/-- `uploads` and `forwards` are on their way to the server and to the receiver, the
oldest first; `latest` is the receiver's file `latest_from_server.jpg`. -/
structure State where
  store : ImageStore.State := ⟨fun _ => none, []⟩
  uploads : List Payload := []
  forwards : List Payload := []
  latest : Option Payload := none

/-- A run of the sender, a message delivered to one of the other two, or lost. -/
inductive Event where
  | send (img : Payload)
  | store (clock : Clock)
  | receive
  | loseUpload (index : Nat)
  | loseForward (index : Nat)
deriving DecidableEq, Repr

/-- `contents` is what the file `filename` holds when `on_message` is over. -/
inductive Mark where
  | sent (img : Payload)
  | handled (filename : List Char) (contents : Option Payload)
  | received (payload : Payload)
deriving DecidableEq, Repr

/-- What a subscriber of the topic gets of these publications. -/
def subscribed (topic : String) (publications : List (String × Payload)) : List Payload :=
  (publications.filter fun publication => publication.1 == topic).map Prod.snd

/-- What `on_message` has published for the receiver. -/
def forwarded (before after : ImageStore.State) : List Payload :=
  subscribed "image/stored" (after.published.drop before.published.length)

def step (state : State) : Event → Option (State × List Mark)
  | .send img => some ({ state with uploads := state.uploads ++ [img] }, [.sent img])
  | .store clock =>
    match state.uploads with
    | [] => none
    | payload :: rest =>
      let store := onMessage state.store ⟨payload, clock⟩
      some ({ state with store, uploads := rest, forwards := state.forwards ++ forwarded state.store store },
        [.handled (filename clock) (store.folder (filename clock))])
  | .receive =>
    match state.forwards with
    | [] => none
    | payload :: rest => some ({ state with forwards := rest, latest := some payload }, [.received payload])
  | .loseUpload index => some ({ state with uploads := state.uploads.eraseIdx index }, [])
  | .loseForward index => some ({ state with forwards := state.forwards.eraseIdx index }, [])

def machine : Machine State Event Mark := ⟨{}, step⟩

def Mark.sentImage : Mark → Option Payload
  | .sent img => some img
  | _ => none

def Mark.storedFile : Mark → Option (List Char × Payload)
  | .handled filename contents => contents.map fun payload => (filename, payload)
  | _ => none

def Mark.receivedImage : Mark → Option Payload
  | .received payload => some payload
  | _ => none

end Dionysus.ImagePipeline
