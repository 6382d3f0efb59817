import Dionysus.Eye
import Dionysus.Ledger

/-! The sockets of `network_thread` (`Project/ESP32_EYE/src/main.c`): the calls in front
of its loop, and what every statement of the loop does to a descriptor. -/

namespace Dionysus.Eye
open Ledger

/-- The listening socket, and the accepted ones in the order of their `zsock_accept`. -/
inductive Descriptor where
  | server
  | client (number : Nat)
deriving DecidableEq, Repr

/-- What `zsock_socket`, `zsock_bind` and `zsock_listen` return. -/
structure Setup where
  sock : Int
  bind : Int
  listen : Int
deriving DecidableEq, Repr

/-- The thread in front of its loop: whether the loop is reached, and what happened to
the listening socket. -/
def networkSetup (setup : Setup) : Bool × List (Op Descriptor) :=
  if setup.sock < 0 then (false, [])
  else if setup.bind < 0 then (false, [.acquire .server, .use .server, .release .server])
  else if setup.listen < 0 then (false, [.acquire .server, .use .server, .use .server, .release .server])
  else (true, [.acquire .server, .use .server, .use .server])

variable {n : Nat}

/-- The connection accepted last. -/
def client (state : State n) : Descriptor := .client (state.streams.length - 1)

/-- What the next event does to descriptors. -/
def socketOps (state : State n) : Event n → List (Op Descriptor)
  | .accepted => [.use .server, .acquire (.client state.streams.length)]
  | .acceptFailed => [.use .server]
  | .sent _ | .refused _ => [.use (client state)]
  | .network =>
    match state.network with
    | .closing => [.release (client state)]
    | _ => []
  | _ => []

end Dionysus.Eye
