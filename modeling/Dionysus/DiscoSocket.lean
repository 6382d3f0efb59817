import Dionysus.Ledger
import Dionysus.Machine

/-! The socket of the Disco board (`Project/Disco_L475/src/main.c`). Only
`wifi_event_handler` touches it, one call at a time; `main` measures distances
meanwhile. -/

namespace Dionysus.Disco
open Ledger

/-- The results of the calls inside `connect_to_server`. -/
structure Attempt where
  socket : Int
  connect : Int
  send : Int
  recv : Int
  failsWithMinusOne : socket < 0 → socket = -1 := by decide
deriving DecidableEq, Repr

structure State where
  sock : Int := -1
deriving DecidableEq, Repr

inductive Event where
  | connectResult (status : Int) (attempt : Attempt)
  | disconnectResult (status : Int)
deriving DecidableEq, Repr

/-- What `connect_to_server` leaves in `sock`, and the descriptors it opened, used
and closed. The results of `send` and `recv` are only printed. -/
def connectToServer (attempt : Attempt) : State × List (Op Int) :=
  if attempt.socket < 0 then (⟨attempt.socket⟩, [])
  else if attempt.connect < 0 then (⟨-1⟩, [.acquire attempt.socket, .use attempt.socket, .release attempt.socket])
  else
    (⟨attempt.socket⟩,
      [.acquire attempt.socket, .use attempt.socket, .use attempt.socket, .use attempt.socket, .release attempt.socket])

def wifiEventHandler (state : State) : Event → State × List (Op Int)
  | .connectResult status attempt => if status ≠ 0 then (state, []) else connectToServer attempt
  | .disconnectResult _ => if 0 ≤ state.sock then (⟨-1⟩, [.release state.sock]) else (state, [])

def machine : Machine State Event (Op Int) := ⟨{}, fun state event => some (wifiEventHandler state event)⟩

end Dionysus.Disco
