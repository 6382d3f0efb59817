import Dionysus.Eye

/-! `sendall` of the ESP32-S3-EYE (`Project/ESP32_EYE/src/main.c`) as one call, with
the bytes it sends named by where they were read. `Eye` has the same statements as
steps of the network thread. -/

namespace Dionysus.Sendall

/-- `zsock_send`: what the call with the given number returns for so many bytes. -/
structure Socket where
  send : Nat → Nat → Int
  accepts : ∀ call count, 0 < count → send call count < 0 ∨ 1 ≤ send call count ∧ send call count ≤ count

/-- A byte of the header, or the byte at an offset from `buf`. -/
inductive Source where
  | ready (index : Nat)
  | body (offset : Nat)
deriving DecidableEq, Repr

def Source.byte (buf : Nat → UInt8) : Source → UInt8
  | .ready index => Eye.readyMessage.getD index 0
  | .body offset => buf offset

def readyBytes (count : Nat) : List Source := (List.range count).map .ready

def bodyBytes (offset count : Nat) : List Source := (List.range' offset count).map .body

/-- The loop: the result and the bytes the socket accepted. -/
def sendLoop (socket : Socket) : Nat → Nat → Nat → Nat → Option (Int × List Source)
  | 0, _, _, _ => none
  | fuel + 1, call, offset, len =>
    if len = 0 then some (0, [])
    else if socket.send call len < 0 then some (socket.send call len, [])
    else
      (sendLoop socket fuel (call + 1) (offset + (socket.send call len).toNat) (len - (socket.send call len).toNat)).map
        fun rest => (rest.1, bodyBytes offset (socket.send call len).toNat ++ rest.2)

/-- The result of the first call is not looked at. -/
def sendall (socket : Socket) (fuel len : Nat) : Option (Int × List Source) :=
  (sendLoop socket fuel 1 0 len).map fun rest => (rest.1, readyBytes (socket.send 0 5).toNat ++ rest.2)

end Dionysus.Sendall
