import Dionysus.Framing

/-! The PC client (`Project/PC/imagesocket.py`): receiving READY messages and frames
from the ESP32-S3-EYE, up to the image it hands on for display. -/

namespace Dionysus.ImageSocket

def width : Nat := 240

def height : Nat := 240

def frameSize : Nat := width * height * 2

def readySize : Nat := 5

def readyMessage : List UInt8 := [0x52, 0x45, 0x41, 0x44, 0x59]

inductive Ending where
  | closed
  | timeout
  | error
deriving DecidableEq, Repr

/-- The bytes that arrive, in the pieces in which `sock.recv` returns them. -/
structure Socket where
  pieces : List { bytes : List UInt8 // bytes ≠ [] }
  ending : Ending
deriving DecidableEq, Repr

def Socket.unread (sock : Socket) : List UInt8 := sock.pieces.flatMap (·.val)

inductive Received where
  | packet (bytes : List UInt8)
  | timeout
  | error
deriving DecidableEq, Repr

/-- `sock.recv(size)`. Of a piece longer than `size` the rest stays for the next call. -/
def Socket.recv (sock : Socket) (size : Nat) : Received × Socket :=
  match sock.pieces with
  | [] =>
    match sock.ending with
    | .closed => (.packet [], sock)
    | .timeout => (.timeout, sock)
    | .error => (.error, sock)
  | piece :: rest =>
    if long : size < piece.val.length then
      (.packet (piece.val.take size),
        { sock with pieces := ⟨piece.val.drop size, by simpa using long⟩ :: rest })
    else (.packet piece.val, { sock with pieces := rest })

def recvLoop (size : Nat) (data : List UInt8) (sock : Socket) : Option (List UInt8) × Socket :=
  if data.length < size then
    match sock.recv (size - data.length) with
    | (.packet [], rest) => (none, rest)
    | (.packet (first :: more), rest) => recvLoop size (data ++ first :: more) rest
    | (.timeout, rest) => (none, rest)
    | (.error, rest) => (none, rest)
  else (some data, sock)
termination_by size - data.length
decreasing_by
  simp only [List.length_append, List.length_cons]
  omega

def recvExact (sock : Socket) (size : Nat) : Option (List UInt8) × Socket := recvLoop size [] sock

theorem unread_nil {sock : Socket} : sock.unread = [] ↔ sock.pieces = [] := by
  obtain ⟨pieces, ending⟩ := sock
  cases pieces with
  | nil => simp [Socket.unread]
  | cons piece rest => simp [Socket.unread, piece.property]

theorem recv_ended {sock : Socket} (ended : sock.unread = []) (size : Nat) :
    sock.recv size = (.packet [], sock) ∨ sock.recv size = (.timeout, sock) ∨ sock.recv size = (.error, sock) := by
  unfold Socket.recv
  rw [unread_nil.mp ended]
  cases sock.ending <;> simp

theorem recv_packet {sock : Socket} (unread : sock.unread ≠ []) {size : Nat} (some' : 0 < size) :
    ∃ first more rest, sock.recv size = (.packet (first :: more), rest) ∧ (first :: more).length ≤ size ∧
      sock.unread = first :: more ++ rest.unread := by
  obtain ⟨pieces, ending⟩ := sock
  cases pieces with
  | nil => exact absurd rfl unread
  | cons piece rest =>
    obtain ⟨bytes, nonempty⟩ := piece
    obtain ⟨first, more, rfl⟩ := List.exists_cons_of_ne_nil nonempty
    unfold Socket.recv
    split
    next impossible => cases impossible
    next same =>
      cases same
      split
      next long =>
        obtain ⟨less, rfl⟩ := Nat.exists_eq_succ_of_ne_zero (Nat.pos_iff_ne_zero.mp some')
        refine ⟨first, more.take less, _, rfl, Nat.succ_le_succ (List.length_take_le less more), ?_⟩
        simp only [Socket.unread, List.flatMap_cons, List.drop_succ_cons, List.cons_append]
        rw [← List.append_assoc, List.take_append_drop]
      next short => exact ⟨first, more, _, rfl, by simpa using short, by simp [Socket.unread]⟩

/-- What has been received and what is unread stay the same bytes throughout the loop:
it ends with the first `size` of them or, if there are fewer, with nothing. -/
theorem recvLoop_eq {size : Nat} {data : List UInt8} {sock : Socket} (begun : data.length ≤ size) :
    (recvLoop size data sock).1 =
        (if size ≤ (data ++ sock.unread).length then some ((data ++ sock.unread).take size) else none) ∧
      (recvLoop size data sock).2.unread = (data ++ sock.unread).drop size := by
  rw [recvLoop]
  by_cases full : data.length < size
  · rw [if_pos full]
    by_cases ended : sock.unread = []
    · have few : ¬size ≤ (data ++ sock.unread).length := by simpa [ended] using full
      rw [if_neg few, ended, List.append_nil, List.drop_eq_nil_of_le begun]
      rcases recv_ended ended (size - data.length) with received | received | received
      all_goals
        rw [received]
        exact ⟨rfl, ended⟩
    · obtain ⟨first, more, rest, received, most, split⟩ := recv_packet ended (Nat.sub_pos_of_lt full)
      have same : data ++ sock.unread = data ++ first :: more ++ rest.unread := by rw [split, List.append_assoc]
      rw [received, same]
      exact recvLoop_eq (by rw [List.length_append]; omega)
  · obtain rfl : size = data.length := by omega
    rw [if_neg full]
    exact ⟨by simp, by simp⟩
termination_by size - data.length
decreasing_by
  simp only [List.length_append, List.length_cons]
  omega

theorem recvExact_data (sock : Socket) (size : Nat) :
    (recvExact sock size).1 = if size ≤ sock.unread.length then some (sock.unread.take size) else none :=
  (recvLoop_eq (Nat.zero_le size)).1

@[simp] theorem recvExact_unread (sock : Socket) (size : Nat) :
    (recvExact sock size).2.unread = sock.unread.drop size :=
  (recvLoop_eq (Nat.zero_le size)).2

inductive Outcome where
  | error (ready : Option (List UInt8))
  | connectionClosed
  | quit
deriving DecidableEq, Repr

/-- The frames given to `rgb565_to_rgb888`, in order, and how the session ended. -/
structure Session where
  frames : List (List UInt8)
  outcome : Outcome
deriving DecidableEq, Repr

def quits (key : Int) : Bool := key % 256 == 'q'.toNat

/-- The loop of `main`; `keys` is what `cv2.waitKey` returns after each frame. -/
def mainLoop (keys : Nat → Int) (count : Nat) (sock : Socket) : Session :=
  let ready := recvExact sock readySize
  if ready.1 ≠ some readyMessage then ⟨[], .error ready.1⟩
  else
    let frame := recvExact ready.2 frameSize
    match frame.1 with
    | none => ⟨[], .connectionClosed⟩
    | some image =>
      if quits (keys count) then ⟨[image], .quit⟩
      else
        let later := mainLoop keys (count + 1) frame.2
        { later with frames := image :: later.frames }
termination_by sock.unread.length
decreasing_by
  next matched _ =>
  have headed : readySize ≤ sock.unread.length := by
    by_contra short
    rw [recvExact_data, if_neg short] at matched
    exact matched nofun
  simp only [recvExact_unread, List.length_drop, readySize, frameSize, width, height] at headed ⊢
  omega

def main (sock : Socket) (keys : Nat → Int) : Session := mainLoop keys 0 sock

def messages : Format UInt8 := ⟨readyMessage, frameSize, by decide⟩

end Dionysus.ImageSocket
