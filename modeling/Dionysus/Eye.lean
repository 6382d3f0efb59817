import Dionysus.Machine

/-! The ESP32-S3-EYE (`Project/ESP32_EYE/src/main.c`): the camera thread from its
loop on, the network thread, the video driver behind the buffer pool, and the
sockets. Threads run one memory access or one call at a time. -/

namespace Dionysus.Eye

/-- `boards/esp32s3_eye_procpu.conf`. -/
def configVideoFrameWidth : Nat := 240

def configVideoFrameHeight : Nat := 240

def bufferSize : Nat := configVideoFrameWidth * configVideoFrameHeight * 2

def readyMessage : List UInt8 := [0x52, 0x45, 0x41, 0x44, 0x59]

def eagain : Int := 11

structure PollSignal where
  signaled : Bool := false
  result : Int := 0
deriving DecidableEq, Repr

def kPollSignalInit (signal : PollSignal) : PollSignal := { signal with signaled := false }

def kPollSignalRaise (signal : PollSignal) (result : Int) : PollSignal :=
  { signal with signaled := true, result }

def kPollSignalReset (signal : PollSignal) : PollSignal := { signal with signaled := false }

/-- `struct video_buffer`: what its memory holds and how much of that the driver
reports as used. `capture` numbers the driver's fills from 1; a buffer that was never
filled holds none. -/
structure VideoBuffer where
  queued : Bool := true
  capture : Nat := 0
  bytes : Nat → UInt8 := fun _ => 0
  bytesused : Nat := 0

inductive CameraPoint (n : Nat) where
  | check | dequeue
  | reset (vbuf : Fin n) | setCopy (vbuf : Fin n) | setSize (vbuf : Fin n)
  | display (vbuf : Fin n) | enqueue (vbuf : Fin n)
  | exited
deriving DecidableEq, Repr

structure Camera (n : Nat) where
  point : CameraPoint n := .check
  signaled : Bool := false
  result : Int := 0
deriving DecidableEq, Repr

/-- A call of `sendall`: the pointer it was given, how far it has advanced, and the
bytes still to send. `header` counts the accepted bytes of READY, whose result the
code ignores; `chunks` records which capture, of what size, each body chunk was read
from. -/
structure Call (n : Nat) where
  source : Option (Fin n)
  offset : Nat := 0
  len : Nat
  header : Nat := 0
  chunks : List (Nat × Nat) := []
deriving DecidableEq, Repr

def Call.size {n : Nat} (call : Call n) : Nat := call.offset + call.len

/-- The statement `network_thread` executes next. The two arguments of `sendall` are
read one after the other, in either order. -/
inductive Network (n : Nat) where
  | accepting
  | calling (copy : Option (Option (Fin n))) (size : Option Nat)
  | sendingHeader (call : Call n)
  | sendingBody (call : Call n)
  | returned (ret : Int)
  | closing
  | raising
  | exited
  | faulted
deriving DecidableEq, Repr

/-- `streams` holds what the server has put on each accepted connection, the newest
first. -/
structure State (n : Nat) where
  mainDone : Bool := false
  pool : Fin n → VideoBuffer := fun _ => {}
  captures : Nat := 0
  frameCopy : Option (Fin n) := none
  frameSize : Nat := 0
  txSignal : PollSignal := {}
  camera : Camera n := {}
  network : Network n := .accepting
  streams : List (List UInt8) := []

/-- One statement of `main`, of a thread, or one action of the driver, with the
result of the call it makes. -/
inductive Event (n : Nat) where
  | main
  | fill (buffer : Fin n) (bytes : Nat → UInt8) (bytesused : Nat)
  | camera
  | dequeued (buffer : Fin n)
  | dequeueFailed
  | enqueueFailed
  | network
  | accepted
  | acceptFailed
  | readCopy
  | readSize
  | sent (count : Nat)
  | refused (error : Int)

inductive Mark where
  | raised
  | updating
deriving DecidableEq, Repr

variable {n : Nat}

def setBuffer (pool : Fin n → VideoBuffer) (buffer : Fin n) (value : VideoBuffer) : Fin n → VideoBuffer :=
  fun other => if other = buffer then value else pool other

@[simp] theorem setBuffer_self (pool : Fin n → VideoBuffer) (buffer : Fin n) (value : VideoBuffer) :
    setBuffer pool buffer value buffer = value := by
  simp [setBuffer]

theorem setBuffer_other (pool : Fin n → VideoBuffer) {buffer other : Fin n} (value : VideoBuffer)
    (different : other ≠ buffer) : setBuffer pool buffer value other = pool other := by
  simp [setBuffer, different]

def fill (state : State n) (buffer : Fin n) (bytes : Nat → UInt8) (bytesused : Nat) : Option (State n) :=
  if (state.pool buffer).queued then
    some { state with
      pool := setBuffer state.pool buffer ⟨true, state.captures + 1, bytes, bytesused⟩
      captures := state.captures + 1 }
  else none

/-- A statement of the camera loop that needs no outside result. The update of
`frame_copy` begins with its assignment. -/
def cameraStep (state : State n) : Option (State n × List Mark) :=
  match state.camera.point with
  | .check =>
    some ({ state with camera := ⟨.dequeue, state.txSignal.signaled, state.txSignal.result⟩ }, [])
  | .reset vbuf =>
    some ({ state with
      txSignal := kPollSignalReset state.txSignal
      camera := { state.camera with point := .setCopy vbuf } }, [])
  | .setCopy vbuf =>
    some ({ state with frameCopy := some vbuf, camera := { state.camera with point := .setSize vbuf } }, [.updating])
  | .setSize vbuf =>
    some ({ state with
      frameSize := (state.pool vbuf).bytesused
      camera := { state.camera with point := .display vbuf } }, [])
  | .display vbuf => some ({ state with camera := { state.camera with point := .enqueue vbuf } }, [])
  | .enqueue vbuf =>
    some ({ state with
      pool := setBuffer state.pool vbuf { state.pool vbuf with queued := true }
      camera := { state.camera with point := .check } }, [])
  | .dequeue | .exited => none

def dequeued (state : State n) (buffer : Fin n) : Option (State n) :=
  match state.camera.point with
  | .dequeue =>
    if (state.pool buffer).queued then
      some { state with
        pool := setBuffer state.pool buffer { state.pool buffer with queued := false }
        camera := { state.camera with
          point := if state.camera.signaled && state.camera.result == 0x01 then .reset buffer
            else .display buffer } }
    else none
  | _ => none

def put (streams : List (List UInt8)) (bytes : List UInt8) : List (List UInt8) :=
  match streams with
  | current :: rest => (current ++ bytes) :: rest
  | [] => []

def bytesAt (buffer : VideoBuffer) (offset count : Nat) : List UInt8 :=
  (List.range count).map fun index => buffer.bytes (offset + index)

@[simp] theorem length_bytesAt (buffer : VideoBuffer) (offset count : Nat) :
    (bytesAt buffer offset count).length = count := by
  simp [bytesAt]

def networkStep (state : State n) : Option (State n × List Mark) :=
  match state.network with
  | .calling (some copy) (some size) =>
    some ({ state with network := .sendingHeader { source := copy, len := size } }, [])
  | .sendingBody call => if call.len = 0 then some ({ state with network := .returned 0 }, []) else none
  | .returned ret =>
    some ({ state with network := if ret ≠ 0 ∧ ret ≠ -eagain then .closing else .raising }, [])
  | .closing => some ({ state with network := .accepting }, [])
  | .raising =>
    some ({ state with txSignal := kPollSignalRaise state.txSignal 0x01, network := .calling none none }, [.raised])
  | _ => none

/-- `zsock_send` accepts some of the bytes it is given. Reading through the null
pointer that `frame_copy` is at first stops the thread. -/
def sent (state : State n) (count : Nat) : Option (State n) :=
  match state.network with
  | .sendingHeader call =>
    if 1 ≤ count ∧ count ≤ readyMessage.length then
      some { state with
        network := .sendingBody { call with header := count }
        streams := put state.streams (readyMessage.take count) }
    else none
  | .sendingBody call =>
    if 1 ≤ count ∧ count ≤ call.len then
      match call.source with
      | none => some { state with network := .faulted }
      | some buffer =>
        some { state with
          network := .sendingBody { call with
            offset := call.offset + count
            len := call.len - count
            chunks := call.chunks ++ [((state.pool buffer).capture, (state.pool buffer).bytesused)] }
          streams := put state.streams (bytesAt (state.pool buffer) call.offset count) }
    else none
  | _ => none

def refused (state : State n) (error : Int) : Option (State n) :=
  if error < 0 then
    match state.network with
    | .sendingHeader call => some { state with network := .sendingBody call }
    | .sendingBody call => if call.len = 0 then none else some { state with network := .returned error }
    | _ => none
  else none

/-- `main` runs first: the threads have lower priority, and it does not block before
the signal is raised. -/
def step (state : State n) (event : Event n) : Option (State n × List Mark) :=
  if state.mainDone then
    match event with
    | .main => none
    | .fill buffer bytes bytesused => (fill state buffer bytes bytesused).map (·, [])
    | .camera => cameraStep state
    | .dequeued buffer => (dequeued state buffer).map (·, [])
    | .dequeueFailed =>
      match state.camera.point with
      | .dequeue => some ({ state with camera := { state.camera with point := .exited } }, [])
      | _ => none
    | .enqueueFailed =>
      match state.camera.point with
      | .enqueue _ => some ({ state with camera := { state.camera with point := .exited } }, [])
      | _ => none
    | .network => networkStep state
    | .accepted =>
      match state.network with
      | .accepting => some ({ state with network := .calling none none, streams := [] :: state.streams }, [])
      | _ => none
    | .acceptFailed =>
      match state.network with
      | .accepting => some ({ state with network := .exited }, [])
      | _ => none
    | .readCopy =>
      match state.network with
      | .calling none size => some ({ state with network := .calling (some state.frameCopy) size }, [])
      | _ => none
    | .readSize =>
      match state.network with
      | .calling copy none => some ({ state with network := .calling copy (some state.frameSize) }, [])
      | _ => none
    | .sent count => (sent state count).map (·, [])
    | .refused error => (refused state error).map (·, [])
  else
    match event with
    | .main =>
      some ({ state with
        mainDone := true
        txSignal := kPollSignalRaise (kPollSignalInit state.txSignal) 0x01 }, [.raised])
    | _ => none

def machine (n : Nat) : Machine (State n) (Event n) Mark := ⟨{}, step⟩

end Dionysus.Eye
