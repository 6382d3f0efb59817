import Dionysus.Recorder
import Dionysus.Proofs.EyeOwnership
import Dionysus.Proofs.FrameColours

/-! From the camera to the PC. Where the server owns the buffer of every call, and READY
and a whole frame go together, what the client takes for a frame is one capture of the
driver, byte for byte, in however many pieces it was sent and received. -/

namespace Dionysus.Proofs.EyeFrames
open Eye EyeRuns EyeOwnership
open ImageSocket (messages Socket quits)
open Rgb565 (rgb565ToRgb888)
open FrameColours (repack session_converts)

variable {n : Nat}

/-- One fill of a buffer by the driver. -/
structure Capture where
  bytes : Nat → UInt8
  bytesused : Nat

def Capture.image (capture : Capture) : List UInt8 := (List.range capture.bytesused).map capture.bytes

/-- The album of a run: everything the driver has filled in. -/
def fills (_ : State n) : Event n → List Capture
  | .fill _ bytes bytesused => [⟨bytes, bytesused⟩]
  | _ => []

/-- READY is taken whole and only for a call that sends a frame; the frame follows in
any pieces, and is not broken off with `-EAGAIN`. -/
def whole : Event n → Network n → Bool
  | .sent count, .sendingHeader call => count == readyMessage.length && call.len == bufferSize
  | .sent _, .sendingBody call => call.header != 0
  | .refused error, .sendingBody call => call.header == 0 || error != -eagain
  | _, _ => true

def Whole : Guard (State n) (Event n) Mark := fun _ state event => whole event state.network = true

instance (trace : List Mark) (state : State n) (event : Event n) : Decidable (Whole trace state event) :=
  inferInstanceAs (Decidable (whole event state.network = true))

/-- The frame is the image of a capture in the album. -/
def Pictured (album : List Capture) (frame : List UInt8) : Prop :=
  ∃ capture ∈ album, capture.bytesused = bufferSize ∧ frame = capture.image

/-- The stream is made of messages with captured frames, and of what is given behind. -/
def Carries (album : List Capture) (stream rest : List UInt8) : Prop :=
  ∃ frames, (∀ frame ∈ frames, Pictured album frame) ∧ stream = messages.encode frames ++ rest

def Shows (album : List Capture) (stream : List UInt8) : Prop :=
  ∃ rest, rest.length < messages.messageSize ∧ Carries album stream rest

/-- How the open stream stands in the middle of a call, for the buffers as they are. -/
def Sends (pool : Fin n → VideoBuffer) (album : List Capture) (stream : List UInt8) (call : Call n) : Prop :=
  call.size = bufferSize ∧ (call.len = 0 → Carries album stream []) ∧
    (call.len ≠ 0 → ∃ part, part.length = call.offset ∧
      (∀ buffer ∈ call.source, part = bytesAt (pool buffer) 0 call.offset) ∧
      Carries album stream (readyMessage ++ part))

def Stands (pool : Fin n → VideoBuffer) (album : List Capture) (stream : List UInt8) : Network n → Prop
  | .calling _ _ | .raising => Carries album stream []
  | .sendingHeader call => call.offset = 0 ∧ call.header = 0 ∧ Carries album stream []
  | .sendingBody call =>
    (call.header = 0 → Carries album stream []) ∧ (call.header ≠ 0 → Sends pool album stream call)
  | .returned ret => (ret ≠ 0 ∧ ret ≠ -eagain) ∨ Carries album stream []
  | _ => True

structure Develops (state : State n) (album : List Capture) : Prop where
  filled : ∀ buffer, (state.pool buffer).bytesused ≠ 0 →
    ⟨(state.pool buffer).bytes, (state.pool buffer).bytesused⟩ ∈ album
  shows : ∀ stream ∈ state.streams, Shows album stream
  open' : ∀ stream earlier, state.streams = stream :: earlier → Stands state.pool album stream state.network

variable {album : List Capture} {stream rest : List UInt8}

theorem bufferSize_eq : bufferSize = messages.size := rfl

theorem length_image {frame : List UInt8} (pictured : Pictured album frame) : frame.length = messages.size := by
  obtain ⟨capture, _, size, rfl⟩ := pictured
  rw [Capture.image, List.length_map, List.length_range, size]
  rfl

theorem Pictured.mono {frame : List UInt8} (pictured : Pictured album frame) (more : List Capture) :
    Pictured (album ++ more) frame := by
  obtain ⟨capture, member, size, same⟩ := pictured
  exact ⟨capture, List.mem_append.mpr (Or.inl member), size, same⟩

theorem Carries.mono (carries : Carries album stream rest) (more : List Capture) :
    Carries (album ++ more) stream rest := by
  obtain ⟨frames, pictured, split⟩ := carries
  exact ⟨frames, fun frame member => (pictured frame member).mono more, split⟩

theorem Carries.put (carries : Carries album stream rest) (bytes : List UInt8) :
    Carries album (stream ++ bytes) (rest ++ bytes) := by
  obtain ⟨frames, pictured, rfl⟩ := carries
  exact ⟨frames, pictured, List.append_assoc _ _ _⟩

theorem Carries.finish {frame : List UInt8} (carries : Carries album stream (readyMessage ++ frame))
    (pictured : Pictured album frame) : Carries album stream [] := by
  obtain ⟨frames, others, rfl⟩ := carries
  refine ⟨frames ++ [frame], ?_, ?_⟩
  · intro other member
    rcases List.mem_append.mp member with old | new
    · exact others other old
    · rw [List.mem_singleton.mp new]
      exact pictured
  · rw [Format.encode_append, Format.encode_cons, Format.encode_nil, List.append_nil, List.append_nil]
    rfl

theorem Carries.shows (carries : Carries album stream []) : Shows album stream :=
  ⟨[], Nat.succ_pos _, carries⟩

theorem Shows.mono (shows' : Shows album stream) (more : List Capture) : Shows (album ++ more) stream := by
  obtain ⟨rest, short, carries⟩ := shows'
  exact ⟨rest, short, carries.mono more⟩

theorem bytesAt_append (buffer : VideoBuffer) (offset count : Nat) :
    bytesAt buffer 0 offset ++ bytesAt buffer offset count = bytesAt buffer 0 (offset + count) := by
  simp only [bytesAt, Nat.zero_add, List.range_add, List.map_append, List.map_map]
  rfl

/-- A change of the pool that leaves alone the buffer of every call in progress. -/
theorem Stands.mono {pool other : Fin n → VideoBuffer} {network : Network n} (stands : Stands pool album stream network)
    (more : List Capture) (kept : ∀ call ∈ sending network, call.len ≠ 0 → ∀ buffer ∈ call.source,
      (other buffer).bytes = (pool buffer).bytes) : Stands other (album ++ more) stream network := by
  cases network with
  | calling copy size => exact Carries.mono stands more
  | raising => exact Carries.mono stands more
  | sendingHeader call => exact ⟨stands.1, stands.2.1, stands.2.2.mono more⟩
  | sendingBody call =>
    refine ⟨fun none' => (stands.1 none').mono more, fun announced => ?_⟩
    obtain ⟨size, done, left⟩ := stands.2 announced
    refine ⟨size, fun empty => (done empty).mono more, fun remaining => ?_⟩
    obtain ⟨part, length, same, carries⟩ := left remaining
    refine ⟨part, length, ?_, carries.mono more⟩
    intro buffer points
    rw [same buffer points, bytesAt, bytesAt, kept call rfl remaining buffer points]
  | returned ret => exact stands.imp_right fun carries => carries.mono more
  | _ => trivial

theorem Develops.keep {before after : State n} {more : List Capture} (develops : Develops before album)
    (filled : ∀ buffer, (after.pool buffer).bytesused ≠ 0 →
      ⟨(after.pool buffer).bytes, (after.pool buffer).bytesused⟩ ∈ album ++ more)
    (streams : after.streams = before.streams) (network : after.network = before.network)
    (kept : ∀ call ∈ sending before.network, call.len ≠ 0 → ∀ buffer ∈ call.source,
      (after.pool buffer).bytes = (before.pool buffer).bytes) : Develops after (album ++ more) where
  filled := filled
  shows stream member := (develops.shows stream (streams ▸ member)).mono more
  open' stream earlier split := by
    rw [network]
    exact (develops.open' stream earlier (streams ▸ split)).mono more kept

/-- A step that leaves the bytes of every buffer alone. -/
theorem Develops.same {before after : State n} (develops : Develops before album)
    (bytes : ∀ buffer, (after.pool buffer).bytes = (before.pool buffer).bytes)
    (used : ∀ buffer, (after.pool buffer).bytesused = (before.pool buffer).bytesused)
    (streams : after.streams = before.streams) (network : after.network = before.network) :
    Develops after (album ++ []) := by
  apply develops.keep _ streams network fun _ _ _ buffer _ => bytes buffer
  intro buffer nonzero
  rw [List.append_nil, bytes, used]
  exact develops.filled buffer (used buffer ▸ nonzero)

/-- A step of the network thread that sends nothing. -/
theorem Develops.move {before after : State n} (develops : Develops before album) (pool : after.pool = before.pool)
    (streams : after.streams = before.streams)
    (stands : ∀ stream, Stands before.pool album stream before.network →
      Stands before.pool album stream after.network) : Develops after (album ++ []) := by
  rw [List.append_nil]
  refine ⟨by rw [pool]; exact develops.filled, by rw [streams]; exact develops.shows, ?_⟩
  intro stream earlier split
  rw [pool]
  exact stands stream (develops.open' stream earlier (streams ▸ split))

/-- A step that puts bytes on the open stream. -/
theorem Develops.put {before after : State n} (develops : Develops before album) {bytes : List UInt8}
    (pool : after.pool = before.pool) (streams : after.streams = put before.streams bytes)
    (stands : ∀ current, Stands before.pool album current before.network →
      Shows album (current ++ bytes) ∧ Stands before.pool album (current ++ bytes) after.network) :
    Develops after (album ++ []) := by
  rw [List.append_nil]
  refine ⟨by rw [pool]; exact develops.filled, ?_, ?_⟩
  · rw [streams]
    intro stream member
    cases same : before.streams with
    | nil => simp [same, Eye.put] at member
    | cons current earlier =>
      rw [same] at member
      rcases List.mem_cons.mp member with rfl | old
      · exact (stands current (develops.open' current earlier same)).1
      · exact develops.shows stream (by simp [same, old])
  · intro stream earlier split
    rw [streams] at split
    cases same : before.streams with
    | nil => simp [same, Eye.put] at split
    | cons current others =>
      rw [same] at split
      cases split
      rw [pool]
      exact (stands current (develops.open' current _ same)).2

theorem Stands.ready {pool : Fin n → VideoBuffer} {call : Call n}
    (stands : Stands pool album stream (.sendingHeader call)) (frame : call.len = bufferSize) :
    Shows album (stream ++ readyMessage) ∧
      Stands pool album (stream ++ readyMessage) (.sendingBody { call with header := readyMessage.length }) := by
  obtain ⟨offset, -, carries⟩ := stands
  have ready : Carries album (stream ++ readyMessage) (readyMessage ++ []) := carries.put readyMessage
  refine ⟨⟨readyMessage ++ [], by decide, ready⟩, nofun, fun _ => ⟨?_, ?_, ?_⟩⟩
  · simp [Call.size, offset, frame]
  · intro empty
    exact absurd (frame.symm.trans empty) (by decide)
  · intro _
    refine ⟨[], offset.symm, fun buffer _ => ?_, ready⟩
    simp [offset, bytesAt]

/-- The bytes of one send: the frame grows by them, and is an image when it is full. -/
theorem Stands.body {state : State n} {call : Call n} (filled : ∀ buffer, (state.pool buffer).bytesused ≠ 0 →
      ⟨(state.pool buffer).bytes, (state.pool buffer).bytesused⟩ ∈ album)
    (stands : Stands state.pool album stream (.sendingBody call)) (announced : call.header ≠ 0) {count : Nat}
    (some' : 1 ≤ count) (most : count ≤ call.len) {buffer : Fin n} (points : call.source = some buffer)
    (used : (state.pool buffer).bytesused = call.size) (chunks : List (Nat × Nat)) :
    Shows album (stream ++ bytesAt (state.pool buffer) call.offset count) ∧
      Stands state.pool album (stream ++ bytesAt (state.pool buffer) call.offset count)
        (.sendingBody { call with offset := call.offset + count, len := call.len - count, chunks }) := by
  obtain ⟨size, -, left⟩ := stands.2 announced
  obtain ⟨part, length, same, carries⟩ := left (by omega)
  have total : call.offset + call.len = bufferSize := size
  have grown : part ++ bytesAt (state.pool buffer) call.offset count =
      bytesAt (state.pool buffer) 0 (call.offset + count) := by
    rw [same buffer points, bytesAt_append]
  have carries' : Carries album (stream ++ bytesAt (state.pool buffer) call.offset count)
      (readyMessage ++ bytesAt (state.pool buffer) 0 (call.offset + count)) := by
    rw [← grown, ← List.append_assoc]
    exact carries.put _
  have finished : call.len - count = 0 →
      Carries album (stream ++ bytesAt (state.pool buffer) call.offset count) [] := by
    intro none'
    apply carries'.finish
    have all : call.offset + count = bufferSize := by omega
    rw [all]
    refine ⟨_, filled buffer (by rw [used, size]; decide), used.trans size, ?_⟩
    simp [bytesAt, Capture.image, used, size]
  constructor
  · by_cases none' : call.len - count = 0
    · exact (finished none').shows
    · refine ⟨_, ?_, carries'⟩
      rw [List.length_append, length_bytesAt, Format.messageSize, ← bufferSize_eq]
      show readyMessage.length + _ < readyMessage.length + _
      omega
  · refine ⟨fun none' => absurd none' announced, fun _ => ⟨?_, finished, fun _ => ⟨_, ?_, ?_, carries'⟩⟩⟩
    · show call.offset + count + (call.len - count) = bufferSize
      omega
    · simp
    · intro other points'
      obtain rfl : buffer = other := Option.some.inj (points.symm.trans points')
      rfl

theorem develops {trace : List Mark} {record : State n × List Capture}
    (reached : ((machine n).record fills).Reaches (Guard.recorded (Guard.both Owned Whole)) trace record) :
    Develops record.1 record.2 := by
  apply reached.record_invariant ⟨fun _ nonzero => absurd rfl nonzero, nofun, nofun⟩
  intro trace before album event after emitted earlier held allowed moved
  have owned : Owns before := owns (earlier.mono fun _ _ _ both => both.1)
  have whole' : whole event before.network = true := allowed.2
  cases step_moves moved with
  | @fill buffer bytes bytesused queued =>
    refine held.keep ?_ rfl rfl ?_
    · intro other nonzero
      by_cases same : other = buffer
      · subst same
        simp [fills]
      · simp only [setBuffer_other before.pool _ same] at nonzero ⊢
        exact List.mem_append.mpr (Or.inl (held.filled other nonzero))
    · intro call sends left source points
      have unqueued := (owned.reads call sends (Nat.pos_of_ne_zero left) source points).1
      apply congrArg VideoBuffer.bytes
      apply setBuffer_other before.pool
      intro same
      subst same
      simp [queued] at unqueued
  | @dequeued taken at' queued =>
    refine held.same (fun buffer => ?_) (fun buffer => ?_) rfl rfl
    all_goals
      by_cases same : buffer = taken
      · subst same
        simp
      · simp [setBuffer_other before.pool _ same]
  | @enqueue vbuf at' =>
    refine held.same (fun buffer => ?_) (fun buffer => ?_) rfl rfl
    all_goals
      by_cases same : buffer = vbuf
      · subst same
        simp
      · simp [setBuffer_other before.pool _ same]
  | accepted at' =>
    show Develops _ (album ++ [])
    rw [List.append_nil]
    have empty : Carries album [] [] := ⟨[], nofun, rfl⟩
    refine ⟨held.filled, ?_, ?_⟩
    · intro stream member
      rcases List.mem_cons.mp member with rfl | old
      · exact empty.shows
      · exact held.shows stream old
    · intro stream earlier split
      obtain ⟨rfl, -⟩ := List.cons.inj split
      exact empty
  | @sentHeader call count at' _ _ =>
    obtain ⟨five, frame⟩ : count = readyMessage.length ∧ call.len = bufferSize := by simpa [whole, at'] using whole'
    refine held.put rfl rfl ?_
    intro current stands
    rw [at'] at stands
    rw [five, List.take_length]
    exact stands.ready frame
  | @refusedHeader call error at' _ =>
    refine held.move rfl rfl ?_
    intro stream stands
    rw [at'] at stands
    exact ⟨fun _ => stands.2.2, fun announced => absurd stands.2.1 announced⟩
  | @sentBody call count buffer at' some' most points =>
    have announced : call.header ≠ 0 := by simpa [whole, at'] using whole'
    have used := (owned.reads call (by simp [at', sending]) (by omega) buffer points).2.1
    refine held.put rfl rfl ?_
    intro current stands
    rw [at'] at stands
    exact stands.body held.filled announced some' most points used _
  | @refusedBody call error at' negative left =>
    have broken : call.header = 0 ∨ error ≠ -eagain := by simpa [whole, at'] using whole'
    refine held.move rfl rfl ?_
    intro stream stands
    rw [at'] at stands
    by_cases again : error = -eagain
    · exact Or.inr (stands.1 (broken.resolve_right (absurd again)))
    · exact Or.inl ⟨by omega, again⟩
  | @sentAll call at' empty =>
    refine held.move rfl rfl ?_
    intro stream stands
    rw [at'] at stands
    by_cases announced : call.header = 0
    · exact Or.inr (stands.1 announced)
    · exact Or.inr ((stands.2 announced).2.1 empty)
  | succeed at' fine =>
    refine held.move rfl rfl ?_
    intro stream stands
    rw [at'] at stands
    exact stands.resolve_left fine
  | call at' =>
    refine held.move rfl rfl ?_
    intro stream stands
    rw [at'] at stands
    exact ⟨rfl, rfl, stands⟩
  | raise at' | readCopy at' | readSize at' =>
    refine held.move rfl rfl ?_
    intro stream stands
    rwa [at'] at stands
  | fail _ _ | close _ | acceptFailed _ | sentNull _ _ => exact held.move rfl rfl fun _ _ => trivial
  | main _ | check _ | dequeueFailed _ | reset _ | setCopy _ | setSize _ | display _ | enqueueFailed _ =>
    exact held.same (fun _ => rfl) (fun _ => rfl) rfl rfl

theorem Shows.decode (shows' : Shows album stream) :
    ∃ frames, (∀ frame ∈ frames, Pictured album frame) ∧ messages.decode stream = frames ∧
      frames.length = stream.length / messages.messageSize := by
  obtain ⟨rest, short, frames, pictured, rfl⟩ := shows'
  have sized : messages.Sized frames := fun frame member => length_image (pictured frame member)
  refine ⟨frames, pictured, ?_, ?_⟩
  · rw [Format.decode_append sized, Format.decode_short short, List.append_nil]
  · rw [List.length_append, Format.length_encode sized, Nat.add_comm, Nat.add_mul_div_right _ _ (by decide),
      Nat.div_eq_of_lt short, Nat.zero_add]

/-- Whatever part of a connection reaches the client, and in whatever pieces, every
frame it takes is the image of a capture, and the picture on the screen still has all
its bytes. A client that gets the whole connection and does not quit shows as many
frames as there are whole messages in it. -/
theorem shows_captures {trace : List Mark} {record : State n × List Capture}
    (reached : ((machine n).record fills).Reaches (Guard.recorded (Guard.both Owned Whole)) trace record) :
    ∀ stream ∈ record.1.streams, ∀ (sock : Socket) (keys : Nat → Int), sock.unread <+: stream →
      (∀ frame ∈ (ImageSocket.main sock keys).frames, Pictured record.2 frame ∧
        ∃ picture, rgb565ToRgb888 frame = some picture ∧ repack picture = frame) ∧
      (sock.unread = stream → (∀ count, quits (keys count) = false) →
        (ImageSocket.main sock keys).frames.length = stream.length / messages.messageSize) := by
  intro stream member sock keys cut
  obtain ⟨frames, pictured, decoded, count⟩ := ((develops reached).shows stream member).decode
  constructor
  · intro frame shown
    refine ⟨?_, session_converts shown⟩
    rw [ImageStream.main_frames] at shown
    apply pictured
    rw [← decoded]
    exact (Format.decode_prefix cut).subset (ImageStream.untilQuit_subset shown)
  · intro all never
    rw [ImageStream.main_frames, ImageStream.untilQuit_never never, all, decoded, count]

/-- A frame that goes out in two pieces. -/
theorem shows_captures_two_pieces :
    ∃ (trace : List Mark) (record : State 3 × List Capture),
      ((machine 3).record fills).Reaches (Guard.recorded (Guard.both Owned Whole)) trace record ∧
      record.1.network = .raising ∧ record.1.streams.length = 1 ∧
      ∀ stream ∈ record.1.streams, ∀ (sock : Socket) (keys : Nat → Int), sock.unread <+: stream →
        (∀ frame ∈ (ImageSocket.main sock keys).frames, Pictured record.2 frame ∧
          ∃ picture, rgb565ToRgb888 frame = some picture ∧ repack picture = frame) ∧
        (sock.unread = stream → (∀ count, quits (keys count) = false) →
          (ImageSocket.main sock keys).frames.length = stream.length / messages.messageSize) := by
  obtain ⟨trace, record, reached, found⟩ := ((machine 3).record fills).reaches_of_run
    (Guard.recorded (Guard.both Owned Whole))
    [.main, .fill 0 (fun _ => 7) bufferSize, .camera, .dequeued 0, .camera, .camera, .camera,
      .accepted, .readCopy, .readSize, .network, .sent 5, .sent 1, .sent (bufferSize - 1), .network, .network]
    (fun _ record => record.1.network == .raising && record.1.streams.length == 1) (by decide)
  simp only [Bool.and_eq_true, beq_iff_eq] at found
  exact ⟨trace, record, reached, found.1, found.2, shows_captures reached⟩

end Dionysus.Proofs.EyeFrames
