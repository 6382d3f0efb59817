import Dionysus.Proofs.EyeRuns

/-! Who owns the buffer a `sendall` reads. A call that starts on a buffer the camera
thread holds, and ends before the thread gives that buffer back, sends one capture. The
code guarantees neither: `frame_copy` outlives the loop iteration that set it. -/

namespace Dionysus.Proofs.EyeOwnership
open Eye EyeRuns

variable {n : Nat}

def sending : Network n → Option (Call n)
  | .sendingHeader call | .sendingBody call => some call
  | _ => none

def calling : Network n → Option (Call n)
  | .calling (some copy) (some size) => some { source := copy, len := size }
  | _ => none

def enqueuing : CameraPoint n → Option (Fin n)
  | .enqueue vbuf => some vbuf
  | _ => none

/-- A call with bytes still to send reads a buffer that is not queued, with that
buffer's `bytesused` as its length, and all its body bytes come from one capture. -/
structure Untorn (state : State n) : Prop where
  held : ∀ call ∈ sending state.network, 0 < call.len → ∀ buffer ∈ call.source,
    (state.pool buffer).queued = false ∧ (state.pool buffer).bytesused = call.size
  whole : ∀ call ∈ sending state.network, ∃ capture, ∀ chunk ∈ call.chunks, chunk = (capture, call.size)

/-- Every call with bytes to send starts on a buffer the camera thread holds, with that
buffer's `bytesused`, and the thread does not enqueue the buffer of such a call. -/
def Owned : Guard (State n) (Event n) Mark := fun _ state event =>
  match event with
  | .network => ∀ call ∈ calling state.network, 0 < call.len → ∀ buffer ∈ call.source,
      (state.pool buffer).queued = false ∧ (state.pool buffer).bytesused = call.len
  | .camera => ∀ vbuf ∈ enqueuing state.camera.point, ∀ call ∈ sending state.network, 0 < call.len →
      vbuf ∉ call.source
  | _ => True

instance (trace : List Mark) (state : State n) (event : Event n) : Decidable (Owned trace state event) :=
  match event with
  | .network => inferInstanceAs (Decidable (∀ call ∈ calling state.network, 0 < call.len → ∀ buffer ∈ call.source,
      (state.pool buffer).queued = false ∧ (state.pool buffer).bytesused = call.len))
  | .camera => inferInstanceAs (Decidable (∀ vbuf ∈ enqueuing state.camera.point,
      ∀ call ∈ sending state.network, 0 < call.len → vbuf ∉ call.source))
  | .main | .fill .. | .dequeued _ | .dequeueFailed | .enqueueFailed | .accepted | .acceptFailed | .readCopy
  | .readSize | .sent _ | .refused _ => inferInstanceAs (Decidable True)

structure Owns (state : State n) : Prop where
  reads : ∀ call ∈ sending state.network, 0 < call.len → ∀ buffer ∈ call.source,
    (state.pool buffer).queued = false ∧ (state.pool buffer).bytesused = call.size ∧
      ∀ chunk ∈ call.chunks, chunk = ((state.pool buffer).capture, call.size)
  whole : ∀ call ∈ sending state.network, ∃ capture, ∀ chunk ∈ call.chunks, chunk = (capture, call.size)

theorem Owns.idle {state : State n} (idle : sending state.network = none) : Owns state :=
  ⟨by simp [idle], by simp [idle]⟩

theorem Owns.keep {before after : State n} (owns : Owns before) (same : after.network = before.network)
    (kept : ∀ call ∈ sending before.network, 0 < call.len → ∀ buffer ∈ call.source,
      after.pool buffer = before.pool buffer) : Owns after := by
  constructor
  · intro call member left buffer points
    rw [same] at member
    rw [kept call member left buffer points]
    exact owns.reads call member left buffer points
  · rw [same]
    exact owns.whole

theorem Owns.of_queued {before after : State n} (owns : Owns before) {buffer : Fin n} {value : VideoBuffer}
    (queued : (before.pool buffer).queued = true) (same : after.network = before.network)
    (changed : after.pool = setBuffer before.pool buffer value) : Owns after := by
  apply owns.keep same
  intro call member left source points
  have unqueued := (owns.reads call member left source points).1
  rw [changed]
  apply setBuffer_other before.pool value
  intro same
  subst same
  simp [queued] at unqueued

theorem Owns.send {before : State n} (owns : Owns before) {call : Call n} {count : Nat} {buffer : Fin n}
    (at' : before.network = .sendingBody call) (left : 0 < call.len) (most : count ≤ call.len)
    (points : call.source = some buffer) {streams : List (List UInt8)} :
    Owns { before with
      network := .sendingBody { call with
        offset := call.offset + count
        len := call.len - count
        chunks := call.chunks ++ [((before.pool buffer).capture, (before.pool buffer).bytesused)] }
      streams } := by
  obtain ⟨unqueued, used, chunks⟩ := owns.reads call (by simp [at', sending]) left buffer points
  have size : call.offset + count + (call.len - count) = call.size := by
    unfold Call.size
    omega
  have chunks' : ∀ chunk ∈ call.chunks ++ [((before.pool buffer).capture, (before.pool buffer).bytesused)],
      chunk = ((before.pool buffer).capture, call.offset + count + (call.len - count)) := by
    rw [size]
    intro chunk member
    rcases List.mem_append.mp member with old | new
    · exact chunks chunk old
    · rw [List.mem_singleton.mp new, used]
  constructor
  · intro next member _ other points'
    cases member
    obtain rfl : buffer = other := by simpa [points] using points'
    exact ⟨unqueued, used.trans size.symm, chunks'⟩
  · intro next member
    cases member
    exact ⟨(before.pool buffer).capture, chunks'⟩

theorem owns {trace : List Mark} {state : State n} (reached : (machine n).Reaches Owned trace state) : Owns state := by
  induction reached with
  | start => exact Owns.idle rfl
  | @step trace before event after emitted reached owned moved held =>
    cases step_moves moved with
    | fill queued => exact held.of_queued queued rfl rfl
    | dequeued at' queued => exact held.of_queued queued rfl rfl
    | @enqueue vbuf at' =>
      refine held.keep rfl ?_
      intro call member left buffer points
      have different := owned vbuf (by simp [at', enqueuing]) call member left
      apply setBuffer_other before.pool _
      intro same
      subst same
      exact different points
    | @call copy size at' =>
      constructor
      · intro call member left buffer points
        cases member
        obtain ⟨unqueued, used⟩ := owned { source := copy, len := size } (by simp [at', calling]) left buffer points
        exact ⟨unqueued, by simpa [Call.size] using used, by simp⟩
      · intro call member
        cases member
        exact ⟨0, by simp⟩
    | @sentHeader call _ at' _ _ | @refusedHeader call _ at' _ =>
      have sends : call ∈ sending before.network := by simp [at', sending]
      constructor
      · intro next member
        cases member
        exact held.reads call sends
      · intro next member
        cases member
        exact held.whole call sends
    | @sentBody call count buffer at' some' most points =>
      exact held.send at' (by omega) most points
    | accepted _ | acceptFailed _ | readCopy _ | readSize _ | sentNull _ _ | refusedBody _ _ _ | sentAll _ _
    | fail _ _ | succeed _ _ | close _ | raise _ => exact Owns.idle rfl
    | _ => exact held.keep rfl fun _ _ _ _ _ => rfl

theorem Owns.untorn {state : State n} (owns : Owns state) : Untorn state where
  held call member left buffer points :=
    ⟨(owns.reads call member left buffer points).1, (owns.reads call member left buffer points).2.1⟩
  whole := owns.whole

theorem Untorn.owned {trace : List Mark} {before after : State n} {event : Event n} {emitted : List Mark}
    (untorn : Untorn after) (moved : (machine n).step before event = some (after, emitted)) :
    Owned trace before event := by
  cases step_moves moved with
  | call at' =>
    intro call member left buffer points
    obtain rfl : _ = call := by simpa [at', calling] using member
    simpa [Call.size] using untorn.held _ rfl left buffer points
  | @enqueue vbuf at' =>
    intro buffer member call within left points
    obtain rfl : vbuf = buffer := by simpa [at', enqueuing] using member
    have unqueued := (untorn.held call within left vbuf points).1
    simp at unqueued
  | check at' | reset at' | setCopy at' | setSize at' | display at' =>
    intro buffer member
    simp [at', enqueuing] at member
  | sentAll at' _ | fail at' _ | succeed at' _ | close at' | raise at' =>
    intro call member
    simp [at', calling] at member
  | _ => trivial

/-- As long as the camera thread holds the buffer of every call with bytes to send, no
frame is torn, and the first step outside that condition breaks the property. -/
theorem untorn_while_owned {trace : List Mark} {state : State n} (reached : (machine n).Reaches Owned trace state) :
    Untorn state ∧ ∀ event after emitted, (machine n).step state event = some (after, emitted) →
      (Untorn after ↔ Owned trace state event) := by
  refine ⟨(owns reached).untorn, fun event after emitted moved => ⟨fun untorn => untorn.owned moved, ?_⟩⟩
  intro owned
  exact (owns (reached.step owned moved)).untorn

theorem held_capture_sent_whole :
    ∃ (trace : List Mark) (state : State 3), (machine 3).Reaches Owned trace state ∧
      state.network = .sendingBody ⟨some 0, bufferSize, 0, 5, [(1, bufferSize), (1, bufferSize)]⟩ ∧ Untorn state := by
  obtain ⟨trace, state, reached, found⟩ := Machine.reaches_of_run (machine 3) Owned
    [.main, .fill 0 (fun _ => 0) bufferSize, .camera, .dequeued 0, .camera, .camera, .camera,
      .accepted, .readCopy, .readSize, .network, .sent 5, .sent 1, .sent (bufferSize - 1)]
    (fun _ state => state.network == .sendingBody ⟨some 0, bufferSize, 0, 5, [(1, bufferSize), (1, bufferSize)]⟩)
    (by decide)
  exact ⟨trace, state, reached, beq_iff_eq.mp found, (untorn_while_owned reached).1⟩

/-- The camera loop gives the buffer back to the driver before `sendall` reads it, and
the driver overwrites it between two partial sends. -/
theorem requeued_buffer_torn :
    ¬∀ (trace : List Mark) (state : State 3), (machine 3).Reaches Guard.free trace state → Untorn state := by
  intro untorn
  obtain ⟨trace, state, reached, found⟩ := Machine.reaches_of_run (machine 3) Guard.free
    [.main, .fill 0 (fun _ => 0) bufferSize, .camera, .dequeued 0, .camera, .camera, .camera, .camera, .camera,
      .accepted, .readCopy, .readSize, .network, .sent 5, .sent 1, .fill 0 (fun _ => 1) bufferSize, .sent 1]
    (fun _ state =>
      sending state.network == some ⟨some 0, 2, bufferSize - 2, 5, [(1, bufferSize), (2, bufferSize)]⟩)
    (by decide)
  obtain ⟨capture, same⟩ := (untorn trace state reached).whole _ (beq_iff_eq.mp found)
  have first := same (1, bufferSize) (by simp)
  have second := same (2, bufferSize) (by simp)
  exact absurd (first.trans second.symm) (by decide)

end Dionysus.Proofs.EyeOwnership
