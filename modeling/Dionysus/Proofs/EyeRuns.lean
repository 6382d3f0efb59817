import Dionysus.Eye

/-! Steps of the ESP32-S3-EYE, said once for every proof about its runs. -/

namespace Dionysus.Proofs.EyeRuns
open Eye

variable {n : Nat}

/-- Everything the system can do in one step. -/
inductive Moves (before : State n) : Event n → State n → List Mark → Prop where
  | main (first : before.mainDone = false) :
      Moves before .main { before with
        mainDone := true
        txSignal := kPollSignalRaise (kPollSignalInit before.txSignal) 0x01 } [.raised]
  | fill {buffer bytes bytesused} (queued : (before.pool buffer).queued = true) :
      Moves before (.fill buffer bytes bytesused) { before with
        pool := setBuffer before.pool buffer ⟨true, before.captures + 1, bytes, bytesused⟩
        captures := before.captures + 1 } []
  | check (at' : before.camera.point = .check) :
      Moves before .camera { before with camera := ⟨.dequeue, before.txSignal.signaled, before.txSignal.result⟩ } []
  | dequeued {buffer} (at' : before.camera.point = .dequeue) (queued : (before.pool buffer).queued = true) :
      Moves before (.dequeued buffer) { before with
        pool := setBuffer before.pool buffer { before.pool buffer with queued := false }
        camera := { before.camera with
          point := if before.camera.signaled && before.camera.result == 0x01 then .reset buffer
            else .display buffer } } []
  | dequeueFailed (at' : before.camera.point = .dequeue) :
      Moves before .dequeueFailed { before with camera := { before.camera with point := .exited } } []
  | reset {vbuf} (at' : before.camera.point = .reset vbuf) :
      Moves before .camera { before with
        txSignal := kPollSignalReset before.txSignal
        camera := { before.camera with point := .setCopy vbuf } } []
  | setCopy {vbuf} (at' : before.camera.point = .setCopy vbuf) :
      Moves before .camera { before with
        frameCopy := some vbuf
        camera := { before.camera with point := .setSize vbuf } } [.updating]
  | setSize {vbuf} (at' : before.camera.point = .setSize vbuf) :
      Moves before .camera { before with
        frameSize := (before.pool vbuf).bytesused
        camera := { before.camera with point := .display vbuf } } []
  | display {vbuf} (at' : before.camera.point = .display vbuf) :
      Moves before .camera { before with camera := { before.camera with point := .enqueue vbuf } } []
  | enqueue {vbuf} (at' : before.camera.point = .enqueue vbuf) :
      Moves before .camera { before with
        pool := setBuffer before.pool vbuf { before.pool vbuf with queued := true }
        camera := { before.camera with point := .check } } []
  | enqueueFailed {vbuf} (at' : before.camera.point = .enqueue vbuf) :
      Moves before .enqueueFailed { before with camera := { before.camera with point := .exited } } []
  | accepted (at' : before.network = .accepting) :
      Moves before .accepted { before with network := .calling none none, streams := [] :: before.streams } []
  | acceptFailed (at' : before.network = .accepting) :
      Moves before .acceptFailed { before with network := .exited } []
  | readCopy {size} (at' : before.network = .calling none size) :
      Moves before .readCopy { before with network := .calling (some before.frameCopy) size } []
  | readSize {copy} (at' : before.network = .calling copy none) :
      Moves before .readSize { before with network := .calling copy (some before.frameSize) } []
  | call {copy size} (at' : before.network = .calling (some copy) (some size)) :
      Moves before .network { before with network := .sendingHeader { source := copy, len := size } } []
  | sentHeader {call count} (at' : before.network = .sendingHeader call)
      (some' : 1 ≤ count) (most : count ≤ readyMessage.length) :
      Moves before (.sent count) { before with
        network := .sendingBody { call with header := count }
        streams := put before.streams (readyMessage.take count) } []
  | refusedHeader {call error} (at' : before.network = .sendingHeader call) (negative : error < 0) :
      Moves before (.refused error) { before with network := .sendingBody call } []
  | sentBody {call count buffer} (at' : before.network = .sendingBody call)
      (some' : 1 ≤ count) (most : count ≤ call.len) (points : call.source = some buffer) :
      Moves before (.sent count) { before with
        network := .sendingBody { call with
          offset := call.offset + count
          len := call.len - count
          chunks := call.chunks ++ [((before.pool buffer).capture, (before.pool buffer).bytesused)] }
        streams := put before.streams (bytesAt (before.pool buffer) call.offset count) } []
  | sentNull {call count} (at' : before.network = .sendingBody call) (null : call.source = none) :
      Moves before (.sent count) { before with network := .faulted } []
  | refusedBody {call error} (at' : before.network = .sendingBody call) (negative : error < 0)
      (left : call.len ≠ 0) :
      Moves before (.refused error) { before with network := .returned error } []
  | sentAll {call} (at' : before.network = .sendingBody call) (empty : call.len = 0) :
      Moves before .network { before with network := .returned 0 } []
  | fail {ret} (at' : before.network = .returned ret) (error : ret ≠ 0 ∧ ret ≠ -eagain) :
      Moves before .network { before with network := .closing } []
  | succeed {ret} (at' : before.network = .returned ret) (fine : ¬(ret ≠ 0 ∧ ret ≠ -eagain)) :
      Moves before .network { before with network := .raising } []
  | close (at' : before.network = .closing) :
      Moves before .network { before with network := .accepting } []
  | raise (at' : before.network = .raising) :
      Moves before .network { before with
        txSignal := kPollSignalRaise before.txSignal 0x01
        network := .calling none none } [.raised]

private theorem cameraStep_moves {before after : State n} {emitted : List Mark}
    (moved : cameraStep before = some (after, emitted)) : Moves before .camera after emitted := by
  unfold cameraStep at moved
  split at moved <;> cases moved
  next at' => exact .check at'
  next at' => exact .reset at'
  next at' => exact .setCopy at'
  next at' => exact .setSize at'
  next at' => exact .display at'
  next at' => exact .enqueue at'

private theorem networkStep_moves {before after : State n} {emitted : List Mark}
    (moved : networkStep before = some (after, emitted)) : Moves before .network after emitted := by
  unfold networkStep at moved
  split at moved
  next at' =>
    cases moved
    exact .call at'
  next at' =>
    split at moved
    next empty =>
      cases moved
      exact .sentAll at' empty
    next => cases moved
  next at' =>
    split at moved
    next error =>
      cases moved
      exact .fail at' error
    next fine =>
      cases moved
      exact .succeed at' fine
  next at' =>
    cases moved
    exact .close at'
  next at' =>
    cases moved
    exact .raise at'
  next => cases moved

private theorem sent_moves {before after : State n} {count : Nat} (moved : sent before count = some after) :
    Moves before (.sent count) after [] := by
  unfold sent at moved
  split at moved
  next at' =>
    split at moved
    next bound =>
      cases moved
      exact .sentHeader at' bound.1 bound.2
    next => cases moved
  next at' =>
    split at moved
    next bound =>
      split at moved
      next null =>
        cases moved
        exact .sentNull at' null
      next points =>
        cases moved
        exact .sentBody at' bound.1 bound.2 points
    next => cases moved
  next => cases moved

private theorem refused_moves {before after : State n} {error : Int} (moved : refused before error = some after) :
    Moves before (.refused error) after [] := by
  unfold refused at moved
  split at moved
  next negative =>
    split at moved
    next at' =>
      cases moved
      exact .refusedHeader at' negative
    next at' =>
      split at moved
      next => cases moved
      next left =>
        cases moved
        exact .refusedBody at' negative left
    next => cases moved
  next => cases moved

theorem step_moves {before after : State n} {event : Event n} {emitted : List Mark}
    (moved : (machine n).step before event = some (after, emitted)) : Moves before event after emitted := by
  simp only [machine, step] at moved
  split at moved
  next =>
    cases event with
    | main => cases moved
    | camera => exact cameraStep_moves moved
    | network => exact networkStep_moves moved
    | sent count =>
      obtain ⟨state, executed, same⟩ := Option.map_eq_some_iff.mp moved
      cases same
      exact sent_moves executed
    | refused error =>
      obtain ⟨state, executed, same⟩ := Option.map_eq_some_iff.mp moved
      cases same
      exact refused_moves executed
    | fill buffer bytes bytesused =>
      obtain ⟨state, executed, same⟩ := Option.map_eq_some_iff.mp moved
      cases same
      unfold fill at executed
      split at executed
      next queued =>
        cases executed
        exact .fill queued
      next => cases executed
    | dequeued buffer =>
      obtain ⟨state, executed, same⟩ := Option.map_eq_some_iff.mp moved
      cases same
      unfold dequeued at executed
      split at executed
      next at' =>
        split at executed
        next queued =>
          cases executed
          exact .dequeued at' queued
        next => cases executed
      next => cases executed
    | dequeueFailed =>
      simp only at moved
      split at moved <;> cases moved
      next at' => exact .dequeueFailed at'
    | enqueueFailed =>
      simp only at moved
      split at moved <;> cases moved
      next at' => exact .enqueueFailed at'
    | accepted =>
      simp only at moved
      split at moved <;> cases moved
      next at' => exact .accepted at'
    | acceptFailed =>
      simp only at moved
      split at moved <;> cases moved
      next at' => exact .acceptFailed at'
    | readCopy =>
      simp only at moved
      split at moved <;> cases moved
      next at' => exact .readCopy at'
    | readSize =>
      simp only at moved
      split at moved <;> cases moved
      next at' => exact .readSize at'
  next first =>
    cases event <;> simp only at moved <;> cases moved
    exact .main (by simpa using first)

end Dionysus.Proofs.EyeRuns
