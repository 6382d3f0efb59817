import Dionysus.ImageSocket
import Dionysus.Proofs.EyeRuns

/-! What the server puts on a connection, as long as every `zsock_send` takes all it is
given or fails. The stream stays framed while READY and body of a call stand or fall
together, which `sendall` does not see to. -/

namespace Dionysus.Proofs.EyeFraming
open Eye EyeRuns
open ImageSocket (messages)

variable {n : Nat}

def complete : Event n → Network n → Bool
  | .sent count, .sendingHeader _ => count == readyMessage.length
  | .sent count, .sendingBody call => count == call.len
  | _, _ => true

/-- A body is accepted only behind its READY and only when it is one frame long. After
its READY a call neither ends with an empty body nor has its body refused with
`-EAGAIN`. -/
def paired : Event n → Network n → Bool
  | .sent _, .sendingBody call => call.header != 0 && call.len == bufferSize
  | .network, .sendingBody call => call.header == 0 || call.offset != 0
  | .refused error, .sendingBody call => call.header == 0 || error != -eagain
  | _, _ => true

def AllOrNothing : Guard (State n) (Event n) Mark := fun _ state event => complete event state.network = true

def Paired : Guard (State n) (Event n) Mark := fun _ state event =>
  complete event state.network = true ∧ paired event state.network = true

instance (trace : List Mark) (state : State n) (event : Event n) : Decidable (AllOrNothing trace state event) :=
  inferInstanceAs (Decidable (complete event state.network = true))

instance (trace : List Mark) (state : State n) (event : Event n) : Decidable (Paired trace state event) :=
  inferInstanceAs (Decidable (complete event state.network = true ∧ paired event state.network = true))

def Announced (stream : List UInt8) : Prop := ∃ before, messages.Aligned before ∧ stream = before ++ readyMessage

/-- How the stream of the open connection stands at each statement of the thread. -/
def Stands : Network n → List UInt8 → Prop
  | .calling _ _, stream | .raising, stream => messages.Aligned stream
  | .sendingHeader call, stream => call.offset = 0 ∧ call.header = 0 ∧ messages.Aligned stream
  | .sendingBody call, stream =>
    (call.offset ≠ 0 → call.len = 0) ∧
      if call.offset = 0 ∧ call.header ≠ 0 then Announced stream else messages.Aligned stream
  | .returned ret, stream => (ret ≠ 0 ∧ ret ≠ -eagain) ∨ messages.Aligned stream
  | _, _ => True

structure Framing (state : State n) : Prop where
  framed : ∀ stream ∈ state.streams, messages.Framed stream
  open' : ∀ stream earlier, state.streams = stream :: earlier → Stands state.network stream

theorem Framing.keep {before after : State n} (framing : Framing before) (same : after.streams = before.streams)
    (stands : ∀ stream, Stands before.network stream → Stands after.network stream) : Framing after where
  framed := by rw [same]; exact framing.framed
  open' stream earlier split := stands stream (framing.open' stream earlier (same ▸ split))

theorem put_eq_cons {streams : List (List UInt8)} {bytes stream : List UInt8} {earlier : List (List UInt8)}
    (split : put streams bytes = stream :: earlier) :
    ∃ current, streams = current :: earlier ∧ stream = current ++ bytes := by
  cases streams with
  | nil => cases split
  | cons current rest =>
    cases split
    exact ⟨current, rfl, rfl⟩

theorem Framing.put {before after : State n} (framing : Framing before) {bytes : List UInt8}
    (streams : after.streams = put before.streams bytes)
    (stands : ∀ current, Stands before.network current →
      messages.Framed (current ++ bytes) ∧ Stands after.network (current ++ bytes)) : Framing after where
  framed := by
    rw [streams]
    intro stream member
    cases same : before.streams with
    | nil => simp [same, Eye.put] at member
    | cons current earlier =>
      rw [same] at member
      rcases List.mem_cons.mp member with rfl | old
      · exact (stands current (framing.open' current earlier same)).1
      · exact framing.framed stream (by simp [same, old])
  open' stream earlier split := by
    obtain ⟨current, same, rfl⟩ := put_eq_cons (streams ▸ split)
    exact (stands current (framing.open' current earlier same)).2

theorem Announced.framed {stream : List UInt8} (announced : Announced stream) : messages.Framed stream := by
  obtain ⟨before, aligned, rfl⟩ := announced
  exact aligned.framed_append (List.replicate messages.size 0) (by simp) (List.prefix_append _ _)

theorem Announced.body {stream : List UInt8} (announced : Announced stream) (body : List UInt8)
    (sized : body.length = bufferSize) :
    messages.Aligned (stream ++ body) := by
  obtain ⟨before, aligned, rfl⟩ := announced
  exact aligned.append sized

theorem Stands.ready {call : Call n} {stream : List UInt8} (stands : Stands (.sendingHeader call) stream)
    {header : Nat} (announced : header ≠ 0) :
    messages.Framed (stream ++ readyMessage) ∧ Stands (.sendingBody { call with header }) (stream ++ readyMessage) := by
  obtain ⟨offset, -, aligned⟩ := stands
  have ready : Announced (stream ++ readyMessage) := ⟨stream, aligned, rfl⟩
  refine ⟨ready.framed, fun advanced => absurd offset advanced, ?_⟩
  rwa [if_pos ⟨offset, announced⟩]

theorem Stands.unannounced {call : Call n} {stream : List UInt8} (stands : Stands (.sendingHeader call) stream) :
    Stands (.sendingBody call) stream := by
  obtain ⟨offset, header, aligned⟩ := stands
  refine ⟨fun advanced => absurd offset advanced, ?_⟩
  rwa [if_neg fun both => both.2 header]

theorem Stands.body {call : Call n} {stream : List UInt8} (stands : Stands (.sendingBody call) stream)
    (announced : call.header ≠ 0) (length : call.len = bufferSize) (body : List UInt8)
    (sized : body.length = call.len) : messages.Aligned (stream ++ body) := by
  obtain ⟨done, stands⟩ := stands
  have fresh : call.offset = 0 := by
    by_contra advanced
    have empty := done advanced
    rw [length] at empty
    cases empty
  rw [if_pos ⟨fresh, announced⟩] at stands
  exact stands.body body (sized.trans length)

theorem Stands.finished {call : Call n} {stream : List UInt8} (aligned : messages.Aligned stream)
    (advanced : call.offset ≠ 0) (finished : call.len = 0) : Stands (.sendingBody call) stream := by
  refine ⟨fun _ => finished, ?_⟩
  rwa [if_neg fun both => advanced both.1]

theorem Stands.alone {call : Call n} {stream : List UInt8} (stands : Stands (.sendingBody call) stream)
    (alone : call.offset = 0 → call.header = 0) : messages.Aligned stream := by
  have aligned := stands.2
  rwa [if_neg fun both => both.2 (alone both.1)] at aligned

theorem framing {trace : List Mark} {state : State n} (reached : (machine n).Reaches Paired trace state) :
    Framing state := by
  induction reached with
  | start => exact ⟨nofun, nofun⟩
  | @step trace before event after emitted reached allowed moved held =>
    obtain ⟨complete', paired'⟩ := allowed
    cases step_moves moved with
    | accepted at' =>
      constructor
      · intro stream member
        rcases List.mem_cons.mp member with rfl | old
        · exact Format.Aligned.nil.framed
        · exact held.framed stream old
      · intro stream earlier split
        cases split
        exact Format.Aligned.nil
    | @sentHeader call count at' some' most =>
      have whole : count = readyMessage.length := by simpa [complete, at'] using complete'
      refine held.put rfl ?_
      intro current stands
      rw [at'] at stands
      rw [whole, List.take_length]
      exact stands.ready (by decide)
    | refusedHeader at' negative =>
      refine held.keep rfl ?_
      intro stream stands
      rw [at'] at stands
      exact stands.unannounced
    | @sentBody call count buffer at' some' most points =>
      have whole : count = call.len := by simpa [complete, at'] using complete'
      obtain ⟨header, length⟩ : call.header ≠ 0 ∧ call.len = bufferSize := by simpa [paired, at'] using paired'
      refine held.put rfl ?_
      intro current stands
      rw [at'] at stands
      have aligned := stands.body header length (bytesAt (before.pool buffer) call.offset count) (by simp [whole])
      have advanced : call.offset + count ≠ 0 := by omega
      have finished : call.len - count = 0 := by omega
      exact ⟨aligned.framed, .finished aligned advanced finished⟩
    | @refusedBody call error at' negative left =>
      have alone : call.header = 0 ∨ error ≠ -eagain := by simpa [paired, at'] using paired'
      refine held.keep rfl ?_
      intro stream stands
      rw [at'] at stands
      by_cases again : error = -eagain
      · exact Or.inr (stands.alone fun _ => alone.resolve_right (absurd again))
      · exact Or.inl ⟨by omega, again⟩
    | @sentAll call at' empty =>
      have alone : call.header = 0 ∨ call.offset ≠ 0 := by simpa [paired, at'] using paired'
      refine held.keep rfl ?_
      intro stream stands
      rw [at'] at stands
      exact Or.inr (stands.alone fun fresh => alone.resolve_right (absurd fresh))
    | succeed at' fine =>
      refine held.keep rfl ?_
      intro stream stands
      rw [at'] at stands
      exact stands.resolve_left fine
    | call at' =>
      refine held.keep rfl ?_
      intro stream stands
      rw [at'] at stands
      exact ⟨rfl, rfl, stands⟩
    | raise at' | readCopy at' | readSize at' =>
      refine held.keep rfl ?_
      intro stream stands
      rwa [at'] at stands
    | fail _ _ | close _ | acceptFailed _ | sentNull _ _ => exact held.keep rfl fun _ _ => trivial
    | _ => exact held.keep rfl fun _ stands => stands

/-- While READY and body of every call stand or fall together, every connection carries
a prefix of the messages that the client reads. -/
theorem streams_framed {trace : List Mark} {state : State n} (reached : (machine n).Reaches Paired trace state) :
    ∀ stream ∈ state.streams, messages.Framed stream :=
  (framing reached).framed

theorem first_frame_framed :
    ∃ (trace : List Mark) (state : State 3), (machine 3).Reaches Paired trace state ∧
      state.network = .raising ∧ state.captures = 1 ∧ ∀ stream ∈ state.streams, messages.Framed stream := by
  obtain ⟨trace, state, reached, found⟩ := Machine.reaches_of_run (machine 3) Paired
    [.main, .fill 0 (fun _ => 0) bufferSize, .camera, .dequeued 0, .camera, .camera, .camera,
      .accepted, .readCopy, .readSize, .network, .sent 5, .sent bufferSize, .network, .network]
    (fun _ state => state.network == .raising && state.captures == 1) (by decide)
  simp only [Bool.and_eq_true, beq_iff_eq] at found
  exact ⟨trace, state, reached, found.1, found.2, streams_framed reached⟩

/-- A client that connects before the first frame gets a READY without a body, and then
a second READY where the body of the first would start. -/
theorem early_client_misframed :
    ¬∀ (trace : List Mark) (state : State 3), (machine 3).Reaches AllOrNothing trace state →
      ∀ stream ∈ state.streams, messages.Framed stream := by
  intro framed
  have executed : ((machine 3).run AllOrNothing [] (machine 3).initial
      [.main, .accepted, .readCopy, .readSize, .network, .sent 5, .network, .network,
        .fill 0 (fun _ => 0) bufferSize, .camera, .dequeued 0, .camera, .camera, .camera,
        .network, .readCopy, .readSize, .network, .sent 5, .sent bufferSize]).map (fun last => last.2.streams) =
      some [readyMessage ++ readyMessage ++ bytesAt ⟨false, 1, fun _ => 0, bufferSize⟩ 0 bufferSize] := by rfl
  obtain ⟨⟨trace, state⟩, run, streams⟩ := Option.map_eq_some_iff.mp executed
  have stream := framed trace state (Machine.Reaches.start.run run) _ (streams ▸ List.mem_singleton_self _)
  have second := stream.drop.header
  have zeros : bytesAt ⟨false, 1, fun _ => 0, bufferSize⟩ 0 bufferSize = List.replicate bufferSize 0 := by
    simp [bytesAt, List.map_const']
  rw [zeros, List.drop_append, List.drop_replicate] at second
  exact absurd second (by decide)

end Dionysus.Proofs.EyeFraming
