import Dionysus.Proofs.EyeRuns

/-! The two arguments of `sendall`. C leaves open which of them is read first, and
`frame_copy` is null until the first update sets it and then `frame_size`. Read in that
order the two can be a null pointer with a length. -/

namespace Dionysus.Proofs.EyeArguments
open Eye EyeRuns

variable {n : Nat}

/-- No call reads `frame_copy` ahead of the first update and `frame_size` behind it. -/
def together : Guard (State n) (Event n) Mark := fun _ state event =>
  match event with
  | .readSize => state.network = .calling (some none) none → state.frameSize = 0
  | _ => True

/-- A call with a length has a pointer, as far as its arguments have been read. -/
def Backed (frameCopy : Option (Fin n)) : Network n → Prop
  | .calling none (some size) => size ≠ 0 → frameCopy ≠ none
  | .calling (some copy) (some size) => size ≠ 0 → copy ≠ none
  | .sendingHeader call | .sendingBody call => call.len ≠ 0 → call.source ≠ none
  | .faulted => False
  | _ => True

structure Sound (state : State n) : Prop where
  copied : state.frameSize ≠ 0 → state.frameCopy ≠ none
  setting : ∀ vbuf, state.camera.point = .setSize vbuf → state.frameCopy ≠ none
  backed : Backed state.frameCopy state.network

theorem Sound.camera {before after : State n} (sound : Sound before) (copy : after.frameCopy = before.frameCopy)
    (size : after.frameSize = before.frameSize) (network : after.network = before.network)
    (apart : ∀ vbuf, after.camera.point ≠ .setSize vbuf) : Sound after where
  copied := by
    rw [copy, size]
    exact sound.copied
  setting vbuf at' := absurd at' (apart vbuf)
  backed := by
    rw [copy, network]
    exact sound.backed

theorem Backed.of_some {network : Network n} {frameCopy : Option (Fin n)} (backed : Backed frameCopy network)
    (vbuf : Fin n) : Backed (some vbuf) network := by
  cases network with
  | calling copy size =>
    cases copy with
    | none =>
      cases size with
      | none => trivial
      | some size => exact fun _ => nofun
    | some copy => cases size <;> exact backed
  | _ => exact backed

/-- The thread stops only in a send of bytes that a null pointer stands for. -/
theorem fault_from {before after : State n} {event : Event n} {emitted : List Mark}
    (moved : (machine n).step before event = some (after, emitted)) (stopped : after.network = .faulted) :
    before.network = .faulted ∨ ∃ call, before.network = .sendingBody call ∧ call.len ≠ 0 ∧ call.source = none := by
  have executed := moved
  cases step_moves moved with
  | @sentNull call count at' null =>
    refine Or.inr ⟨call, at', ?_, null⟩
    intro empty
    simp only [machine, step, sent, at', empty] at executed
    split at executed
    · rw [if_neg (by omega)] at executed
      cases executed
    · cases executed
  | main _ | fill _ | check _ | dequeued _ _ | dequeueFailed _ | reset _ | setCopy _ | setSize _ | display _
  | enqueue _ | enqueueFailed _ => exact Or.inl stopped
  | _ => cases stopped

theorem sound {trace : List Mark} {state : State n} (reached : (machine n).Reaches together trace state) :
    Sound state := by
  induction reached with
  | start => exact ⟨nofun, nofun, trivial⟩
  | @step trace before event after emitted _ ordered moved held =>
    have backed := held.backed
    cases step_moves moved with
    | setCopy at' => exact ⟨fun _ => nofun, fun _ _ => nofun, held.backed.of_some _⟩
    | setSize at' =>
      have copied := held.setting _ at'
      exact ⟨fun _ => copied, nofun, held.backed⟩
    | check _ | dequeueFailed _ | reset _ | display _ | enqueue _ | enqueueFailed _ =>
      exact held.camera rfl rfl rfl nofun
    | dequeued _ _ =>
      refine held.camera rfl rfl rfl fun vbuf => ?_
      dsimp only
      split <;> exact nofun
    | main _ | fill _ => exact ⟨held.copied, held.setting, held.backed⟩
    | @readCopy size at' =>
      refine ⟨held.copied, held.setting, ?_⟩
      rw [at'] at backed
      cases size with
      | none => trivial
      | some size => exact backed
    | @readSize copy at' =>
      refine ⟨held.copied, held.setting, ?_⟩
      rw [at'] at backed
      cases copy with
      | none => exact held.copied
      | some copy =>
        intro positive null
        rw [null] at at'
        exact positive (ordered at')
    | call at' =>
      rw [at'] at backed
      exact ⟨held.copied, held.setting, backed⟩
    | sentHeader at' _ _ | refusedHeader at' _ =>
      rw [at'] at backed
      exact ⟨held.copied, held.setting, backed⟩
    | sentBody at' _ _ points => exact ⟨held.copied, held.setting, fun _ => by simp [points]⟩
    | sentNull at' null =>
      rw [at'] at backed
      rcases fault_from moved rfl with stopped | ⟨call, sends, left, _⟩
      · rw [at'] at stopped
        cases stopped
      · rw [at'] at sends
        cases sends
        exact absurd null (backed left)
    | accepted _ | acceptFailed _ | refusedBody _ _ _ | sentAll _ _ | fail _ _ | succeed _ _ | close _ | raise _ =>
      exact ⟨held.copied, held.setting, trivial⟩

theorem started {trace : List Mark} {state : State n} (reached : (machine n).Reaches Guard.free trace state) :
    state.mainDone = true ∨ state.network = .accepting := by
  apply reached.invariant (Or.inr rfl)
  intro trace before event after emitted _ _ moved
  cases done : before.mainDone with
  | true =>
    apply Or.inl
    cases step_moves moved with
    | main => rfl
    | _ => exact done
  | false =>
    simp only [machine, step, done] at moved
    cases event with
    | main =>
      cases moved
      exact Or.inl rfl
    | _ => cases moved

/-- A null pointer read with a length is followed to its first byte. -/
theorem fault_ahead {trace : List Mark} {state : State n} (reached : (machine n).Reaches Guard.free trace state)
    (apart : ¬together trace state .readSize) :
    ∃ last final, (machine n).run Guard.free trace state [.readSize, .network, .sent 5, .sent 1] = some (last, final) ∧
      final.network = .faulted := by
  obtain ⟨at', length⟩ := Classical.not_imp.mp apart
  have done : state.mainDone = true := (started reached).resolve_right (by simp [at'])
  have positive : 1 ≤ state.frameSize := Nat.one_le_iff_ne_zero.mpr length
  refine ⟨trace, { state with network := .faulted, streams := put state.streams readyMessage }, ?_, rfl⟩
  simp [Machine.run, Guard.free, machine, step, networkStep, sent, done, at', positive, readyMessage]

/-- In every interleaving of the threads the network thread follows the null pointer only
in a call that reads `frame_copy` ahead of the first update and `frame_size` behind it,
and behind every such pair of reads it can. -/
theorem null_followed_iff_apart (n : Nat) :
    (∀ trace (state : State n), (machine n).Reaches together trace state → state.network ≠ .faulted) ∧
      ∀ trace (state : State n), (machine n).Reaches Guard.free trace state → ¬together trace state .readSize →
        ∃ last final,
          (machine n).run Guard.free trace state [.readSize, .network, .sent 5, .sent 1] = some (last, final) ∧
            final.network = .faulted := by
  refine ⟨?_, fun _ _ => fault_ahead⟩
  intro trace state reached stopped
  have backed := (sound reached).backed
  rw [stopped] at backed
  exact backed

/-- The shipped pool and the first update between the two reads. -/
theorem null_followed_iff_apart_reached :
    ∃ (trace : List Mark) (state : State 3), (machine 3).Reaches Guard.free trace state ∧
      ¬together trace state .readSize ∧ ∃ last final,
        (machine 3).run Guard.free trace state [.readSize, .network, .sent 5, .sent 1] = some (last, final) ∧
          final.network = .faulted := by
  obtain ⟨trace, state, reached, found⟩ := Machine.reaches_of_run (machine 3) Guard.free
    [.main, .accepted, .readCopy, .fill 0 (fun _ => 0) bufferSize, .camera, .dequeued 0, .camera, .camera, .camera]
    (fun _ state => state.network == .calling (some none) none && state.frameSize == bufferSize) (by decide)
  simp only [Bool.and_eq_true, beq_iff_eq] at found
  have apart : ¬together trace state .readSize := by
    intro joined
    exact absurd ((joined found.1).symm.trans found.2) (by decide)
  exact ⟨trace, state, reached, apart, (null_followed_iff_apart 3).2 trace state reached apart⟩

end Dionysus.Proofs.EyeArguments
