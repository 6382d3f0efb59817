import Dionysus.Proofs.EyeRuns

/-! A raise of `tx_signal` is never swallowed: until the camera thread begins another
update of `frame_copy`, the request is in the signal or in the thread's local copy. -/

namespace Dionysus.Proofs.EyeSignal
open Eye EyeRuns

variable {n : Nat}

/-- A raise has happened since the last update of `frame_copy` began. -/
def Requested (trace : List Mark) : Prop :=
  ∃ before since, trace = before ++ .raised :: since ∧ .updating ∉ since

@[simp] theorem not_requested_nil : ¬Requested [] := by
  intro requested
  obtain ⟨before, since, impossible, -⟩ := requested
  simp at impossible

@[simp] theorem not_requested_updating (trace : List Mark) : ¬Requested (trace ++ [.updating]) := by
  intro requested
  obtain ⟨before, since, split, none⟩ := requested
  rcases List.eq_nil_or_concat since with rfl | ⟨earlier, last, rfl⟩
  · have same := (List.append_inj' split rfl).2
    simp at same
  · rw [List.concat_eq_append, ← List.cons_append, ← List.append_assoc] at split
    have same := (List.append_inj' split rfl).2
    simp at same
    simp [← same] at none

def Taking : CameraPoint n → Prop
  | .dequeue | .reset _ | .setCopy _ => True
  | _ => False

def Seen (camera : Camera n) : Prop := camera.signaled = true ∧ camera.result = 0x01

instance (camera : Camera n) : Decidable (Seen camera) :=
  inferInstanceAs (Decidable (camera.signaled = true ∧ camera.result = 0x01))

theorem seen_iff {camera : Camera n} : (camera.signaled && camera.result == 0x01) = true ↔ Seen camera := by
  simp [Seen]

/-- The request of the last raise is still to be served. -/
def Pending (state : State n) : Prop :=
  state.txSignal.signaled = true ∨ (Taking state.camera.point ∧ Seen state.camera)

structure Signals (trace : List Mark) (state : State n) : Prop where
  raised : state.txSignal.signaled = true → state.txSignal.result = 0x01
  checked : state.camera.signaled = true → state.camera.result = 0x01
  taken : ∀ vbuf, state.camera.point = .reset vbuf ∨ state.camera.point = .setCopy vbuf → Seen state.camera
  pending : Requested trace → state.camera.point ≠ .exited → Pending state

private theorem Signals.start : Signals [] (machine n).initial where
  raised off := by cases off
  checked off := by cases off
  taken _ at' := by rcases at' with at' | at' <;> cases at'
  pending requested := absurd requested not_requested_nil

theorem signals {trace : List Mark} {state : State n} (reached : (machine n).Reaches Guard.free trace state) :
    Signals trace state := by
  apply reached.invariant Signals.start
  intro trace before event after emitted held _ moved
  cases step_moves moved with
  | main _ | raise _ => exact ⟨fun _ => rfl, held.checked, held.taken, fun _ _ => Or.inl rfl⟩
  | check at' =>
    rw [List.append_nil]
    refine ⟨held.raised, held.raised, fun _ => by simp, fun requested _ => ?_⟩
    rcases held.pending requested (by simp [at']) with signaled | ⟨taking, -⟩
    · exact Or.inl signaled
    · simp [at', Taking] at taking
  | @dequeued buffer at' queued =>
    rw [List.append_nil]
    by_cases seen : Seen before.camera
    · simp only [seen_iff, seen, ↓reduceIte]
      exact ⟨held.raised, held.checked, fun _ _ => seen, fun _ _ => Or.inr ⟨trivial, seen⟩⟩
    · simp only [seen_iff, seen, ↓reduceIte]
      refine ⟨held.raised, held.checked, fun _ => by simp, fun requested _ => ?_⟩
      rcases held.pending requested (by simp [at']) with signaled | ⟨-, impossible⟩
      · exact Or.inl signaled
      · exact absurd impossible seen
  | dequeueFailed at' | enqueueFailed at' =>
    rw [List.append_nil]
    exact ⟨held.raised, held.checked, fun _ => by simp, fun _ running => absurd rfl running⟩
  | @reset vbuf at' =>
    rw [List.append_nil]
    have seen := held.taken vbuf (Or.inl at')
    exact ⟨by simp [kPollSignalReset], held.checked, fun _ _ => seen, fun _ _ => Or.inr ⟨trivial, seen⟩⟩
  | setCopy at' =>
    exact ⟨held.raised, held.checked, fun _ => by simp, fun requested => absurd requested (not_requested_updating _)⟩
  | setSize at' | display at' | enqueue at' =>
    rw [List.append_nil]
    refine ⟨held.raised, held.checked, fun _ => by simp, fun requested _ => ?_⟩
    rcases held.pending requested (by simp [at']) with signaled | ⟨taking, -⟩
    · exact Or.inl signaled
    · simp [at', Taking] at taking
  | _ =>
    rw [List.append_nil]
    exact ⟨held.raised, held.checked, held.taken, held.pending⟩

/-- How many statements the camera thread executes, at most, up to and including the
assignment to `frame_copy` that serves a pending request. -/
def due (camera : Camera n) : Nat :=
  match camera.point with
  | .check => 4
  | .dequeue => if Seen camera then 3 else 7
  | .reset _ => 2
  | .setCopy _ => 1
  | .setSize _ => 7
  | .display _ => 6
  | .enqueue _ => 5
  | .exited => 0

def ofCamera : Event n → Bool
  | .camera | .dequeued _ => true
  | _ => false

theorem due_pos {camera : Camera n} (running : camera.point ≠ .exited) : 0 < due camera := by
  rcases camera with ⟨point, signaled, result⟩
  cases point with
  | exited => exact absurd rfl running
  | dequeue =>
    simp only [due]
    split <;> omega
  | _ => simp [due]

theorem due_le (camera : Camera n) : due camera ≤ 7 := by
  unfold due
  split
  all_goals first | omega | (split <;> omega)

theorem Requested.append {trace : List Mark} (requested : Requested trace) {emitted : List Mark}
    (none : .updating ∉ emitted) : Requested (trace ++ emitted) := by
  obtain ⟨before, since, rfl, quiet⟩ := requested
  exact ⟨before, since ++ emitted, by simp, by simp [quiet, none]⟩

theorem due_step {trace : List Mark} {before after : State n} {event : Event n} {emitted : List Mark}
    (held : Signals trace before) (requested : Requested trace) (running : after.camera.point ≠ .exited)
    (moved : (machine n).step before event = some (after, emitted)) (none : .updating ∉ emitted) :
    due after.camera + (if ofCamera event then 1 else 0) ≤ due before.camera := by
  cases step_moves moved with
  | check at' =>
    rcases held.pending requested (by simp [at']) with signaled | ⟨taking, -⟩
    · simp [due, at', ofCamera, Seen, signaled, held.raised signaled]
    · simp [at', Taking] at taking
  | dequeued at' queued =>
    by_cases seen : Seen before.camera
    · simp only [due, at', ofCamera, seen_iff, seen, ↓reduceIte]
      omega
    · simp only [due, at', ofCamera, seen_iff, seen, ↓reduceIte]
      omega
  | dequeueFailed _ | enqueueFailed _ => exact absurd rfl running
  | setCopy at' => simp at none
  | reset at' | setSize at' | display at' | enqueue at' => simp [due, at', ofCamera]
  | _ => simp [ofCamera]

theorem exited_step {before after : State n} {event : Event n} {emitted : List Mark}
    (stopped : before.camera.point = .exited) (moved : (machine n).step before event = some (after, emitted)) :
    after.camera.point = .exited := by
  cases step_moves moved with
  | check at' | dequeued at' _ | reset at' | setCopy at' | setSize at' | display at' | enqueue at' =>
    simp [stopped] at at'
  | dequeueFailed _ | enqueueFailed _ => rfl
  | _ => exact stopped

theorem exited_run {trace last : List Mark} {state final : State n} {events : List (Event n)}
    (executed : (machine n).run Guard.free trace state events = some (last, final))
    (stopped : state.camera.point = .exited) : final.camera.point = .exited := by
  induction events generalizing trace state with
  | nil =>
    cases executed
    exact stopped
  | cons event rest ih =>
    obtain ⟨next, emitted, -, moved, remaining⟩ := Machine.run_cons executed
    exact ih remaining (exited_step stopped moved)

theorem served {trace last : List Mark} {state final : State n} {events : List (Event n)}
    (reached : (machine n).Reaches Guard.free trace state) (requested : Requested trace)
    (executed : (machine n).run Guard.free trace state events = some (last, final))
    (running : final.camera.point ≠ .exited) (enough : due state.camera ≤ events.countP ofCamera) :
    trace.count .updating < last.count .updating := by
  induction events generalizing trace state with
  | nil =>
    cases executed
    have left := due_pos running
    rw [List.countP_nil] at enough
    omega
  | cons event rest ih =>
    obtain ⟨next, emitted, allowed, moved, remaining⟩ := Machine.run_cons executed
    have grows := (Machine.prefix_of_run remaining).sublist.count_le .updating
    rw [List.count_append] at grows
    by_cases begun : .updating ∈ emitted
    · have one := List.count_pos_iff.mpr begun
      omega
    · have awake : next.camera.point ≠ .exited := fun stopped => running (exited_run remaining stopped)
      have closer := due_step (signals reached) requested awake moved begun
      have later := ih (reached.step allowed moved) (requested.append begun) remaining
      rw [List.countP_cons] at enough
      rw [List.count_append] at later
      have more := later (by omega)
      omega

/-- No request is lost: after a raise and until the next update of `frame_copy`
begins, the signal is up or the camera thread holds the request between its check and
its assignment, and the update begins within seven more statements of its loop. -/
theorem no_lost_request {trace : List Mark} {state : State n}
    (reached : (machine n).Reaches Guard.free trace state) (running : state.camera.point ≠ .exited)
    (requested : Requested trace) :
    Pending state ∧
      ∀ events last final, (machine n).run Guard.free trace state events = some (last, final) →
        final.camera.point ≠ .exited → 7 ≤ events.countP ofCamera →
        trace.count .updating < last.count .updating := by
  refine ⟨(signals reached).pending requested running, ?_⟩
  intro events last final executed awake enough
  exact served reached requested executed awake (Nat.le_trans (due_le state.camera) enough)

theorem raise_during_update_kept :
    ∃ (trace : List Mark) (state : State 3), (machine 3).Reaches Guard.free trace state ∧
      state.camera.point = .setCopy 0 ∧ Requested trace ∧ Pending state := by
  obtain ⟨trace, state, reached, found⟩ := Machine.reaches_of_run (machine 3) Guard.free
    [.main, .accepted, .readCopy, .readSize, .network, .sent 5, .network, .network,
      .camera, .dequeued 0, .camera, .network]
    (fun trace state => trace == [.raised, .raised] && state.camera.point == .setCopy 0) (by decide)
  simp only [Bool.and_eq_true, beq_iff_eq] at found
  have requested : Requested trace := ⟨[.raised], [], found.1, by simp⟩
  exact ⟨trace, state, reached, found.2, requested,
    (no_lost_request reached (by simp [found.2]) requested).1⟩

end Dionysus.Proofs.EyeSignal
