import Mathlib.Data.Finset.Card
import Mathlib.Data.Fintype.Basic
import Dionysus.Proofs.EyeRuns

/-! Where the buffers of the camera are. The camera thread takes one at a time out of
the driver's queue, so the driver can overwrite every other one at any moment. -/

namespace Dionysus.Proofs.EyePool
open Eye EyeRuns

variable {n : Nat}

/-- The buffer that `vbuf` names between a dequeue and the enqueue behind it. -/
def holds : CameraPoint n → Option (Fin n)
  | .reset vbuf | .setCopy vbuf | .setSize vbuf | .display vbuf | .enqueue vbuf => some vbuf
  | _ => none

structure Pool (state : State n) : Prop where
  running : state.camera.point ≠ .exited → ∀ buffer, (state.pool buffer).queued = false ↔
    holds state.camera.point = some buffer
  single : ∀ first second, (state.pool first).queued = false → (state.pool second).queued = false → first = second

theorem Pool.of_held {state : State n} (held : Option (Fin n))
    (unqueued : ∀ buffer, (state.pool buffer).queued = false ↔ held = some buffer)
    (same : state.camera.point ≠ .exited → holds state.camera.point = held) : Pool state where
  running awake := by
    rw [same awake]
    exact unqueued
  single first second out out' := Option.some.inj (((unqueued first).mp out).symm.trans ((unqueued second).mp out'))

theorem Pool.held {state : State n} (pool : Pool state) {point : CameraPoint n} (at' : state.camera.point = point)
    (awake : point ≠ .exited) (buffer : Fin n) : (state.pool buffer).queued = false ↔ holds point = some buffer := by
  rw [← at']
  exact pool.running (at' ▸ awake) buffer

theorem Pool.keep {before after : State n} (pool : Pool before)
    (queued : ∀ buffer, (after.pool buffer).queued = (before.pool buffer).queued)
    (same : after.camera.point = before.camera.point) : Pool after where
  running := by
    simp only [queued, same]
    exact pool.running
  single := by
    simp only [queued]
    exact pool.single

/-- No buffer is lost while the camera thread runs, and at most one when it has given up. -/
theorem pool {guard : Guard (State n) (Event n) Mark} {trace : List Mark} {state : State n}
    (reached : (machine n).Reaches guard trace state) : Pool state := by
  induction reached with
  | start => exact Pool.of_held none (by simp [machine]) fun _ => rfl
  | @step trace before event after emitted _ _ moved pool =>
    cases step_moves moved with
    | @fill filled bytes bytesused queued =>
      refine pool.keep ?_ rfl
      intro buffer
      by_cases same : buffer = filled
      · subst same
        simp [queued]
      · simp [setBuffer_other before.pool _ same]
    | @dequeued taken at' queued =>
      have none' := pool.held at' (by simp)
      refine Pool.of_held (some taken) ?_ fun _ => ?_
      · intro buffer
        by_cases same : buffer = taken
        · subst same
          simp
        · simp [setBuffer_other before.pool _ same, none', holds, Ne.symm same]
      · dsimp only
        split <;> rfl
    | @enqueue vbuf at' =>
      have one := pool.held at' (by simp)
      refine Pool.of_held none ?_ fun _ => rfl
      intro buffer
      by_cases same : buffer = vbuf
      · subst same
        simp
      · simp [setBuffer_other before.pool _ same, one, holds, Ne.symm same]
    | check at' => exact Pool.of_held _ (pool.held at' (by simp)) fun _ => rfl
    | reset at' => exact Pool.of_held _ (pool.held at' (by simp)) fun _ => rfl
    | setCopy at' => exact Pool.of_held _ (pool.held at' (by simp)) fun _ => rfl
    | setSize at' => exact Pool.of_held _ (pool.held at' (by simp)) fun _ => rfl
    | display at' => exact Pool.of_held _ (pool.held at' (by simp)) fun _ => rfl
    | dequeueFailed at' => exact Pool.of_held _ (pool.held at' (by simp)) fun awake => absurd rfl awake
    | enqueueFailed at' => exact Pool.of_held _ (pool.held at' (by simp)) fun awake => absurd rfl awake
    | _ => exact pool.keep (fun _ => rfl) rfl

theorem fill_isSome {state : State n} (started : state.mainDone = true) (buffer : Fin n) (bytes : Nat → UInt8)
    (bytesused : Nat) :
    ((machine n).step state (.fill buffer bytes bytesused)).isSome ↔ (state.pool buffer).queued = true := by
  simp only [machine, step, started, ↓reduceIte, fill]
  split <;> simp_all

/-- At most one buffer is out of the driver's queue. While the camera thread runs it is
the one the thread holds, and every other one may be overwritten at the next step. -/
theorem driver_keeps_rest {trace : List Mark} {state : State n} (reached : (machine n).Reaches Guard.free trace state) :
    (Finset.univ.filter fun buffer => (state.pool buffer).queued = false).card ≤ 1 ∧
      (state.mainDone = true → state.camera.point ≠ .exited → ∀ buffer bytes bytesused,
        ((machine n).step state (.fill buffer bytes bytesused)).isSome ↔ holds state.camera.point ≠ some buffer) := by
  have kept := pool reached
  constructor
  · apply Finset.card_le_one.mpr
    intro first member second member'
    exact kept.single first second (Finset.mem_filter.mp member).2 (Finset.mem_filter.mp member').2
  · intro started running buffer bytes bytesused
    rw [fill_isSome started, ne_eq, ← kept.running running, Bool.not_eq_false]

theorem driver_keeps_rest_displaying :
    ∃ (trace : List Mark) (state : State 3), (machine 3).Reaches Guard.free trace state ∧
      state.camera.point = .display 1 ∧
      (Finset.univ.filter fun buffer => (state.pool buffer).queued = false).card ≤ 1 ∧
      (state.mainDone = true → state.camera.point ≠ .exited → ∀ buffer bytes bytesused,
        ((machine 3).step state (.fill buffer bytes bytesused)).isSome ↔ holds state.camera.point ≠ some buffer) := by
  obtain ⟨trace, state, reached, found⟩ := Machine.reaches_of_run (machine 3) Guard.free
    [.main, .camera, .dequeued 1, .camera, .camera, .camera]
    (fun _ state => state.camera.point == .display 1) (by decide)
  exact ⟨trace, state, reached, beq_iff_eq.mp found, driver_keeps_rest reached⟩

end Dionysus.Proofs.EyePool
