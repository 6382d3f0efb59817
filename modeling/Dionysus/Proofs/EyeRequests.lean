import Dionysus.Budget
import Dionysus.Proofs.EyeRuns

/-! Every update of `frame_copy` was asked for. The signal is one bit, so raises that
come before the camera thread looks again are served together, but no raise is served
twice. -/

namespace Dionysus.Proofs.EyeRequests
open Eye EyeRuns

variable {n : Nat}

def settingCopy : CameraPoint n → Bool
  | .setCopy _ => true
  | _ => false

/-- The updates that are asked for and have not begun: one for a signal that is up, one
for the thread between its reset of the signal and its assignment. -/
def owed (state : State n) : Nat := state.txSignal.signaled.toNat + (settingCopy state.camera.point).toNat

/-- A thread that has seen the signal up, and not reset it yet, finds it up. -/
structure Observed (state : State n) : Prop where
  checked : state.camera.point = .dequeue → state.camera.signaled = true → state.txSignal.signaled = true
  resetting : ∀ vbuf, state.camera.point = .reset vbuf → state.txSignal.signaled = true

theorem observed {guard : Guard (State n) (Event n) Mark} {trace : List Mark} {state : State n}
    (reached : (machine n).Reaches guard trace state) : Observed state := by
  induction reached with
  | start => exact ⟨nofun, nofun⟩
  | step _ _ moved held =>
    cases step_moves moved with
    | main _ | raise _ => exact ⟨fun _ _ => rfl, fun _ _ => rfl⟩
    | check at' => exact ⟨fun _ seen => seen, nofun⟩
    | dequeued at' queued =>
      dsimp only
      split
      next seen =>
        have up := held.checked at' (Bool.and_eq_true _ _ ▸ seen).1
        exact ⟨fun _ _ => up, fun _ _ => up⟩
      next => exact ⟨nofun, nofun⟩
    | dequeueFailed _ | reset _ | setCopy _ | setSize _ | display _ | enqueue _ | enqueueFailed _ =>
      exact ⟨nofun, nofun⟩
    | _ => exact ⟨held.checked, held.resetting⟩

def raises (mark : Mark) : Nat := if mark = .raised then 1 else 0

def updates (mark : Mark) : Nat := if mark = .updating then 1 else 0

theorem owed_step {before after : State n} {event : Event n} {emitted : List Mark} (held : Observed before)
    (moved : (machine n).step before event = some (after, emitted)) :
    owed after + total updates emitted ≤ owed before + total raises emitted := by
  cases step_moves moved with
  | main _ | raise _ =>
    simp only [owed, kPollSignalRaise, Bool.toNat_true, total_cons, total_nil, updates, raises, reduceCtorEq,
      ↓reduceIte]
    omega
  | reset at' =>
    have up := held.resetting _ at'
    simp [owed, kPollSignalReset, at', settingCopy, up]
  | setCopy at' => simp [owed, at', settingCopy, updates, raises]
  | dequeued at' queued =>
    simp only [owed, at', total_nil, Nat.add_zero]
    split <;> exact Nat.le_refl _
  | check at' | dequeueFailed at' | setSize at' | display at' | enqueue at' | enqueueFailed at' =>
    simp [owed, at', settingCopy]
  | _ => exact Nat.le_refl _

/-- In every run the updates of `frame_copy`, with those still owed, are at most the
raises of the signal. -/
theorem updates_le_raises {trace : List Mark} {state : State n} (reached : (machine n).Reaches Guard.free trace state) :
    trace.count .updating + owed state ≤ trace.count .raised := by
  have paid := reached.budget updates raises owed fun _ _ _ _ _ earlier _ moved => owed_step (observed earlier) moved
  have none' : owed (machine n).initial = 0 := rfl
  have counts : ∀ mark : Mark, total (fun other => if other = mark then 1 else 0) trace = trace.count mark := by
    intro mark
    rw [List.count, ← total_eq_countP]
    simp
  have spent : total updates trace = trace.count .updating := counts .updating
  have earned : total raises trace = trace.count .raised := counts .raised
  omega

/-- Two raises before the camera thread looks are served by one update. -/
theorem two_raises_one_update :
    ∃ (trace : List Mark) (state : State 3), (machine 3).Reaches Guard.free trace state ∧
      trace = [.raised, .raised, .updating] ∧ trace.count .updating + owed state ≤ trace.count .raised := by
  obtain ⟨trace, state, reached, found⟩ := Machine.reaches_of_run (machine 3) Guard.free
    [.main, .accepted, .readCopy, .readSize, .network, .sent 5, .network, .network, .network,
      .camera, .dequeued 0, .camera, .camera]
    (fun trace _ => trace == [.raised, .raised, .updating]) (by decide)
  exact ⟨trace, state, reached, beq_iff_eq.mp found, updates_le_raises reached⟩

end Dionysus.Proofs.EyeRequests
