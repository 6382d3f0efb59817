import Dionysus.EyeSockets
import Dionysus.Recorder
import Dionysus.Proofs.EyeRuns

/-! The network thread has one connection open at a time. It sends on that one only and
closes it before it accepts the next; the listening socket it closes when setting it up
fails, but not when an accept fails later. -/

namespace Dionysus.Proofs.EyeConnections
open Eye EyeRuns Ledger

variable {n : Nat}

def connected : Network n → Bool
  | .accepting | .exited => false
  | _ => true

/-- The accepted connections that are open. -/
def opened (state : State n) : List Descriptor := if connected state.network then [client state] else []

structure Owns (state : State n) (ops : List (Op Descriptor)) : Prop where
  current : connected state.network = true → state.streams ≠ []
  replayed : replay [.server] ops = some (opened state ++ [.server])

theorem Owns.closed {state : State n} {ops : List (Op Descriptor)} (unconnected : connected state.network = false)
    (replayed : replay [.server] ops = some [.server]) : Owns state ops where
  current connected' := by
    rw [unconnected] at connected'
    cases connected'
  replayed := by rw [replayed, opened, unconnected]; rfl

@[simp] theorem length_put (streams : List (List UInt8)) (bytes : List UInt8) :
    (put streams bytes).length = streams.length := by
  cases streams <;> rfl

theorem put_ne_nil {streams : List (List UInt8)} (nonempty : streams ≠ []) (bytes : List UInt8) :
    put streams bytes ≠ [] := by
  rw [ne_eq, ← List.length_eq_zero_iff, length_put, List.length_eq_zero_iff]
  exact nonempty

theorem Owns.keep {before after : State n} {ops : List (Op Descriptor)} (owns : Owns before ops)
    (streams : after.streams = before.streams) (same : connected after.network = connected before.network) :
    Owns after (ops ++ []) where
  current := by
    rw [streams, same]
    exact owns.current
  replayed := by
    rw [List.append_nil, owns.replayed, opened, opened, same, client, client, streams]

theorem Owns.send {before after : State n} {ops : List (Op Descriptor)} (owns : Owns before ops)
    (nonempty : after.streams ≠ []) (length : after.streams.length = before.streams.length)
    (open' : connected before.network = true) (same : connected after.network = true) :
    Owns after (ops ++ [.use (client before)]) where
  current _ := nonempty
  replayed := by
    have here : client after = client before := by rw [client, client, length]
    rw [replay_append, owns.replayed, opened, opened, if_pos open', if_pos same, here]
    simp [replay]

theorem owns {guard : Guard (State n) (Event n) Mark} {trace : List Mark} {record : State n × List (Op Descriptor)}
    (reached : ((machine n).record socketOps).Reaches guard.recorded trace record) : Owns record.1 record.2 := by
  apply reached.record_invariant (.closed rfl rfl)
  intro trace before ops event after emitted _ owns _ moved
  cases step_moves moved with
  | accepted at' =>
    refine ⟨fun _ => List.cons_ne_nil _ _, ?_⟩
    rw [replay_append, owns.replayed, opened, at']
    simp [replay, socketOps, opened, connected, client]
  | acceptFailed at' =>
    apply Owns.closed rfl
    rw [replay_append, owns.replayed, opened, at']
    simp [replay, socketOps, connected]
  | close at' =>
    apply Owns.closed rfl
    rw [replay_append, owns.replayed, opened, at']
    simp [replay, socketOps, connected, at']
  | sentHeader at' _ _ | sentBody at' _ _ _ =>
    have nonempty := owns.current (by rw [at']; rfl)
    exact owns.send (put_ne_nil nonempty _) (length_put _ _) (by rw [at']; rfl) rfl
  | sentNull at' _ | refusedHeader at' _ | refusedBody at' _ _ =>
    exact owns.send (owns.current (by rw [at']; rfl)) rfl (by rw [at']; rfl) rfl
  | call at' | sentAll at' _ | fail at' _ | succeed at' _ | raise at' =>
    have silent : socketOps before .network = [] := by simp [socketOps, at']
    rw [silent]
    exact owns.keep rfl (by rw [at']; rfl)
  | readCopy at' | readSize at' => exact owns.keep rfl (by rw [at']; rfl)
  | _ => exact owns.keep rfl rfl

theorem networkSetup_replay (setup : Setup) :
    replay [] (networkSetup setup).2 = some (if (networkSetup setup).1 then [.server] else []) := by
  unfold networkSetup
  split
  · rfl
  · split
    · rfl
    · split <;> rfl

/-- A setup that fails leaves nothing open. Behind one that succeeds every operation is
on a descriptor that is open at that moment, which are the listening socket and, between
an accept and the close of the same connection, that connection. -/
theorem connections_owned (setup : Setup) {trace : List Mark} {record : State n × List (Op Descriptor)}
    (reached : ((machine n).record socketOps).Reaches (Guard.recorded Guard.free) trace record) :
    ((networkSetup setup).1 = false → Balanced (networkSetup setup).2) ∧
      ((networkSetup setup).1 = true →
        replay [] ((networkSetup setup).2 ++ record.2) = some (opened record.1 ++ [.server])) := by
  have setUp := networkSetup_replay setup
  constructor
  · intro failed
    rwa [failed] at setUp
  · intro listening
    rw [replay_append, setUp, listening]
    exact (owns reached).replayed

/-- The accept behind the first connection fails: the listening socket stays open. -/
theorem connections_owned_accept_failed :
    ∃ (trace : List Mark) (record : State 3 × List (Op Descriptor)),
      ((machine 3).record socketOps).Reaches (Guard.recorded Guard.free) trace record ∧
      record.1.network = .exited ∧ record.1.streams = [readyMessage] ∧
      ((networkSetup ⟨3, 0, 0⟩).1 = false → Balanced (networkSetup ⟨3, 0, 0⟩).2) ∧
      ((networkSetup ⟨3, 0, 0⟩).1 = true →
        replay [] ((networkSetup ⟨3, 0, 0⟩).2 ++ record.2) = some (opened record.1 ++ [.server])) := by
  obtain ⟨trace, record, reached, found⟩ := ((machine 3).record socketOps).reaches_of_run (Guard.recorded Guard.free)
    [.main, .accepted, .readCopy, .fill 0 (fun _ => 0) bufferSize, .camera, .dequeued 0, .camera, .camera, .camera,
      .readSize, .network, .sent 5, .refused (-104), .network, .network, .acceptFailed]
    (fun _ record => record.1.network == .exited && record.1.streams == [readyMessage]) (by decide)
  simp only [Bool.and_eq_true, beq_iff_eq] at found
  exact ⟨trace, record, reached, found.1, found.2, connections_owned ⟨3, 0, 0⟩ reached⟩

end Dionysus.Proofs.EyeConnections
