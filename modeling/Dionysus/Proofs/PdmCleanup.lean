import Dionysus.Microphone

/-! What a PDM transfer leaves behind. Every buffer is freed in the iteration it was
handed over in; the stream is only stopped behind the loop, which a failed read
leaves early. -/

namespace Dionysus.Proofs.PdmCleanup
open Ledger Microphone Thingy

def bufferOp : Action → Option (Op Nat)
  | .buffer op => some op
  | _ => none

/-- The transfer freed every buffer it was handed, once, after its last use, and no
other one, and it stopped what it started. -/
structure CleansUp (driver : Driver) (transfer : Transfer) : Prop where
  buffers : Balanced (transfer.actions.filterMap bufferOp)
  stopped : .start ∈ transfer.actions → 0 ≤ driver.start → .stop ∈ transfer.actions

theorem handleBlock_ops (block : Block) : (handleBlock block).filterMap bufferOp =
    .acquire block.buffer :: List.replicate block.sampleCount (.use block.buffer) ++ [.release block.buffer] := by
  have uses : (List.replicate block.sampleCount (.buffer (.use block.buffer))).filterMap bufferOp =
      List.replicate block.sampleCount (.use block.buffer) := List.filterMap_replicate_of_some rfl
  rw [handleBlock, List.cons_append, List.filterMap_cons, List.filterMap_append, uses]
  rfl

theorem handleBlock_balanced (block : Block) : Balanced ((handleBlock block).filterMap bufferOp) := by
  rw [handleBlock_ops]
  exact balanced_once block.buffer block.sampleCount

theorem stop_notMem_handleBlock (block : Block) : .stop ∉ handleBlock block := by
  simp [handleBlock]

/-- Buffers are freed however the loop ends. -/
theorem readBlocks_balanced (driver : Driver) (remaining i : Nat) (data : Values) :
    Balanced ((readBlocks driver remaining i data).actions.filterMap bufferOp) := by
  induction remaining generalizing i data with
  | zero => exact balanced_nil
  | succ remaining ih =>
    rw [readBlocks]
    split
    · simp
    · rw [List.filterMap_append]
      exact (balanced_append (handleBlock_balanced _)).mpr (ih _ _)

/-- The stream is stopped exactly when no read fails. -/
theorem readBlocks_stops (driver : Driver) (remaining i : Nat) (data : Values) :
    .stop ∈ (readBlocks driver remaining i data).actions ↔ ∀ k, k < remaining → 0 ≤ (driver.read (i + k)).1 := by
  induction remaining generalizing i data with
  | zero => simp [readBlocks]
  | succ remaining ih =>
    rw [readBlocks]
    split
    next failed =>
      apply iff_of_false List.not_mem_nil
      intro fine
      exact absurd (fine 0 (Nat.succ_pos remaining)) (Int.not_le.mpr failed)
    next read =>
      rw [List.mem_append, or_iff_right (stop_notMem_handleBlock _), ih]
      constructor
      · intro fine k below
        cases k with
        | zero => exact Int.not_lt.mp read
        | succ k =>
          rw [← Nat.succ_add_eq_add_succ]
          exact fine k (Nat.lt_of_succ_lt_succ below)
      · intro fine k below
        rw [Nat.succ_add_eq_add_succ]
        exact fine (k + 1) (Nat.succ_lt_succ below)

/-- A transfer cleans up exactly when it never streams or no read fails. -/
theorem transfer_cleans_up_iff (driver : Driver) (blockCount : Nat) (data : Values) :
    CleansUp driver (doPdmTransfer driver blockCount data) ↔
      driver.configure < 0 ∨ driver.start < 0 ∨ ∀ i, i < blockCount → 0 ≤ (driver.read i).1 := by
  have balanced := readBlocks_balanced driver blockCount 0 data
  have stops := readBlocks_stops driver blockCount 0 data
  simp only [Nat.zero_add] at stops
  unfold doPdmTransfer
  split
  next refused => exact iff_of_true ⟨balanced_nil, by simp⟩ (Or.inl refused)
  next configured =>
    split
    next refused => exact iff_of_true ⟨balanced_nil, fun _ started => by omega⟩ (Or.inr (Or.inl refused))
    next started =>
      simp only [configured, started, false_or]
      rw [← stops]
      constructor
      · intro clean
        simpa using clean.stopped (by simp) (by omega)
      · intro stopped
        exact ⟨balanced, fun _ _ => by simp [stopped]⟩

/-- A driver whose first read runs into its timeout. -/
def silent : Driver where
  configure := 0
  start := 0
  read _ := (-11, ⟨0, 0, fun _ => 0⟩)
  stop := 0

theorem read_failure_leaves_stream :
    ¬∀ driver blockCount data, CleansUp driver (doPdmTransfer driver blockCount data) := by
  intro always
  have stopped := (always silent 4 {}).stopped
  revert stopped
  decide

end Dionysus.Proofs.PdmCleanup
