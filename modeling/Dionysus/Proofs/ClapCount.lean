import Dionysus.Microphone

/-! What a PDM transfer writes to the record. The two nested loops are one fold over
all samples, so only their sequence matters and not where blocks begin. -/

namespace Dionysus.Proofs.ClapCount
open Microphone Thingy

/-- No call of the driver fails before the stream is stopped. -/
structure Delivers (driver : Driver) (blockCount : Nat) : Prop where
  configured : 0 ≤ driver.configure
  started : 0 ≤ driver.start
  reads : ∀ i, i < blockCount → 0 ≤ (driver.read i).1

/-- The samples of the first blocks, one after another. -/
def samples (driver : Driver) (blockCount : Nat) : List Int16 :=
  (List.range blockCount).flatMap fun i => (driver.read i).2.delivered

/-- Absolute value above 10000. -/
def Clap (sample : Int16) : Prop := sample.toInt < -10000 ∨ 10000 < sample.toInt

instance (sample : Int16) : Decidable (Clap sample) := inferInstanceAs (Decidable (_ ∨ _))

def claps (samples : List Int16) : Nat := samples.countP fun sample => Clap sample

/-- The record with so many claps added, in sixteen bits. -/
def addClaps (data : Values) (count : Nat) : Values :=
  { data with clap := data.clap + UInt16.ofNat count, newclap := if count = 0 then data.newclap else 1 }

theorem loud_iff (sample : Int16) : loud sample = true ↔ Clap sample := by
  rw [loud, decide_eq_true_iff, Clap]
  omega

example : loud (-32768) = true := by decide

theorem addClaps_zero (data : Values) : addClaps data 0 = data := by
  simp [addClaps]

theorem addClaps_succ (data : Values) (count : Nat) :
    addClaps { data with clap := data.clap + 1, newclap := 1 } count = addClaps data (count + 1) := by
  have sum : data.clap + 1 + UInt16.ofNat count = data.clap + UInt16.ofNat (count + 1) := by
    rw [UInt16.add_assoc, Nat.add_comm count 1, UInt16.ofNat_add]
    rfl
  simp [addClaps, sum]

theorem claps_cons (sample : Int16) (rest : List Int16) :
    claps (sample :: rest) = if loud sample then claps rest + 1 else claps rest := by
  simp only [claps, List.countP_cons, loud_iff, decide_eq_true_eq]
  split <;> rfl

theorem foldl_detectClap (samples : List Int16) (data : Values) :
    samples.foldl detectClap data = addClaps data (claps samples) := by
  induction samples generalizing data with
  | nil => exact (addClaps_zero data).symm
  | cons sample rest ih =>
    rw [List.foldl_cons, ih, detectClap, claps_cons]
    split
    next clap => exact addClaps_succ data (claps rest)
    next quiet => rfl

theorem readBlocks_data (driver : Driver) (remaining i : Nat) (data : Values)
    (reads : ∀ k, k < remaining → 0 ≤ (driver.read (i + k)).1) :
    (readBlocks driver remaining i data).data =
      ((List.range' i remaining).flatMap fun k => (driver.read k).2.delivered).foldl detectClap data := by
  induction remaining generalizing i data with
  | zero => rfl
  | succ remaining ih =>
    have first : ¬(driver.read i).1 < 0 := Int.not_lt.mpr (reads 0 (Nat.succ_pos remaining))
    rw [readBlocks, if_neg first, List.range'_succ, List.flatMap_cons, List.foldl_append]
    apply ih
    intro k below
    rw [Nat.succ_add_eq_add_succ]
    exact reads (k + 1) (Nat.succ_lt_succ below)

theorem transfer_data {driver : Driver} {blockCount : Nat} (delivers : Delivers driver blockCount) (data : Values) :
    (doPdmTransfer driver blockCount data).data = addClaps data (claps (samples driver blockCount)) := by
  have reads : ∀ k, k < blockCount → 0 ≤ (driver.read (0 + k)).1 := by simpa using delivers.reads
  rw [doPdmTransfer, if_neg (Int.not_lt.mpr delivers.configured), if_neg (Int.not_lt.mpr delivers.started)]
  rw [readBlocks_data driver blockCount 0 data reads, foldl_detectClap, samples, List.range_eq_range']

theorem length_delivered (block : Block) : block.delivered.length = block.size / bytesPerSample := by
  simp [Block.delivered, Block.sampleCount]

theorem samples_succ (driver : Driver) (blockCount : Nat) :
    samples driver (blockCount + 1) = samples driver blockCount ++ (driver.read blockCount).2.delivered := by
  simp [samples, List.range_succ]

theorem claps_le (driver : Driver) (blockCount size : Nat)
    (sized : ∀ i, i < blockCount → (driver.read i).2.size ≤ size) :
    claps (samples driver blockCount) ≤ blockCount * (size / bytesPerSample) := by
  induction blockCount with
  | zero => exact Nat.zero_le _
  | succ blockCount ih =>
    have earlier := ih fun i below => sized i (Nat.lt_succ_of_lt below)
    have last : claps (driver.read blockCount).2.delivered ≤ size / bytesPerSample := calc
      claps (driver.read blockCount).2.delivered ≤ (driver.read blockCount).2.delivered.length :=
        List.countP_le_length
      _ = (driver.read blockCount).2.size / bytesPerSample := length_delivered _
      _ ≤ size / bytesPerSample := Nat.div_le_div_right (sized blockCount (Nat.lt_succ_self _))
    rw [samples_succ, claps, List.countP_append, Nat.succ_mul]
    exact Nat.add_le_add earlier last

theorem claps_le_of_main (driver : Driver)
    (sized : ∀ i, i < Microphone.blockCount → (driver.read i).2.size ≤ blockSize maxSampleRate 1) :
    claps (samples driver Microphone.blockCount) ≤ 6400 :=
  claps_le driver Microphone.blockCount (blockSize maxSampleRate 1) sized

theorem addClaps_clap (data : Values) (count : Nat) (bounded : data.clap.toNat + count < UInt16.size) :
    (addClaps data count).clap.toNat = data.clap.toNat + count := by
  have small : count < UInt16.size := Nat.lt_of_le_of_lt (Nat.le_add_left _ _) bounded
  rw [addClaps, UInt16.toNat_add, UInt16.toNat_ofNat_of_lt' small]
  exact Nat.mod_eq_of_lt bounded

theorem addClaps_newclap (data : Values) (count : Nat) (zeroed : data.newclap = 0) :
    (addClaps data count).newclap = 1 ↔ 0 < count := by
  cases count with
  | zero => simp [addClaps, zeroed]
  | succ count => simp [addClaps]

/-- Everything a transfer that is not disturbed does to the record: the counter
moves in 16-bit arithmetic, which is exact as long as the sum fits and always in `main`. -/
structure CountsClaps (driver : Driver) (blockCount : Nat) (data : Values) : Prop where
  record : (doPdmTransfer driver blockCount data).data = addClaps data (claps (samples driver blockCount))
  exact : data.clap.toNat + claps (samples driver blockCount) < UInt16.size →
    (doPdmTransfer driver blockCount data).data.clap.toNat = data.clap.toNat + claps (samples driver blockCount)
  flag : data.newclap = 0 →
    ((doPdmTransfer driver blockCount data).data.newclap = 1 ↔ 0 < claps (samples driver blockCount))
  cut : ∀ other otherCount, Delivers other otherCount → samples other otherCount = samples driver blockCount →
    (doPdmTransfer other otherCount data).data = (doPdmTransfer driver blockCount data).data
  fits : blockCount = Microphone.blockCount →
    (∀ i, i < blockCount → (driver.read i).2.size ≤ blockSize maxSampleRate 1) → data.clap = 0 →
    (doPdmTransfer driver blockCount data).data.clap.toNat = claps (samples driver blockCount)

theorem transfer_counts_claps {driver : Driver} {blockCount : Nat} (delivers : Delivers driver blockCount)
    (data : Values) : CountsClaps driver blockCount data where
  record := transfer_data delivers data
  exact bounded := by
    rw [transfer_data delivers]
    exact addClaps_clap data _ bounded
  flag zeroed := by
    rw [transfer_data delivers]
    exact addClaps_newclap data _ zeroed
  cut other otherCount otherDelivers same := by
    rw [transfer_data otherDelivers, transfer_data delivers, same]
  fits main sized zeroed := by
    subst main
    have few := claps_le_of_main driver sized
    have bounded : data.clap.toNat + claps (samples driver Microphone.blockCount) < UInt16.size := by
      rw [zeroed]
      show 0 + claps (samples driver Microphone.blockCount) < 65536
      omega
    rw [transfer_data delivers, addClaps_clap data _ bounded, zeroed]
    exact Nat.zero_add _

/-- One block with the samples -32768 and 3. -/
def loudest : Driver where
  configure := 0
  start := 0
  read _ := (0, ⟨0, 4, fun i => if i = 0 then -32768 else 3⟩)
  stop := 0

theorem transfer_counts_claps_loudest :
    CountsClaps loudest 1 {} ∧ claps (samples loudest 1) = 1 :=
  ⟨transfer_counts_claps ⟨by decide, by decide, fun _ _ => Int.le_refl 0⟩ {}, by decide⟩

end Dionysus.Proofs.ClapCount
