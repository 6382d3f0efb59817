import Dionysus.Positions
import Dionysus.Proofs.ClapCount

/-! The clap byte of two rounds compared. The count of a round needs thirteen bits and
the packet has eight, so the byte starts again at zero behind every 256 claps. -/

namespace Dionysus.Proofs.ClapByte
open BigEndian ClapCount Microphone Thingy

/-- A round of `main`: the record is reset, and a transfer with its block parameters
runs to its end. -/
structure Round where
  driver : Driver
  data : Values
  reset : data.clap = 0
  delivers : Delivers driver Microphone.blockCount
  sized : ∀ i, i < Microphone.blockCount → (driver.read i).2.size ≤ blockSize maxSampleRate 1

def Round.recording (round : Round) : List Int16 := samples round.driver Microphone.blockCount

def Round.transferred (round : Round) : Values := (doPdmTransfer round.driver Microphone.blockCount round.data).data

/-- The upper byte of the minor in the packet that `advertise_thingy` sends. -/
def Round.clapByte (round : Round) : UInt8 := (manufacturerStructure round.transferred).data.getD minorOffset 0

def loudPositions (round : Round) : Finset Nat := positions (fun sample => Clap sample) round.recording

/-- Every position that is loud in the first recording is loud in the second. -/
def Louder (first second : Round) : Prop := loudPositions first ⊆ loudPositions second

/-- The number of positions that are loud in the second recording only. -/
def added (first second : Round) : Nat := (loudPositions second \ loudPositions first).card

theorem clapByte_toNat (round : Round) : round.clapByte.toNat = claps round.recording % 256 := by
  have packed : round.clapByte = high (minorPart round.transferred) := rfl
  have few := claps_le_of_main round.driver round.sized
  have bounded : round.data.clap.toNat + claps round.recording < UInt16.size := by
    rw [round.reset]
    show 0 + claps (samples round.driver Microphone.blockCount) < 65536
    omega
  have counted : round.transferred.clap.toNat = claps round.recording := by
    rw [Round.transferred, transfer_data round.delivers]
    apply (addClaps_clap round.data _ bounded).trans
    rw [round.reset]
    exact Nat.zero_add _
  rw [packed, high_toNat, minorPart_toNat, counted]
  omega

theorem claps_eq_add {first second : Round} (louder : Louder first second) :
    claps second.recording = claps first.recording + added first second :=
  countP_eq_add_sdiff louder

/-- The byte of the louder recording is no smaller exactly when the claps it adds do
not carry past a multiple of 256, and claps look like silence exactly when their
number is such a multiple. -/
theorem clap_byte_iff {first second : Round} (louder : Louder first second) :
    (first.clapByte ≤ second.clapByte ↔ claps first.recording % 256 + added first second % 256 < 256) ∧
      ((0 < claps second.recording → second.clapByte ≠ 0) ↔
        claps second.recording = 0 ∨ ¬256 ∣ claps second.recording) := by
  have sum := claps_eq_add louder
  constructor
  · rw [UInt8.le_iff_toNat_le, clapByte_toNat, clapByte_toNat]
    omega
  · rw [ne_eq, ← UInt8.toNat_inj, clapByte_toNat]
    show (_ → ¬_ = 0) ↔ _
    omega

/-- A round whose first block is loud throughout and whose other blocks are empty. -/
def loudFor (count : Nat) (fits : count ≤ 1600) : Round where
  driver :=
    { configure := 0, start := 0, read := fun i => (0, ⟨i, if i = 0 then 2 * count else 0, fun _ => 20000⟩), stop := 0 }
  data := {}
  reset := rfl
  delivers := ⟨Int.le_refl 0, Int.le_refl 0, fun _ _ => Int.le_refl 0⟩
  sized := by
    intro i _
    show (if i = 0 then 2 * count else 0) ≤ 3200
    split <;> omega

theorem recording_loudFor (count : Nat) (fits : count ≤ 1600) :
    (loudFor count fits).recording = List.replicate count 20000 := by
  have blocks : List.range Microphone.blockCount = [0, 1, 2, 3] := rfl
  simp [Round.recording, loudFor, samples, blocks, Block.delivered, Block.sampleCount, bytesPerSample]

theorem claps_loudFor (count : Nat) (fits : count ≤ 1600) : claps (loudFor count fits).recording = count := by
  have loud : decide (Clap 20000) = true := rfl
  rw [recording_loudFor, claps, List.countP_replicate, if_pos loud]

theorem louder_loudFor {count more : Nat} (fits : count ≤ 1600) (fits' : more ≤ 1600) (le : count ≤ more) :
    Louder (loudFor count fits) (loudFor more fits') := by
  intro index member
  rw [loudPositions, mem_positions, recording_loudFor] at member ⊢
  obtain ⟨sample, here, loud⟩ := member
  rw [List.getElem?_replicate] at here
  split at here
  next inside => exact ⟨sample, by rw [List.getElem?_replicate_of_lt (by omega), ← here], loud⟩
  next => cases here

theorem added_loudFor {count more : Nat} (fits : count ≤ 1600) (fits' : more ≤ 1600) (le : count ≤ more) :
    added (loudFor count fits) (loudFor more fits') = more - count := by
  have sum := claps_eq_add (louder_loudFor fits fits' le)
  rw [claps_loudFor, claps_loudFor] at sum
  omega

/-- Three claps and five: the condition holds, and so do both comparisons. -/
theorem clap_byte_iff_five :
    ((loudFor 3 (by decide)).clapByte ≤ (loudFor 5 (by decide)).clapByte ↔
        claps (loudFor 3 (by decide)).recording % 256 +
          added (loudFor 3 (by decide)) (loudFor 5 (by decide)) % 256 < 256) ∧
      ((0 < claps (loudFor 5 (by decide)).recording → (loudFor 5 (by decide)).clapByte ≠ 0) ↔
        claps (loudFor 5 (by decide)).recording = 0 ∨ ¬256 ∣ claps (loudFor 5 (by decide)).recording) ∧
      (loudFor 3 (by decide)).clapByte ≤ (loudFor 5 (by decide)).clapByte ∧ (loudFor 5 (by decide)).clapByte ≠ 0 := by
  have ⟨compares, sounds⟩ := clap_byte_iff (@louder_loudFor 3 5 (by decide) (by decide) (by decide))
  refine ⟨compares, sounds, compares.mpr ?_, sounds.mpr ?_ ?_⟩
  · rw [claps_loudFor, added_loudFor _ _ (by decide)]
    decide
  · rw [claps_loudFor]
    decide
  · rw [claps_loudFor]
    decide

/-- The 256th clap turns the byte 255 into the byte of silence. -/
theorem claps_read_as_silence : ¬∀ first second, Louder first second →
    first.clapByte ≤ second.clapByte ∧ (0 < claps second.recording → second.clapByte ≠ 0) := by
  intro always
  obtain ⟨monotone, -⟩ := always (loudFor 255 (by decide)) (loudFor 256 (by decide)) (louder_loudFor _ _ (by decide))
  rw [UInt8.le_iff_toNat_le, clapByte_toNat, clapByte_toNat, claps_loudFor, claps_loudFor] at monotone
  exact absurd monotone (by decide)

end Dionysus.Proofs.ClapByte
