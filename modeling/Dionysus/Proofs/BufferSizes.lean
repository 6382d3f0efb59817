import Dionysus.CameraSetup

/-! How the sizes of the video buffers relate to the configured frame. The pitch stays
that of the driver's default format when the width and the height are replaced. -/

namespace Dionysus.Proofs.BufferSizes
open CameraSetup

/-- What two bytes for every pixel take up. -/
def lineSize (fmt : VideoFormat) : Nat := 2 * fmt.width.toNat

/-- The set-up keeps the driver's dimensions where it is to, and its buffers hold one
frame or are made of whole lines. -/
structure HoldsFrames (caps : VideoCaps) (given : VideoFormat) (setup : Setup) : Prop where
  width : given.width ≠ 0 → setup.fmt.width ≠ 0
  height : given.height ≠ 0 → setup.fmt.height ≠ 0
  buffers : ∀ size ∈ setup.buffers, size = setup.bsize
  frame : caps.minLineCount = lineCountHeight → lineSize setup.fmt * setup.fmt.height.toNat ≤ setup.bsize.toNat
  whole : caps.minLineCount ≠ lineCountHeight → lineSize setup.fmt ∣ setup.bsize.toNat

/-- The pitch of the driver's default format has room for a configured line, as far as
32 bits hold the product of the pitch and the height. -/
def FullHeight (config : Config) (given : VideoFormat) : Prop :=
  if given.pitch.toNat * config.frameHeight.toNat < UInt32.size then
    config.frameHeight = 0 ∨ 2 * config.frameWidth.toNat ≤ given.pitch.toNat
  else 2 * config.frameWidth.toNat * config.frameHeight.toNat ≤
    given.pitch.toNat * config.frameHeight.toNat % UInt32.size

/-- The line count makes up for what of a configured line is not in the pitch, as far
as 32 bits hold the product of the two. -/
def WholeLines (config : Config) (caps : VideoCaps) (given : VideoFormat) : Prop :=
  if given.pitch.toNat * (lines caps).toNat < UInt32.size then
    given.pitch = 0 ∨
      2 * config.frameWidth.toNat / Nat.gcd (2 * config.frameWidth.toNat) given.pitch.toNat ∣ (lines caps).toNat
  else 2 * config.frameWidth.toNat ∣ given.pitch.toNat * (lines caps).toNat % UInt32.size

/-- When the configuration suits the driver. -/
structure Suits (config : Config) (caps : VideoCaps) (given : VideoFormat) : Prop where
  width : config.frameWidth = 0 → given.width = 0
  height : config.frameHeight = 0 → given.height = 0
  frame : caps.minLineCount = lineCountHeight → FullHeight config given
  whole : caps.minLineCount ≠ lineCountHeight → WholeLines config caps given

variable {config : Config} {driver : Driver} {caps : VideoCaps} {given : VideoFormat} {setup : Setup}

theorem dvd_mul_iff (divisor : Nat) {factor other : Nat} (positive : 0 < factor) :
    divisor ∣ factor * other ↔ divisor / Nat.gcd divisor factor ∣ other := by
  rw [Nat.div_dvd_iff_dvd_mul (Nat.gcd_dvd_left divisor factor) (Nat.gcd_pos_of_pos_right divisor positive)]
  exact Nat.dvd_gcd_mul_iff_dvd_mul.symm

theorem fullHeight_iff : FullHeight config given ↔
    2 * config.frameWidth.toNat * config.frameHeight.toNat ≤ (given.pitch * config.frameHeight).toNat := by
  rw [FullHeight, UInt32.toNat_mul]
  split
  next fits =>
    rw [Nat.mod_eq_of_lt fits, ← UInt32.toNat_inj]
    rcases Nat.eq_zero_or_pos config.frameHeight.toNat with zero | positive
    · simp [zero]
    · rw [Nat.mul_le_mul_right_iff positive]
      exact or_iff_right (Nat.ne_of_gt positive)
  next => rfl

theorem wholeLines_iff : WholeLines config caps given ↔
    2 * config.frameWidth.toNat ∣ (given.pitch * lines caps).toNat := by
  rw [WholeLines, UInt32.toNat_mul]
  split
  next fits =>
    rw [Nat.mod_eq_of_lt fits, ← UInt32.toNat_inj]
    rcases Nat.eq_zero_or_pos given.pitch.toNat with zero | positive
    · simp [zero]
    · rw [dvd_mul_iff _ positive]
      exact or_iff_right (Nat.ne_of_gt positive)
  next => rfl

/-- The buffers hold the configured frame exactly when the configuration suits the
driver. -/
theorem holdsFrames_iff (found : driver.caps = some caps) (format : driver.format = some given)
    (done : setUp config driver = some setup) : HoldsFrames caps given setup ↔ Suits config caps given := by
  obtain ⟨sameCaps, sameFormat, other, default, fmt, bsize, buffers⟩ := setUp_eq done
  cases found.symm.trans other
  cases format.symm.trans default
  have width : setup.fmt.width = config.frameWidth := by rw [fmt, chooseFormat]
  have height : setup.fmt.height = config.frameHeight := by rw [fmt, chooseFormat]
  have pitch : setup.fmt.pitch = given.pitch := by rw [fmt, chooseFormat]
  have frame : caps.minLineCount = lineCountHeight → (lineSize setup.fmt * setup.fmt.height.toNat ≤ setup.bsize.toNat ↔
      FullHeight config given) := by
    intro full
    rw [bsize, bufferSize, if_pos full, lineSize, width, height, pitch, fullHeight_iff]
  have whole : caps.minLineCount ≠ lineCountHeight → (lineSize setup.fmt ∣ setup.bsize.toNat ↔
      WholeLines config caps given) := by
    intro some'
    rw [bsize, bufferSize, if_neg some', lineSize, width, pitch, wholeLines_iff]
  constructor
  · intro holds
    refine ⟨?_, ?_, ?_, ?_⟩
    · intro zero
      exact Decidable.byContradiction fun nonzero => holds.width nonzero (width.trans zero)
    · intro zero
      exact Decidable.byContradiction fun nonzero => holds.height nonzero (height.trans zero)
    · intro full
      exact (frame full).mp (holds.frame full)
    · intro some'
      exact (whole some').mp (holds.whole some')
  · intro suits
    refine ⟨?_, ?_, ?_, ?_, ?_⟩
    · intro nonzero zero
      exact nonzero (suits.width (width.symm.trans zero))
    · intro nonzero zero
      exact nonzero (suits.height (height.symm.trans zero))
    · intro size member
      rw [buffers] at member
      exact mem_allocate member
    · intro full
      exact (frame full).mpr (suits.frame full)
    · intro some'
      exact (whole some').mpr (suits.whole some')

/-- A camera that works and asks for whole frames. -/
def camera (given : VideoFormat) : Driver where
  videoReady := true
  caps := some ⟨lineCountHeight⟩
  format := some given
  acceptsFormat := fun _ => true
  displayReady := true
  setPixelFormat := 0
  blankingOff := -enosys
  allocates := fun _ => true

/-- The configuration of the board, with a default format of the same size. -/
theorem holdsFrames_shipped :
    HoldsFrames ⟨lineCountHeight⟩ ⟨0, 240, 240, 480⟩ ⟨⟨1, 240, 240, 480⟩, 115200, [115200, 115200, 115200]⟩ ↔
      Suits ⟨240, 240, some 1, 3⟩ ⟨lineCountHeight⟩ ⟨0, 240, 240, 480⟩ := by
  have done : setUp ⟨240, 240, some 1, 3⟩ (camera ⟨0, 240, 240, 480⟩) =
      some ⟨⟨1, 240, 240, 480⟩, 115200, [115200, 115200, 115200]⟩ := by decide
  exact holdsFrames_iff rfl rfl done

/-- With nothing configured the frame has no size and the buffers are empty. -/
theorem default_size_overwritten : ¬∀ config driver caps given setup, driver.caps = some caps →
    driver.format = some given → setUp config driver = some setup → HoldsFrames caps given setup := by
  intro always
  have done : setUp ⟨0, 0, none, 1⟩ (camera ⟨0, 320, 240, 640⟩) = some ⟨⟨0, 0, 0, 640⟩, 0, [0]⟩ := by decide
  have holds := always _ _ ⟨lineCountHeight⟩ ⟨0, 320, 240, 640⟩ _ rfl rfl done
  exact holds.width (by decide) rfl

end Dionysus.Proofs.BufferSizes
