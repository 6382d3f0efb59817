/-! The set-up in `camera_thread` of the ESP32-S3-EYE (`Project/ESP32_EYE/src/main.c`),
from the capabilities and the default format of the driver to the video buffers. What
it prints and the frame intervals it lists are left out. -/

namespace Dionysus.CameraSetup

def lineCountHeight : Int16 := -1

def enosys : Int := 88

structure VideoFormat where
  pixelformat : UInt32
  width : UInt32
  height : UInt32
  pitch : UInt32
deriving DecidableEq, Repr

structure VideoCaps where
  minLineCount : Int16
deriving DecidableEq, Repr

/-- `CONFIG_VIDEO_*`. The pixel format is the code of the four characters, if there
are any. -/
structure Config where
  frameWidth : UInt32
  frameHeight : UInt32
  pixelFormat : Option UInt32
  bufferPoolNumMax : Nat
deriving DecidableEq, Repr

/-- What the calls of the set-up return. `acceptsFormat` tells for which formats
`video_set_format` returns 0, and such a call leaves the format as it is. -/
structure Driver where
  videoReady : Bool
  caps : Option VideoCaps
  format : Option VideoFormat
  acceptsFormat : VideoFormat → Bool
  displayReady : Bool
  setPixelFormat : Int
  blankingOff : Int
  allocates : Nat → Bool

/-- `bsize` has the 32 bits of `size_t`. The buffers are given by their sizes. -/
structure Setup where
  fmt : VideoFormat
  bsize : UInt32
  buffers : List UInt32
deriving DecidableEq, Repr

/-- The format that is passed to `video_set_format`. -/
def chooseFormat (config : Config) (fmt : VideoFormat) : VideoFormat :=
  { fmt with
    height := config.frameHeight
    width := config.frameWidth
    pixelformat := config.pixelFormat.getD fmt.pixelformat }

def displaySetup (driver : Driver) : Int :=
  if driver.setPixelFormat ≠ 0 then driver.setPixelFormat
  else if driver.blankingOff = -enosys then 0
  else driver.blankingOff

def lines (caps : VideoCaps) : UInt32 := caps.minLineCount.toInt32.toUInt32

def bufferSize (caps : VideoCaps) (fmt : VideoFormat) : UInt32 :=
  if caps.minLineCount = lineCountHeight then fmt.pitch * fmt.height else fmt.pitch * lines caps

/-- The loop from its `i`-th iteration on, up to an allocation that fails. -/
def allocate (driver : Driver) (bsize : UInt32) : Nat → Nat → List UInt32
  | 0, _ => []
  | count + 1, i => if driver.allocates i then bsize :: allocate driver bsize count (i + 1) else []

/-- Nothing where `camera_thread` returns before it allocates. -/
def setUp (config : Config) (driver : Driver) : Option Setup :=
  if driver.videoReady then
    driver.caps.bind fun caps => driver.format.bind fun given =>
      let fmt := chooseFormat config given
      if driver.acceptsFormat fmt ∧ driver.displayReady ∧ displaySetup driver = 0 then
        some ⟨fmt, bufferSize caps fmt, allocate driver (bufferSize caps fmt) config.bufferPoolNumMax 0⟩
      else none
  else none

theorem setUp_eq {config : Config} {driver : Driver} {setup : Setup} (done : setUp config driver = some setup) :
    ∃ caps given, driver.caps = some caps ∧ driver.format = some given ∧
      setup.fmt = chooseFormat config given ∧ setup.bsize = bufferSize caps setup.fmt ∧
      setup.buffers = allocate driver setup.bsize config.bufferPoolNumMax 0 := by
  unfold setUp at done
  split at done
  next =>
    obtain ⟨caps, found, rest⟩ := Option.bind_eq_some_iff.mp done
    obtain ⟨given, format, last⟩ := Option.bind_eq_some_iff.mp rest
    dsimp only at last
    split at last
    next =>
      cases last
      exact ⟨caps, given, found, format, rfl, rfl, rfl⟩
    next => cases last
  next => cases done

/-- Every buffer has the size that was worked out once. -/
theorem mem_allocate {driver : Driver} {bsize size : UInt32} {count i : Nat}
    (member : size ∈ allocate driver bsize count i) : size = bsize := by
  induction count generalizing i with
  | zero => cases member
  | succ count ih =>
    rw [allocate] at member
    split at member
    next =>
      rcases List.mem_cons.mp member with same | later
      · exact same
      · exact ih later
    next => cases member

end Dionysus.CameraSetup
