import Dionysus.BigEndian
import Dionysus.Buffer
import Dionysus.ImageSocket

/-! The conversion of frames for display (`rgb565_to_rgb888` in
`Project/PC/imagesocket.py`). The arrays are functions of their indices, and numbers
stay in the 16 bits of `np.uint16` up to the last step. -/

namespace Dionysus.Rgb565
open ImageSocket

structure Pixel where
  r : UInt8
  g : UInt8
  b : UInt8
deriving DecidableEq, Repr

abbrev Image := Fin height → Fin width → Pixel

theorem byte_inside (index : Fin (height * width)) {half : Nat} (one : half < 2) :
    2 * index.val + half < frameSize := by
  have inside := index.isLt
  simp only [frameSize, width, height] at *
  omega

/-- `np.frombuffer(frame, dtype=np.uint16)` on a little-endian host. -/
def fromBuffer (frame : Buffer frameSize) (index : Fin (height * width)) : UInt16 :=
  BigEndian.word (frame.get ⟨2 * index.val + 1, byte_inside index Nat.one_lt_two⟩)
    (frame.get ⟨2 * index.val, byte_inside index Nat.two_pos⟩)

/-- One element of `byteswap()`. -/
def byteswap (word : UInt16) : UInt16 := BigEndian.word (BigEndian.low word) (BigEndian.high word)

theorem place_inside (y : Fin height) (x : Fin width) : y.val * width + x.val < height * width := by
  have row := y.isLt
  have column := x.isLt
  simp only [width, height] at *
  omega

/-- `reshape((HEIGHT, WIDTH))`. -/
def reshape {α : Type} (data : Fin (height * width) → α) (y : Fin height) (x : Fin width) : α :=
  data ⟨y.val * width + x.val, place_inside y x⟩

/-- A field that is shifted up and then joined with its own top bits. -/
def expand (field up down : UInt16) : UInt16 := (field <<< up) ||| ((field <<< up) >>> down)

def red (data : UInt16) : UInt16 := expand ((data >>> 11) &&& 0x1F) 3 5

def green (data : UInt16) : UInt16 := expand ((data >>> 5) &&& 0x3F) 2 6

def blue (data : UInt16) : UInt16 := expand (data &&& 0x1F) 3 5

/-- The stack of the three channels for one pixel, with the low bytes that
`astype(np.uint8)` keeps. -/
def stack (data : UInt16) : Pixel := ⟨(red data).toUInt8, (green data).toUInt8, (blue data).toUInt8⟩

/-- Nothing where `np.frombuffer` or `reshape` raises an error. -/
def rgb565ToRgb888 (frame : List UInt8) : Option Image :=
  if sized : frame.length = frameSize then
    some fun y x => stack (reshape (fun index => byteswap (fromBuffer ⟨frame, sized⟩ index)) y x)
  else none

end Dionysus.Rgb565
