import Mathlib.Data.List.FinRange
import Dionysus.BitField
import Dionysus.Proofs.ImageStream
import Dionysus.Rgb565

/-! The colours of a converted frame. Every pixel comes from its own two bytes, the
16 bits of the arrays are enough for every step, and the frame can be read back. -/

namespace Dionysus.Proofs.FrameColours
open ImageSocket Rgb565 BitField

theorem byte_lt {rows columns y x half : Nat} (row : y < rows) (column : x < columns) (one : half < 2) :
    2 * (y * columns + x) + half < rows * columns * 2 := by
  have inside : y * columns + x < rows * columns :=
    calc y * columns + x < y * columns + columns := Nat.add_lt_add_left column _
      _ = (y + 1) * columns := (Nat.succ_mul _ _).symm
      _ ≤ rows * columns := Nat.mul_le_mul_right _ row
  omega

/-- The big-endian word at the offset of a pixel. -/
def pixelWord (frame : Buffer frameSize) (y : Fin height) (x : Fin width) : UInt16 :=
  BigEndian.word (frame.get ⟨2 * (y.val * width + x.val), byte_lt y.isLt x.isLt Nat.two_pos⟩)
    (frame.get ⟨2 * (y.val * width + x.val) + 1, byte_lt y.isLt x.isLt Nat.one_lt_two⟩)

/-- The channels are the fields of the word, widened by their own top bits. -/
structure Widened (word : UInt16) (pixel : Pixel) : Prop where
  r : pixel.r.toNat = widen 5 3 (word.toNat >>> 11)
  g : pixel.g.toNat = widen 6 2 ((word.toNat >>> 5) % 64)
  b : pixel.b.toNat = widen 5 3 (word.toNat % 32)

/-- Widening goes from the whole range of the field to the whole range of a byte and
keeps the order. -/
structure Spreads (bits more : Nat) : Prop where
  zero : widen bits more 0 = 0
  max : widen bits more (1 <<< bits - 1) = 255
  increasing : ∀ less field, less < field → field < 1 <<< bits → widen bits more less < widen bits more field

/-- No bit of a field is shifted out, the two copies do not overlap and `astype` cuts
nothing off. -/
structure Exact (field up down : UInt16) : Prop where
  shifted : (field <<< up).toNat = field.toNat <<< up.toNat
  disjoint : (field <<< up) &&& ((field <<< up) >>> down) = 0
  kept : (expand field up down).toUInt8.toNat = (expand field up down).toNat

/-- The word of the top 5, 6 and 5 bits of the channels. -/
def pack (pixel : Pixel) : UInt16 :=
  UInt16.ofNat ((pixel.r.toNat >>> 3) <<< 11 ||| (pixel.g.toNat >>> 2) <<< 5 ||| pixel.b.toNat >>> 3)

/-- The words of the pixels, row after row. -/
def repack (image : Image) : List UInt8 :=
  (List.finRange height).flatMap fun y => (List.finRange width).flatMap fun x =>
    [BigEndian.high (pack (image y x)), BigEndian.low (pack (image y x))]

theorem spreads {bits more : Nat} (few : more ≤ bits) (byte : bits + more = 8) : Spreads bits more := by
  refine ⟨widen_zero bits more, ?_, ?_⟩
  · rw [widen_max few, byte]
    rfl
  · intro less field ordered fits
    exact widen_lt_widen ordered fits few

variable {field up down word : UInt16}

theorem expand_exact (few : up.toNat ≤ down.toNat) (byte : down.toNat + up.toNat = 8)
    (fits : field.toNat < 1 <<< down.toNat) :
    Exact field up down ∧ (expand field up down).toUInt8.toNat = widen down.toNat up.toNat field.toNat := by
  have upSmall : up.toNat % 16 = up.toNat := Nat.mod_eq_of_lt (by omega)
  have downSmall : down.toNat % 16 = down.toNat := Nat.mod_eq_of_lt (by omega)
  have inside : field.toNat <<< up.toNat < 256 := by
    rw [Nat.one_shiftLeft] at fits
    calc field.toNat <<< up.toNat = field.toNat * 2 ^ up.toNat := Nat.shiftLeft_eq _ _
      _ < 2 ^ down.toNat * 2 ^ up.toNat := Nat.mul_lt_mul_of_pos_right fits (Nat.two_pow_pos _)
      _ = 256 := by rw [← Nat.pow_add, byte]
  have shifted : (field <<< up).toNat = field.toNat <<< up.toNat := by
    rw [UInt16.toNat_shiftLeft, upSmall]
    exact Nat.mod_eq_of_lt (by omega)
  have again : ((field <<< up) >>> down).toNat = field.toNat >>> (down.toNat - up.toNat) := by
    rw [UInt16.toNat_shiftRight, downSmall, shifted, shiftLeft_shiftRight_of_le _ few]
  have joined : (expand field up down).toNat = widen down.toNat up.toNat field.toNat := by
    rw [expand, UInt16.toNat_or, shifted, again, widen]
  have bounded := widen_lt fits few
  rw [byte] at bounded
  have kept : (expand field up down).toUInt8.toNat = (expand field up down).toNat := by
    rw [UInt16.toNat_toUInt8, joined]
    exact Nat.mod_eq_of_lt bounded
  refine ⟨⟨shifted, ?_, kept⟩, kept.trans joined⟩
  apply UInt16.toNat_inj.mp
  rw [UInt16.toNat_and, shifted, again]
  exact copies_disjoint fits few

theorem red_field (word : UInt16) : ((word >>> 11) &&& 0x1F).toNat = word.toNat >>> 11 := by
  have bounded := word.toNat_lt
  rw [UInt16.toNat_and, UInt16.toNat_shiftRight]
  apply (Nat.and_two_pow_sub_one_eq_mod _ 5).trans
  apply Nat.mod_eq_of_lt
  rw [Nat.shiftRight_eq_div_pow]
  exact Nat.div_lt_of_lt_mul bounded

theorem green_field (word : UInt16) : ((word >>> 5) &&& 0x3F).toNat = (word.toNat >>> 5) % 64 := by
  rw [UInt16.toNat_and, UInt16.toNat_shiftRight]
  exact Nat.and_two_pow_sub_one_eq_mod _ 6

theorem blue_field (word : UInt16) : (word &&& 0x1F).toNat = word.toNat % 32 := by
  rw [UInt16.toNat_and]
  exact Nat.and_two_pow_sub_one_eq_mod _ 5

theorem red_lt (word : UInt16) : ((word >>> 11) &&& 0x1F).toNat < 1 <<< 5 := by
  have bounded := word.toNat_lt
  rw [red_field, Nat.shiftRight_eq_div_pow]
  exact Nat.div_lt_of_lt_mul bounded

theorem green_lt (word : UInt16) : ((word >>> 5) &&& 0x3F).toNat < 1 <<< 6 := by
  rw [green_field]
  exact Nat.mod_lt _ (by decide)

theorem blue_lt (word : UInt16) : (word &&& 0x1F).toNat < 1 <<< 5 := by
  rw [blue_field]
  exact Nat.mod_lt _ (by decide)

theorem red_exact (word : UInt16) : Exact ((word >>> 11) &&& 0x1F) 3 5 ∧
    (red word).toUInt8.toNat = widen 5 3 ((word >>> 11) &&& 0x1F).toNat := by
  apply expand_exact _ rfl (red_lt word)
  exact Nat.le_add_right 3 2

theorem green_exact (word : UInt16) : Exact ((word >>> 5) &&& 0x3F) 2 6 ∧
    (green word).toUInt8.toNat = widen 6 2 ((word >>> 5) &&& 0x3F).toNat := by
  apply expand_exact _ rfl (green_lt word)
  exact Nat.le_add_right 2 4

theorem blue_exact (word : UInt16) : Exact (word &&& 0x1F) 3 5 ∧
    (blue word).toUInt8.toNat = widen 5 3 (word &&& 0x1F).toNat := by
  apply expand_exact _ rfl (blue_lt word)
  exact Nat.le_add_right 3 2

theorem stack_widened (word : UInt16) : Widened word (stack word) := by
  refine ⟨?_, ?_, ?_⟩
  · rw [← red_field]
    exact (red_exact word).2
  · rw [← green_field]
    exact (green_exact word).2
  · rw [← blue_field]
    exact (blue_exact word).2

/-- The fields of a word make up the word. -/
theorem Widened.pack_eq {pixel : Pixel} (widened : Widened word pixel) : pack pixel = word := by
  have r := red_lt word
  have g := green_lt word
  have b := blue_lt word
  rw [red_field] at r
  rw [green_field] at g
  rw [blue_field] at b
  have six : word.toNat >>> 11 = word.toNat >>> 5 >>> 6 := Nat.shiftRight_add word.toNat 5 6
  have five : (word.toNat >>> 11) <<< 11 = (word.toNat >>> 11) <<< 6 <<< 5 := Nat.shiftLeft_add _ 6 5
  have joined : (word.toNat >>> 11) <<< 11 ||| ((word.toNat >>> 5) % 64) <<< 5 ||| word.toNat % 32 = word.toNat := by
    rw [five, ← Nat.shiftLeft_or_distrib, six]
    exact (congrArg (fun top => top <<< 5 ||| word.toNat % 32) (top_or_rest _ 6)).trans (top_or_rest _ 5)
  have three := Nat.le_add_right 3 2
  rw [pack, widened.r, widened.g, widened.b, widen_shiftRight r three, widen_shiftRight g (Nat.le_add_right 2 4),
    widen_shiftRight b three, joined, UInt16.ofNat_toNat]

@[simp] theorem byteswap_word (high low : UInt8) : byteswap (BigEndian.word high low) = BigEndian.word low high := by
  rw [byteswap, BigEndian.high_word, BigEndian.low_word]

/-- The bytes of an array of pairs in rows, as they lie one behind the other. -/
theorem ofFn_pairs {α : Type} {rows columns : Nat} (item : Fin (rows * columns * 2) → α) :
    List.ofFn item = (List.finRange rows).flatMap fun y => (List.finRange columns).flatMap fun x =>
      [item ⟨2 * (y.val * columns + x.val), byte_lt y.isLt x.isLt Nat.two_pos⟩,
        item ⟨2 * (y.val * columns + x.val) + 1, byte_lt y.isLt x.isLt Nat.one_lt_two⟩] := by
  rw [List.ofFn_mul, List.ofFn_mul, List.flatten_flatten, List.map_ofFn]
  simp only [List.ofFn_eq_map, List.flatMap_def, Function.comp_def]
  simp [List.finRange_succ, Nat.mul_comm]

theorem repack_eq {frame : Buffer frameSize} {image : Image}
    (words : ∀ y x, pack (image y x) = pixelWord frame y x) : repack image = frame.bytes := by
  have bytes := @ofFn_pairs UInt8 height width frame.get
  rw [← frame.ofFn_get]
  simp only [repack, words, pixelWord, BigEndian.high_word, BigEndian.low_word]
  exact bytes.symm

theorem frame_converts (frame : Buffer frameSize) : ∃ image, rgb565ToRgb888 frame.bytes = some image ∧
    ∀ y x, Widened (pixelWord frame y x) (image y x) := by
  refine ⟨_, dif_pos frame.sized, ?_⟩
  intro y x
  rw [reshape, fromBuffer, byteswap_word]
  exact stack_widened (pixelWord frame y x)

/-- A frame becomes an image whose pixels are the widened fields of their own words,
and from which it can be read back. -/
theorem conversion_lossless (frame : Buffer frameSize) : ∃ image, rgb565ToRgb888 frame.bytes = some image ∧
    (∀ y x, Widened (pixelWord frame y x) (image y x)) ∧ Spreads 5 3 ∧ Spreads 6 2 ∧
    (∀ word : UInt16, Exact ((word >>> 11) &&& 0x1F) 3 5 ∧ Exact ((word >>> 5) &&& 0x3F) 2 6 ∧
      Exact (word &&& 0x1F) 3 5) ∧
    repack image = frame.bytes := by
  obtain ⟨image, converted, pixels⟩ := frame_converts frame
  refine ⟨image, converted, pixels, spreads (Nat.le_add_right 3 2) rfl, spreads (Nat.le_add_right 2 4) rfl, ?_, ?_⟩
  · intro word
    exact ⟨(red_exact word).1, (green_exact word).1, (blue_exact word).1⟩
  · apply repack_eq
    intro y x
    exact (pixels y x).pack_eq

/-- No frame of a session makes the conversion raise an error, and the image that is
shown still has all its bytes. -/
theorem session_converts {sock : Socket} {keys : Nat → Int} {frame : List UInt8}
    (received : frame ∈ (main sock keys).frames) :
    ∃ image, rgb565ToRgb888 frame = some image ∧ repack image = frame := by
  rw [ImageStream.main_frames] at received
  have sized := (messages.longest_decode sock.unread).sized frame (ImageStream.untilQuit_subset received)
  obtain ⟨image, converted, pixels⟩ := frame_converts ⟨frame, sized⟩
  refine ⟨image, converted, (@repack_eq ⟨frame, sized⟩ image) ?_⟩
  intro y x
  exact (pixels y x).pack_eq

end Dionysus.Proofs.FrameColours
