/-! Bit fields of numbers. A field is widened by repeating its top bits below it, and a
number is its top bits over the bits below them. -/

namespace Dionysus.BitField

/-- The field with its top bits once more at the end. -/
def widen (bits more field : Nat) : Nat := (field <<< more) ||| (field >>> (bits - more))

variable {bits more field : Nat}

/-- The top bits of a field that fits, no more of them than it has. -/
theorem top_lt (fits : field < 1 <<< bits) (few : more ≤ bits) : field >>> (bits - more) < 1 <<< more := by
  rw [Nat.one_shiftLeft] at fits ⊢
  rw [Nat.shiftRight_eq_div_pow]
  apply Nat.div_lt_of_lt_mul
  rwa [← Nat.pow_add, Nat.sub_add_cancel few]

/-- The two copies do not overlap. -/
theorem widen_eq_add (fits : field < 1 <<< bits) (few : more ≤ bits) :
    widen bits more field = field <<< more + field >>> (bits - more) := by
  apply Eq.symm
  apply Nat.shiftLeft_add_eq_or_of_lt
  simpa [Nat.one_shiftLeft] using top_lt fits few

theorem copies_disjoint (fits : field < 1 <<< bits) (few : more ≤ bits) :
    (field <<< more) &&& (field >>> (bits - more)) = 0 := by
  have below := top_lt fits few
  rw [Nat.one_shiftLeft] at below
  apply Nat.eq_of_testBit_eq
  intro index
  rw [Nat.testBit_and, Nat.testBit_shiftLeft, Nat.zero_testBit]
  by_cases high : more ≤ index
  · have none : (field >>> (bits - more)).testBit index = false :=
      Nat.testBit_lt_two_pow (Nat.lt_of_lt_of_le below (Nat.pow_le_pow_right (by decide) high))
    rw [none, Bool.and_false]
  · simp [high]

/-- The field stands at the top of what it is widened to. -/
theorem widen_shiftRight (fits : field < 1 <<< bits) (few : more ≤ bits) : widen bits more field >>> more = field := by
  have below := top_lt fits few
  rw [Nat.one_shiftLeft] at below
  rw [widen_eq_add fits few, Nat.shiftRight_eq_div_pow _ more, Nat.shiftLeft_eq, Nat.add_comm,
    Nat.add_mul_div_right _ _ (Nat.two_pow_pos more), Nat.div_eq_of_lt below, Nat.zero_add]

theorem widen_lt (fits : field < 1 <<< bits) (few : more ≤ bits) : widen bits more field < 1 <<< (bits + more) := by
  have below := top_lt fits few
  rw [widen_eq_add fits few]
  rw [Nat.one_shiftLeft] at *
  calc field <<< more + field >>> (bits - more)
      < field <<< more + 2 ^ more := Nat.add_lt_add_left below _
    _ = (field + 1) * 2 ^ more := by rw [Nat.shiftLeft_eq, Nat.succ_mul]
    _ ≤ 2 ^ bits * 2 ^ more := Nat.mul_le_mul_right _ fits
    _ = 2 ^ (bits + more) := (Nat.pow_add 2 bits more).symm

theorem widen_zero (bits more : Nat) : widen bits more 0 = 0 := by
  simp [widen]

/-- All ones are widened to all ones. -/
theorem widen_max (few : more ≤ bits) : widen bits more (1 <<< bits - 1) = 1 <<< (bits + more) - 1 := by
  have positive := Nat.two_pow_pos bits
  have fits : 1 <<< bits - 1 < 1 <<< bits := by
    rw [Nat.one_shiftLeft]
    omega
  have top : (1 <<< bits - 1) >>> (bits - more) = 1 <<< more - 1 := by
    apply Nat.le_antisymm (Nat.le_sub_one_of_lt (top_lt fits few))
    rw [Nat.one_shiftLeft, Nat.one_shiftLeft, Nat.shiftRight_eq_div_pow,
      Nat.le_div_iff_mul_le (Nat.two_pow_pos _), Nat.sub_mul, ← Nat.pow_add, Nat.add_sub_cancel' few]
    exact Nat.sub_le_sub_left (Nat.one_mul _ ▸ Nat.two_pow_pos _) _
  have less := Nat.two_pow_pos more
  have one : 2 ^ more ≤ 2 ^ bits * 2 ^ more := Nat.le_mul_of_pos_left _ positive
  rw [widen_eq_add fits few, top, Nat.one_shiftLeft, Nat.one_shiftLeft, Nat.one_shiftLeft, Nat.shiftLeft_eq,
    Nat.sub_mul, Nat.pow_add, Nat.one_mul]
  omega

theorem widen_lt_widen {less : Nat} (ordered : less < field) (fits : field < 1 <<< bits) (few : more ≤ bits) :
    widen bits more less < widen bits more field := by
  apply Nat.lt_of_not_le
  intro reversed
  have back : field ≤ less :=
    calc field = widen bits more field >>> more := (widen_shiftRight fits few).symm
      _ ≤ widen bits more less >>> more := by
        rw [Nat.shiftRight_eq_div_pow, Nat.shiftRight_eq_div_pow]
        exact Nat.div_le_div_right reversed
      _ = less := widen_shiftRight (Nat.lt_trans ordered fits) few
  omega

/-- Shifted up and then down by more, a field loses its lowest bits. -/
theorem shiftLeft_shiftRight_of_le (field : Nat) (few : more ≤ bits) :
    field <<< more >>> bits = field >>> (bits - more) := by
  obtain ⟨rest, rfl⟩ := Nat.exists_eq_add_of_le few
  rw [Nat.shiftRight_add, Nat.shiftLeft_shiftRight, Nat.add_sub_cancel_left]

/-- The top bits of a number over the rest of it. -/
theorem top_or_rest (number bits : Nat) : (number >>> bits) <<< bits ||| number % (1 <<< bits) = number := by
  rw [Nat.one_shiftLeft, ← Nat.shiftLeft_add_eq_or_of_lt (Nat.mod_lt _ (Nat.two_pow_pos bits)), Nat.shiftLeft_eq,
    Nat.shiftRight_eq_div_pow, Nat.mul_comm]
  exact Nat.div_add_mod number (2 ^ bits)

end Dionysus.BitField
