import Mathlib.Data.List.Infix
import Mathlib.Data.List.OfFn
import Mathlib.Data.List.TakeWhile

/-! Byte arrays of a fixed size, written in bounds or not at all, and the C strings
read from them. -/

namespace Dionysus

structure Buffer (size : Nat) where
  bytes : List UInt8
  sized : bytes.length = size
deriving DecidableEq, Repr

/-- What `%s` prints: the bytes before the first zero. -/
def cString (bytes : List UInt8) : List UInt8 := bytes.takeWhile (· != 0)

namespace Buffer
variable {size : Nat}

/-- The data copied to the front of the buffer. -/
def fill (buffer : Buffer size) (data : List UInt8) : Option (Buffer size) :=
  if fits : data.length ≤ size then
    some ⟨data ++ buffer.bytes.drop data.length, by simp [buffer.sized, fits]⟩
  else none

def store (buffer : Buffer size) (index : Nat) (byte : UInt8) : Option (Buffer size) :=
  if index < size then some ⟨buffer.bytes.set index byte, by simp [buffer.sized]⟩ else none

def get (buffer : Buffer size) (index : Fin size) : UInt8 := buffer.bytes.get (index.cast buffer.sized.symm)

def slice (buffer : Buffer size) (offset count : Nat) : List UInt8 := (buffer.bytes.drop offset).take count

theorem fill_eq (buffer : Buffer size) {data : List UInt8} (fits : data.length ≤ size) :
    ∃ filled, buffer.fill data = some filled ∧ filled.bytes = data ++ buffer.bytes.drop data.length :=
  ⟨_, dif_pos fits, rfl⟩

theorem store_eq (buffer : Buffer size) {index : Nat} (byte : UInt8) (inside : index < size) :
    ∃ stored, buffer.store index byte = some stored ∧ stored.bytes = buffer.bytes.set index byte :=
  ⟨_, if_pos inside, rfl⟩

theorem ofFn_get (buffer : Buffer size) : List.ofFn buffer.get = buffer.bytes := by
  obtain ⟨bytes, rfl⟩ := buffer
  exact List.ofFn_get bytes

theorem length_slice (buffer : Buffer size) {offset count : Nat} (inside : offset + count ≤ size) :
    (buffer.slice offset count).length = count := by
  rw [slice, List.length_take, List.length_drop, buffer.sized]
  omega

theorem slice_getElem? (buffer : Buffer size) {offset count index : Nat} (inside : index < count) :
    (buffer.slice offset count)[index]? = buffer.bytes[offset + index]? := by
  rw [slice, List.getElem?_take_of_lt inside, List.getElem?_drop]

theorem slice_eq_iff (buffer other : Buffer size) (offset count : Nat) :
    buffer.slice offset count = other.slice offset count ↔
      ∀ index, offset ≤ index → index < offset + count → buffer.bytes[index]? = other.bytes[index]? := by
  constructor
  · intro same index first last
    obtain ⟨place, rfl⟩ := Nat.exists_eq_add_of_le first
    have inside : place < count := by omega
    rw [← slice_getElem? buffer inside, ← slice_getElem? other inside, same]
  · intro agree
    apply List.ext_getElem?
    intro index
    by_cases inside : index < count
    · rw [slice_getElem? buffer inside, slice_getElem? other inside]
      exact agree _ (Nat.le_add_right _ _) (by omega)
    · have past : ∀ any : Buffer size, (any.slice offset count)[index]? = none := by
        intro any
        rw [List.getElem?_eq_none_iff, slice, List.length_take]
        omega
      rw [past, past]

end Buffer

theorem cString_eq_self_iff (bytes : List UInt8) : cString bytes = bytes ↔ 0 ∉ bytes := by
  rw [cString, List.takeWhile_eq_self_iff]
  constructor
  · intro nonzero member
    simpa using nonzero 0 member
  · intro absent byte member
    rw [bne_iff_ne]
    intro zero
    exact absent (zero ▸ member)

/-- A zero in the front hides what follows, and otherwise what follows must begin
with one. -/
theorem cString_append_eq_iff (front back : List UInt8) :
    cString (front ++ back) = cString front ↔ 0 ∈ front ∨ back = [] ∨ back.head? = some 0 := by
  induction front with
  | nil =>
    cases back with
    | nil => simp [cString]
    | cons byte rest => by_cases zero : byte = 0 <;> simp [cString, zero]
  | cons byte rest ih =>
    by_cases zero : byte = 0
    · simp [cString, zero]
    · have other : ¬0 = byte := fun same => zero same.symm
      simpa [cString, zero, other] using ih

/-- A terminator ends the string there at the latest. -/
theorem cString_set_zero (bytes : List UInt8) {index : Nat} (inside : index < bytes.length) :
    cString (bytes.set index 0) = cString (bytes.take index) := by
  rw [List.set_eq_take_append_cons_drop, if_pos inside, cString_append_eq_iff]
  exact Or.inr (Or.inr rfl)

end Dionysus
