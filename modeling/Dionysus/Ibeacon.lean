import Dionysus.Json

/-! The PC relay to the dashboard (`Project/PC/ibeacon.py`): parsing a serial line into
the array, and the point that is published from it. -/

namespace Dionysus.Ibeacon
open Json

abbrev Slots := Vector Float 3

def initial : Slots := #v[0.0, 0.0, 0.0]

inductive Line where
  | str (text : Text)
  | dict (members : List (Text × Value))
  | other

/-- How a call ends: with `[]`, at the end of the `try` block, or in its handler. -/
inductive Outcome where
  | dropped
  | accepted
  | failed
deriving DecidableEq, Repr

def fromBrace (text : Text) : Option Text :=
  match text.dropWhile (· != '\x7b') with
  | [] => none
  | record => some record

/-- The least integer that `int.__float__` does not convert. -/
def floatOverflow : Nat := Nat.pow 2 1024 - Nat.pow 2 970

/-- `value*1.0`. The types without that operation raise. -/
def timesOne : Value → Option Float
  | .int value => if value.natAbs < floatOverflow then some (Float.ofInt value) else none
  | .float value => some value
  | .bool value => some (if value then 1.0 else 0.0)
  | _ => none

def equals (major : Value) (number : Int) : Bool :=
  match major with
  | .int value => value == number
  | .float value => value == Float.ofInt number
  | .bool value => (if value then 1 else 0) == number
  | _ => false

def store (major : Value) (value : Float) (array : Slots) : Slots :=
  if equals major 0 then array.set 0 (value / 100)
  else if equals major 1 then array.set 1 (value / 100)
  else if equals major 2753 then array.set 2 value
  else array

def parseMembers (members : List (Text × Value)) (array : Slots) : Outcome × Slots :=
  match lookup members "major".toList, lookup members "value".toList with
  | some major, some value =>
    match timesOne value with
    | some value => (.accepted, store major value array)
    | none => (.failed, array)
  | _, _ => (.dropped, array)

def parseData (line : Line) (array : Slots) : Outcome × Slots :=
  match line with
  | .str text =>
    match fromBrace text with
    | none => (.dropped, array)
    | some record =>
      match loads record with
      | none => (.failed, array)
      | some (.object members) => parseMembers members array
      | some _ => (.dropped, array)
  | .dict members => parseMembers members array
  | .other => (.dropped, array)

structure Point where
  fanSpeed : Float
  temperature : Float
  lights : Float

def point (array : Slots) : Point := ⟨array[0], array[1], array[2]⟩

/-- What the console prints before the first brace is passed over. -/
theorem fromBrace_append {noise record : Text} (noBrace : '\x7b' ∉ noise) (opens : record.head? = some '\x7b') :
    fromBrace (noise ++ record) = some record := by
  obtain ⟨rest, rfl⟩ := List.head?_eq_some_iff.mp opens
  have skipped : (noise ++ '\x7b' :: rest).dropWhile (· != '\x7b') = '\x7b' :: rest := by
    rw [List.dropWhile_append_of_pos]
    · rfl
    · intro char member
      exact bne_iff_ne.mpr fun same => noBrace (same ▸ member)
  rw [fromBrace, skipped]

end Dionysus.Ibeacon
