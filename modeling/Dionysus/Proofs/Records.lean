import Dionysus.Base
import Dionysus.Ibeacon
import Dionysus.Proofs.JsonText

/-! The record of the base node and the parser of the PC disagree on its keys: every
line is valid JSON and every line is dropped. -/

namespace Dionysus.Proofs.Records
open Base Json Ibeacon JsonText

def record (globals : Globals) : List (Text × Int) :=
  dataStruct.map fun field => (field.1, field.2 (jsonPrint globals).2.data)

theorem length_intText (value : UInt16) : (intText value.toNat).length ≤ 5 := by
  rw [intText_ofNat]
  exact (Nat.length_toDigits_le_iff (by decide) (by decide)).mpr (Nat.lt_trans value.toNat_lt (by decide))

theorem record_legible (globals : Globals) : Legible (record globals) := by
  have readable : ∀ value : UInt16, Readable value.toNat := by
    intro value
    have short := length_intText value
    rw [intText_ofNat] at short
    exact Nat.le_trans short (by decide)
  intro member listed
  simp only [record, dataStruct, jsonPrint, List.map_cons, List.map_nil, List.mem_cons, List.not_mem_nil,
    or_false] at listed
  rcases listed with rfl | rfl | rfl
  · exact ⟨by simp [Plain], readable globals.temp⟩
  · exact ⟨by simp [Plain], readable globals.light⟩
  · exact ⟨by simp [Plain], readable globals.clap⟩

theorem length_record (globals : Globals) : (objectText (record globals)).length < 256 := by
  have temp := length_intText globals.temp
  have light := length_intText globals.light
  have clap := length_intText globals.clap
  simp only [objectText, record, dataStruct, jsonPrint, memberText, quoted, List.map_cons, List.map_nil,
    List.intercalate_cons_cons, List.intercalate_singleton, List.length_append, List.length_cons, List.length_nil]
  have keys : "temp".toList.length + "light".toList.length + "clap".toList.length = 13 := by decide
  omega

theorem record_encoded (globals : Globals) : (jsonPrint globals).2.encoded = .ok (objectText (record globals)) := by
  have short := length_record globals
  simp only [record, jsonPrint] at short ⊢
  simp only [jsonObjEncodeBuf, short, ↓reduceIte]

theorem record_line (globals : Globals) :
    (jsonPrint globals).2.line = some (objectText (record globals) ++ ['\r', '\n']) := by
  rw [Printed.line, record_encoded]

theorem record_dropped (globals : Globals) {console : Text} (noBrace : '\x7b' ∉ console) {blanks : Text}
    (blank : skipBlank blanks = []) (array : Slots) :
    parseData (.str (console ++ objectText (record globals) ++ blanks)) array = (.dropped, array) := by
  have found : fromBrace (console ++ objectText (record globals) ++ blanks) =
      some (objectText (record globals) ++ blanks) := by
    rw [List.append_assoc]
    exact fromBrace_append noBrace rfl
  rw [parseData]
  simp only [found, loads_objectText (record_legible globals) blank]
  rfl

/-- The line is accepted and the point shows the temperature it carries, which is in
hundredths of a degree. -/
def Agrees (globals : Globals) (line : Text) (array : Slots) : Prop :=
  (parseData (.str line) array).1 = .accepted ∧
    (point (parseData (.str line) array).2).temperature = Float.ofNat globals.temp.toNat / 100

/-- No line that the base node prints is accepted, whatever stands before it on the
console and whether or not its line end is stripped. -/
theorem never_agree (globals : Globals) {console : Text} (noBrace : '\x7b' ∉ console) (array : Slots) :
    ∃ record, (jsonPrint globals).2.line = some (record ++ ['\r', '\n']) ∧
      ∀ blanks, skipBlank blanks = [] → ¬Agrees globals (console ++ record ++ blanks) array := by
  refine ⟨objectText (record globals), record_line globals, fun blanks blank agrees => ?_⟩
  have accepted := agrees.1
  rw [record_dropped globals noBrace blank] at accepted
  cases accepted

theorem temperature_line_not_accepted :
    ∃ record, (jsonPrint { temp := 2350, newTemp := true }).2.line = some (record ++ ['\r', '\n']) ∧
      ∀ blanks, skipBlank blanks = [] →
        ¬Agrees { temp := 2350, newTemp := true } (receivedText 2350 ++ record ++ blanks) initial :=
  never_agree { temp := 2350, newTemp := true } (by decide) initial

/-- The same line, line end included, is dropped for its missing keys. -/
theorem temperature_line_dropped :
    ¬∀ (globals : Globals) (console : Text) (array : Slots), '\x7b' ∉ console →
      ∃ line, (jsonPrint globals).2.line = some line ∧ Agrees globals (console ++ line) array := by
  intro agree
  have noBrace : '\x7b' ∉ receivedText 2350 := by decide
  obtain ⟨line, printed, accepted, -⟩ := agree { temp := 2350, newTemp := true } (receivedText 2350) initial noBrace
  obtain rfl := Option.some.inj ((record_line _).symm.trans printed)
  rw [← List.append_assoc, record_dropped _ noBrace rfl] at accepted
  cases accepted

end Dionysus.Proofs.Records
