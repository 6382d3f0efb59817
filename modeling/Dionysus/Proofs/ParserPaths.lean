import Dionysus.Ibeacon
import Dionysus.Proofs.JsonText

/-! The ways through the parser of the PC. A line and a dict with the same record do
the same, and whatever is not a record does nothing. -/

namespace Dionysus.Proofs.ParserPaths
open Json Ibeacon JsonText

/-- The object that a call looks for a record in. -/
def Reads (line : Line) (members : List (Text × Value)) : Prop :=
  match line with
  | .str text => ∃ record, fromBrace text = some record ∧ loads record = some (.object members)
  | .dict given => given = members
  | .other => False

/-- The input holds a record with both keys and a value that becomes a float. -/
def Acceptable (line : Line) : Prop :=
  ∃ members major value number, Reads line members ∧ lookup members "major".toList = some major ∧
    lookup members "value".toList = some value ∧ timesOne value = some number

/-- The slot that a major number stands for. -/
def selected (major : Value) : Option (Fin 3) :=
  if equals major 0 then some 0
  else if equals major 1 then some 1
  else if equals major 2753 then some 2
  else none

/-- The slots that the major number of the record does not stand for are as before. -/
def ChangesSelected (line : Line) (before after : Slots) : Prop :=
  ∃ members major, Reads line members ∧ lookup members "major".toList = some major ∧
    ∀ slot, selected major ≠ some slot → after.get slot = before.get slot

variable {line : Line} {members : List (Text × Value)} {array : Slots} {major : Value}

theorem set_get (array : Slots) (value : Float) {slot place : Fin 3} (other : some place ≠ some slot) :
    (array.set place value).get slot = array.get slot := by
  apply Vector.getElem_set_ne
  intro same
  exact other (congrArg some (Fin.ext same))

theorem store_get (value : Float) {slot : Fin 3} (other : selected major ≠ some slot) :
    (store major value array).get slot = array.get slot := by
  unfold selected at other
  unfold store
  split
  next zero =>
    rw [if_pos zero] at other
    exact set_get array (value / 100) other
  next zero =>
    rw [if_neg zero] at other
    split
    next one =>
      rw [if_pos one] at other
      exact set_get array (value / 100) other
    next one =>
      rw [if_neg one] at other
      split
      next two =>
        rw [if_pos two] at other
        exact set_get array value other
      next => rfl

theorem parseData_reads (reads : Reads line members) : parseData line array = parseMembers members array := by
  cases line with
  | str text =>
    obtain ⟨record, found, decoded⟩ := reads
    rw [parseData]
    simp only [found, decoded]
  | dict given => rw [parseData, show given = members from reads]
  | other => exact reads.elim

theorem parseData_unread (unread : ∀ members, ¬Reads line members) :
    (parseData line array).1 ≠ .accepted ∧ (parseData line array).2 = array := by
  cases line with
  | str text =>
    rw [parseData]
    split
    next => exact ⟨nofun, rfl⟩
    next record found =>
      split
      next => exact ⟨nofun, rfl⟩
      next members decoded => exact absurd ⟨record, found, decoded⟩ (unread members)
      next => exact ⟨nofun, rfl⟩
  | dict given => exact absurd rfl (unread given)
  | other => exact ⟨nofun, rfl⟩

/-- A call either stores the value of a record or leaves everything as it is. -/
theorem parseMembers_cases (members : List (Text × Value)) (array : Slots) :
    (∃ major value number, lookup members "major".toList = some major ∧
      lookup members "value".toList = some value ∧ timesOne value = some number ∧
      parseMembers members array = (.accepted, store major number array)) ∨
    ((∀ major value, lookup members "major".toList = some major → lookup members "value".toList = some value →
      timesOne value = none) ∧
      (parseMembers members array).1 ≠ .accepted ∧ (parseMembers members array).2 = array) := by
  rw [parseMembers]
  split
  next major value majorFound valueFound =>
    cases times : timesOne value with
    | some number => exact Or.inl ⟨major, value, number, majorFound, valueFound, times, rfl⟩
    | none =>
      refine Or.inr ⟨?_, nofun, rfl⟩
      intro other same _ found
      rw [valueFound] at found
      cases found
      exact times
  next missing =>
    refine Or.inr ⟨?_, nofun, rfl⟩
    intro major value majorFound valueFound
    exact absurd valueFound (missing major value majorFound)

/-- A record is accepted and changes its own slot alone. -/
theorem accepted_of_acceptable (acceptable : Acceptable line) (array : Slots) :
    (parseData line array).1 = .accepted ∧ ChangesSelected line array (parseData line array).2 := by
  obtain ⟨members, major, value, number, reads, majorFound, valueFound, times⟩ := acceptable
  rw [parseData_reads reads]
  rcases parseMembers_cases members array with ⟨other, _, number', found, -, -, same⟩ | ⟨none, -, -⟩
  · rw [same]
    exact ⟨rfl, members, other, reads, found, fun slot => store_get number'⟩
  · rw [none major value majorFound valueFound] at times
    cases times

/-- Anything else is rejected, and a rejected input changes nothing. -/
theorem rejected_of_unacceptable (unacceptable : ¬Acceptable line) (array : Slots) :
    (parseData line array).1 ≠ .accepted ∧ (parseData line array).2 = array := by
  by_cases read : ∃ members, Reads line members
  · obtain ⟨members, reads⟩ := read
    rw [parseData_reads reads]
    rcases parseMembers_cases members array with ⟨major, value, number, found, given, times, -⟩ | ⟨-, rejected⟩
    · exact absurd ⟨members, major, value, number, reads, found, given, times⟩ unacceptable
    · exact rejected
  · exact parseData_unread (not_exists.mp read)

/-- A line that encodes a dict does what the dict does, whatever the console printed
before it. A call accepts the records and nothing else, an accepted record changes no
slot but its own, and a rejected input changes none. -/
theorem parser_paths (dumps : List (Text × Value) → Text) (representable : List (Text × Value) → Prop)
    (opens : ∀ members, representable members → (dumps members).head? = some '\x7b')
    (decodes : ∀ members, representable members → loads (dumps members) = some (.object members)) (array : Slots) :
    (∀ noise members, '\x7b' ∉ noise → representable members →
      parseData (.str (noise ++ dumps members)) array = parseData (.dict members) array) ∧
    (∀ line, (parseData line array).1 = .accepted ↔ Acceptable line) ∧
    (∀ line, (parseData line array).1 = .accepted → ChangesSelected line array (parseData line array).2) ∧
    (∀ line, (parseData line array).1 ≠ .accepted → (parseData line array).2 = array) := by
  have accepted_iff : ∀ line, (parseData line array).1 = .accepted ↔ Acceptable line := by
    intro line
    constructor
    · intro accepted
      apply Classical.byContradiction
      intro unacceptable
      exact (rejected_of_unacceptable unacceptable array).1 accepted
    · intro acceptable
      exact (accepted_of_acceptable acceptable array).1
  refine ⟨?_, accepted_iff, ?_, ?_⟩
  · intro noise members noBrace fits
    have reads : Reads (.str (noise ++ dumps members)) members :=
      ⟨dumps members, fromBrace_append noBrace (opens members fits), decodes members fits⟩
    rw [parseData_reads reads]
    rfl
  · intro line accepted
    exact (accepted_of_acceptable ((accepted_iff line).mp accepted) array).2
  · intro line rejected
    exact (rejected_of_unacceptable (fun acceptable => rejected ((accepted_iff line).mpr acceptable)) array).2

/-- A temperature of 23.5 degrees. -/
def temperature : List (Text × Value) := [("major".toList, .int 0), ("value".toList, .int 2350)]

def valueText : Text := quoted "value".toList ++ ':' :: ([' '] ++ (intText 2350 ++ ['\x7d']))

/-- What `json.dumps` makes of it, with a blank behind every colon and comma. -/
def temperatureText : Text :=
  '\x7b' :: (quoted "major".toList ++ ':' :: ([' '] ++ (intText 0 ++ ',' :: ' ' :: valueText)))

theorem loads_temperature : loads temperatureText = some (.object temperature) := by
  have blank : ∀ char ∈ [' '], isBlank char = true := by simp [isBlank]
  have readable : ∀ value : Nat, value < 10000 → Readable value := by
    intro value small
    have short : (Nat.toDigits 10 value).length ≤ 4 := (Nat.length_toDigits_le_iff (by decide) (by decide)).mpr small
    exact Nat.le_trans short (by decide)
  obtain ⟨fuel, long⟩ : ∃ fuel, temperatureText.length = fuel + 3 := by
    refine ⟨temperatureText.length - 3, ?_⟩
    simp only [temperatureText, List.length_cons, List.length_append]
    omega
  have second : scanMembers (fuel + 2) valueText = some ([("value".toList, .int 2350)], []) := by
    apply scanMembers_spaced _ _ blank _ (Nat.succ_pos fuel)
    · simp [Plain]
    · exact readable 2350 (by decide)
    · simp [Stops]
  have first : scanMembers (fuel + 3) temperatureText.tail =
      afterMember (fuel + 2) "major".toList 0 (',' :: ' ' :: valueText) := by
    apply scanMembers_spaced _ _ blank _ (Nat.succ_pos (fuel + 1))
    · simp [Plain]
    · exact readable 0 (by decide)
    · simp [Stops]
  have next : skipBlank (' ' :: valueText) = valueText := rfl
  rw [afterMember, next, second] at first
  have opened : skipBlank temperatureText = '\x7b' :: temperatureText.tail := rfl
  have read : scanValue (fuel + 4) ('\x7b' :: temperatureText.tail) = some (.object temperature, []) :=
    scanValue_members first
  rw [loads, opened, long, read]
  rfl

/-- The dict, and its line behind a shell prompt. -/
theorem parser_paths_temperature :
    parseData (.str ("uart:~$ ".toList ++ temperatureText)) initial = parseData (.dict temperature) initial ∧
      ((parseData (.dict temperature) initial).1 = .accepted ↔ Acceptable (.dict temperature)) := by
  have paths := parser_paths (fun _ => temperatureText) (· = temperature) (fun _ _ => rfl)
    (fun members same => by rw [same, loads_temperature]) initial
  exact ⟨paths.1 _ _ (by decide) rfl, paths.2.1 _⟩

end Dionysus.Proofs.ParserPaths
