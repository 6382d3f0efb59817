import Dionysus.Json

/-! The reader takes back what the writer wrote: an object of integer members under
plain keys. -/

namespace Dionysus.Proofs.JsonText
open Json

def Plain (key : Text) : Prop := ∀ char ∈ key, char ≠ '"' ∧ char ≠ '\\' ∧ ¬char < ' '

theorem scanString_plain {key : Text} (plain : Plain key) {fuel : Nat} (enough : key.length < fuel) (rest : Text) :
    scanString fuel (key ++ '"' :: rest) = some (key, rest) := by
  induction key generalizing fuel with
  | nil =>
    obtain ⟨less, rfl⟩ := Nat.exists_eq_succ_of_ne_zero (Nat.pos_iff_ne_zero.mp enough)
    rfl
  | cons char chars ih =>
    obtain ⟨less, rfl⟩ := Nat.exists_eq_succ_of_ne_zero (Nat.pos_iff_ne_zero.mp (Nat.zero_lt_of_lt enough))
    obtain ⟨⟨noQuote, noSlash, printable⟩, others⟩ := List.forall_mem_cons.mp plain
    have later := ih others (Nat.lt_of_succ_lt_succ enough)
    rw [scanString.eq_def]
    simp only [List.cons_append]
    split
    next same => cases same
    next same => exact absurd (List.cons.inj same).1 noQuote
    next same => exact absurd (List.cons.inj same).1 noSlash
    next same => exact absurd (List.cons.inj same).1 noSlash
    next first more _ _ _ same =>
      obtain ⟨rfl, rfl⟩ := List.cons.inj same
      rw [later]
      simp [noSlash, printable]

/-- Text that cannot continue a number. -/
def Stops (rest : Text) : Prop :=
  ∀ char ∈ rest.head?, char.isDigit = false ∧ char ≠ '.' ∧ char ≠ 'e' ∧ char ≠ 'E'

theorem Stops.takeWhile {rest : Text} (stops : Stops rest) : rest.takeWhile Char.isDigit = [] := by
  cases rest with
  | nil => rfl
  | cons char more => simp [(stops char rfl).1]

theorem Stops.dropWhile {rest : Text} (stops : Stops rest) : rest.dropWhile Char.isDigit = rest := by
  cases rest with
  | nil => rfl
  | cons char more => simp [(stops char rfl).1]

theorem Stops.scanFraction {rest : Text} (stops : Stops rest) : scanFraction rest = none := by
  unfold Json.scanFraction
  split
  next => exact absurd rfl (stops '.' rfl).2.1
  next => rfl

theorem Stops.scanExponent {rest : Text} (stops : Stops rest) : scanExponent rest = none := by
  cases rest with
  | nil => rfl
  | cons char more =>
    obtain ⟨-, -, small, capital⟩ := stops char rfl
    simp [Json.scanExponent, small, capital]

theorem toDigits_cons (number : Nat) :
    ∃ first more, Nat.toDigits 10 number = first :: more ∧ first.isDigit = true ∧
      (first = '0' → number = 0) := by
  by_cases small : number < 10
  · have digits : ∀ digit < 10, (Nat.digitChar digit).isDigit = true ∧ (Nat.digitChar digit = '0' → digit = 0) := by
      decide
    exact ⟨_, [], Nat.toDigits_of_lt_base small, digits number small⟩
  · obtain ⟨first, more, split, digit, zero⟩ := toDigits_cons (number / 10)
    refine ⟨first, more ++ [(number % 10).digitChar], ?_, digit, ?_⟩
    · rw [Nat.toDigits_of_base_le (by decide) (by omega), split, List.cons_append]
    · intro leading
      have none := zero leading
      omega
termination_by number

theorem scanDigits_toDigits (number : Nat) {rest : Text} (stops : Stops rest) :
    scanDigits (Nat.toDigits 10 number ++ rest) = some (Nat.toDigits 10 number, rest) := by
  have digits : ∀ char ∈ Nat.toDigits 10 number, char.isDigit = true :=
    fun char => Nat.isDigit_of_mem_toDigits (by decide) (by decide)
  obtain ⟨first, more, split, -, zero⟩ := toDigits_cons number
  unfold scanDigits
  split
  next tail same =>
    rw [split, List.cons_append] at same
    obtain ⟨rfl, rfl⟩ := List.cons.inj same
    rw [zero rfl, Nat.toDigits_zero] at split ⊢
    rw [← (List.cons.inj split).2, List.nil_append]
  next =>
    rw [List.takeWhile_append_of_pos digits, List.dropWhile_append_of_pos digits, stops.takeWhile, stops.dropWhile,
      List.append_nil, split]

def Readable (value : Int) : Prop := (Nat.toDigits 10 value.natAbs).length ≤ intMaxStrDigits

theorem intText_ofNat (number : Nat) : intText number = Nat.toDigits 10 number := Nat.toList_repr

theorem intText_negSucc (number : Nat) : intText (Int.negSucc number) = '-' :: Nat.toDigits 10 (number + 1) := by
  have split : (toString (Int.negSucc number)).toList = ("-" ++ (number + 1).repr).toList := rfl
  rw [intText, split, String.toList_append, Nat.toList_repr]
  rfl

theorem scanNumber_intText {value : Int} (readable : Readable value) {rest : Text} (stops : Stops rest) :
    scanNumber (intText value ++ rest) = some (.int value, rest) := by
  cases value with
  | ofNat number =>
    have short : (Nat.toDigits 10 number).length ≤ intMaxStrDigits := readable
    obtain ⟨first, more, split, digit, -⟩ := toDigits_cons number
    have sign : first ≠ '-' := by
      intro same
      subst same
      cases digit
    have positive : ((Nat.toDigits 10 number ++ rest).head? == some '-') = false := by
      simp [split, sign]
    rw [Int.ofNat_eq_natCast, intText_ofNat]
    simp only [scanNumber, positive, Bool.false_eq_true, ↓reduceIte, scanDigits_toDigits number stops,
      stops.scanFraction, stops.scanExponent]
    rw [if_pos short, Nat.ofDigitChars_ten_toDigits]
  | negSucc number =>
    have short : (Nat.toDigits 10 (number + 1)).length ≤ intMaxStrDigits := readable
    rw [intText_negSucc, List.cons_append]
    simp only [scanNumber, List.head?_cons, beq_self_eq_true, ↓reduceIte, List.tail_cons,
      scanDigits_toDigits (number + 1) stops, stops.scanFraction, stops.scanExponent]
    rw [if_pos short, Nat.ofDigitChars_ten_toDigits]
    rfl

def startsNumber : Text → Bool
  | '-' :: char :: _ => char.isDigit
  | char :: _ => char.isDigit
  | [] => false

theorem startsNumber_intText (value : Int) (rest : Text) : startsNumber (intText value ++ rest) = true := by
  cases value with
  | ofNat number =>
    obtain ⟨first, more, split, digit, -⟩ := toDigits_cons number
    rw [Int.ofNat_eq_natCast, intText_ofNat, split, List.cons_append]
    unfold startsNumber
    split
    next same =>
      rw [(List.cons.inj same).1] at digit
      cases digit
    next same =>
      rw [← (List.cons.inj same).1]
      exact digit
    next same => cases same
  | negSucc number =>
    obtain ⟨first, more, split, digit, -⟩ := toDigits_cons (number + 1)
    rw [intText_negSucc, split]
    exact digit

theorem startsNumber_begins {word text : Text} (two : 2 ≤ word.length) (begins : word.isPrefixOf text = true) :
    startsNumber word = startsNumber text := by
  obtain ⟨rest, rfl⟩ := List.isPrefixOf_iff_prefix.mp begins
  match word, two with
  | first :: second :: more, _ =>
    by_cases sign : first = '-'
    · subst sign
      rfl
    · simp [startsNumber, sign]

theorem scanConstant_number {text : Text} (starts : startsNumber text = true) : scanConstant text = none := by
  have words : ∀ constant ∈ constants, 2 ≤ constant.1.length ∧ startsNumber constant.1 = false := by decide
  apply List.findSome?_eq_none_iff.mpr
  intro constant member
  obtain ⟨two, word⟩ := words constant member
  rw [if_neg]
  intro begins
  rw [startsNumber_begins two begins, starts] at word
  cases word

theorem skipBlank_number {text : Text} (starts : startsNumber text = true) : skipBlank text = text := by
  unfold startsNumber at starts
  split at starts
  next => rfl
  next char more _ =>
    have dark : isBlank char = false := by
      apply Bool.eq_false_iff.mpr
      intro blank
      simp only [isBlank, Bool.or_eq_true, beq_iff_eq] at blank
      rcases blank with ((rfl | rfl) | rfl) | rfl <;> cases starts
    simp [skipBlank, dark]
  next => cases starts

theorem scanValue_intText {value : Int} (readable : Readable value) {rest : Text} (stops : Stops rest)
    {fuel : Nat} (enough : 0 < fuel) : scanValue fuel (intText value ++ rest) = some (.int value, rest) := by
  have starts := startsNumber_intText value rest
  obtain ⟨less, rfl⟩ := Nat.exists_eq_succ_of_ne_zero (Nat.pos_iff_ne_zero.mp enough)
  rw [scanValue.eq_def]
  simp only
  split
  next same => rw [same] at starts; cases starts
  next same => rw [same] at starts; cases starts
  next same => rw [same] at starts; cases starts
  next => rw [scanConstant_number starts, Option.none_or, scanNumber_intText readable stops]

def values (members : List (Text × Int)) : List (Text × Value) := members.map fun member => (member.1, .int member.2)

def Legible (members : List (Text × Int)) : Prop := ∀ member ∈ members, Plain member.1 ∧ Readable member.2

/-- How an object goes on behind the value of a member. -/
def afterMember (fuel : Nat) (key : Text) (value : Int) : Text → Option (List (Text × Value) × Text)
  | '\x7d' :: rest => some ([(key, .int value)], rest)
  | ',' :: rest => (scanMembers fuel (skipBlank rest)).map fun (members, rest) => ((key, .int value) :: members, rest)
  | _ => none

theorem skipBlank_append {gap : Text} (blank : ∀ char ∈ gap, isBlank char = true) (text : Text) :
    skipBlank (gap ++ text) = skipBlank text :=
  List.dropWhile_append_of_pos blank

/-- A member is read past the blanks behind its colon. -/
theorem scanMembers_spaced {key : Text} {value : Int} (plain : Plain key) (readable : Readable value) {gap : Text}
    (blank : ∀ char ∈ gap, isBlank char = true) {tail : Text} (stops : Stops tail) {fuel : Nat} (enough : 0 < fuel) :
    scanMembers (fuel + 1) (quoted key ++ ':' :: (gap ++ (intText value ++ tail))) =
      afterMember fuel key value (skipBlank tail) := by
  have text : quoted key ++ ':' :: (gap ++ (intText value ++ tail)) =
      '"' :: (key ++ '"' :: ':' :: (gap ++ (intText value ++ tail))) := by
    simp [quoted]
  have colon : skipBlank (':' :: (gap ++ (intText value ++ tail))) = ':' :: (gap ++ (intText value ++ tail)) := rfl
  have short : key.length < ('"' :: (key ++ '"' :: ':' :: (gap ++ (intText value ++ tail)))).length := by
    simp only [List.length_cons, List.length_append]
    omega
  rw [text, scanMembers.eq_def]
  simp only
  rw [scanString_plain plain short]
  simp only [colon, skipBlank_append blank, skipBlank_number (startsNumber_intText value tail),
    scanValue_intText readable stops enough]
  rfl

theorem scanMembers_member {key : Text} {value : Int} (plain : Plain key) (readable : Readable value) {tail : Text}
    (stops : Stops tail) {fuel : Nat} (enough : 0 < fuel) :
    scanMembers (fuel + 1) (memberText (key, value) ++ tail) = afterMember fuel key value (skipBlank tail) := by
  have text : memberText (key, value) ++ tail = quoted key ++ ':' :: ([] ++ (intText value ++ tail)) := by
    simp [memberText]
  rw [text]
  exact scanMembers_spaced plain readable (by simp) stops enough

theorem skipBlank_members (first : Text × Int) (more : List (Text × Int)) (rest : Text) :
    skipBlank ([','].intercalate ((first :: more).map memberText) ++ rest) =
      [','].intercalate ((first :: more).map memberText) ++ rest := by
  cases more with
  | nil => rfl
  | cons second more => rfl

theorem scanMembers_text {first : Text × Int} {more : List (Text × Int)} (legible : Legible (first :: more))
    {fuel : Nat} (enough : more.length + 1 < fuel) (rest : Text) :
    scanMembers fuel ([','].intercalate ((first :: more).map memberText) ++ '\x7d' :: rest) =
      some (values (first :: more), rest) := by
  induction more generalizing first fuel with
  | nil =>
    obtain ⟨less, rfl⟩ : ∃ less, fuel = less + 1 := ⟨fuel - 1, by omega⟩
    obtain ⟨plain, readable⟩ := legible first (by simp)
    have stops : Stops ('\x7d' :: rest) := by simp [Stops]
    rw [List.map_singleton, List.intercalate_singleton, scanMembers_member plain readable stops (by omega)]
    rfl
  | cons second more ih =>
    obtain ⟨less, rfl⟩ : ∃ less, fuel = less + 1 := ⟨fuel - 1, by omega⟩
    obtain ⟨⟨plain, readable⟩, others⟩ := List.forall_mem_cons.mp legible
    rw [List.length_cons] at enough
    have later := ih others (Nat.lt_of_succ_lt_succ enough)
    have comma : Stops ([','] ++ ([','].intercalate ((second :: more).map memberText) ++ '\x7d' :: rest)) := by
      simp [Stops]
    have next : skipBlank ([','] ++ ([','].intercalate ((second :: more).map memberText) ++ '\x7d' :: rest)) =
        ',' :: ([','].intercalate ((second :: more).map memberText) ++ '\x7d' :: rest) := rfl
    rw [List.map_cons, List.map_cons, List.intercalate_cons_cons, List.append_assoc, List.append_assoc,
      ← List.map_cons, scanMembers_member plain readable comma (by omega), next]
    simp only [afterMember, skipBlank_members, later]
    rfl

theorem members_cons (first : Text × Int) (more : List (Text × Int)) :
    ∃ tail, [','].intercalate ((first :: more).map memberText) = '"' :: tail := by
  cases more with
  | nil => exact ⟨_, rfl⟩
  | cons second more => exact ⟨_, rfl⟩

theorem length_members (members : List (Text × Int)) :
    members.length ≤ ([','].intercalate (members.map memberText)).length := by
  induction members with
  | nil => simp
  | cons first more ih =>
    cases more with
    | nil => simp [memberText, quoted]
    | cons second more =>
      rw [List.map_cons, List.map_cons, List.intercalate_cons_cons, ← List.map_cons]
      simp only [List.length_append, List.length_cons] at ih ⊢
      omega

theorem scanValue_members {fuel : Nat} {tail rest : Text} {members : List (Text × Value)}
    (read : scanMembers fuel ('"' :: tail) = some (members, rest)) :
    scanValue (fuel + 1) ('\x7b' :: '"' :: tail) = some (.object members, rest) := by
  have inside : skipBlank ('"' :: tail) = '"' :: tail := rfl
  rw [scanValue.eq_def]
  simp only [inside]
  split
  next same => exact absurd (List.cons.inj same).1 (by decide)
  next => rw [read, Option.map_some]

/-- `json.loads` reads an object text, and blanks behind it, as its dictionary. -/
theorem loads_objectText {members : List (Text × Int)} (legible : Legible members) {blanks : Text}
    (blank : skipBlank blanks = []) : loads (objectText members ++ blanks) = some (.object (values members)) := by
  cases members with
  | nil =>
    have closed : skipBlank ('\x7d' :: blanks) = '\x7d' :: blanks := rfl
    have empty : scanValue ((objectText [] ++ blanks).length + 1) ('\x7b' :: '\x7d' :: blanks) =
        some (.object [], blanks) := by
      rw [scanValue.eq_def]
      simp [closed]
    have opened : skipBlank (objectText [] ++ blanks) = '\x7b' :: '\x7d' :: blanks := rfl
    rw [loads, opened, empty]
    simp [blank, values]
  | cons first more =>
    obtain ⟨tail, quote⟩ := members_cons first more
    have text : objectText (first :: more) ++ blanks = '\x7b' :: '"' :: (tail ++ '\x7d' :: blanks) := by
      rw [objectText, quote]
      simp
    have enough : more.length + 1 < (objectText (first :: more) ++ blanks).length := by
      have members := length_members (first :: more)
      rw [quote] at members
      rw [text]
      simp only [List.length_cons, List.length_append] at members ⊢
      omega
    have read := scanMembers_text legible enough blanks
    rw [quote, List.cons_append] at read
    have opened : skipBlank (objectText (first :: more) ++ blanks) = '\x7b' :: '"' :: (tail ++ '\x7d' :: blanks) := by
      rw [text]
      rfl
    rw [loads, opened, scanValue_members read]
    simp [blank]

end Dionysus.Proofs.JsonText
