/-! JSON text: a compact writer for objects of integers and the reader of Python's
`json.loads`. The reader follows CPython, which also takes NaN and the infinities,
keeps the last of several members with one key, and refuses an integer of more
digits than `int` converts. -/

namespace Dionysus.Json

abbrev Text := List Char

/-- Values as `json.loads` builds them. A lone surrogate escape, which Lean's
characters exclude, is read as the replacement character. -/
inductive Value where
  | null
  | bool (value : Bool)
  | int (value : Int)
  | float (value : Float)
  | string (text : Text)
  | array (items : List Value)
  | object (members : List (Text × Value))

def lookup (members : List (Text × Value)) (key : Text) : Option Value :=
  (members.reverse.find? (fun member => member.1 == key)).map Prod.snd

def intText (value : Int) : Text := (toString value).toList

def quoted (key : Text) : Text := '"' :: key ++ ['"']

def memberText (member : Text × Int) : Text := quoted member.1 ++ ':' :: intText member.2

def objectText (members : List (Text × Int)) : Text :=
  '\x7b' :: [','].intercalate (members.map memberText) ++ ['\x7d']

def isBlank (char : Char) : Bool := char == ' ' || char == '\t' || char == '\n' || char == '\r'

def skipBlank (text : Text) : Text := text.dropWhile isBlank

def intMaxStrDigits : Nat := 4300

def constants : List (Text × Value) :=
  [("null".toList, .null), ("true".toList, .bool true), ("false".toList, .bool false),
   ("NaN".toList, .float (0.0 / 0.0)), ("Infinity".toList, .float (1.0 / 0.0)),
   ("-Infinity".toList, .float (-1.0 / 0.0))]

def scanConstant (text : Text) : Option (Value × Text) :=
  constants.findSome? fun constant =>
    if constant.1.isPrefixOf text then some (constant.2, text.drop constant.1.length) else none

def scanFraction : Text → Option (Text × Text)
  | '.' :: rest =>
    match rest.takeWhile Char.isDigit with
    | [] => none
    | digits => some (digits, rest.dropWhile Char.isDigit)
  | _ => none

def scanExponent (text : Text) : Option (Int × Text) :=
  match text with
  | mark :: rest =>
    if mark == 'e' || mark == 'E' then
      let (sign, rest) : Int × Text := match rest with
        | '-' :: rest => (-1, rest)
        | '+' :: rest => (1, rest)
        | rest => (1, rest)
      match rest.takeWhile Char.isDigit with
      | [] => none
      | digits => some (sign * Nat.ofDigitChars 10 digits 0, rest.dropWhile Char.isDigit)
    else none
  | [] => none

def scanDigits (text : Text) : Option (Text × Text) :=
  match text with
  | '0' :: rest => some (['0'], rest)
  | _ =>
    match text.takeWhile Char.isDigit with
    | [] => none
    | digits => some (digits, text.dropWhile Char.isDigit)

def decimal (negative : Bool) (digits : Text) (exponent : Int) : Float :=
  let magnitude := Float.ofScientific (Nat.ofDigitChars 10 digits 0) (exponent < 0) exponent.natAbs
  if negative then -magnitude else magnitude

def scanNumber (text : Text) : Option (Value × Text) :=
  let negative := text.head? == some '-'
  match scanDigits (if negative then text.tail else text) with
  | none => none
  | some (whole, rest) =>
    match scanFraction rest with
    | some (fraction, rest) =>
      match scanExponent rest with
      | some (exponent, rest) =>
        some (.float (decimal negative (whole ++ fraction) (exponent - fraction.length)), rest)
      | none => some (.float (decimal negative (whole ++ fraction) (-fraction.length)), rest)
    | none =>
      match scanExponent rest with
      | some (exponent, rest) => some (.float (decimal negative whole exponent), rest)
      | none =>
        if whole.length ≤ intMaxStrDigits then
          let magnitude : Int := Nat.ofDigitChars 10 whole 0
          some (.int (if negative then -magnitude else magnitude), rest)
        else none

def hexDigit (char : Char) : Option Nat :=
  if char.isDigit then some (char.toNat - '0'.toNat)
  else if 'a' ≤ char && char ≤ 'f' then some (char.toNat - 'a'.toNat + 10)
  else if 'A' ≤ char && char ≤ 'F' then some (char.toNat - 'A'.toNat + 10)
  else none

def scanHex : Text → Option (Nat × Text)
  | a :: b :: c :: d :: rest => do
    return (((← hexDigit a) * 16 + (← hexDigit b)) * 256 + (← hexDigit c) * 16 + (← hexDigit d), rest)
  | _ => none

def scanUnicode (text : Text) : Option (Char × Text) := do
  let (unit, rest) ← scanHex text
  if 0xD800 ≤ unit && unit < 0xDC00 then
    match rest with
    | '\\' :: 'u' :: after =>
      match scanHex after with
      | some (second, final) =>
        if 0xDC00 ≤ second && second < 0xE000 then
          return (Char.ofNat (0x10000 + (unit - 0xD800) * 0x400 + (second - 0xDC00)), final)
        else return ('\uFFFD', rest)
      | none => return ('\uFFFD', rest)
    | _ => return ('\uFFFD', rest)
  else if 0xDC00 ≤ unit && unit < 0xE000 then return ('\uFFFD', rest)
  else return (Char.ofNat unit, rest)

def escaped : Char → Option Char
  | '"' => some '"'
  | '\\' => some '\\'
  | '/' => some '/'
  | 'b' => some '\x08'
  | 'f' => some '\x0c'
  | 'n' => some '\n'
  | 'r' => some '\r'
  | 't' => some '\t'
  | _ => none

def scanString : Nat → Text → Option (Text × Text)
  | 0, _ => none
  | fuel + 1, text =>
    match text with
    | [] => none
    | '"' :: rest => some ([], rest)
    | '\\' :: 'u' :: rest => do
      let (char, rest) ← scanUnicode rest
      let (chars, rest) ← scanString fuel rest
      return (char :: chars, rest)
    | '\\' :: mark :: rest => do
      let char ← escaped mark
      let (chars, rest) ← scanString fuel rest
      return (char :: chars, rest)
    | char :: rest =>
      if char == '\\' || char < ' ' then none
      else do
        let (chars, rest) ← scanString fuel rest
        return (char :: chars, rest)

mutual

/-- One value at the start of the text. Fuel bounds the nesting and the number of
items, both of which the length of the text bounds. -/
def scanValue : Nat → Text → Option (Value × Text)
  | 0, _ => none
  | fuel + 1, text =>
    match text with
    | '"' :: rest => (scanString text.length rest).map fun (chars, rest) => (.string chars, rest)
    | '\x7b' :: rest =>
      match skipBlank rest with
      | '\x7d' :: rest => some (.object [], rest)
      | rest => (scanMembers fuel rest).map fun (members, rest) => (.object members, rest)
    | '[' :: rest =>
      match skipBlank rest with
      | ']' :: rest => some (.array [], rest)
      | rest => (scanItems fuel rest).map fun (items, rest) => (.array items, rest)
    | _ => (scanConstant text).or (scanNumber text)

def scanItems : Nat → Text → Option (List Value × Text)
  | 0, _ => none
  | fuel + 1, text =>
    match scanValue fuel text with
    | none => none
    | some (item, rest) =>
      match skipBlank rest with
      | ']' :: rest => some ([item], rest)
      | ',' :: rest => (scanItems fuel (skipBlank rest)).map fun (items, rest) => (item :: items, rest)
      | _ => none

def scanMembers : Nat → Text → Option (List (Text × Value) × Text)
  | 0, _ => none
  | fuel + 1, text =>
    match text with
    | '"' :: rest =>
      match scanString text.length rest with
      | none => none
      | some (key, rest) =>
        match skipBlank rest with
        | ':' :: rest =>
          match scanValue fuel (skipBlank rest) with
          | none => none
          | some (value, rest) =>
            match skipBlank rest with
            | '\x7d' :: rest => some ([(key, value)], rest)
            | ',' :: rest =>
              (scanMembers fuel (skipBlank rest)).map fun (members, rest) => ((key, value) :: members, rest)
            | _ => none
        | _ => none
    | _ => none

end

/-- `json.loads`: one value, with blanks around it and nothing else. -/
def loads (text : Text) : Option Value :=
  match scanValue (text.length + 1) (skipBlank text) with
  | some (value, rest) => if (skipBlank rest).isEmpty then some value else none
  | none => none

end Dionysus.Json
