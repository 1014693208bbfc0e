import SourceLoader.Data
import SourceLoader.Number.Reading

/-!
# Reading JSON

A JSON text is read as a value. Besides the standard forms, `NaN`, `Infinity` and `-Infinity`
are read. Control characters inside of texts are refused. What is wrong with a text is told
with the place where it is.

All readers take the characters that are left and the place of the first of them, and yield
the value with what is left after it.
-/

namespace SourceLoader.Json

/-- What is wrong with a JSON text. -/
inductive Flaw where
  | byteOrderMark
  | expectedValue
  | expectedName
  | expectedColon
  | expectedComma
  | unterminatedText
  | controlCharacter
  | badEscape
  | badUnicodeEscape
  | extraData
deriving DecidableEq, Repr

/-- The wording of a flaw. -/
def Flaw.message : Flaw → String
  | .byteOrderMark => "Unexpected UTF-8 BOM (decode using utf-8-sig)"
  | .expectedValue => "Expecting value"
  | .expectedName => "Expecting property name enclosed in double quotes"
  | .expectedColon => "Expecting ':' delimiter"
  | .expectedComma => "Expecting ',' delimiter"
  | .unterminatedText => "Unterminated string starting at"
  | .controlCharacter => "Invalid control character at"
  | .badEscape => "Invalid \\escape"
  | .badUnicodeEscape => "Invalid \\uXXXX escape"
  | .extraData => "Extra data"

/-- Why a text is not read. -/
inductive Rejection where
  /-- The text has a flaw at a place. -/
  | flawed (flaw : Flaw) (place : Nat)
  /-- An integer has too many digits. -/
  | hugeInteger (digits : Nat)
deriving DecidableEq, Repr

/-- The wording of a rejection of `text`. Lines and columns count from one. -/
def Rejection.message (text : String) : Rejection → String
  | .flawed flaw place =>
    let before := text.toList.take place
    let line := before.count '\n' + 1
    let column := (before.reverse.takeWhile (· ≠ '\n')).length + 1
    s!"{flaw.message}: line {line} column {column} (char {place})"
  | .hugeInteger digits =>
    s!"Exceeds the limit (4300 digits) for integer string conversion: value has {digits} digits; "
      ++ "use sys.set_int_max_str_digits() to increase the limit"

/-- Characters that are left, and the place of the first one. -/
structure Rest where
  chars : List Char
  place : Nat

/-- A reader. -/
abbrev Reader (α : Type) := Rest → Except Rejection (α × Rest)

/-- Is `c` a blank between tokens? -/
def isBlank (c : Char) : Bool := c = ' ' || c = '\t' || c = '\n' || c = '\r'

namespace Rest

/-- What is left after `n` characters. -/
def drop (r : Rest) (n : Nat) : Rest := ⟨r.chars.drop n, r.place + n⟩

/-- What is left after blanks. -/
def skipBlanks (r : Rest) : Rest := r.drop (r.chars.takeWhile isBlank).length

/-- The rejection that `flaw` stands at the first character left. -/
def refuse {α : Type} (r : Rest) (flaw : Flaw) : Except Rejection α :=
  .error (.flawed flaw r.place)

end Rest

/-! ## Texts -/

/-- The value of four hexadecimal digits. -/
def unit? (cs : List Char) : Option Nat :=
  if cs.length = 4 && cs.all (fun c => (Text.Unicode.hexDigit? c).isSome) then
    some (Number.ofDigits 16 cs)
  else none

/-- The character of a UTF-16 unit, or the replacement character for half of a pair. -/
def charOfUnit (unit : Nat) : Char :=
  if Text.isSurrogate unit then '\uFFFD' else Char.ofNat unit

/-- What a letter after a backslash stands for. -/
def plainEscape? : Char → Option Char
  | '"' => some '"'
  | '\\' => some '\\'
  | '/' => some '/'
  | 'b' => some '\x08'
  | 'f' => some '\x0c'
  | 'n' => some '\n'
  | 'r' => some '\r'
  | 't' => some '\t'
  | _ => none

/-- An escape of the form `uXXXX`; `r` stands after the letter. The digits must not end the
text. Two halves of a pair are one character. -/
def readUnit (r : Rest) : Except Rejection (Char × Rest) :=
  if r.chars.length ≤ 4 then .error (.flawed .badUnicodeEscape (r.place - 1))
  else
    match unit? (r.chars.take 4) with
    | none => .error (.flawed .badUnicodeEscape (r.place - 1))
    | some first =>
      let after := r.drop 4
      let lone : Except Rejection (Char × Rest) := .ok (charOfUnit first, after)
      match after.chars with
      | '\\' :: 'u' :: rest =>
        if 0xD800 ≤ first && first ≤ 0xDBFF && rest.length > 4 then
          match unit? (rest.take 4) with
          | none => .error (.flawed .badUnicodeEscape (after.place + 1))
          | some second =>
            if 0xDC00 ≤ second && second ≤ 0xDFFF then
              .ok (Char.ofNat (0x10000 + (first - 0xD800) * 0x400 + (second - 0xDC00)),
                after.drop 6)
            else lone
        else lone
      | _ => lone

/-- A text whose opening quote stands at `start`; `read` holds its characters so far, last one
first. -/
def readText (start : Nat) : Nat → List Char → Reader String
  | 0, _, _ => .error (.flawed .unterminatedText start)
  | fuel + 1, read, r =>
    match r.chars with
    | [] => .error (.flawed .unterminatedText start)
    | '"' :: _ => .ok (String.ofList read.reverse, r.drop 1)
    | '\\' :: [] => .error (.flawed .unterminatedText start)
    | '\\' :: 'u' :: _ =>
      match readUnit (r.drop 2) with
      | .error e => .error e
      | .ok (c, rest) => readText start fuel (c :: read) rest
    | '\\' :: c :: _ =>
      match plainEscape? c with
      | none => r.refuse .badEscape
      | some d => readText start fuel (d :: read) (r.drop 2)
    | c :: _ =>
      if c.toNat < 32 then r.refuse .controlCharacter
      else readText start fuel (c :: read) (r.drop 1)

/-! ## Numbers -/

/-- Length of the digits at the front. -/
def digitCount (cs : List Char) : Nat := (cs.takeWhile Char.isDigit).length

/-- Length of the whole part at the front: one zero, or digits that do not begin with one. -/
def wholeCount : List Char → Nat
  | '0' :: _ => 1
  | cs => digitCount cs

/-- Length of a point with digits at the front. -/
def fractionCount : List Char → Nat
  | '.' :: cs => if digitCount cs = 0 then 0 else 1 + digitCount cs
  | _ => 0

/-- Length of an exponent at the front. -/
def exponentCount : List Char → Nat
  | e :: cs =>
    if e = 'e' || e = 'E' then
      match cs with
      | s :: ds =>
        if s = '+' || s = '-' then (if digitCount ds = 0 then 0 else 2 + digitCount ds)
        else (if digitCount cs = 0 then 0 else 1 + digitCount cs)
      | [] => 0
    else 0
  | [] => 0

/-- A number. -/
def readNumber : Reader Data := fun r =>
  let sign := match r.chars with
    | '-' :: _ => 1
    | _ => 0
  let unsigned := r.chars.drop sign
  let whole := wholeCount unsigned
  if whole = 0 then r.refuse .expectedValue
  else
    let fraction := fractionCount (unsigned.drop whole)
    let exponent := exponentCount (unsigned.drop (whole + fraction))
    let digits := unsigned.take (whole + fraction + exponent)
    let rest := r.drop (sign + digits.length)
    if fraction + exponent = 0 then
      if whole > Number.maxDigits then .error (.hugeInteger whole)
      else
        let n : Int := Number.ofDigits 10 digits
        .ok (.int (if sign = 1 then -n else n), rest)
    else
      let x := Number.ofDecimal digits
      .ok (.float (.ofFloat (if sign = 1 then -x else x)), rest)

/-! ## Values -/

/-- The words that stand for a value. -/
def words : List (String × Data) :=
  [("null", .none), ("true", .bool true), ("false", .bool false),
    ("NaN", .float ⟨0x7FF8000000000000⟩), ("Infinity", .float ⟨0x7FF0000000000000⟩),
    ("-Infinity", .float ⟨0xFFF0000000000000⟩)]

/-- A word or a number. -/
def readPlain : Reader Data := fun r =>
  match words.find? fun w => w.1.toList.isPrefixOf r.chars with
  | some (word, value) => .ok (value, r.drop word.length)
  | none => readNumber r

mutual

/-- A value. -/
def readValue : Nat → Reader Data
  | 0, r => r.refuse .expectedValue
  | fuel + 1, r =>
    match r.chars with
    | '"' :: rest => do
      let (s, after) ← readText r.place (rest.length + 1) [] (r.drop 1)
      return (.text s, after)
    | '{' :: _ =>
      let inner := (r.drop 1).skipBlanks
      match inner.chars with
      | '}' :: _ => .ok (.dict [], inner.drop 1)
      | _ => do
        let (entries, after) ← readMembers fuel [] inner
        return (.dict entries, after)
    | '[' :: _ =>
      let inner := (r.drop 1).skipBlanks
      match inner.chars with
      | ']' :: _ => .ok (.list [], inner.drop 1)
      | _ => do
        let (items, after) ← readItems fuel inner
        return (.list items, after)
    | _ => readPlain r

/-- Items of an array, up to its end. -/
def readItems : Nat → Reader (List Data)
  | 0, r => r.refuse .expectedValue
  | fuel + 1, r => do
    let (first, after) ← readValue fuel r
    let after := after.skipBlanks
    match after.chars with
    | ']' :: _ => return ([first], after.drop 1)
    | ',' :: _ =>
      let (others, rest) ← readItems fuel (after.drop 1).skipBlanks
      return (first :: others, rest)
    | _ => after.refuse .expectedComma

/-- Members of an object, up to its end; `entries` are those before. -/
def readMembers : Nat → List (Data × Data) → Reader (List (Data × Data))
  | 0, _, r => r.refuse .expectedName
  | fuel + 1, entries, r =>
    match r.chars with
    | '"' :: rest => do
      let (name, after) ← readText r.place (rest.length + 1) [] (r.drop 1)
      let after := after.skipBlanks
      match after.chars with
      | ':' :: _ =>
        let (value, after) ← readValue fuel (after.drop 1).skipBlanks
        let entries := Data.insertEntry (.text name) value entries
        let after := after.skipBlanks
        match after.chars with
        | '}' :: _ => return (entries, after.drop 1)
        | ',' :: _ => readMembers fuel entries (after.drop 1).skipBlanks
        | _ => after.refuse .expectedComma
      | _ => after.refuse .expectedColon
    | _ => r.refuse .expectedName

end

/-- Reads a whole JSON text. -/
def read (text : String) : Except Rejection Data :=
  match text.toList with
  | '\uFEFF' :: _ => .error (.flawed .byteOrderMark 0)
  | chars => do
    let start := (Rest.mk chars 0).skipBlanks
    let (value, after) ← readValue (2 * chars.length + 2) start
    let after := after.skipBlanks
    if after.chars.isEmpty then return value else after.refuse .extraData

end SourceLoader.Json
