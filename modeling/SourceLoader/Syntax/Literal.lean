import SourceLoader.Syntax.Fault
import SourceLoader.Syntax.Tree
import SourceLoader.Text.Unicode.Names

/-!
# String literals

A string literal is its prefix letters, its quotes and what stands between them. Escapes are
resolved here; replacement fields are left to the grammar.
-/

namespace SourceLoader

/-- A string literal cut into its parts. -/
structure Literal where
  isBytes : Bool
  isRaw : Bool
  isFormatted : Bool
  /-- Written with a small `u` in front. -/
  isUnicode : Bool
  /-- Characters before the body. -/
  lead : List Char
  body : List Char
deriving Repr

namespace Literal

/-- Cuts the text of a string token into its parts. -/
def ofToken (text : String) : Literal :=
  let cs := text.toList
  let letters := cs.takeWhile fun c => c ≠ '"' && c ≠ '\''
  let quoted := cs.drop letters.length
  let has (c d : Char) := letters.any fun l => l = c || l = d
  let size := match quoted with
    | a :: b :: c :: _ => if quoted.length ≥ 6 && a = b && b = c then 3 else 1
    | _ => 1
  { isBytes := has 'b' 'B', isRaw := has 'r' 'R', isFormatted := has 'f' 'F',
    isUnicode := letters.head? = some 'u', lead := cs.take (letters.length + size),
    body := (quoted.drop size).take (quoted.length - 2 * size) }

/-- Why an escape cannot be resolved. -/
inductive EscapeError where
  | text (first last : Nat) (reason : String)
  | bytes (position : Nat)

namespace EscapeError

/-- The fault that reports the error. -/
def fault : EscapeError → Fault
  | .text first last reason =>
    if last = first then .unicodeEscapeByte first reason else .unicodeEscape first last reason
  | .bytes position => .byteEscape position

end EscapeError

/-- The hexadecimal digits of `n`, `width` of them. -/
def hexOf (width n : Nat) : List Char :=
  let digits := Nat.toDigits 16 n
  List.replicate (width - digits.length) '0' ++ digits

/-- Writes every character beyond ASCII as an escape of ten characters, and a backslash in
front of one, or at the end, as an escape of its own. Positions in messages count the
characters of this form. -/
def toAscii : List Char → List Char
  | [] => []
  | ['\\'] => "\\u005c".toList
  | '\\' :: c :: rest =>
    if c.toNat ≥ 128 then "\\u005c".toList ++ '\\' :: 'U' :: hexOf 8 c.toNat ++ toAscii rest
    else '\\' :: c :: toAscii rest
  | c :: rest =>
    if c.toNat ≥ 128 then '\\' :: 'U' :: hexOf 8 c.toNat ++ toAscii rest
    else c :: toAscii rest

/-- Resolved escapes: the value and the first backslash that begins no escape. -/
structure Resolved (α : Type) where
  value : List α
  invalid : Option Char := none

/-- Puts a value in front. -/
def Resolved.push {α : Type} (a : α) (r : Resolved α) : Resolved α :=
  { r with value := a :: r.value }

/-- The values of escapes of one letter. -/
def simpleEscape? : Char → Option Nat
  | '\\' => some 0x5C
  | '\'' => some 0x27
  | '"' => some 0x22
  | 'b' => some 8
  | 'f' => some 12
  | 't' => some 9
  | 'n' => some 10
  | 'r' => some 13
  | 'v' => some 11
  | 'a' => some 7
  | _ => none

/-- Is `c` an octal digit? -/
def isOctal (c : Char) : Bool := '0' ≤ c && c ≤ '7'

/-- The leading octal digits, three at most. -/
def octalDigits (cs : List Char) : List Char := (cs.take 3).takeWhile isOctal

/-- The leading hexadecimal digits, `n` at most. -/
def hexDigits (n : Nat) (cs : List Char) : List Char :=
  (cs.take n).takeWhile fun c => (Text.Unicode.hexDigit? c).isSome

/-- The number that digits of a base denote. -/
def digitsValue (base : Nat) (cs : List Char) : Nat :=
  cs.foldl (fun n c => n * base + (Text.Unicode.hexDigit? c).getD 0) 0

/-- How many digits an escape that is opened by `c` has, and what it is called. -/
def hexEscape? : Char → Option (Nat × String)
  | 'x' => some (2, "truncated \\xXX escape")
  | 'u' => some (4, "truncated \\uXXXX escape")
  | 'U' => some (8, "truncated \\UXXXXXXXX escape")
  | _ => none

/-- Resolves the escapes of a text in the form of `toAscii`. `at` is the position of the next
character; every escape uses up fuel. -/
def resolveText : Nat → Nat → List Char → Except EscapeError (Resolved CodePoint)
  | 0, _, _ => .ok ⟨[], none⟩
  | _ + 1, _, [] => .ok ⟨[], none⟩
  | _ + 1, pos, ['\\'] => .error (.text pos pos "\\ at end of string")
  | fuel + 1, pos, '\\' :: c :: rest =>
    if c = '\n' then resolveText fuel (pos + 2) rest
    else if let some v := simpleEscape? c then
      (resolveText fuel (pos + 2) rest).map (·.push v)
    else if isOctal c then
      let digits := octalDigits (c :: rest)
      (resolveText fuel (pos + 1 + digits.length) (rest.drop (digits.length - 1))).map
        (·.push (digitsValue 8 digits))
    else if let some (count, reason) := hexEscape? c then
      let digits := hexDigits count rest
      if digits.length < count then .error (.text pos (pos + 1 + digits.length) reason)
      else
        let v := digitsValue 16 digits
        if v > 0x10FFFF then
          .error (.text pos (pos + 1 + count) "illegal Unicode character")
        else (resolveText fuel (pos + 2 + count) (rest.drop count)).map (·.push v)
    else if c = 'N' then
      let malformed := "malformed \\N character escape"
      match rest with
      | '\x7b' :: more =>
        let name := more.takeWhile fun d => d ≠ '\x7d'
        let behind := more.drop name.length
        match behind with
        | [] => .error (.text pos (pos + 2 + name.length) malformed)
        | _ :: behind =>
          if name.isEmpty then .error (.text pos (pos + 2) malformed)
          else
            match Text.Unicode.codePointOfName? (String.ofList name) with
            | some v => (resolveText fuel (pos + 4 + name.length) behind).map (·.push v)
            | none =>
              .error (.text pos (pos + 3 + name.length) "unknown Unicode character name")
      | _ => .error (.text pos (pos + 1) malformed)
    else
      (resolveText fuel (pos + 2) rest).map fun r =>
        { value := 0x5C :: c.toNat :: r.value, invalid := some c }
  | fuel + 1, pos, c :: rest => (resolveText fuel (pos + 1) rest).map (·.push c.toNat)

/-- The value of a text with escapes. -/
def decodeText (cs : List Char) : Except EscapeError (Resolved CodePoint) :=
  let ascii := toAscii cs
  resolveText (ascii.length + 1) 0 ascii

/-- Resolves the escapes of a byte string. -/
def resolveBytes : Nat → Nat → List Char → Except EscapeError (Resolved UInt8)
  | 0, _, _ => .ok ⟨[], none⟩
  | _ + 1, _, [] => .ok ⟨[], none⟩
  | _ + 1, _, ['\\'] => .ok ⟨[], none⟩
  | fuel + 1, pos, '\\' :: c :: rest =>
    if c = '\n' then resolveBytes fuel (pos + 2) rest
    else if let some v := simpleEscape? c then
      (resolveBytes fuel (pos + 2) rest).map (·.push v.toUInt8)
    else if isOctal c then
      let digits := octalDigits (c :: rest)
      (resolveBytes fuel (pos + 1 + digits.length) (rest.drop (digits.length - 1))).map
        (·.push (digitsValue 8 digits).toUInt8)
    else if c = 'x' then
      let digits := hexDigits 2 rest
      if digits.length < 2 then .error (.bytes pos)
      else
        (resolveBytes fuel (pos + 4) (rest.drop 2)).map
          (·.push (digitsValue 16 digits).toUInt8)
    else
      (resolveBytes fuel (pos + 2) rest).map fun r =>
        { value := 0x5C :: c.toNat.toUInt8 :: r.value, invalid := some c }
  | fuel + 1, pos, c :: rest => (resolveBytes fuel (pos + 1) rest).map (·.push c.toNat.toUInt8)

/-- The value of a byte string with escapes. -/
def decodeBytes (cs : List Char) : Except EscapeError (Resolved UInt8) :=
  resolveBytes (cs.length + 1) 0 cs

end Literal

end SourceLoader
