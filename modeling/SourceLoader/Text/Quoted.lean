import SourceLoader.Text.CodePoint
import SourceLoader.Text.Unicode.Printable

/-!
# Quoted texts

How a text or a byte string is written as a literal. Characters that cannot be shown are
escaped, and a text is set in single quotes unless it holds some and no double quotes.
-/

namespace SourceLoader.Text

/-- The lower-case hexadecimal digits of a number, at least `width` of them. -/
def hex (width n : Nat) : String :=
  let digits := Nat.toDigits 16 n
  String.ofList (List.replicate (width - digits.length) '0' ++ digits)

/-- The escape of a character. -/
def escaped (c : CodePoint) : String :=
  if c = 92 then "\\\\"
  else if c = 9 then "\\t"
  else if c = 10 then "\\n"
  else if c = 13 then "\\r"
  else if c ≤ 0xFF then "\\x" ++ hex 2 c
  else if c ≤ 0xFFFF then "\\u" ++ hex 4 c
  else "\\U" ++ hex 8 c

/-- A character between quotes other than itself. -/
def shown (c : CodePoint) : String :=
  if c = 92 || !Unicode.isPrintable c then escaped c else String.singleton (Char.ofNat c)

/-- The quote that a text is set in. -/
def quoteFor (t : Text) : Char :=
  if t.contains 39 && !t.contains 34 then '"' else '\''

/-- What stands between the quotes of a text. -/
def quotedBody (t : Text) : String :=
  let quote := quoteFor t
  String.join (t.map fun c =>
    if c = quote.toNat then "\\" ++ String.singleton quote else shown c)

/-- A text as a literal. -/
def quoted (t : Text) : String :=
  let quote := String.singleton (quoteFor t)
  quote ++ quotedBody t ++ quote

/-- A byte between quotes other than itself. -/
def shownByte (b : UInt8) : String :=
  let c := b.toNat
  if c = 92 || c = 9 || c = 10 || c = 13 then escaped c
  else if c < 32 || c ≥ 127 then "\\x" ++ hex 2 c
  else String.singleton (Char.ofNat c)

/-- A byte string as a literal. -/
def quotedBytes (bytes : List UInt8) : String :=
  let quote := if bytes.contains 39 && !bytes.contains 34 then '"' else '\''
  let body := String.join (bytes.map fun b =>
    if b.toNat = quote.toNat then "\\" ++ String.singleton quote else shownByte b)
  "b" ++ String.singleton quote ++ body ++ String.singleton quote

end SourceLoader.Text
