import SourceLoader.Failure
import SourceLoader.Md5

/-!
# Fingerprints

The key under which a value is cached: the first digits of the digest of some values, one after
the other. A text stands for itself, any other value for its compact JSON text.
-/

namespace SourceLoader

namespace Fingerprint

/-- Hexadecimal digits of a fingerprint. -/
def length : Nat := 8

/-- The text that a value adds to the digest. -/
def part : Data → Except Failure String
  | .text s => .ok s
  | d =>
    match Json.write .compact d with
    | .ok s => .ok s
    | .error obstacle => .error (.unwritable obstacle)

/-- All that is digested. -/
def message (values : List Data) : Except Failure String := do
  return String.join (← values.mapM part)

/-- The first digits of the digest of a text. -/
def ofText (s : String) : String :=
  let digits := (Md5.digest s.toUTF8.toList).map fun b => Text.hex 2 b.toNat
  String.ofList ((String.join digits).toList.take length)

end Fingerprint

/-- The fingerprint of some values. -/
def fingerprint (values : List Data) : Except Failure String := do
  return Fingerprint.ofText (← Fingerprint.message values)

end SourceLoader
