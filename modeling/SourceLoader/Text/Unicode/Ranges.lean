/-!
# Sets of code points

A property of characters is kept as the list of its ranges, in ascending order, and written
as text: hexadecimal bounds, a hyphen between them, blanks between ranges.
-/

namespace SourceLoader.Text.Unicode

/-- The value of a hexadecimal digit. -/
def hexDigit? (c : Char) : Option Nat :=
  if '0' ≤ c ∧ c ≤ '9' then some (c.toNat - '0'.toNat)
  else if 'a' ≤ c ∧ c ≤ 'f' then some (c.toNat - 'a'.toNat + 10)
  else if 'A' ≤ c ∧ c ≤ 'F' then some (c.toNat - 'A'.toNat + 10)
  else none

/-- The number that hexadecimal digits denote; other characters count as zero. -/
def ofHex (s : String) : Nat :=
  s.foldl (fun n c => 16 * n + (hexDigit? c).getD 0) 0

/-- The words of a text, cut at blanks and line ends. -/
def words (text : String) : List String :=
  ((text.replace "\n" " ").splitOn " ").filter fun word => word ≠ ""

/-- Ascending, disjoint ranges of code points, both ends included. -/
structure Ranges where
  bounds : Array (Nat × Nat)

namespace Ranges

/-- Reads ranges from their text. -/
def ofText (text : String) : Ranges :=
  ⟨((words text).map fun word =>
    match word.splitOn "-" with
    | [low, high] => (ofHex low, ofHex high)
    | _ => (ofHex word, ofHex word)).toArray⟩

/-- Is `c` in one of the ranges? -/
def contains (ranges : Ranges) (c : Nat) : Bool :=
  ranges.bounds.any fun (low, high) => low ≤ c && c ≤ high

end Ranges

/-- Reads a table whose entries are `key=value+value+…`, all hexadecimal. -/
def mappingOfText (text : String) : Array (Nat × List Nat) :=
  ((words text).filterMap fun word =>
    match word.splitOn "=" with
    | [key, values] => some (ofHex key, (values.splitOn "+").map ofHex)
    | _ => none).toArray

end SourceLoader.Text.Unicode
