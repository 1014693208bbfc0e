import Std.Data.HashMap
import SourceLoader.Text.Unicode.NormalData
import SourceLoader.Text.Unicode.Ranges

/-!
# Normalisation form KC

Names are compared in normalisation form KC: every character is replaced by its full
compatibility decomposition, combining marks are sorted by class, and what remains is composed
again from left to right.

Nothing but names is normalised. No character of a name decomposes into what cannot stand in a name,
so entries of the tables that yield such characters, as that of the ellipsis does, are passed over.
-/

namespace SourceLoader.Text.Unicode

/-- First Hangul syllable. -/
def hangulBase : Nat := 0xAC00

/-- Number of Hangul syllables. -/
def hangulCount : Nat := 11172

/-- Decompositions by code point. -/
def decompositions : Std.HashMap Nat (List Nat) :=
  (mappingOfText decompositionText).foldl (fun m (k, v) => m.insert k v) ∅

/-- Composites by the pair that they are made of. -/
def compositions : Std.HashMap (Nat × Nat) Nat :=
  (words compositionText).foldl (fun m word =>
    match word.splitOn "=" with
    | [pair, value] =>
      match pair.splitOn "+" with
      | [a, b] => m.insert (ofHex a, ofHex b) (ofHex value)
      | _ => m
    | _ => m) ∅

/-- Ranges of code points with their combining class. -/
def combiningRanges : Array (Nat × Nat × Nat) :=
  ((words combiningText).filterMap fun word =>
    match word.splitOn "=" with
    | [range, cls] =>
      match range.splitOn "-" with
      | [low, high] => some (ofHex low, ofHex high, ofHex cls)
      | _ => none
    | _ => none).toArray

/-- The combining class of `c`, zero for a starter. -/
def combiningClass (c : Nat) : Nat :=
  match combiningRanges.find? fun (low, high, _) => low ≤ c && c ≤ high with
  | some (_, _, cls) => cls
  | none => 0

/-- Can `c` stand in a name? Beyond ASCII this rules out nothing. -/
def isNamePart (c : Nat) : Bool :=
  128 ≤ c || c = 0x5F || (0x30 ≤ c && c ≤ 0x39) || (0x41 ≤ c && c ≤ 0x5A) || (0x61 ≤ c && c ≤ 0x7A)

/-- The full compatibility decomposition of one code point. -/
def decompose (c : Nat) : List Nat :=
  if hangulBase ≤ c ∧ c < hangulBase + hangulCount then
    let index := c - hangulBase
    let lead := 0x1100 + index / 588
    let vowel := 0x1161 + index % 588 / 28
    if index % 28 = 0 then [lead, vowel] else [lead, vowel, 0x11A7 + index % 28]
  else ((decompositions.get? c).filter fun parts => parts.all isNamePart).getD [c]

/-- Puts a mark behind the marks of the same or a lower class. -/
def insertMark (c : Nat) : List Nat → List Nat
  | [] => [c]
  | d :: rest =>
    if combiningClass d ≤ combiningClass c then d :: insertMark c rest else c :: d :: rest

/-- Sorts each run of combining marks by class, keeping the order within a class. `marks` is
the sorted run in hand. -/
def sortMarks (marks : List Nat) : List Nat → List Nat
  | [] => marks
  | c :: rest =>
    if combiningClass c = 0 then marks ++ c :: sortMarks [] rest
    else sortMarks (insertMark c marks) rest

/-- The composite of two code points, if there is one. -/
def composite? (a b : Nat) : Option Nat :=
  if 0x1100 ≤ a ∧ a < 0x1113 ∧ 0x1161 ≤ b ∧ b < 0x1176 then
    some (hangulBase + ((a - 0x1100) * 21 + (b - 0x1161)) * 28)
  else if hangulBase ≤ a ∧ a < hangulBase + hangulCount ∧ (a - hangulBase) % 28 = 0
      ∧ 0x11A7 < b ∧ b < 0x11C3 then
    some (a + (b - 0x11A7))
  else (compositions.get? (a, b)).filter isNamePart

/-- Composes what follows a starter. `marks` are the marks that stayed apart, last one first. -/
def composeFrom (starter : Nat) (marks : List Nat) : List Nat → List Nat
  | [] => starter :: marks.reverse
  | c :: rest =>
    let blocked := match marks with
      | [] => false
      | m :: _ => combiningClass m = 0 || combiningClass m ≥ combiningClass c
    match if blocked then none else composite? starter c with
    | some whole => composeFrom whole marks rest
    | none =>
      if combiningClass c = 0 then starter :: marks.reverse ++ composeFrom c [] rest
      else composeFrom starter (c :: marks) rest

/-- Composes a sorted decomposition. -/
def compose : List Nat → List Nat
  | [] => []
  | c :: rest =>
    if combiningClass c = 0 then composeFrom c [] rest else c :: compose rest

/-- Normalisation form KC. -/
def normalize (text : List Nat) : List Nat :=
  compose (sortMarks [] (text.flatMap decompose))

end SourceLoader.Text.Unicode
