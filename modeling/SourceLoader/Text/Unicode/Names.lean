import SourceLoader.Text.Unicode.Names.Part1
import SourceLoader.Text.Unicode.Names.Part2
import SourceLoader.Text.Unicode.Names.Part3
import SourceLoader.Text.Unicode.Names.Part4
import SourceLoader.Text.Unicode.Ranges

/-!
# Names of characters

The code point that a character name stands for. Most names are listed; those of ideographs
carry the code point themselves, and those of Hangul syllables are spelt from their letters.
-/

namespace SourceLoader.Text.Unicode

/-- The listed names, in parts. -/
def nameParts : List String :=
  [namesPart1, namesPart2, namesPart3, namesPart4]

/-- Looks for a name in lines of the form of the listing. `code` and `words` belong to the
line before. -/
def findName (name : List String) (code : Nat) (words : List String) :
    List String → Option Nat × Nat × List String
  | [] => (none, code, words)
  | line :: rest =>
    match line.splitOn ":" with
    | [number, entry] =>
      let code := if number.isEmpty then code + 1 else ofHex number
      let shared := ((entry.toList.head?).map fun c => c.toNat - '0'.toNat).getD 0
      let own := (String.ofList (entry.toList.drop 1)).splitOn " "
      let words := words.take shared ++ own
      if words = name then (some code, code, words) else findName name code words rest
    | _ => findName name code words rest

/-- Looks for a name in one part of the listing after the other. -/
def findInParts (name : List String) (code : Nat) (words : List String) :
    List String → Option Nat
  | [] => none
  | part :: rest =>
    match findName name code words (part.splitOn "\n") with
    | (some found, _, _) => some found
    | (none, code, words) => findInParts name code words rest

/-- Ideographs whose names end in their code point: the stem of the names and the ranges. -/
def ideographs : List (String × List (Nat × Nat)) := [
  ("CJK UNIFIED IDEOGRAPH-", [(0x3400, 0x4DBF), (0x4E00, 0x9FFF), (0x20000, 0x2A6DF),
        (0x2A700, 0x2B738), (0x2B740, 0x2B81D), (0x2B820, 0x2CEA1), (0x2CEB0, 0x2EBE0),
        (0x30000, 0x3134A)]),
  ("CJK COMPATIBILITY IDEOGRAPH-", [(0xF900, 0xFA6D), (0xFA70, 0xFAD9), (0x2F800, 0x2FA1D)]),
  ("TANGUT IDEOGRAPH-", []),
  ("NUSHU CHARACTER-", [(0x1B170, 0x1B2FB)]),
  ("KHITAN SMALL SCRIPT CHARACTER-", [(0x18B00, 0x18CD5)])]

/-- The code point of an ideograph. -/
def ideograph? (name : String) : Option Nat :=
  ideographs.findSome? fun (stem, ranges) =>
    if name.startsWith stem then
      let digits := String.ofList (name.toList.drop stem.length)
      let code := ofHex digits
      let canonical := digits.toList.all (fun c => (hexDigit? c).isSome)
        && (digits.length = 4 || digits.length = 5 && !digits.startsWith "0")
      if canonical && ranges.any fun (low, high) => low ≤ code && code ≤ high then some code
      else none
    else none

/-- Leading consonants of Hangul syllables. -/
def hangulLeads : List String :=
  ["G", "GG", "N", "D", "DD", "R", "M", "B", "BB", "S", "SS", "", "J", "JJ", "C", "K", "T",
    "P", "H"]

/-- Vowels of Hangul syllables. -/
def hangulVowels : List String :=
  ["A", "AE", "YA", "YAE", "EO", "E", "YEO", "YE", "O", "WA", "WAE", "OE", "YO", "U", "WEO",
    "WE", "WI", "YU", "EU", "YI", "I"]

/-- Final consonants of Hangul syllables. -/
def hangulFinals : List String :=
  ["", "G", "GG", "GS", "N", "NJ", "NH", "D", "L", "LG", "LM", "LB", "LS", "LT", "LP", "LH",
    "M", "B", "BS", "S", "SS", "NG", "J", "C", "K", "T", "P", "H"]

/-- The longest of the spellings that `word` begins with, with its index. -/
def longestSpelling (spellings : List String) (word : String) : Option (Nat × Nat) :=
  (spellings.zipIdx).foldl (fun best (s, i) =>
    if word.startsWith s then
      match best with
      | some (_, length) => if length < s.length then some (i, s.length) else best
      | none => some (i, s.length)
    else best) none

/-- The code point of a Hangul syllable, from the spelling of its letters. -/
def hangul? (spelling : String) : Option Nat := do
  let (l, n) ← longestSpelling hangulLeads spelling
  let rest := String.ofList (spelling.toList.drop n)
  let (v, m) ← longestSpelling hangulVowels rest
  if m = 0 then none
  else
    let last := String.ofList (rest.toList.drop m)
    let t ← hangulFinals.findIdx? (· = last)
    return 0xAC00 + (l * 21 + v) * 28 + t

/-- The code point with this name; small letters count as capitals. -/
def codePointOfName? (name : String) : Option Nat :=
  let name := String.ofList (name.toList.map Char.toUpper)
  match ideograph? name with
  | some code => some code
  | none =>
    if name.startsWith "HANGUL SYLLABLE " then
      hangul? (String.ofList (name.toList.drop 16))
    else findInParts (name.splitOn " ") 0 [] nameParts

end SourceLoader.Text.Unicode
