import SourceLoader.Text.Unicode.Normal
import SourceLoader.Text.Unicode.Identifier

/-!
# Texts of code points

The value of a string literal is a list of code points: an escape may name a lone surrogate,
which no `Char` can be. Everything else in the library is a `String`.
-/

namespace SourceLoader

/-- A code point: a number below 0x110000, surrogates included. -/
abbrev CodePoint := Nat

/-- The value of a string literal. -/
abbrev Text := List CodePoint

namespace Text

/-- Is `c` half of a surrogate pair? -/
def isSurrogate (c : CodePoint) : Bool := 0xD800 ≤ c && c ≤ 0xDFFF

/-- The code points of a string. -/
def ofString (s : String) : Text := s.toList.map Char.toNat

/-- The string of a text; a lone surrogate becomes the replacement character. -/
def toString (t : Text) : String :=
  String.ofList (t.map fun c => if isSurrogate c then '\uFFFD' else Char.ofNat c)

/-- A character is no half of a surrogate pair. -/
theorem not_isSurrogate (c : Char) : isSurrogate c.toNat = false := by
  have hvalid := c.valid
  simp only [UInt32.isValidChar, Nat.isValidChar] at hvalid
  simp only [isSurrogate, Char.toNat, Bool.and_eq_false_iff, decide_eq_false_iff_not]
  exact hvalid.imp (Nat.not_le.mpr ·) (Nat.not_le.mpr ·.1)

@[simp] theorem toString_ofString (s : String) : toString (ofString s) = s := by
  have hchars : (ofString s).map (fun c => if isSurrogate c then '\uFFFD' else Char.ofNat c) =
      s.toList := by
    simp [ofString, Function.comp_def, not_isSurrogate]
  rw [toString, hchars, String.ofList_toList]

/-- May the string stand as a name? -/
def isName (s : String) : Bool :=
  match s.toList with
  | [] => false
  | c :: rest => Unicode.isNameStart c.toNat && rest.all fun d => Unicode.isNameContinue d.toNat

/-- A name in the form in which names are compared. -/
def normalizeName (s : String) : String :=
  if s.toList.all fun c => c.toNat < 128 then s
  else String.ofList ((Unicode.normalize (ofString s)).map Char.ofNat)

end Text

end SourceLoader
