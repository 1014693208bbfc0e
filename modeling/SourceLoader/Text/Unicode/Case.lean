import Std.Data.HashMap
import SourceLoader.Text.Unicode.CaseData
import SourceLoader.Text.Unicode.Ranges

/-!
# Letter case

Full case mappings, character by character: one character may become several.
-/

namespace SourceLoader.Text.Unicode

/-- Upper-case forms by code point. -/
def upperForms : Std.HashMap Nat (List Nat) :=
  (mappingOfText upperText).foldl (fun m (k, v) => m.insert k v) ∅

/-- Lower-case forms by code point. -/
def lowerForms : Std.HashMap Nat (List Nat) :=
  (mappingOfText lowerText).foldl (fun m (k, v) => m.insert k v) ∅

/-- The text of some code points. -/
def stringOf (points : List Nat) : String :=
  String.ofList (points.map Char.ofNat)

/-- The text in upper case. -/
def upper (s : String) : String :=
  String.join (s.toList.map fun c =>
    match upperForms.get? c.toNat with
    | some points => stringOf points
    | none => String.singleton c)

/-- The text in lower case. -/
def lower (s : String) : String :=
  String.join (s.toList.map fun c =>
    match lowerForms.get? c.toNat with
    | some points => stringOf points
    | none => String.singleton c)

end SourceLoader.Text.Unicode
