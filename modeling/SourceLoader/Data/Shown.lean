import SourceLoader.Data
import SourceLoader.Text.Quoted

/-!
# How a value is written

A value has a literal form and a plain form. They differ for texts alone, which stand plainly
without quotes; inside a container everything is in literal form.
-/

namespace SourceLoader.Data

/-- The truth values as written. -/
def boolText (b : Bool) : String := if b then "True" else "False"

mutual

/-- The literal form. -/
def shown : Data → String
  | none => "None"
  | bool b => boolText b
  | int n => toString n
  | float x => Number.textOf x true
  | text s => Text.quoted (Text.ofString s)
  | bytes bs => Text.quotedBytes bs
  | list xs => "[" ++ ", ".intercalate (shownAll xs) ++ "]"
  | tuple [x] => "(" ++ shown x ++ ",)"
  | tuple xs => "(" ++ ", ".intercalate (shownAll xs) ++ ")"
  | dict es => "\x7b" ++ ", ".intercalate (shownEntries es) ++ "\x7d"
  | set [] => "set()"
  | set xs => "\x7b" ++ ", ".intercalate (shownAll xs) ++ "\x7d"
  | «namespace» as => "namespace(" ++ ", ".intercalate (shownAttributes as) ++ ")"
  | module _ => "<module 'host'>"
  | hostModule name => "<module '" ++ name ++ "'>"
  | object => "<object object>"

/-- The literal forms of several values. -/
def shownAll : List Data → List String
  | [] => []
  | x :: xs => shown x :: shownAll xs

/-- The literal forms of entries. -/
def shownEntries : List (Data × Data) → List String
  | [] => []
  | (k, v) :: es => (shown k ++ ": " ++ shown v) :: shownEntries es

/-- The literal forms of attributes. -/
def shownAttributes : List (String × Data) → List String
  | [] => []
  | (k, v) :: as => (k ++ "=" ++ shown v) :: shownAttributes as

end

/-- The plain form. -/
def plain : Data → String
  | text s => s
  | d => d.shown

end SourceLoader.Data
