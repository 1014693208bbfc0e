import SourceLoader.Data.Shown
import SourceLoader.Number.Reading

/-!
# Writing JSON

A value is written as JSON text with ASCII characters only. Sequences become arrays, and a
mapping becomes an object whose keys are texts; a key that is a number, a truth value or none
is written as the text of its JSON form. Values of other kinds are refused.
-/

namespace SourceLoader.Json

/-- What separates the parts of a JSON text. -/
structure Layout where
  item : String
  key : String

/-- A blank after each separator. -/
def Layout.spaced : Layout := ⟨", ", ": "⟩

/-- No blanks. -/
def Layout.compact : Layout := ⟨",", ":"⟩

/-- Why a value cannot be written. -/
inductive Obstacle where
  | value (typeName : String)
  | key (typeName : String)
  | hugeInteger
deriving DecidableEq, Repr

/-- The wording of an obstacle. -/
def Obstacle.message : Obstacle → String
  | .value type => s!"Object of type {type} is not JSON serializable"
  | .key type => s!"keys must be str, int, float, bool or None, not {type}"
  | .hugeInteger =>
    "Exceeds the limit (4300 digits) for integer string conversion; "
      ++ "use sys.set_int_max_str_digits() to increase the limit"

/-- A UTF-16 unit as an escape. -/
def escapedUnit (unit : Nat) : String := "\\u" ++ Text.hex 4 unit

/-- A character between quotes. -/
def escapedChar (c : Char) : String :=
  if c = '"' then "\\\""
  else if c = '\\' then "\\\\"
  else if c = '\n' then "\\n"
  else if c = '\r' then "\\r"
  else if c = '\t' then "\\t"
  else if c = '\x08' then "\\b"
  else if c = '\x0c' then "\\f"
  else if 32 ≤ c.toNat && c.toNat < 127 then String.singleton c
  else if c.toNat < 0x10000 then escapedUnit c.toNat
  else
    let v := c.toNat - 0x10000
    escapedUnit (0xD800 + v / 0x400) ++ escapedUnit (0xDC00 + v % 0x400)

/-- A text as JSON. -/
def quoted (s : String) : String := "\"" ++ String.join (s.toList.map escapedChar) ++ "\""

/-- A float as JSON. -/
def floatText (x : Double) : String :=
  if x.isNaN then "NaN"
  else if x.isFinite then Number.textOf x true
  else if x.isNegative then "-Infinity" else "Infinity"

/-- A whole number as JSON. Very long ones are refused. -/
def intText (n : Int) : Except Obstacle String :=
  let text := toString n
  if n.natAbs ≥ Nat.pow 10 Number.maxDigits then .error .hugeInteger else .ok text

/-- A truth value as JSON. -/
def boolText (b : Bool) : String := if b then "true" else "false"

/-- The text of a key. -/
def keyText : Data → Except Obstacle String
  | .text s => .ok s
  | .float x => .ok (floatText x)
  | .bool b => .ok (boolText b)
  | .none => .ok "null"
  | .int n => intText n
  | d => .error (.key d.typeName)

mutual

/-- A value as JSON text. -/
def write (layout : Layout) : Data → Except Obstacle String
  | .none => .ok "null"
  | .bool b => .ok (boolText b)
  | .int n => intText n
  | .float x => .ok (floatText x)
  | .text s => .ok (quoted s)
  | .list items | .tuple items => do
    return "[" ++ layout.item.intercalate (← writeAll layout items) ++ "]"
  | .dict entries => do
    return "\x7b" ++ layout.item.intercalate (← writeEntries layout entries) ++ "\x7d"
  | d => .error (.value d.typeName)

/-- Several values as JSON text. -/
def writeAll (layout : Layout) : List Data → Except Obstacle (List String)
  | [] => return []
  | x :: xs => do
    let first ← write layout x
    return first :: (← writeAll layout xs)

/-- Entries as members of an object. -/
def writeEntries (layout : Layout) : List (Data × Data) → Except Obstacle (List String)
  | [] => return []
  | (k, v) :: es => do
    let key ← keyText k
    let value ← write layout v
    return (quoted key ++ layout.key ++ value) :: (← writeEntries layout es)

end

end SourceLoader.Json
