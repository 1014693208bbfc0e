import SourceLoader.Failure
import SourceLoader.Text.Encoding

/-!
# Fields of models

How the value of a field is read. Reading is lenient: bytes stand for the text that they encode,
a number that is whole for an integer, a text that shows an integer for it, and some words and
numbers for truth values. Whatever does not fit is told with its place.
-/

namespace SourceLoader.Model

/-- The result of reading a value. -/
abbrev Reading (α : Type) := Except (List Misfit) α

/-- A value does not fit. -/
def misfit {α : Type} (kind message : String) : Reading α := .error [⟨kind, [], message⟩]

/-- The same misfits, further inside. -/
def inside {α : Type} (step : Step) : Reading α → Reading α
  | .ok a => .ok a
  | .error ms => .error (ms.map fun m => { m with place := step :: m.place })

/-- Both values, or the misfits of both. -/
def both {α β : Type} : Reading α → Reading β → Reading (α × β)
  | .ok a, .ok b => .ok (a, b)
  | .error ms, .ok _ => .error ms
  | .ok _, .error ns => .error ns
  | .error ms, .error ns => .error (ms ++ ns)

/-- The text that bytes encode. -/
def textOfBytes? (bytes : List UInt8) : Option String :=
  match Encoding.decode .utf8 bytes with
  | .ok chars => some (String.ofList chars)
  | .error _ => none

/-- A text. -/
def text : Data → Reading String
  | .text s => .ok s
  | .bytes bytes =>
    match textOfBytes? bytes with
    | some s => .ok s
    | none =>
      misfit "string_unicode"
        "Input should be a valid string, unable to parse raw data as a unicode string"
  | _ => misfit "string_type" "Input should be a valid string"

/-- A text that is not empty. -/
def nonEmptyText (d : Data) : Reading String :=
  match text d with
  | .ok "" => misfit "string_too_short" "String should have at least 1 character"
  | r => r

/-! ## Integers -/

/-- Without blanks at both ends. -/
def trim (cs : List Char) : List Char :=
  let isBlank (c : Char) : Bool := Text.Unicode.isBlank c.toNat && !(0x1C ≤ c.toNat && c.toNat ≤ 0x1F)
  ((cs.dropWhile isBlank).reverse.dropWhile isBlank).reverse

/-- Digits without zeros in front, or nothing if they do not begin like a number. -/
def withoutLeadingZeros : List Char → Option (List Char)
  | '0' :: cs =>
    let rest := cs.dropWhile fun c => c = '0' || c = '_'
    match rest with
    | [] => some [cs.getLast?.getD '0']
    | '.' :: _ => some ('0' :: rest)
    | c :: _ => if c.isDigit then some rest else none
  | c :: cs => if c.isDigit || c = '-' then some (c :: cs) else none
  | [] => none

/-- Digits without a fraction of zeros. -/
def withoutFraction (cs : List Char) : List Char :=
  let whole := cs.takeWhile (· ≠ '.')
  let fraction := (cs.drop whole.length).drop 1
  if fraction.all (· = '0') then whole else cs

/-- Do single underscores stand between digits only? -/
def separatedWell : List Char → Bool
  | [] => true
  | [c] => c ≠ '_'
  | c :: d :: cs => !(c = '_' && d = '_') && separatedWell (d :: cs)

/-- The integer that a text shows. -/
def parseInteger? (s : String) : Option Int := do
  let cs := trim s.toList
  let cs := match cs with
    | '+' :: rest => rest
    | _ => cs
  let cs := withoutFraction (← withoutLeadingZeros cs)
  if cs.head? = some '_' || !separatedWell cs then none
  let (negative, digits) := match cs with
    | '-' :: rest => (true, rest)
    | _ => (false, cs)
  let digits := digits.filter (· ≠ '_')
  if digits.isEmpty || !digits.all Char.isDigit then none
  let n : Int := Number.ofDigits 10 digits
  return if negative then -n else n

/-- The integer that a text shows, or the misfit. -/
def integerOfText (s : String) : Reading Int :=
  if (trim s.toList).length > Number.maxDigits then
    misfit "int_parsing_size"
      "Unable to parse input string as an integer, exceeded maximum size"
  else
    match parseInteger? s with
    | some n => .ok n
    | none =>
      misfit "int_parsing"
        "Input should be a valid integer, unable to parse string as an integer"

/-- The integer that a float is. -/
def integerOfFloat (x : Double) : Reading Int :=
  if !x.isFinite then misfit "finite_number" "Input should be a finite number"
  else
    match x.whole? with
    | none =>
      misfit "int_from_float"
        "Input should be a valid integer, got a number with a fractional part"
    | some n =>
      if -9223372036854775808 < n && n < 9223372036854775808 then .ok n
      else
        misfit "int_parsing_size"
          "Unable to parse input string as an integer, exceeded maximum size"

/-- An integer. -/
def integer : Data → Reading Int
  | .int n => .ok n
  | .bool b => .ok (if b then 1 else 0)
  | .float x => integerOfFloat x
  | .text s => integerOfText s
  | .bytes bytes =>
    match textOfBytes? bytes with
    | some s => integerOfText s
    | none =>
      misfit "int_parsing"
        "Input should be a valid integer, unable to parse string as an integer"
  | _ => misfit "int_type" "Input should be a valid integer"

/-! ## Truth values -/

/-- Words for false and true. -/
def boolWords : List (String × Bool) :=
  [("0", false), ("off", false), ("f", false), ("false", false), ("n", false), ("no", false),
    ("1", true), ("on", true), ("t", true), ("true", true), ("y", true), ("yes", true)]

/-- No truth value can be made out. -/
def unclear : Reading Bool :=
  misfit "bool_parsing" "Input should be a valid boolean, unable to interpret input"

/-- The truth value that an integer stands for. -/
def truthOfInteger (n : Int) : Reading Bool :=
  if n = 0 then .ok false else if n = 1 then .ok true else unclear

/-- The truth value that a word stands for. -/
def truthOfText (s : String) : Reading Bool :=
  match boolWords.find? (·.1 = s.toLower) with
  | some (_, b) => .ok b
  | none => unclear

/-- A truth value. -/
def truth : Data → Reading Bool
  | .bool b => .ok b
  | .int n => truthOfInteger n
  | .text s => truthOfText s
  | .bytes bytes =>
    match textOfBytes? bytes with
    | some s => truthOfText s
    | none => unclear
  | .float x =>
    match integerOfFloat x with
    | .ok n => truthOfInteger n
    | .error _ => misfit "bool_type" "Input should be a valid boolean"
  | _ => misfit "bool_type" "Input should be a valid boolean"

/-! ## Lists and options -/

/-- The values of items, or the misfits of all; `position` is the place of the first one. -/
def items {α : Type} (read : Data → Reading α) (position : Nat) : List Data → Reading (List α)
  | [] => .ok []
  | d :: ds =>
    match both (inside (.index position) (read d)) (items read (position + 1) ds) with
    | .ok (a, as) => .ok (a :: as)
    | .error ms => .error ms

/-- A list. -/
def list {α : Type} (read : Data → Reading α) : Data → Reading (List α)
  | .list ds | .tuple ds | .set ds => items read 0 ds
  | _ => misfit "list_type" "Input should be a valid list"

/-- A value that may be missing. -/
def optional {α : Type} (read : Data → Reading α) : Data → Reading (Option α)
  | .none => .ok none
  | d =>
    match read d with
    | .ok a => .ok (some a)
    | .error ms => .error ms

/-! ## Fields -/

/-- The value of a field that has to be there. -/
def required {α : Type} (name : String) (read : Data → Reading α)
    (entries : List (Data × Data)) : Reading α :=
  inside (.name name) <|
    match Data.entry? name entries with
    | some d => read d
    | none => misfit "missing" "Field required"

/-- The value of a field that may be left out. -/
def withDefault {α : Type} (name : String) (read : Data → Reading α) (value : α)
    (entries : List (Data × Data)) : Reading α :=
  match Data.entry? name entries with
  | some d => inside (.name name) (read d)
  | none => .ok value

/-- The misfit of an entry that is no field. -/
def strange? (names : List String) : Data × Data → Option Misfit
  | (.text key, _) =>
    if names.contains key then none
    else some ⟨"extra_forbidden", [.name key], "Extra inputs are not permitted"⟩
  | (.int n, _) => some ⟨"invalid_key", [.index n.toNat], "Keys should be strings"⟩
  | (key, _) => some ⟨"invalid_key", [.name key.plain], "Keys should be strings"⟩

/-- There are no entries besides the fields. -/
def nothingElse (names : List String) (entries : List (Data × Data)) : Reading Unit :=
  match entries.filterMap (strange? names) with
  | [] => .ok ()
  | ms => .error ms

/-- Reads a model from a mapping. -/
def ofDict {α : Type} (model : String) (read : List (Data × Data) → Reading α) :
    Data → Except Failure α
  | .dict entries => (read entries).mapError (.misfits model)
  | _ =>
    .error (.misfits model [⟨"model_type", [],
      s!"Input should be a valid dictionary or instance of {model}"⟩])

/-- The failure to change a field: models do not change. -/
def frozen (model field : String) : Failure :=
  .misfits model [⟨"frozen_instance", [.name field], "Instance is frozen"⟩]

end SourceLoader.Model
