import SourceLoader.Object.Subscript
import SourceLoader.Text.Lines
import SourceLoader.Text.Unicode.Case

/-!
# Methods of texts

Searching, splitting and joining of texts, character by character.
-/

namespace SourceLoader

namespace TextMethod

/-- Is it a blank? -/
def isBlank (c : Char) : Bool :=
  let n := c.toNat
  (9 ≤ n && n ≤ 13) || (28 ≤ n && n ≤ 32) || n = 0x85 || n = 0xA0 || n = 0x1680
    || (0x2000 ≤ n && n ≤ 0x200A) || n = 0x2028 || n = 0x2029 || n = 0x202F || n = 0x205F
    || n = 0x3000

/-- Without the first characters of some kind. -/
def trimStart (drop : Char → Bool) (cs : List Char) : List Char := cs.dropWhile drop

/-- Without the last characters of some kind. -/
def trimEnd (drop : Char → Bool) (cs : List Char) : List Char :=
  (cs.reverse.dropWhile drop).reverse

/-- The place of the first occurrence of a part, counted from `place`. -/
def findFrom (part : List Char) (place : Nat) : List Char → Option Nat
  | [] => if part.isEmpty then some place else none
  | c :: cs =>
    if part.isPrefixOf (c :: cs) then some place else findFrom part (place + 1) cs

/-- The pieces between occurrences of a separator, at most `limit` cuts. -/
def splitAt (separator : List Char) : Nat → Nat → List Char → List Char → List (List Char)
  | 0, _, piece, cs => [piece.reverse ++ cs]
  | _ + 1, _, piece, [] => [piece.reverse]
  | fuel + 1, limit, piece, c :: cs =>
    if limit = 0 then [piece.reverse ++ (c :: cs)]
    else if separator.isPrefixOf (c :: cs) then
      piece.reverse :: splitAt separator fuel (limit - 1) [] ((c :: cs).drop separator.length)
    else splitAt separator fuel limit (c :: piece) cs

/-- The words between blanks, at most `limit` cuts. -/
def words : Nat → Nat → List Char → List (List Char)
  | 0, _, _ => []
  | fuel + 1, limit, cs =>
    let cs := cs.dropWhile isBlank
    if cs.isEmpty then []
    else if limit = 0 then [trimEnd isBlank cs]
    else
      let word := cs.takeWhile (!isBlank ·)
      word :: words fuel (limit - 1) (cs.dropWhile (!isBlank ·))

/-- A text with another part in place of each occurrence of a part, at most `limit` times. -/
def replaced (old new : List Char) (limit : Nat) (cs : List Char) : List Char :=
  if old.isEmpty then
    let put := fun (c : Char) (i : Nat) => if i < limit then new ++ [c] else [c]
    let body := (cs.zipIdx.map fun (c, i) => put c i).flatten
    if cs.length < limit then body ++ new else body
  else new.intercalate (splitAt old (cs.length + 1) limit [] cs)

/-- How often a part occurs. -/
def countOf (part cs : List Char) : Nat :=
  if part.isEmpty then cs.length + 1
  else (splitAt part (cs.length + 1) cs.length [] cs).length - 1

/-- Capitals at the starts of words. -/
def titled : Bool → List Char → List Char
  | _, [] => []
  | inWord, c :: cs =>
    let isLetter := c.isAlpha || c.toNat ≥ 0xC0
    let s := String.singleton c
    let shown := if inWord then Text.Unicode.lower s else Text.Unicode.upper s
    (if isLetter then shown.toList else [c]) ++ titled isLetter cs

/-- Texts in a row with a separator between them. -/
def joined (separator : String) (vs : List Value) : Eval Value := do
  let m ← Eval.memory
  match vs.zipIdx.find? fun v => match v.1 with
    | .text _ => false
    | _ => true with
  | some (v, i) =>
    Eval.typeError s!"sequence item {i}: expected str instance, {m.shownType v} found"
  | none =>
    let ss := vs.filterMap fun v => match v with
      | .text s => some s
      | _ => none
    pure (.text (separator.intercalate ss))

/-- The parts of a text that one or several texts give. -/
def alternatives (m : Memory) (v : Value) : Option (List String) :=
  let texts (vs : List Value) : Option (List String) := vs.mapM fun v => match v with
    | .text s => some s
    | _ => none
  match v with
  | .text s => some [s]
  | v =>
    match m.object? v with
    | some (.tuple vs) => texts vs
    | _ => none

/-- Does a text start or end with one of some parts? -/
def meets (name : String) (atEnd : Bool) (s : String) (v : Value) : Eval Value := do
  let m ← Eval.memory
  match alternatives m v with
  | none =>
    Eval.typeError
      s!"{name} first arg must be str or a tuple of str, not {m.shownType v}"
  | some parts =>
    let cs := s.toList
    pure (.bool (parts.any fun p =>
      if atEnd then p.toList.reverse.isPrefixOf cs.reverse else p.toList.isPrefixOf cs))

/-- The list of some texts. -/
def listOf (pieces : List (List Char)) : Eval Value :=
  Eval.add (.list (pieces.map fun p => .text (String.ofList p)))

/-- How many cuts an argument allows. -/
def cuts (v : Option Value) (length : Nat) : Nat :=
  match v.bind Value.int? with
  | some n => if n < 0 then length + 1 else n.toNat
  | none => length + 1

/-- The characters to trim. -/
def trimmer : Option Value → Char → Bool
  | some (.text s) => fun c => s.toList.contains c
  | _ => isBlank

/-- Calls a method of a text. The result is `none` if there is no such method. -/
def call (s : String) (name : String) (args : List Value) : Eval (Option Value) := do
  let m ← Eval.memory
  let cs := s.toList
  let text (cs : List Char) : Eval (Option Value) := pure (some (.text (String.ofList cs)))
  let check (p : Char → Bool) : Eval (Option Value) :=
    pure (some (.bool (!cs.isEmpty && cs.all p)))
  let isCased (c : Char) : Bool :=
    let t := String.singleton c
    Text.Unicode.upper t ≠ Text.Unicode.lower t
  match name, args with
  | "upper", [] => return some (.text (Text.Unicode.upper s))
  | "lower", [] | "casefold", [] => return some (.text (Text.Unicode.lower s))
  | "capitalize", [] =>
    return some (.text (match cs with
      | [] => ""
      | c :: rest => Text.Unicode.upper (String.singleton c)
        ++ Text.Unicode.lower (String.ofList rest)))
  | "title", [] => text (titled false cs)
  | "strip", args => text (trimEnd (trimmer args.head?) (trimStart (trimmer args.head?) cs))
  | "lstrip", args => text (trimStart (trimmer args.head?) cs)
  | "rstrip", args => text (trimEnd (trimmer args.head?) cs)
  | "startswith", [v] => return some (← meets name false s v)
  | "endswith", [v] => return some (← meets name true s v)
  | "split", [] | "split", [.none] => return some (← listOf (words (cs.length + 1) cs.length cs))
  | "split", .none :: limit :: _ =>
    return some (← listOf (words (cs.length + 1) (cuts (some limit) cs.length) cs))
  | "split", .text separator :: rest =>
    if separator = "" then Eval.error "ValueError" "empty separator"
    else return some (← listOf
      (splitAt separator.toList (cs.length + 1) (cuts rest.head? cs.length) [] cs))
  | "splitlines", _ => return some (← listOf ((Text.splitLines s).map String.toList))
  | "replace", .text old :: .text new :: rest =>
    text (replaced old.toList new.toList (cuts rest.head? cs.length) cs)
  | "find", [.text part] =>
    return some (match findFrom part.toList 0 cs with
      | some n => .int n
      | none => .int (-1))
  | "index", [.text part] =>
    match findFrom part.toList 0 cs with
    | some n => return some (.int n)
    | none => Eval.error "ValueError" "substring not found"
  | "count", [.text part] => return some (.int (countOf part.toList cs))
  | "partition", [.text part] =>
    let pieces := match findFrom part.toList 0 cs with
      | some n => [cs.take n, part.toList, cs.drop (n + part.length)]
      | none => [cs, [], []]
    return some (← Eval.add (.tuple (pieces.map fun p => .text (String.ofList p))))
  | "removeprefix", [.text part] =>
    text (if part.toList.isPrefixOf cs then cs.drop part.length else cs)
  | "removesuffix", [.text part] =>
    text (if part.toList.reverse.isPrefixOf cs.reverse && part ≠ ""
      then cs.take (cs.length - part.length) else cs)
  | "zfill", [.int n] =>
    let (sign, digits) := match cs with
      | '-' :: rest => (['-'], rest)
      | '+' :: rest => (['+'], rest)
      | cs => ([], cs)
    text (sign ++ List.replicate (n.toNat - cs.length) '0' ++ digits)
  | "ljust", .int n :: _ => text (cs ++ List.replicate (n.toNat - cs.length) ' ')
  | "rjust", .int n :: _ => text (List.replicate (n.toNat - cs.length) ' ' ++ cs)
  | "isdigit", [] | "isdecimal", [] | "isnumeric", [] => check Char.isDigit
  | "isalpha", [] => check fun c => c.isAlpha || (c.toNat > 127 && isCased c)
  | "isalnum", [] => check fun c => c.isAlphanum || (c.toNat > 127 && isCased c)
  | "isspace", [] => check isBlank
  | "isidentifier", [] => return some (.bool (Text.isName s))
  | "isascii", [] => return some (.bool (cs.all fun c => c.toNat < 128))
  | "isupper", [] =>
    return some (.bool (cs.any isCased && Text.Unicode.upper s = s))
  | "islower", [] =>
    return some (.bool (cs.any isCased && Text.Unicode.lower s = s))
  | "encode", _ => return some (.bytes s.toUTF8.toList)
  | "startswith", [] | "endswith", [] =>
    Eval.typeError s!"{name} expected at least 1 argument, got 0"
  | "upper", args | "lower", args =>
    Eval.typeError s!"str.{name}() takes no arguments ({args.length} given)"
  | "split", v :: _ => Eval.typeError s!"must be str or None, not {m.shownType v}"
  | "find", [v] | "index", [v] | "count", [v] => Eval.typeError s!"must be str, not {m.shownType v}"
  | _, _ => return none

end TextMethod

end SourceLoader
