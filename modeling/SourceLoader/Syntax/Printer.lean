import SourceLoader.Number.Reading
import SourceLoader.Number.Shortest
import SourceLoader.Text.Quoted

/-!
# From tree to source

`Tree.print` writes a tree as a source that is read back as an equal tree, up to places. An
operand gets parentheses where it binds more loosely than its surroundings; how tightly these
bind is handed down as a `Precedence`.

Two things cannot be written: a backslash inside a replacement field, and an integer with more
decimal digits than may be read.
-/

namespace SourceLoader

/-- Why a tree cannot be written. -/
inductive PrintFault where
  | backslashInField
  | hugeInteger
deriving DecidableEq, Repr

namespace PrintFault

/-- The wording of the fault. -/
def message : PrintFault → String
  | .backslashInField => "Unable to avoid backslash in f-string expression part"
  | .hugeInteger =>
    "Exceeds the limit (4300 digits) for integer string conversion; "
      ++ "use sys.set_int_max_str_digits() to increase the limit"

end PrintFault

/-- How tightly an expression binds, the loosest first. -/
inductive Precedence where
  | named
  | tuple
  | yield
  | test
  | or
  | and
  | not
  | comparison
  | bitOr
  | bitXor
  | bitAnd
  | shift
  | sum
  | product
  | factor
  | power
  | await
  | atom
deriving DecidableEq, Repr

namespace Precedence

/-- The next tighter one. -/
def next : Precedence → Precedence
  | .named => .tuple
  | .tuple => .yield
  | .yield => .test
  | .test => .or
  | .or => .and
  | .and => .not
  | .not => .comparison
  | .comparison => .bitOr
  | .bitOr => .bitXor
  | .bitXor => .bitAnd
  | .bitAnd => .shift
  | .shift => .sum
  | .sum => .product
  | .product => .factor
  | .factor => .power
  | .power => .await
  | .await => .atom
  | .atom => .atom

/-- Its place in the order. -/
def rank : Precedence → Nat
  | .named => 0
  | .tuple => 1
  | .yield => 2
  | .test => 3
  | .or => 4
  | .and => 5
  | .not => 6
  | .comparison => 7
  | .bitOr => 8
  | .bitXor => 9
  | .bitAnd => 10
  | .shift => 11
  | .sum => 12
  | .product => 13
  | .factor => 14
  | .power => 15
  | .await => 16
  | .atom => 17

end Precedence

namespace BinOp

/-- How the operator is written. -/
def symbol : BinOp → String
  | .add => "+"
  | .sub => "-"
  | .mult => "*"
  | .matMult => "@"
  | .div => "/"
  | .mod => "%"
  | .pow => "**"
  | .lShift => "<<"
  | .rShift => ">>"
  | .bitOr => "|"
  | .bitXor => "^"
  | .bitAnd => "&"
  | .floorDiv => "//"

/-- How tightly the operator binds. -/
def precedence : BinOp → Precedence
  | .add | .sub => .sum
  | .mult | .matMult | .div | .mod | .floorDiv => .product
  | .pow => .power
  | .lShift | .rShift => .shift
  | .bitOr => .bitOr
  | .bitXor => .bitXor
  | .bitAnd => .bitAnd

end BinOp

namespace CmpOp

/-- How the operator is written. -/
def symbol : CmpOp → String
  | .eq => "=="
  | .notEq => "!="
  | .lt => "<"
  | .ltE => "<="
  | .gt => ">"
  | .gtE => ">="
  | .is => "is"
  | .isNot => "is not"
  | .isIn => "in"
  | .notIn => "not in"

end CmpOp

namespace Printer

/-! ## Literals -/

/-- Where an infinite literal was written, one that is too large. -/
def infinity : String := "1e309"

/-- A floating-point literal. -/
def double (x : Double) (wholeFraction : Bool) : String :=
  if x.isNaN then s!"({infinity}-{infinity})"
  else if !x.isFinite then (if x.isNegative then "-" else "") ++ infinity
  else Number.textOf x wholeFraction

/-- Quotes that a text may be set in, the best first. -/
def allQuotes : List String := ["'", "\"", "\"\"\"", "'''"]

/-- The quotes of texts with line ends, the best first. -/
def tripleQuotes : List String := ["\"\"\"", "'''"]

/-- Does `part` occur in `cs`? -/
def occursIn (part : List Char) : List Char → Bool
  | [] => part.isEmpty
  | c :: rest => part.isPrefixOf (c :: rest) || occursIn part rest

/-- Is the first character of the quote the last one of the text? -/
def meets (quote : String) (last : Char) : Bool := quote.toList.head? = some last

/-- Escapes a text with as few backslashes as possible, and selects the quotes it may be set
in. Tabs and line ends stay as they are unless `escapesBreaks` holds. Where no quote is left,
the text is written as a quoted text is. -/
def literalBody (t : Text) (quotes : List String) (escapesBreaks : Bool) :
    String × List String :=
  let body := String.join (t.map fun c =>
    if !escapesBreaks && (c = 9 || c = 10) then String.singleton (Char.ofNat c)
    else Text.shown c)
  let cs := body.toList
  let possible := if cs.contains '\n' then quotes.filter (tripleQuotes.contains ·) else quotes
  let possible := possible.filter fun q => !occursIn q.toList cs
  match possible with
  | [] =>
    let quote := String.singleton (Text.quoteFor t)
    (Text.quotedBody t, [(quotes.find? fun q => q.startsWith quote).getD quote])
  | _ =>
    match cs.reverse with
    | [] => (body, possible)
    | last :: before =>
      let sorted := possible.filter (fun q => !meets q last)
        ++ possible.filter (fun q => meets q last)
      match sorted with
      | best :: _ =>
        if meets best last then (String.ofList (before.reverse ++ ['\\', last]), sorted)
        else (body, sorted)
      | [] => (body, sorted)

/-- A text as a literal with as few backslashes as possible. -/
def literal (t : Text) (quotes : List String) : String :=
  let (body, quotes) := literalBody t quotes false
  let quote := quotes.headD ""
  quote ++ body ++ quote

/-- A formatted literal, given its parts; the flag tells which of them are plain text. The
quotes that are left after one part are those that the next one may use. -/
def formatted (parts : List (Text × Bool)) : String :=
  let (body, quotes) := parts.foldl (fun (done, quotes) (t, isPlain) =>
    let (body, quotes) := literalBody t quotes isPlain
    (done ++ body, quotes)) ("", allQuotes)
  let quote := quotes.headD ""
  quote ++ body ++ quote

/-- A literal. `plain` holds where backslashes must be avoided. -/
def constant (plain : Bool) : Constant → Except PrintFault String
  | .none => .ok "None"
  | .bool true => .ok "True"
  | .bool false => .ok "False"
  | .ellipsis => .ok "..."
  | .int n =>
    let digits := toString n
    if digits.length > Number.maxDigits then .error .hugeInteger else .ok digits
  | .float x => .ok (double x true)
  | .imaginary x => .ok (double x false ++ "j")
  | .text t isUnicode =>
    .ok ((if isUnicode then "u" else "")
      ++ if plain then literal t allQuotes else Text.quoted t)
  | .bytes b => .ok (Text.quotedBytes b)

/-- A plain part of a formatted literal. -/
def doubleBraces (t : Text) : Text :=
  t.flatMap fun c => if c = 123 || c = 125 then [c, c] else [c]

/-! ## Expressions -/

/-- Sets an expression in parentheses where its surroundings bind more tightly. -/
def enclose (outer inner : Precedence) (s : String) : String :=
  if outer.rank > inner.rank then s!"({s})" else s

/-- Separates by commas. -/
def commas (ss : List String) : String := ", ".intercalate ss

/-- Separates by commas; a single element has a comma behind it. -/
def tupleItems : List String → String
  | [s] => s ++ ","
  | ss => commas ss

/-- Writes `**` in front of what has no key. -/
def entries (keys values : List String) : List String :=
  List.zipWith (fun k v => if k.isEmpty then "**" ++ v else s!"{k}: {v}") keys values

/-- A default behind a parameter. -/
def withDefault (p d : String) : String := if d.isEmpty then p else s!"{p}={d}"

/-- Parameters in a row. -/
def parameters (positionalOnly positional : List String) (rest : List String)
    (keywordOnly keywordDefaults : List String) (mapping defaults : List String) : String :=
  let all := positionalOnly ++ positional
  let padded := List.replicate (all.length - defaults.length) "" ++ defaults
  let written := List.zipWith withDefault all padded
  let n := positionalOnly.length
  let slash := if n = 0 then [] else ["/"]
  let star := if rest.isEmpty && keywordOnly.isEmpty then []
    else ["*" ++ String.join rest]
  commas (written.take n ++ slash ++ written.drop n ++ star
    ++ List.zipWith withDefault keywordOnly keywordDefaults ++ mapping.map ("**" ++ ·))

/-- The precedences of operands that have to bind ever more tightly. -/
def increasing (p : Precedence) : Nat → List Precedence
  | 0 => []
  | n + 1 => p.next :: increasing p.next n

/-- Does the text begin with an opening brace? -/
def startsWithBrace (s : String) : Bool := s.toList.head? = some '\x7b'

mutual

/-- An expression. `plain` holds where backslashes must be avoided, and `p` is the precedence
of the surroundings. -/
def expr (plain : Bool) (p : Precedence) : Tree → Except PrintFault String
  | .node .namedExpr _ [[target], [value]] => do
    let t ← expr plain .atom target
    let v ← expr plain .atom value
    return enclose p .named s!"{t} := {v}"
  | .node .await _ [[value]] => do
    let v ← expr plain .atom value
    return enclose p .await s!"await {v}"
  | .node .yield _ [[]] => return enclose p .yield "yield"
  | .node .yield _ [[value]] => do
    let v ← expr plain .atom value
    return enclose p .yield s!"yield {v}"
  | .node .yieldFrom _ [[value]] => do
    let v ← expr plain .atom value
    return enclose p .yield s!"yield from {v}"
  | .node .joinedStr _ [parts] => do
    let ts ← fieldParts parts
    if plain then return "f" ++ literal (ts.map Prod.fst).flatten allQuotes
    else return "f" ++ formatted ts
  | .node (.name id _) _ _ => return id
  | .node (.constant c) _ _ => constant plain c
  | .node (.list _) _ [elements] => do
    let es ← exprs plain [] elements
    return s!"[{commas es}]"
  | .node .listComp _ [[element], clauses] => do
    let e ← expr plain .test element
    let cs ← exprs plain [] clauses
    return s!"[{e}{String.join cs}]"
  | .node .generatorExp _ [[element], clauses] => do
    let e ← expr plain .test element
    let cs ← exprs plain [] clauses
    return s!"({e}{String.join cs})"
  | .node .setComp _ [[element], clauses] => do
    let e ← expr plain .test element
    return "\x7b" ++ e ++ String.join (← exprs plain [] clauses) ++ "\x7d"
  | .node .dictComp _ [[key], [value], clauses] => do
    let k ← expr plain .test key
    let v ← expr plain .test value
    return "\x7b" ++ s!"{k}: {v}" ++ String.join (← exprs plain [] clauses) ++ "\x7d"
  | .node (.comprehension isAsync) _ [[target], [iterable], conditions] => do
    let t ← expr plain .tuple target
    let i ← expr plain .or iterable
    let cs ← exprs plain (List.replicate conditions.length .or) conditions
    return (if isAsync then " async for " else " for ") ++ s!"{t} in {i}"
      ++ String.join (cs.map (" if " ++ ·))
  | .node .ifExp _ [[test], [body], [otherwise]] => do
    let b ← expr plain .or body
    let t ← expr plain .or test
    let o ← expr plain .test otherwise
    return enclose p .test s!"{b} if {t} else {o}"
  | .node .set _ [elements] => do
    let es ← exprs plain [] elements
    if es.isEmpty then return "\x7b*()\x7d" else return "\x7b" ++ commas es ++ "\x7d"
  | .node .dict _ [keys, values] => do
    let ps := keys.map fun k => if k.isMissing then .bitOr else .test
    let ks ← exprs plain [] keys
    let vs ← exprs plain ps values
    return "\x7b" ++ commas (entries ks vs) ++ "\x7d"
  | .node (.tuple _) _ [elements] => do
    let items := tupleItems (← exprs plain [] elements)
    return if elements.isEmpty then "()" else enclose p .tuple items
  | .node (.unaryOp op) _ [[operand]] => do
    match op with
    | .not => return enclose p .not ("not " ++ (← expr plain .not operand))
    | .invert => return enclose p .factor ("~" ++ (← expr plain .factor operand))
    | .uAdd => return enclose p .factor ("+" ++ (← expr plain .factor operand))
    | .uSub => return enclose p .factor ("-" ++ (← expr plain .factor operand))
  | .node (.binOp op) _ [[left], [right]] => do
    let own := op.precedence
    let l ← expr plain (if op = .pow then own.next else own) left
    let r ← expr plain (if op = .pow then own else own.next) right
    return enclose p own s!"{l} {op.symbol} {r}"
  | .node (.compare ops) _ [[left], others] => do
    let l ← expr plain .bitOr left
    let os ← exprs plain (List.replicate others.length .bitOr) others
    return enclose p .comparison
      (l ++ String.join (List.zipWith (fun op o => s!" {op.symbol} {o}") ops os))
  | .node (.boolOp op) _ [operands] => do
    let own : Precedence := match op with
      | .and => .and
      | .or => .or
    let word := match op with
      | .and => " and "
      | .or => " or "
    let os ← exprs plain (increasing own operands.length) operands
    return enclose p own (word.intercalate os)
  | .node (.attribute name _) _ [[value]] => do
    let v ← expr plain .atom value
    let gap := match value.kind with
      | .constant (.int _) | .constant (.bool _) => " "
      | _ => ""
    return s!"{v}{gap}.{name}"
  | .node .call _ [[function], arguments, keywords] => do
    let f ← expr plain .atom function
    let as ← exprs plain [] arguments
    let ks ← exprs plain [] keywords
    return s!"{f}({commas (as ++ ks)})"
  | .node (.subscript _) _ [[value], [index]] => do
    let v ← expr plain .atom value
    match index with
    | .node (.tuple _) _ [first :: others] => do
      let es ← exprs plain [] (first :: others)
      return s!"{v}[{tupleItems es}]"
    | index => do
      let i ← expr plain .test index
      return s!"{v}[{i}]"
  | .node (.starred _) _ [[value]] => return "*" ++ (← expr plain .bitOr value)
  | .node .slice _ [lower, upper, step] => do
    let l ← exprs plain [] lower
    let u ← exprs plain [] upper
    let s ← exprs plain [] step
    return String.join l ++ ":" ++ String.join u ++ String.join (s.map (":" ++ ·))
  | .node (.keyword name) _ [[value]] => do
    let v ← expr plain .test value
    return match name with
      | some n => s!"{n}={v}"
      | none => "**" ++ v
  | .node .lambda _ [[arguments], [body]] => do
    let a ← expr plain .test arguments
    let b ← expr plain .test body
    let gap := if a.isEmpty then "" else " "
    return enclose p .test s!"lambda{gap}{a}: {b}"
  | .node (.arg name) _ [hint] => do
    return name ++ String.join ((← exprs plain [] hint).map (": " ++ ·))
  | .node .arguments _ [only, positional, rest, keywordOnly, keywordDefaults, mapping, ds] => do
    let os ← exprs plain [] only
    let ps ← exprs plain [] positional
    let r ← exprs plain [] rest
    let ks ← exprs plain [] keywordOnly
    let kds ← exprs plain [] keywordDefaults
    let m ← exprs plain [] mapping
    let ds ← exprs plain [] ds
    return parameters os ps r ks kds m ds
  | .node (.alias name asName) _ _ =>
    return name ++ (match asName with
      | some n => " as " ++ n
      | none => "")
  | .node .withItem _ [[context], target] => do
    let c ← expr plain .test context
    return c ++ String.join ((← exprs plain [] target).map (" as " ++ ·))
  | .node .matchValue _ [[value]] => expr plain .test value
  | .node (.matchSingleton c) _ _ => constant plain c
  | .node .matchSequence _ [patterns] => do
    let ps ← exprs plain [] patterns
    return s!"[{commas ps}]"
  | .node (.matchStar name) _ _ => return "*" ++ name.getD "_"
  | .node (.matchMapping rest) _ [keys, patterns] => do
    let ks ← exprs plain [] keys
    let ps ← exprs plain [] patterns
    let es := List.zipWith (fun k q => s!"{k}: {q}") ks ps
    return "\x7b" ++ commas (es ++ rest.toList.map ("**" ++ ·)) ++ "\x7d"
  | .node (.matchClass names) _ [[cls], positional, named] => do
    let c ← expr plain .atom cls
    let ps ← exprs plain [] positional
    let ns ← exprs plain [] named
    let named := List.zipWith (fun n q => s!"{n}={q}") names ns
    return s!"{c}({commas (ps ++ named)})"
  | .node (.matchAs none) _ _ => return "_"
  | .node (.matchAs (some name)) _ [[]] => return name
  | .node (.matchAs (some name)) _ [[pattern]] => do
    let q ← expr plain .bitOr pattern
    return enclose p .test s!"{q} as {name}"
  | .node .matchOr _ [patterns] => do
    let ps ← exprs plain (List.replicate patterns.length .bitXor) patterns
    return enclose p .bitOr (" | ".intercalate ps)
  | _ => return ""

/-- Several expressions, each with the precedence of its surroundings. Where `ps` ends, it is
that of a test. -/
def exprs (plain : Bool) (ps : List Precedence) : List Tree → Except PrintFault (List String)
  | [] => return []
  | t :: ts => do
    let s ← expr plain (ps.headD .test) t
    return s :: (← exprs plain ps.tail ts)

/-- The parts of a formatted literal, and which of them are plain text. -/
def fieldParts : List Tree → Except PrintFault (List (Text × Bool))
  | [] => return []
  | .node (.constant (.text t _)) _ _ :: rest => do
    return (doubleBraces t, true) :: (← fieldParts rest)
  | .node .joinedStr _ [parts] :: rest => do
    let ts ← fieldParts parts
    return ((ts.map Prod.fst).flatten, false) :: (← fieldParts rest)
  | .node (.formattedValue c) _ [[value], format] :: rest => do
    let v ← expr true .or value
    if v.toList.contains '\\' then throw .backslashInField
    let ts ← fieldParts format
    let t := Text.ofString ("\x7b" ++ (if startsWithBrace v then " " else "") ++ v
        ++ (match c with
          | some c => "!" ++ String.singleton c
          | none => "")
        ++ (if format.isEmpty then "" else ":"))
      ++ (ts.map Prod.fst).flatten ++ [125]
    return (t, false) :: (← fieldParts rest)
  | _ :: rest => fieldParts rest

end

/-! ## Statements -/

/-- One line at some depth. -/
def line (depth : Nat) (s : String) : String := String.ofList (List.replicate (4 * depth) ' ') ++ s

/-- Is it a statement that is only a text? -/
def documentation? : Tree → Option (Text × Bool)
  | .node .exprStmt _ [[.node (.constant (.text t isUnicode)) _ _]] => some (t, isUnicode)
  | _ => none

/-- Targets of an assignment, each with an equals sign behind it. -/
def targets (ts : List Tree) : Except PrintFault String := do
  let ss ← exprs false (List.replicate ts.length .tuple) ts
  return String.join (ss.map (· ++ " = "))

/-- An optional part behind a word. -/
def optional (word : String) (ts : List Tree) : Except PrintFault String := do
  return String.join ((← exprs false [] ts).map (word ++ ·))

/-- Decorators, each on its line. -/
def decorators (depth : Nat) (ds : List Tree) : Except PrintFault (List String) := do
  return (← exprs false [] ds).map fun d => line depth ("@" ++ d)

mutual

/-- The lines of a statement. `inGroups` holds among the handlers of exception groups. -/
def statement (depth : Nat) (inGroups : Bool) : Tree → Except PrintFault (List String)
  | .node .exprStmt _ [[value]] => return [line depth (← expr false .yield value)]
  | .node .importNames _ [names] => do
    return [line depth ("import " ++ commas (← exprs false [] names))]
  | .node (.importFrom module level) _ [names] => do
    let from_ := String.ofList (List.replicate level '.') ++ module.getD ""
    return [line depth (s!"from {from_} import " ++ commas (← exprs false [] names))]
  | .node .assign _ [ts, [value]] => do
    return [line depth ((← targets ts) ++ (← expr false .test value))]
  | .node (.augAssign op) _ [[target], [value]] => do
    let t ← expr false .test target
    let v ← expr false .test value
    return [line depth s!"{t} {op.symbol}= {v}"]
  | .node (.annAssign simple) _ [[target], [hint], value] => do
    let t ← expr false .test target
    let isName := match target.kind with
      | .name _ _ => true
      | _ => false
    let t := if !simple && isName then s!"({t})" else t
    let a ← expr false .test hint
    return [line depth (s!"{t}: {a}" ++ (← optional " = " value))]
  | .node .returnStmt _ [value] => return [line depth ("return" ++ (← optional " " value))]
  | .node .pass _ _ => return [line depth "pass"]
  | .node .breakStmt _ _ => return [line depth "break"]
  | .node .continueStmt _ _ => return [line depth "continue"]
  | .node .delete _ [ts] => return [line depth ("del " ++ commas (← exprs false [] ts))]
  | .node .assert _ [[test], message] => do
    let t ← expr false .test test
    return [line depth (s!"assert {t}" ++ (← optional ", " message))]
  | .node (.globalNames names) _ _ => return [line depth ("global " ++ commas names)]
  | .node (.nonlocalNames names) _ _ => return [line depth ("nonlocal " ++ commas names)]
  | .node .raise _ [exception, cause] => do
    let e ← optional " " exception
    let c ← optional " from " cause
    return [line depth s!"raise{e}{c}"]
  | .node (.tryStmt star) _ [body, handlers, otherwise, final] => do
    let b ← statements (depth + 1) inGroups (some star) body
    let hs ← statements depth inGroups (some star) handlers
    let o ← statements (depth + 1) inGroups (some star) otherwise
    let f ← statements (depth + 1) inGroups (some star) final
    return line depth "try:" :: b ++ hs
      ++ (if otherwise.isEmpty then [] else line depth "else:" :: o)
      ++ (if final.isEmpty then [] else line depth "finally:" :: f)
  | .node (.exceptHandler name) _ [type, body] => do
    let word := if inGroups then "except*" else "except"
    let t ← optional " " type
    let n := match name with
      | some n => " as " ++ n
      | none => ""
    return line depth s!"{word}{t}{n}:" :: (← statements (depth + 1) inGroups none body)
  | .node (.classDef name) _ [bases, keywords, body, ds] => do
    let heads ← decorators depth ds
    let bs ← exprs false [] bases
    let ks ← exprs false [] keywords
    let parts := if bases.isEmpty && keywords.isEmpty then "" else s!"({commas (bs ++ ks)})"
    return "" :: heads ++ line depth s!"class {name}{parts}:"
      :: (← documented (depth + 1) inGroups body)
  | .node (.functionDef isAsync name) _ [[arguments], body, ds, result] => do
    let heads ← decorators depth ds
    let as ← expr false .test arguments
    let r ← optional " -> " result
    let word := if isAsync then "async def" else "def"
    return "" :: heads ++ line depth s!"{word} {name}({as}){r}:"
      :: (← documented (depth + 1) inGroups body)
  | .node (.forLoop isAsync) _ [[target], [iterable], body, otherwise] => do
    let t ← expr false .tuple target
    let i ← expr false .test iterable
    let word := if isAsync then "async for" else "for"
    let b ← statements (depth + 1) inGroups none body
    let o ← statements (depth + 1) inGroups none otherwise
    return line depth s!"{word} {t} in {i}:" :: b
      ++ (if otherwise.isEmpty then [] else line depth "else:" :: o)
  | .node .whileLoop _ [[test], body, otherwise] => do
    let t ← expr false .test test
    let b ← statements (depth + 1) inGroups none body
    let o ← statements (depth + 1) inGroups none otherwise
    return line depth s!"while {t}:" :: b
      ++ (if otherwise.isEmpty then [] else line depth "else:" :: o)
  | .node .ifStmt _ [[test], body, otherwise] => do
    let t ← expr false .test test
    let b ← statements (depth + 1) inGroups none body
    return line depth s!"if {t}:" :: b ++ (← otherwiseLines depth inGroups otherwise)
  | .node (.withStmt isAsync) _ [items, body] => do
    let is ← exprs false [] items
    let word := if isAsync then "async with" else "with"
    return line depth s!"{word} {commas is}:"
      :: (← statements (depth + 1) inGroups none body)
  | .node .matchStmt _ [[subject], cases] => do
    let s ← expr false .test subject
    return line depth s!"match {s}:" :: (← statements (depth + 1) inGroups none cases)
  | .node .matchCase _ [[pattern], condition, body] => do
    let p ← expr false .test pattern
    let c ← optional " if " condition
    return line depth s!"case {p}{c}:" :: (← statements (depth + 1) inGroups none body)
  | _ => return []

/-- The lines of several statements; `groups` replaces `inGroups` if it is given. -/
def statements (depth : Nat) (inGroups : Bool) (groups : Option Bool) :
    List Tree → Except PrintFault (List String)
  | [] => return []
  | t :: ts => do
    let ls ← statement depth (groups.getD inGroups) t
    return ls ++ (← statements depth inGroups groups ts)

/-- The lines of a body that may begin with a documentation. -/
def documented (depth : Nat) (inGroups : Bool) : List Tree → Except PrintFault (List String)
  | [] => return []
  | t :: ts => do
    match documentation? t with
    | some (text, isUnicode) =>
      let d := line depth ((if isUnicode then "u" else "") ++ literal text tripleQuotes)
      return d :: (← statements depth inGroups none ts)
    | none => do
      let ls ← statement depth inGroups t
      return ls ++ (← statements depth inGroups none ts)

/-- The lines of the other branches of a choice. -/
def otherwiseLines (depth : Nat) (inGroups : Bool) :
    List Tree → Except PrintFault (List String)
  | [] => return []
  | [.node .ifStmt _ [[test], body, otherwise]] => do
    let t ← expr false .test test
    let b ← statements (depth + 1) inGroups none body
    return line depth s!"elif {t}:" :: b ++ (← otherwiseLines depth inGroups otherwise)
  | t :: ts => do
    let ls ← statement (depth + 1) inGroups t
    return line depth "else:" :: ls ++ (← statements (depth + 1) inGroups none ts)

end

end Printer

namespace Tree

/-- The source of a module. A definition has an empty line in front of it, but not at the very
start. -/
def print : Tree → Except PrintFault String
  | .node .module _ [body] => do
    let lines ← Printer.documented 0 false body
    return "\n".intercalate (if lines.head? = some "" then lines.tail else lines)
  | t => do
    let lines ← Printer.statement 0 false t
    return "\n".intercalate (if lines.head? = some "" then lines.tail else lines)

end Tree

end SourceLoader
