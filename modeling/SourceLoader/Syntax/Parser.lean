import Std.Data.TreeMap
import SourceLoader.Syntax.Lexer
import SourceLoader.Syntax.Tree

/-!
# Parsers

A parser reads tokens from a mark and either yields a value and moves the mark, or does not
match, or stops with an error that ends the whole reading. Choices are ordered: the first
alternative that matches is taken, and the mark goes back before each of them.

Tokens are read from the lexer when they are first looked at and kept from then on, so trying
another alternative does not read them again. How far the tokens were read shows in errors:
a fault without a place of its own is reported at the last token that was read.

Results of rules are remembered by rule and mark, so each rule is tried once at each place.

A source is read twice if it is faulty. On the second reading `diagnosing` is set and further
alternatives are tried, which never yield a value but look for the common mistakes.
-/

namespace SourceLoader

/-- Rules that yield one tree. -/
inductive OneRule where
  | simpleStatement
  | elifPart
  | namedExpression
  | invalidNamed
  | expression
  | starExpressions
  | starExpression
  | starNamedExpression
  | yieldExpression
  | disjunction
  | conjunction
  | inversion
  | bitOr
  | bitXor
  | bitAnd
  | shift
  | sum
  | term
  | factor
  | awaitPrimary
  | primary
  | atom
  | strings
  | generator
  | listDisplay
  | tupleDisplay
  | arguments
  | callArguments
  | slices
  | starTargets
  | starTarget
  | targetWithStarAtom
  | targetPrimary
  | memberTarget
  | singleTarget
  | annotationTarget
  | delTarget
  | pattern
  | closedPattern
  | starPattern
  | patternName
  | parameters
  | lambdaParameters
  | casePatterns
  | fieldInput
deriving DecidableEq, Repr

/-- Rules that yield a sequence of trees. -/
inductive ManyRule where
  | statements
  | block
  | starNamedExpressions
  | forClauses
  | delTargets
  | patternElements
  | openPatternElements
  | simpleStatements
deriving DecidableEq, Repr

/-- Is a result of the rule kept without regard to whether mistakes are looked for? -/
def OneRule.isShared : OneRule → Bool
  | .simpleStatement | .invalidNamed | .expression | .starExpression | .disjunction
  | .conjunction | .inversion | .bitOr | .bitXor | .bitAnd | .shift | .sum | .term | .factor
  | .awaitPrimary | .primary | .strings | .arguments | .starTarget | .targetWithStarAtom
  | .targetPrimary | .delTarget | .closedPattern | .starPattern | .patternName => true
  | _ => false

/-- Is a result of the rule kept without regard to whether mistakes are looked for? -/
def ManyRule.isShared : ManyRule → Bool
  | .block => true
  | _ => false

/-- A remembered result: the value and the mark behind it, if the rule matched. -/
abbrev Remembered (α : Type) := Option (α × Nat)

/-- Why a reading ended early. -/
inductive Stop where
  /-- The lexer could not go on. -/
  | lexer (error : SyntaxError)
  /-- The grammar found a fault. -/
  | grammar (error : SyntaxError)

namespace Stop

/-- The error that ended the reading. -/
def error : Stop → SyntaxError
  | .lexer e | .grammar e => e

end Stop

/-- Where a replacement field stands: its expression is read as a source of its own, and its
first line is shifted to where it stands. -/
structure FieldOrigin where
  line : Nat
  column : Nat

/-- A parser at work. -/
structure ParseState where
  lexer : Lexer
  /-- The lines of the source. -/
  lines : Array (List Char)
  /-- The tokens read so far. -/
  tokens : Array Token := #[]
  /-- The next token to look at. -/
  mark : Nat := 0
  /-- Mistakes are looked for. -/
  diagnosing : Bool := false
  /-- Remarks so far, last one first. -/
  warnings : List Warning := []
  /-- An upper bound of the number of tokens. -/
  limit : Nat
  /-- Set while the expression of a replacement field is read. -/
  field : Option FieldOrigin := none
  /-- What is remembered of rules that yield one tree, by its place. -/
  ones : Std.TreeMap Nat (Remembered Tree) := ∅
  manys : Std.TreeMap Nat (Remembered (List Tree)) := ∅

namespace ParseState

/-- The state before the first token of a source. Every token but the last uses up a
character, or closes an indentation that used up one. -/
def ofSource (source : String) : ParseState :=
  let lexer := Lexer.ofSource source
  { lexer, limit := 2 * lexer.rest.length + 2
    lines := ((String.ofList (Text.unifyNewlines source.toList)).splitOn "\n").toArray.map
      String.toList }

end ParseState

/-- What a parser answers. -/
inductive Reply (α : Type) where
  | ok (value : α) (state : ParseState)
  | no (state : ParseState)
  | stop (reason : Stop) (state : ParseState)

/-- A parser. -/
def Parser (α : Type) := ParseState → Reply α

namespace Parser

variable {α β γ : Type}

instance : Monad Parser where
  pure a := fun s => .ok a s
  bind p f := fun s =>
    match p s with
    | .ok a s => f a s
    | .no s => .no s
    | .stop e s => .stop e s

/-- The state. -/
def get : Parser ParseState := fun s => .ok s s

/-- Changes the state. -/
def modify (f : ParseState → ParseState) : Parser Unit := fun s => .ok () (f s)

/-- Never matches. -/
def fail : Parser α := fun s => .no s

/-- Ends the reading. -/
def halt (reason : Stop) : Parser α := fun s => .stop reason s

/-- Matches if the condition holds. -/
def guard (condition : Bool) : Parser Unit := if condition then pure () else fail

/-- The value, if there is one. -/
def ofOption : Option α → Parser α
  | some a => pure a
  | none => fail

/-! ## Choice -/

/-- The first alternative that matches. -/
def firstOf : List (Parser α) → Parser α
  | [] => fail
  | p :: ps => fun s =>
    match p s with
    | .ok a s' => .ok a s'
    | .no s' => firstOf ps { s' with mark := s.mark }
    | .stop e s' => .stop e s'

/-- Reads something for the sake of the mark. -/
def ignore (p : Parser α) : Parser Unit := do
  let _ ← p
  return ()

/-- Tries a parser; the value is missing where it does not match. -/
def opt (p : Parser α) : Parser (Option α) := fun s =>
  match p s with
  | .ok a s' => .ok (some a) s'
  | .no s' => .ok none { s' with mark := s.mark }
  | .stop e s' => .stop e s'

/-- Once `before` matches, `behind` decides; only otherwise `otherwise` is tried. -/
def commit (before : Parser α) (behind : α → Parser β) (otherwise : Parser β) : Parser β :=
  fun s =>
    match before s with
    | .ok a s' => behind a s'
    | .no s' => otherwise { s' with mark := s.mark }
    | .stop e s' => .stop e s'

/-- Matches where `p` does, without moving the mark. -/
def look (p : Parser α) : Parser Unit := fun s =>
  match p s with
  | .ok _ s' => .ok () { s' with mark := s.mark }
  | .no s' => .no { s' with mark := s.mark }
  | .stop e s' => .stop e s'

/-- Matches where `p` does not. -/
def notLook (p : Parser α) : Parser Unit := fun s =>
  match p s with
  | .ok _ s' => .no { s' with mark := s.mark }
  | .no s' => .ok () { s' with mark := s.mark }
  | .stop e s' => .stop e s'

/-- At most `fuel` times `p`, values last one first. -/
def repeated (p : Parser α) : Nat → List α → Parser (List α)
  | 0, done => pure done.reverse
  | fuel + 1, done => fun s =>
    match p s with
    | .ok a s' => repeated p fuel (a :: done) s'
    | .no s' => .ok done.reverse { s' with mark := s.mark }
    | .stop e s' => .stop e s'

/-- `p` as often as it matches. Each match uses up a token, so the tokens bound the loop. -/
def many (p : Parser α) : Parser (List α) := fun s => repeated p s.limit [] s

/-- `p` once or more. -/
def many1 (p : Parser α) : Parser (List α) := do
  let first ← p
  let others ← many p
  return first :: others

/-- `p` once or more, with `separator` in between. -/
def sepBy1 (p : Parser α) (separator : Parser β) : Parser (List α) := do
  let first ← p
  let others ← many (do let _ ← separator; p)
  return first :: others

/-- A value and what is built on it as long as `step` matches. -/
def chainFuel (step : α → Parser α) : Nat → α → Parser α
  | 0, a => pure a
  | fuel + 1, a => fun s =>
    match step a s with
    | .ok b s' => chainFuel step fuel b s'
    | .no s' => .ok a { s' with mark := s.mark }
    | .stop e s' => .stop e s'

/-- A first value, and what is built on it as long as `step` matches. -/
def chain (base : Parser α) (step : α → Parser α) : Parser α := do
  let first ← base
  fun s => chainFuel step s.limit first s

/-! ## Faults -/

/-- Characters that begin within the first `bytes` bytes of a line; a line end counts as one
more. -/
def charsWithin : List Char → Nat → Nat
  | _, 0 => 0
  | [], _ + 1 => 1
  | c :: rest, n + 1 => 1 + charsWithin rest (n + 1 - c.utf8Size)

/-- An error at a line and an offset that counts bytes from one. Inside a replacement field
offsets count from the start of the expression. -/
def errorAt (s : ParseState) (fault : Fault) (line : Nat) (offset : Nat) : SyntaxError :=
  match s.field with
  | some origin =>
    { fault := .inField fault, file := none, line := some line,
      offset := some ((offset : Int) - origin.column) }
  | none =>
    let text := (s.lines[line - 1]?).getD []
    { fault, file := none, line := some line, offset := some (charsWithin text offset : Nat) }

/-- An error at the last token that was read. -/
def errorAtLast (s : ParseState) (fault : Fault) : SyntaxError :=
  match s.tokens.back? with
  | none => errorAt s fault 0 0
  | some t =>
    match t.column with
    | some column => errorAt s fault t.line (column + 1)
    | none => errorAt s fault t.line s.lexer.column

/-- The error of the lexer that made it stop. -/
def lexError (s : ParseState) : LexStop → SyntaxError
  | .fault fault line offset =>
    { fault, file := none, line := some line, offset := some (offset : Nat) }
  | .ended =>
    match s.lexer.parens with
    | p :: _ => errorAt s (.neverClosed p.opening) p.line (p.column + 1)
    | [] => errorAtLast s .unexpectedEnd
  | .unindent => errorAtLast s .badUnindent
  | .tabs => errorAt s .mixedTabs s.lexer.line 1
  | .tooDeep => errorAt s .indentedTooDeep s.lexer.line 1
  | .continuation offset =>
    { fault := .badContinuation, file := none, line := some s.lexer.line,
      offset := some (offset : Nat) }

/-- Reports a fault at the last token that was read. -/
def faultAtLast (fault : Fault) : Parser α := fun s =>
  .stop (.grammar (errorAtLast s fault)) s

/-- Reports a fault at a line and a column. -/
def faultAt (line column : Nat) (fault : Fault) : Parser α := fun s =>
  .stop (.grammar (errorAt s fault line (column + 1))) s

/-- Reports a fault at a token. -/
def faultAtToken (t : Token) (fault : Fault) : Parser α := fun s =>
  match t.column with
  | some column => faultAt t.line column fault s
  | none => .stop (.grammar (errorAt s fault t.line 0)) s

/-- Reports a fault of a whole line. -/
def faultAtLine (line : Nat) (fault : Fault) : Parser α := fun s =>
  .stop (.grammar (errorAt s fault line 0)) s

/-- Reports a fault where a tree begins. -/
def faultAtTree (t : Tree) (fault : Fault) : Parser α :=
  faultAt t.span.line t.span.column fault

/-- Makes a remark. -/
def warn (warning : Warning) : Parser Unit :=
  modify fun s => { s with warnings := warning :: s.warnings }

/-! ## Looking for mistakes -/

/-- Tries the alternatives, each of which describes a mistake, if mistakes are looked for. An
alternative reports a fault, or passes, which ends the search, or does not match. -/
def diagnose (alternatives : List (Parser Unit)) : Parser α := fun s =>
  if s.diagnosing then
    match firstOf alternatives s with
    | .ok _ s' => .no { s' with mark := s.mark }
    | .no s' => .no { s' with mark := s.mark }
    | .stop e s' => .stop e s'
  else .no s

/-- Runs a parser without looking for mistakes. -/
def trusting (p : Parser α) : Parser α := fun s =>
  match p { s with diagnosing := false } with
  | .ok a s' => .ok a { s' with diagnosing := s.diagnosing }
  | .no s' => .no { s' with diagnosing := s.diagnosing }
  | .stop e s' => .stop e { s' with diagnosing := s.diagnosing }

/-! ## Tokens -/

/-- The next token, read from the lexer if that is still to be done. -/
def peek : Parser Token := fun s =>
  match s.tokens[s.mark]? with
  | some t => .ok t s
  | none =>
    let (read, lexer) := s.lexer.next
    let warnings := lexer.warnings ++ s.warnings
    let s := { s with lexer := { lexer with warnings := [] }, warnings }
    match read with
    | .ok t => .ok t { s with tokens := s.tokens.push t }
    | .error stop =>
      let s := { s with tokens := s.tokens.push (lexer.layoutToken .finish) }
      .stop (.lexer (lexError s stop)) s

/-- Moves past the next token. -/
def advance : Parser Unit := modify fun s => { s with mark := s.mark + 1 }

/-- The next token, if it meets the condition. -/
def satisfy (accepts : Token → Bool) : Parser Token := do
  let t ← peek
  if accepts t then
    advance
    return t
  else fail

/-- A token of some kind. -/
def kind (k : TokenKind) : Parser Token := satisfy fun t => t.kind = k

/-- Punctuation. -/
def punct (text : String) : Parser Token := satisfy fun t => t.kind = .punct && t.text = text

/-- A word that cannot be a name. -/
def keyword (text : String) : Parser Token :=
  satisfy fun t => t.kind = .keyword && t.text = text

/-- A word that is a keyword only here. -/
def softKeyword (text : String) : Parser Token :=
  satisfy fun t => t.kind = .name && t.text = text

/-- A token that must come now. -/
def forced (text : String) : Parser Token := do
  let t ← peek
  if t.kind = .punct && t.text = text then
    advance
    return t
  else faultAtToken t (.expectedToken text)

/-- The last of the first `n` tokens that is more than layout. -/
def lastToken? (tokens : Array Token) : Nat → Option Token
  | 0 => none
  | n + 1 =>
    match tokens[n]? with
    | some t => if t.isLayout then lastToken? tokens n else some t
    | none => lastToken? tokens n

/-- Where the last token with text ends. -/
def endOfLast : Parser (Nat × Nat) := fun s =>
  match lastToken? s.tokens s.mark with
  | some t => .ok (t.endLine, t.endColumn) s
  | none => .ok (0, 0) s

/-- The span from a token to the last token with text. -/
def spanFrom (start : Token) : Parser Span := do
  let (endLine, endColumn) ← endOfLast
  return ⟨start.line, start.column.getD 0, endLine, endColumn⟩

/-- A node from a token on. -/
def nodeFrom (start : Token) (kind : Kind) (fields : List (List Tree)) : Parser Tree := do
  let span ← spanFrom start
  return .node kind (some span) fields

/-- A node at the place of a token. -/
def leaf (t : Token) (kind : Kind) : Tree :=
  .node kind (some ⟨t.line, t.column.getD 0, t.endLine, t.endColumn⟩) []

/-- A node that begins with the next token. -/
def located (p : Parser (Kind × List (List Tree))) : Parser Tree := do
  let start ← peek
  let (kind, fields) ← p
  nodeFrom start kind fields

/-- A name, normalised. -/
def identifier : Parser String := do
  let t ← kind .name
  return Text.normalizeName t.text

/-- A name that is read. -/
def nameTree : Parser Tree := do
  let t ← kind .name
  return leaf t (.name (Text.normalizeName t.text) .load)

end Parser

/-- The rules of a grammar, as a part of it may call them. -/
structure Rules where
  one : OneRule → Parser Tree
  many : ManyRule → Parser (List Tree)

namespace Tree

/-- Marks an expression as bound or deleted, and what it is made of. -/
def withUsage (usage : Usage) : Tree → Tree
  | .node (.name id _) s fs => .node (.name id usage) s fs
  | .node (.attribute name _) s fs => .node (.attribute name usage) s fs
  | .node (.subscript _) s fs => .node (.subscript usage) s fs
  | .node (.starred _) s [[value]] => .node (.starred usage) s [[withUsage usage value]]
  | .node (.list _) s [elements] => .node (.list usage) s [withUsageAll usage elements]
  | .node (.tuple _) s [elements] => .node (.tuple usage) s [withUsageAll usage elements]
  | t => t
where
  /-- Marks several expressions. -/
  withUsageAll (usage : Usage) : List Tree → List Tree
    | [] => []
    | t :: ts => withUsage usage t :: withUsageAll usage ts

/-- What messages call an expression. -/
def describe (t : Tree) : String :=
  match t.kind with
  | .attribute _ _ => "attribute"
  | .subscript _ => "subscript"
  | .starred _ => "starred"
  | .name _ _ => "name"
  | .list _ => "list"
  | .tuple _ => "tuple"
  | .lambda => "lambda"
  | .call => "function call"
  | .boolOp _ | .binOp _ | .unaryOp _ => "expression"
  | .generatorExp => "generator expression"
  | .yield | .yieldFrom => "yield expression"
  | .await => "await expression"
  | .listComp => "list comprehension"
  | .setComp => "set comprehension"
  | .dictComp => "dict comprehension"
  | .dict => "dict literal"
  | .set => "set display"
  | .joinedStr | .formattedValue _ => "f-string expression"
  | .constant .none => "None"
  | .constant (.bool false) => "False"
  | .constant (.bool true) => "True"
  | .constant .ellipsis => "ellipsis"
  | .constant _ => "literal"
  | .compare _ => "comparison"
  | .ifExp => "conditional expression"
  | .namedExpr => "named expression"
  | k => k.title

/-- What a target is for. -/
inductive TargetUse where
  | assignment
  | deletion
  | forLoop
deriving DecidableEq

/-- The part of an expression that cannot be a target, if there is one. -/
def invalidTarget? (use : TargetUse) : Tree → Option Tree
  | .node (.list _) _ [elements] => firstInvalid use elements
  | .node (.tuple _) _ [elements] => firstInvalid use elements
  | .node (.starred u) s [[value]] =>
    if use = .deletion then some (.node (.starred u) s [[value]]) else invalidTarget? use value
  | .node (.compare ops) s [[left], others] =>
    if use = .forLoop then
      if ops.head? = some .isIn then invalidTarget? use left else none
    else some (.node (.compare ops) s [[left], others])
  | .node (.name _ _) _ _ | .node (.subscript _) _ _ | .node (.attribute _ _) _ _ => none
  | t => some t
where
  /-- The first part of several expressions that cannot be a target. -/
  firstInvalid (use : TargetUse) : List Tree → Option Tree
    | [] => none
    | t :: ts =>
      match invalidTarget? use t with
      | some bad => some bad
      | none => firstInvalid use ts

end Tree

namespace Parser

/-- Reports the part of an expression that cannot be a target, if there is one. -/
def refuseTarget (use : Tree.TargetUse) (t : Tree) : Parser Unit :=
  match Tree.invalidTarget? use t with
  | some bad =>
    faultAtTree bad (if use = .deletion then .cannotDelete bad.describe
      else .cannotAssign bad.describe)
  | none => pure ()

end Parser

end SourceLoader
