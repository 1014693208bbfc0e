import SourceLoader.Syntax.Parser

/-!
# Reading a source

A source is read once, and if that fails once more while looking for mistakes. Whatever the
grammar then reports, a fault of the lexer further on wins, and so does a parenthesis that was
opened on an earlier line and is never closed.
-/

namespace SourceLoader.Parser

variable {α : Type}

/-- The error of the tokens that were not read yet. `line` is the line of the error so far. -/
def laterError? (line : Nat) : Nat → ParseState → Option SyntaxError
  | 0, _ => none
  | fuel + 1, s =>
    match s.lexer.next with
    | (.ok t, lexer) =>
      if t.kind = .finish then none else laterError? line fuel { s with lexer }
    | (.error (.fault fault l offset), lexer) =>
      some (lexError { s with lexer } (.fault fault l offset))
    | (.error _, lexer) =>
      match lexer.parens with
      | p :: _ =>
        if line > p.line then
          some (errorAt { s with lexer } (.neverClosed p.opening) p.line (p.column + 1))
        else none
      | [] => none

/-- The error that is reported in the end, given what the grammar reports. -/
def settle (e : SyntaxError) (s : ParseState) : SyntaxError :=
  let line := ((s.tokens.back?).map Token.line).getD 0
  (laterError? line s.limit s).getD e

/-- The error of a reading that was stopped. -/
def settleStop (reason : Stop) (s : ParseState) : SyntaxError :=
  match reason with
  | .lexer e => e
  | .grammar e => settle e s

/-- The error at a token. -/
def errorAtToken (s : ParseState) (t : Token) (fault : Fault) : SyntaxError :=
  match t.column with
  | some column => errorAt s fault t.line (column + 1)
  | none => errorAt s fault t.line 0

/-- The error of a source that matches no rule, with nothing better to say. `last` is the last
token of the first reading. -/
def plainError (last : Option Token) (s : ParseState) : SyntaxError :=
  match last with
  | none => errorAtLast s .invalidSyntax
  | some t =>
    if t.kind = .indent then errorAtLast s .unexpectedIndent
    else if t.kind = .dedent then errorAtLast s .unexpectedUnindent
    else settle (errorAtToken s t .invalidSyntax) s

/-- Reads a source. -/
def read (p : Parser α) (s : ParseState) : Except SyntaxError (α × List Warning) :=
  match p s with
  | .ok a s => .ok (a, s.warnings)
  | .stop reason s => .error (settleStop reason s)
  | .no s =>
    match p { s with mark := 0, diagnosing := true, ones := ∅, manys := ∅ } with
    | .stop reason s' => .error (settleStop reason s')
    | .ok _ s' | .no s' => .error (plainError s.tokens.back? s')

end SourceLoader.Parser
