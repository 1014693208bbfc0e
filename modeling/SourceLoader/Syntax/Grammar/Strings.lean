import SourceLoader.Syntax.Literal
import SourceLoader.Syntax.Reading

/-!
# String literals in expressions

Literals in a row make one string. In a formatted literal every replacement field holds an
expression, which is cut out first, by looking at quotes and brackets only, and then read as
a source of its own inside parentheses.
-/

namespace SourceLoader.Grammar

open Parser

/-! ## Cutting out replacement fields -/

/-- The characters of a literal before and behind a point; those before in reverse. -/
structure Cursor where
  before : List Char
  rest : List Char

namespace Cursor

/-- Moves past `n` characters. -/
def skip : Nat → Cursor → Cursor
  | 0, c => c
  | n + 1, ⟨before, d :: rest⟩ => skip n ⟨d :: before, rest⟩
  | _ + 1, ⟨before, []⟩ => ⟨before, []⟩

/-- Bytes of some characters. -/
def bytes (cs : List Char) : Nat := cs.foldl (fun n c => n + c.utf8Size) 0

/-- Line ends before the point. -/
def lines (c : Cursor) : Nat := (c.before.filter (· = '\n')).length

/-- Bytes between the last line end and the point. -/
def column (c : Cursor) : Nat := bytes (c.before.takeWhile (· ≠ '\n'))

end Cursor

/-- The literal text in front of a replacement field. -/
structure Lead where
  /-- The text, with escapes. -/
  text : List Char
  /-- What follows, from a brace on. -/
  rest : List Char
  /-- The text ends in a doubled brace, of which one was kept. -/
  isDoubled : Bool := false
  /-- Backslashes in front of an opening brace. -/
  escapedBraces : Nat := 0

/-- Cuts off the literal text. `nested` holds inside a format, where braces are not doubled. -/
def leadText (raw nested : Bool) : Nat → List Char → Lead → Except Fault Lead
  | 0, _, lead => .ok { lead with text := lead.text.reverse, rest := [] }
  | _ + 1, [], lead => .ok { lead with text := lead.text.reverse, rest := [] }
  | fuel + 1, c :: rest, lead =>
    let brace (c : Char) (rest : List Char) (lead : Lead) : Except Fault Lead :=
      if !nested && rest.head? = some c then
        .ok { lead with text := (c :: lead.text).reverse, rest := rest.drop 1, isDoubled := true }
      else if !nested && c = '\x7d' then .error .singleBrace
      else .ok { lead with text := lead.text.reverse, rest := c :: rest }
    if !raw && c = '\\' then
      match rest with
      | [] => leadText raw nested fuel [] { lead with text := c :: lead.text }
      | 'N' :: '\x7b' :: more =>
        let name := more.takeWhile (· ≠ '\x7d')
        let length := name.length + 1
        leadText raw nested fuel (more.drop length)
          { lead with text := (more.take length).reverse ++ '\x7b' :: 'N' :: c :: lead.text }
      | 'N' :: d :: more =>
        leadText raw nested fuel more { lead with text := d :: 'N' :: c :: lead.text }
      | d :: more =>
        if d = '\x7b' || d = '\x7d' then
          brace d more { lead with
            text := c :: lead.text
            escapedBraces := lead.escapedBraces + (if d = '\x7b' then 1 else 0) }
        else leadText raw nested fuel more { lead with text := d :: c :: lead.text }
    else if c = '\x7b' || c = '\x7d' then brace c rest lead
    else leadText raw nested fuel rest { lead with text := c :: lead.text }

/-- A string inside an expression: its quote, and whether there are three of it. -/
abbrev OpenQuote := Option (Char × Bool)

/-- Cuts out the expression of a replacement field. The result is the expression, in reverse,
and what follows it. -/
def cutExpression (quote : OpenQuote) (parens : List Char) (done : List Char) :
    List Char → Except Fault (OpenQuote × List Char × List Char × List Char)
  | [] => .ok (quote, parens, done, [])
  | c :: rest =>
    if c = '\\' then .error .fieldBackslash
    else
      match quote with
      | some (q, triple) =>
        match triple, rest with
        | true, a :: b :: more =>
          if c = q && a = q && b = q then
            cutExpression none parens (b :: a :: c :: done) more
          else cutExpression quote parens (c :: done) (a :: b :: more)
        | true, rest => cutExpression quote parens (c :: done) rest
        | false, rest =>
          cutExpression (if c = q then none else quote) parens (c :: done) rest
      | none =>
        if c = '\'' || c = '"' then
          match rest with
          | a :: b :: more =>
            if a = c && b = c then
              cutExpression (some (c, true)) parens (b :: a :: c :: done) more
            else cutExpression (some (c, false)) parens (c :: done) (a :: b :: more)
          | rest => cutExpression (some (c, false)) parens (c :: done) rest
        else if c = '[' || c = '\x7b' || c = '(' then
          if parens.length ≥ Lexer.maxParens then .error .fieldTooManyParentheses
          else cutExpression none (c :: parens) (c :: done) rest
        else if c = '#' then .error .fieldComment
        else if parens.isEmpty
            && (c = '!' || c = ':' || c = '\x7d' || c = '=' || c = '<' || c = '>') then
          match rest with
          | '=' :: more =>
            if c = '!' || c = '=' || c = '<' || c = '>' then
              cutExpression none parens ('=' :: c :: done) more
            else .ok (none, parens, done, c :: '=' :: more)
          | rest =>
            if c = '<' || c = '>' then cutExpression none parens (c :: done) rest
            else .ok (none, parens, done, c :: rest)
        else if c = ']' || c = '\x7d' || c = ')' then
          match parens with
          | [] => .error (.fieldUnmatched c)
          | o :: outer =>
            if Lexer.closes o c then cutExpression none outer (c :: done) rest
            else .error (.fieldMismatched c o)
        else cutExpression none parens (c :: done) rest

/-! ## Building strings -/

/-- What the pieces of a string share: the tokens of the whole, and the one they stand in. -/
structure StringPlace where
  first : Token
  last : Token
  token : Token
  isRaw : Bool

/-- A string under construction. -/
structure Pieces where
  /-- Text that is not yet a piece. -/
  pending : Text := []
  /-- Finished pieces, last one first. -/
  done : List Tree := []
  /-- A formatted literal takes part. -/
  isFormatted : Bool := false

/-- The span of a run of tokens. -/
def spanOf (first last : Token) : Span :=
  ⟨first.line, first.column.getD 0, last.endLine, last.endColumn⟩

/-- A text as a piece. -/
def textPiece (first last : Token) (t : Text) : Tree :=
  .node (.constant (.text t (first.text.startsWith "u"))) (some (spanOf first last)) []

/-- Turns the text in hand into a piece. -/
def Pieces.flush (first last : Token) (p : Pieces) : Pieces :=
  if p.pending.isEmpty then p
  else { p with pending := [], done := textPiece first last p.pending :: p.done }

/-- The tree of a finished string. -/
def Pieces.finish (first last : Token) (p : Pieces) : Tree :=
  if p.isFormatted then
    .node .joinedStr (some (spanOf first last)) [(p.flush first last).done.reverse]
  else textPiece first last p.pending

/-- Resolves the escapes of a text. -/
def resolve (place : StringPlace) (cs : List Char) : Parser Text :=
  if place.isRaw then return cs.map Char.toNat
  else
    match Literal.decodeText cs with
    | .error e => faultAtLast e.fault
    | .ok r => do
      if let some c := r.invalid then warn ⟨.invalidEscape c, place.token.line⟩
      return r.value

/-- Is `c` a blank that the lexer passes over? -/
def isSkipped (c : Char) : Bool := c = ' ' || c = '\t' || c = '\n' || c = '\x0c'

variable (g : Rules)

/-- Reads the expression of a replacement field. `opening` stands at its brace. -/
def fieldExpression (place : StringPlace) (opening : Cursor) (text : List Char) (next : Char) :
    Parser Tree :=
  if text.all isSkipped then
    faultAtLast (if next = '\x7d' then .emptyExpression else .expressionRequired next)
  else fun s =>
    let breaks := (text.dropWhile fun c => c = ' ' || c = '\t' || c = '\x0c').head? = some '\n'
    let column := if breaks then 0 else opening.column
    let shift :=
      if opening.lines = 0 then place.token.column.getD 0 + column else column
    let line := place.token.line + opening.lines
    let chars := '(' :: text ++ [')', '\n']
    let inner : ParseState :=
      { lexer := { rest := chars, line := line - 1, shiftedLine := line, shift }
        lines := #[], limit := 2 * chars.length + 2, field := some ⟨line, shift⟩ }
    match read (g.one .fieldInput) inner with
    | .ok (t, warnings) => .ok t { s with warnings := warnings ++ s.warnings }
    | .error e => .stop (.grammar e) s

/-- Reads a conversion, if there is one. -/
def conversion (at_ : Cursor) : Parser (Option Char × Cursor) :=
  match at_.rest with
  | '!' :: c :: _ =>
    if c = 's' || c = 'r' || c = 'a' then return (some c, at_.skip 2)
    else faultAtLast .fieldConversion
  | ['!'] => faultAtLast .fieldExpectsBrace
  | _ => return (none, at_)

/-- Reads the pieces of a formatted literal up to its end or, in a format, to a closing brace.
`levels` tells how deep fields may still be nested. -/
def formattedPieces (place : StringPlace) : Nat → Nat → Cursor → Pieces → Parser (Pieces × Cursor)
  | _, 0, c, p => return (p, c)
  | levels, fuel + 1, c, p => do
    let nested := levels < 2
    match leadText place.isRaw nested (c.rest.length + 1) c.rest ⟨[], [], false, 0⟩ with
    | .error fault => faultAtLast fault
    | .ok lead =>
      for _ in List.range lead.escapedBraces do
        warn ⟨.invalidEscape '\x7b', place.token.line⟩
      let text ← if lead.text.isEmpty then pure [] else resolve place lead.text
      let p := { p with pending := p.pending ++ text }
      let c := c.skip (c.rest.length - lead.rest.length)
      if lead.isDoubled then formattedPieces place levels fuel c p
      else
        match c.rest with
        | '\x7b' :: body =>
          match levels with
          | 0 => faultAtLast .fieldNestedTooDeeply
          | levels + 1 =>
            match cutExpression none [] [] body with
            | .error fault => faultAtLast fault
            | .ok (quote, parens, expression, behind) =>
              if quote.isSome then faultAtLast .fieldUnterminated
              else if let some o := parens.head? then faultAtLast (.fieldUnmatched o)
              else
                match behind with
                | [] => faultAtLast .fieldExpectsBrace
                | next :: _ => do
                  let expression := expression.reverse
                  let value ← fieldExpression g place c expression next
                  let c := c.skip (1 + expression.length)
                  let blanks := if next = '=' then
                      1 + ((c.rest.drop 1).takeWhile fun b =>
                        isSkipped b || b = '\r' || b = '\x0b').length
                    else 0
                  let shown := if next = '=' then expression ++ c.rest.take blanks else []
                  let p := { p with pending := p.pending ++ shown.map Char.toNat }
                  let c := c.skip blanks
                  if c.rest.isEmpty then faultAtLast .fieldExpectsBrace
                  else
                    let (converted, c) ← conversion c
                    let (format, c) ← match c.rest with
                      | [':'] => faultAtLast .fieldExpectsBrace
                      | ':' :: _ => do
                        let (inner, c) ←
                          formattedPieces place levels fuel (c.skip 1) { isFormatted := true }
                        if c.rest.head? = some '\x7d' then
                          pure ([inner.finish place.token place.token], c)
                        else faultAtLast .fieldExpectsBrace
                      | _ => pure ([], c)
                    match c.rest with
                    | '\x7d' :: _ =>
                      let converted :=
                        if next = '=' && format.isEmpty && converted.isNone then some 'r'
                        else converted
                      let field := Tree.node (.formattedValue converted)
                        (some (spanOf place.first place.last)) [[value], format]
                      let p := p.flush place.first place.last
                      formattedPieces place (levels + 1) fuel (c.skip 1)
                        { p with done := field :: p.done }
                    | _ => faultAtLast .fieldExpectsBrace
        | _ => return (p, c)
termination_by levels fuel => (fuel, levels)

/-- Adds one literal to a string under construction. -/
def addLiteral (first last : Token) (p : Pieces) (t : Token) : Parser Pieces := do
  let literal := Literal.ofToken t.text
  let place : StringPlace :=
    { first, last, token := t, isRaw := literal.isRaw || !literal.body.contains '\\' }
  if literal.isFormatted then
    let start : Cursor := ⟨literal.lead.reverse, literal.body⟩
    let (p, c) ← formattedPieces g { place with isRaw := literal.isRaw } 2
      (2 * literal.body.length + 2) start { p with isFormatted := true }
    if c.rest.isEmpty then return p else faultAtLast .formatEnd
  else
    let text ← resolve place literal.body
    return { p with pending := p.pending ++ text }

/-- Adds one literal to a byte string. -/
def addBytes (value : List UInt8) (t : Token) : Parser (List UInt8) := do
  let literal := Literal.ofToken t.text
  if literal.body.any fun c => c.toNat ≥ 128 then faultAtLast .nonAsciiBytes
  else if literal.isRaw || !literal.body.contains '\\' then
    return value ++ literal.body.map fun c => c.toNat.toUInt8
  else
    match Literal.decodeBytes literal.body with
    | .error e => faultAtLast e.fault
    | .ok r => do
      if let some c := r.invalid then warn ⟨.invalidEscape c, t.line⟩
      return value ++ r.value

/-- Adds literals to a string. All have to be of one sort. -/
def addLiterals (first last : Token) : List Token → Pieces → Parser Pieces
  | [], p => return p
  | t :: ts, p => do
    let p ← addLiteral g first last p t
    match ts with
    | next :: _ =>
      if (Literal.ofToken next.text).isBytes then do
        let _ ← addBytes [] next
        faultAtLast .mixedBytes
      else addLiterals first last ts p
    | [] => return p

/-- Adds literals to a byte string. All have to be of one sort. -/
def addAllBytes (first last : Token) : List Token → List UInt8 → Parser (List UInt8)
  | [], value => return value
  | t :: ts, value => do
    let value ← addBytes value t
    match ts with
    | next :: _ =>
      if (Literal.ofToken next.text).isBytes then addAllBytes first last ts value
      else if (Literal.ofToken next.text).isFormatted then faultAtLast .mixedBytes
      else do
        let _ ← addLiteral g first last {} next
        faultAtLast .mixedBytes
    | [] => return value

/-- String literals in a row. -/
def strings : Parser Tree := do
  let tokens ← many1 (kind .string)
  match tokens, tokens.getLast? with
  | first :: _, some last =>
    if (Literal.ofToken first.text).isBytes then do
      let value ← addAllBytes g first last tokens []
      return .node (.constant (.bytes value)) (some (spanOf first last)) []
    else do
      let p ← addLiterals g first last tokens {}
      return p.finish first last
  | _, _ => fail

end SourceLoader.Grammar
