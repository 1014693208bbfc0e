import SourceLoader.Syntax.Fault
import SourceLoader.Syntax.Token
import SourceLoader.Text.CodePoint
import SourceLoader.Text.Lines
import SourceLoader.Text.Unicode.Printable

/-!
# The lexer

A lexer is the unread rest of a source together with what has to be remembered about the part
that was read: the line and column, the stack of indentations and the stack of open
parentheses. `Lexer.next` reads one token.

A line begins when its first character is looked at, not when the line before it ends, so at
the end of the source the lexer is still on the last line.
-/

namespace SourceLoader

/-- An opened parenthesis. -/
structure Paren where
  opening : Char
  line : Nat
  column : Nat
deriving Repr

/-- Why the lexer cannot go on. -/
inductive LexStop where
  /-- A fault with a place of its own. -/
  | fault (fault : Fault) (line offset : Nat)
  /-- The source ends inside parentheses or behind a continued line. -/
  | ended
  /-- The new indentation fits none of the outer ones. -/
  | unindent
  /-- Tabs and blanks make the indentation ambiguous. -/
  | tabs
  /-- There are too many indentations. -/
  | tooDeep
  /-- Something follows a backslash on its line; `offset` counts from the buffered text. -/
  | continuation (offset : Nat)
deriving Repr

/-- A remark about a source that is accepted. -/
inductive Remark where
  | invalidEscape (c : Char)
  | numberRunsInto (sort : String)
  | isWithLiteral (negated : Bool)
  | tupleAssertion
  | notCallable (type : String)
  | notSubscriptable (type : String)
  | badIndex (container index : String)
deriving DecidableEq, Repr

namespace Remark

/-- Does the remark announce a change of the language, and no likely mistake? -/
def isDeprecation : Remark → Bool
  | .invalidEscape _ => true
  | _ => false

/-- The wording of a remark. -/
def message : Remark → String
  | .invalidEscape c => s!"invalid escape sequence '\\{c}'"
  | .numberRunsInto sort => s!"invalid {sort} literal"
  | .isWithLiteral false => "\"is\" with a literal. Did you mean \"==\"?"
  | .isWithLiteral true => "\"is not\" with a literal. Did you mean \"!=\"?"
  | .tupleAssertion => "assertion is always true, perhaps remove parentheses?"
  | .notCallable type =>
    s!"'{type}' object is not callable; perhaps you missed a comma?"
  | .notSubscriptable type =>
    s!"'{type}' object is not subscriptable; perhaps you missed a comma?"
  | .badIndex container index =>
    s!"{container} indices must be integers or slices, not {index}; perhaps you missed a comma?"

end Remark

/-- A remark and the line that it is about. -/
structure Warning where
  remark : Remark
  line : Nat
deriving DecidableEq, Repr

/-- A lexer at work. -/
structure Lexer where
  /-- The characters not read yet. -/
  rest : List Char
  /-- The line of the last character read, or looked at. -/
  line : Nat := 0
  /-- Bytes of that line that were read. -/
  column : Nat := 0
  /-- Characters of that line that were read. -/
  offset : Nat := 0
  /-- The line is read to its end. -/
  lineEnded : Bool := true
  /-- Characters read since the start of the line on which the current token began. -/
  buffered : Nat := 0
  /-- A token is being read. -/
  inToken : Bool := false
  /-- The indentation of the next line is still to be measured. -/
  atLineStart : Bool := true
  /-- Indentations in force, innermost first, with tabs of eight and of one column. -/
  indents : List (Nat × Nat) := []
  /-- Indentation tokens still to be handed out. -/
  indentsDue : Nat := 0
  dedentsDue : Nat := 0
  /-- Open parentheses, innermost first. -/
  parens : List Paren := []
  /-- Remarks made so far, last one first. -/
  warnings : List Warning := []
  /-- Tokens that end on `line` stand `column` further to the right. -/
  shiftedLine : Nat := 0
  shift : Nat := 0
deriving Inhabited

namespace Lexer

/-- Deepest nesting of parentheses. -/
def maxParens : Nat := 200

/-- Most indentations, the outermost one included. -/
def maxIndents : Nat := 100

/-- A lexer for a whole source. -/
def ofSource (source : String) : Lexer :=
  let chars := Text.unifyNewlines source.toList
  { rest := if chars.getLast? = some '\n' then chars else chars ++ ['\n'] }

/-- Moves on to the next line if the current one is read to its end and there is one. -/
def openLine (lx : Lexer) : Lexer :=
  if lx.lineEnded && !lx.rest.isEmpty then
    { lx with
      line := lx.line + 1, column := 0, offset := 0, lineEnded := false,
      buffered := if lx.inToken then lx.buffered else 0 }
  else lx

/-- Reads the first of the unread characters, `c`; `rest` are the others. -/
def take (lx : Lexer) (c : Char) (rest : List Char) : Lexer :=
  let lx := lx.openLine
  { lx with
    rest, column := lx.column + c.utf8Size, offset := lx.offset + 1,
    buffered := lx.buffered + 1, lineEnded := c = '\n' }

/-- Reads `n` characters. -/
def skip : Nat → Lexer → Lexer
  | 0, lx => lx
  | n + 1, lx =>
    match lx.rest with
    | [] => lx
    | c :: rest => skip n (lx.take c rest)

/-- Reads everything up to the end of the current line. -/
def skipLine : List Char → Lexer → Lexer
  | [], lx => lx
  | c :: rest, lx => if lx.lineEnded then lx else skipLine rest (lx.take c rest)

/-- A fault right behind the last character read. -/
def faultHere (lx : Lexer) (fault : Fault) : LexStop := .fault fault lx.line lx.offset

/-- A fault behind the next `n` characters. -/
def faultAfter (lx : Lexer) (n : Nat) (fault : Fault) : LexStop :=
  (lx.skip n).faultHere fault

/-- A token that began where `start` stood and ends here. -/
def token (lx start : Lexer) (kind : TokenKind) (text : String) : Token :=
  let shift := if lx.line = lx.shiftedLine then lx.shift else 0
  { kind, text, line := start.line, column := some (start.column + shift),
    endLine := lx.line, endColumn := lx.column + shift, depth := lx.parens.length }

/-- A token without text. -/
def layoutToken (lx : Lexer) (kind : TokenKind) : Token :=
  { kind, text := "", line := lx.line, column := none, endLine := lx.line,
    endColumn := 0, depth := lx.parens.length }

/-! ## Characters of names -/

/-- May `c` begin a name? Whether a character beyond ASCII really may is checked later. -/
def startsName (c : Char) : Bool := c.isAlpha || c = '_' || c.toNat ≥ 128

/-- May `c` stand in a name? -/
def continuesName (c : Char) : Bool := startsName c || c.isDigit

/-- The first character of a name that may not stand there, with the number of characters
before it. -/
def badNameChar? (chars : List Char) : Option (Nat × Char) :=
  match chars with
  | [] => none
  | c :: rest =>
    if !Text.Unicode.isNameStart c.toNat then some (0, c)
    else (rest.zipIdx 1).findSome? fun (d, i) =>
      if Text.Unicode.isNameContinue d.toNat then none else some (i, d)

/-- The fault of a character that may stand nowhere. -/
def strangeChar (c : Char) : Fault :=
  if Text.Unicode.isPrintable c.toNat then .invalidCharacter c else .nonPrintable c

/-! ## Numbers

A number is measured first and read afterwards. The measuring functions are given the
characters from some point on and count those that belong to the number, or say after how many
characters the fault shows. -/

/-- What follows a number directly. -/
inductive NumberEnd where
  | clean
  | keyword
  | broken
deriving DecidableEq

/-- Does `cs` begin with `word`, with no name character behind it? -/
def beginsWithWord (word : String) (cs : List Char) : Bool :=
  word.toList.isPrefixOf cs
    && match cs.drop word.length with
      | [] => true
      | c :: _ => !continuesName c

/-- Looks at what follows a number: a keyword that may follow one is tolerated. -/
def numberEnd (cs : List Char) : NumberEnd :=
  match cs with
  | [] => .clean
  | c :: rest =>
    let tolerated :=
      if c = 'i' then
        match rest with
        | d :: _ => d = 'f' || d = 'n' || d = 's'
        | [] => false
      else ["and", "else", "for", "or"].any fun word => beginsWithWord word cs
    if tolerated then .keyword else if continuesName c then .broken else .clean

/-- A measured number: its length, and the sort of literal that runs into a keyword. -/
structure Measured where
  length : Nat
  runsInto : Option String := none

/-- A fault of a number and the number of characters before it shows. -/
structure NumberFault where
  fault : Fault
  after : Nat
  /-- The fault is reported at the start of the number. -/
  atStart : Bool := false

/-- A number that ends after `n` characters, before `cs`. -/
def endNumber (sort : String) (n : Nat) (cs : List Char) : Except NumberFault Measured :=
  match numberEnd cs with
  | .clean => .ok ⟨n, none⟩
  | .keyword => .ok ⟨n, some sort⟩
  | .broken => .error ⟨.invalidLiteral sort, n, false⟩

/-- Digits behind a digit, in groups joined by underscores. The fault is after the count of
characters given with the error. -/
def digitsTail : List Char → Except Nat Nat
  | [] => .ok 0
  | '_' :: [] => .error 1
  | '_' :: d :: rest =>
    if d.isDigit then
      match digitsTail rest with
      | .ok n => .ok (n + 2)
      | .error n => .error (n + 2)
    else .error 1
  | d :: rest =>
    if d.isDigit then
      match digitsTail rest with
      | .ok n => .ok (n + 1)
      | .error n => .error (n + 1)
    else .ok 0

/-- Digits of another base behind a digit; the error also tells which character was found in
place of a digit. -/
def radixTail (isDigit : Char → Bool) : List Char → Except (Nat × Option Char) Nat
  | [] => .ok 0
  | '_' :: [] => .error (1, none)
  | '_' :: d :: rest =>
    if isDigit d then
      match radixTail isDigit rest with
      | .ok n => .ok (n + 2)
      | .error (n, c) => .error (n + 2, c)
    else .error (1, some d)
  | d :: rest =>
    if isDigit d then
      match radixTail isDigit rest with
      | .ok n => .ok (n + 1)
      | .error (n, c) => .error (n + 1, c)
    else .ok 0

/-- The digits behind the letter of a base. -/
def radixDigits (isDigit : Char → Bool) : List Char → Except (Nat × Option Char) Nat
  | [] => .error (0, none)
  | '_' :: rest => radixTail isDigit ('_' :: rest)
  | d :: rest =>
    if isDigit d then
      match radixTail isDigit rest with
      | .ok n => .ok (n + 1)
      | .error (n, c) => .error (n + 1, c)
    else .error (0, some d)

/-- A number with a base: `cs` stands behind the two characters that name it. -/
def radixNumber (sort : String) (isDigit : Char → Bool) (decimalDigitsToo : Bool)
    (cs : List Char) : Except NumberFault Measured :=
  match radixDigits isDigit cs with
  | .error (n, some d) =>
    if d.isDigit && !decimalDigitsToo then .error ⟨.invalidDigit d sort, n + 3, false⟩
    else .error ⟨.invalidLiteral sort, n + 2, false⟩
  | .error (n, none) => .error ⟨.invalidLiteral sort, n + 2, false⟩
  | .ok n =>
    let rest := cs.drop n
    match rest with
    | d :: _ =>
      if d.isDigit && !decimalDigitsToo then .error ⟨.invalidDigit d sort, n + 3, false⟩
      else endNumber sort (n + 2) rest
    | [] => endNumber sort (n + 2) rest

/-- The suffix of an imaginary number, or the end, after `n` characters. -/
def imaginaryPart (n : Nat) (cs : List Char) : Except NumberFault Measured :=
  match cs with
  | c :: rest =>
    if c = 'j' || c = 'J' then endNumber "imaginary" (n + 1) rest
    else endNumber "decimal" n cs
  | [] => endNumber "decimal" n cs

/-- Digits behind a digit, as part of a decimal number. -/
def decimalTail (n : Nat) (cs : List Char) : Except NumberFault Nat :=
  match digitsTail cs with
  | .ok k => .ok (n + k)
  | .error k => .error ⟨.invalidLiteral "decimal", n + k, false⟩

/-- The exponent, if there is one, after `n` characters. -/
def exponentPart (n : Nat) (cs : List Char) : Except NumberFault Measured :=
  match cs with
  | e :: rest =>
    if e = 'e' || e = 'E' then
      match rest with
      | s :: more =>
        if s = '+' || s = '-' then
          match more with
          | d :: digits =>
            if d.isDigit then do
              let m ← decimalTail (n + 3) digits
              imaginaryPart m (digits.drop (m - (n + 3)))
            else .error ⟨.invalidLiteral "decimal", n + 2, false⟩
          | [] => .error ⟨.invalidLiteral "decimal", n + 2, false⟩
        else if s.isDigit then do
          let m ← decimalTail (n + 2) more
          imaginaryPart m (more.drop (m - (n + 2)))
        else endNumber "decimal" n cs
      | [] => endNumber "decimal" n cs
    else imaginaryPart n cs
  | [] => imaginaryPart n cs

/-- The digits behind the point, after `n` characters. -/
def fractionPart (n : Nat) (cs : List Char) : Except NumberFault Measured :=
  match cs with
  | d :: rest =>
    if d.isDigit then do
      let m ← decimalTail (n + 1) rest
      exponentPart m (rest.drop (m - (n + 1)))
    else exponentPart n cs
  | [] => exponentPart n cs

/-- Zeros and underscores behind a leading zero. -/
def zerosTail : List Char → Except Nat Nat
  | '_' :: d :: rest =>
    if !d.isDigit then .error 1
    else if d = '0' then
      match zerosTail rest with
      | .ok n => .ok (n + 2)
      | .error n => .error (n + 2)
    else .ok 1
  | '_' :: [] => .error 1
  | '0' :: rest =>
    match zerosTail rest with
    | .ok n => .ok (n + 1)
    | .error n => .error (n + 1)
  | _ => .ok 0

/-- A number that starts with a zero and names no base: it may be zero or go on as a number
with a point, an exponent or a suffix, but other digits need those. -/
def zeroNumber (cs : List Char) : Except NumberFault Measured :=
  match zerosTail cs with
  | .error n => .error ⟨.invalidLiteral "decimal", n + 1, false⟩
  | .ok zeros =>
    let rest := cs.drop zeros
    let digits : Except NumberFault (Nat × Bool) :=
      match rest with
      | d :: more =>
        if d.isDigit then (decimalTail (zeros + 2) more).map fun n => (n, true)
        else .ok (zeros + 1, false)
      | [] => .ok (zeros + 1, false)
    match digits with
    | .error e => .error e
    | .ok (n, nonzero) =>
      let rest := cs.drop (n - 1)
      match rest with
      | c :: more =>
        if c = '.' then fractionPart (n + 1) more
        else if c = 'e' || c = 'E' then exponentPart n rest
        else if c = 'j' || c = 'J' then imaginaryPart n rest
        else if nonzero then .error ⟨.leadingZeros, 0, true⟩
        else endNumber "decimal" n rest
      | [] => if nonzero then .error ⟨.leadingZeros, 0, true⟩ else endNumber "decimal" n rest

/-- Is `c` a hexadecimal digit? -/
def isHexDigit (c : Char) : Bool := (Text.Unicode.hexDigit? c).isSome

/-- Measures the number that begins with the digit `first`. -/
def measureNumber (first : Char) (cs : List Char) : Except NumberFault Measured :=
  if first = '0' then
    match cs with
    | c :: rest =>
      if c = 'x' || c = 'X' then radixNumber "hexadecimal" isHexDigit true rest
      else if c = 'o' || c = 'O' then
        radixNumber "octal" (fun d => '0' ≤ d && d ≤ '7') false rest
      else if c = 'b' || c = 'B' then
        radixNumber "binary" (fun d => d = '0' || d = '1') false rest
      else zeroNumber cs
    | [] => zeroNumber cs
  else do
    let n ← decimalTail 1 cs
    let rest := cs.drop (n - 1)
    match rest with
    | c :: more => if c = '.' then fractionPart (n + 1) more else exponentPart n rest
    | [] => exponentPart n rest

/-! ## Reading tokens -/

/-- What one reading yields. -/
abbrev Read := Except LexStop Token × Lexer

/-- Reads on behind a backslash: a line end has to follow, and then another line. -/
def continueLine (lx : Lexer) : Except (LexStop × Lexer) Lexer :=
  match lx.rest with
  | [] => .error (.ended, lx)
  | c :: rest =>
    let lx := lx.take c rest
    if c ≠ '\n' then .error (.continuation lx.buffered, lx)
    else if rest.isEmpty then .error (.ended, lx)
    else .ok lx.openLine

/-- The width of an indentation: with tabs of eight columns, with tabs of one column, and the
width before the first continued line. -/
structure Indentation where
  width : Nat := 0
  narrow : Nat := 0
  continued : Nat := 0

/-- Measures the indentation of a line. -/
def measureIndent (ind : Indentation) :
    List Char → Lexer → Except (LexStop × Lexer) (Indentation × Lexer)
  | ' ' :: rest, lx =>
    measureIndent { ind with width := ind.width + 1, narrow := ind.narrow + 1 } rest
      (lx.take ' ' rest)
  | '\t' :: rest, lx =>
    measureIndent { ind with width := (ind.width / 8 + 1) * 8, narrow := ind.narrow + 1 } rest
      (lx.take '\t' rest)
  | '\x0c' :: rest, lx =>
    measureIndent { ind with width := 0, narrow := 0 } rest (lx.take '\x0c' rest)
  | '\\' :: '\n' :: rest, lx =>
    let ind := if ind.continued = 0 then { ind with continued := ind.width } else ind
    match (lx.take '\\' ('\n' :: rest)).continueLine with
    | .error stop => .error stop
    | .ok lx => measureIndent ind rest lx
  | '\\' :: rest, lx =>
    match (lx.take '\\' rest).continueLine with
    | .error stop => .error stop
    | .ok lx => .ok (ind, lx)
  | _, lx => .ok (ind, lx.openLine)

/-- Drops the indentations wider than `width`; tells how many. -/
def closeIndents (width : Nat) : List (Nat × Nat) → Nat × List (Nat × Nat)
  | [] => (0, [])
  | (w, n) :: rest =>
    if width < w then
      let (k, left) := closeIndents width rest
      (k + 1, left)
    else (0, (w, n) :: rest)

/-- Compares the indentation of a line with those in force. -/
def applyIndent (ind : Indentation) (lx : Lexer) : Except (LexStop × Lexer) Lexer :=
  let width := if ind.continued = 0 then ind.width else ind.continued
  let narrow := if ind.continued = 0 then ind.narrow else ind.continued
  let (outer, outerNarrow) := lx.indents.head?.getD (0, 0)
  let stopped (stop : LexStop) : Except (LexStop × Lexer) Lexer :=
    .error (stop, skipLine lx.rest lx)
  if width = outer then
    if narrow ≠ outerNarrow then stopped .tabs else .ok lx
  else if width > outer then
    if lx.indents.length + 1 ≥ maxIndents then stopped .tooDeep
    else if narrow ≤ outerNarrow then stopped .tabs
    else .ok { lx with indents := (width, narrow) :: lx.indents, indentsDue := 1 }
  else
    let (closed, left) := closeIndents width lx.indents
    let (w, n) := left.head?.getD (0, 0)
    let lx := { lx with indents := left, dedentsDue := closed }
    if width ≠ w then .error (.unindent, skipLine lx.rest lx)
    else if narrow ≠ n then .error (.tabs, skipLine lx.rest lx)
    else .ok lx

/-- Reads the rest of a string literal. `quote` is its quote, `size` how many of them end it,
`seen` how many were just read. -/
def stringTail (quote : Char) (size seen : Nat) : List Char → Lexer → Option Lexer × Lexer
  | [], lx => (none, lx)
  | c :: rest, lx =>
    let lx' := lx.take c rest
    if size = 1 && c = '\n' then (none, lx')
    else if c = quote then
      if seen + 1 = size then (some lx', lx') else stringTail quote size (seen + 1) rest lx'
    else if c = '\\' then
      match rest with
      | [] => (none, lx')
      | d :: more => stringTail quote size 0 more (lx'.take d more)
    else stringTail quote size 0 rest lx'

/-- The text between two states of the lexer. -/
def textBetween (start stop : Lexer) : String :=
  String.ofList (start.rest.take (start.rest.length - stop.rest.length))

/-- Reads a string literal. `start` stands before its prefix, `lx` before its first quote. -/
def readString (start lx : Lexer) : Read :=
  match lx.rest with
  | quote :: q2 :: q3 :: _ =>
    if q2 = quote && q3 ≠ quote then
      let lx := lx.skip 2
      (.ok (lx.token start .string (textBetween start lx)), lx)
    else
      let size := if q2 = quote then 3 else 1
      let opened := lx.skip size
      match stringTail quote size 0 opened.rest opened with
      | (some lx, _) => (.ok (lx.token start .string (textBetween start lx)), lx)
      | (none, lx) =>
        let fault := if size = 3 then Fault.unterminatedTripleString lx.line
          else .unterminatedString lx.line
        (.error (.fault fault start.line (start.offset + 1)), lx)
  | quote :: [q2] =>
    if q2 = quote then
      let lx := lx.skip 2
      (.ok (lx.token start .string (textBetween start lx)), lx)
    else
      (.error (.fault (.unterminatedString lx.line) start.line (start.offset + 1)), lx.skip 2)
  | _ => (.error (.fault (.unterminatedString lx.line) start.line (start.offset + 1)), lx)

/-- How many characters before the quote of a string literal are its prefix; none if the
characters begin no string literal. The flags tell which letters were seen. -/
def stringPrefix? (b r u f : Bool) : List Char → Option Nat
  | [] => none
  | c :: rest =>
    if c = '"' || c = '\'' then some 0
    else if !(b || u || f) && (c = 'b' || c = 'B') then
      (stringPrefix? true r u f rest).map (· + 1)
    else if !(b || u || r || f) && (c = 'u' || c = 'U') then
      (stringPrefix? b r true f rest).map (· + 1)
    else if !(r || u) && (c = 'r' || c = 'R') then
      (stringPrefix? b true u f rest).map (· + 1)
    else if !(f || b || u) && (c = 'f' || c = 'F') then
      (stringPrefix? b r u true rest).map (· + 1)
    else none

/-- Reads a name or a keyword. -/
def readName (start : Lexer) : Read :=
  let word := start.rest.takeWhile continuesName
  let lx := start.skip word.length
  let bad := if word.all fun c => c.toNat < 128 then none else badNameChar? word
  match bad with
  | some (n, c) => (.error (start.faultAfter (n + 1) (strangeChar c)), lx)
  | none =>
    let text := String.ofList word
    let kind := if Token.keywords.contains text then TokenKind.keyword else .name
    (.ok (lx.token start kind text), lx)

/-- Reads a number that begins with the character `first`, a digit or a point. -/
def readNumber (start : Lexer) (measured : Except NumberFault Measured) : Read :=
  match measured with
  | .error e =>
    if e.atStart then (.error (.fault e.fault start.line (start.column + 1)), start)
    else (.error (start.faultAfter e.after e.fault), start)
  | .ok m =>
    let lx := start.skip m.length
    let lx := match m.runsInto with
      | some sort => { lx with warnings := ⟨.numberRunsInto sort, lx.line⟩ :: lx.warnings }
      | none => lx
    (.ok (lx.token start .number (textBetween start lx)), lx)

/-- Does `closing` close `opening`? -/
def closes (opening closing : Char) : Bool :=
  (opening = '(' && closing = ')') || (opening = '[' && closing = ']')
    || (opening = '\x7b' && closing = '\x7d')

/-- Reads punctuation that begins with `c`. -/
def readPunct (start : Lexer) (c : Char) (rest : List Char) : Read :=
  let two := String.ofList (c :: rest.take 1)
  let three := String.ofList (c :: rest.take 2)
  if Token.twoChars.contains two then
    if Token.threeChars.contains three then
      let lx := start.skip 3
      (.ok (lx.token start .punct three), lx)
    else
      let lx := start.skip 2
      (.ok (lx.token start .punct two), lx)
  else
    let lx := start.take c rest
    let done (lx : Lexer) : Read := (.ok (lx.token start .punct (String.singleton c)), lx)
    if c = '(' || c = '[' || c = '\x7b' then
      if lx.parens.length ≥ maxParens then (.error (lx.faultHere .tooManyParentheses), lx)
      else done { lx with parens := ⟨c, lx.line, start.column⟩ :: lx.parens }
    else if c = ')' || c = ']' || c = '\x7d' then
      match lx.parens with
      | [] => (.error (lx.faultHere (.unmatchedClosing c)), lx)
      | p :: outer =>
        let lx := { lx with parens := outer }
        if closes p.opening c then done lx
        else
          let line := if p.line = lx.line then none else some p.line
          (.error (lx.faultHere (.mismatchedClosing c p.opening line)), lx)
    else if Text.Unicode.isPrintable c.toNat then done lx
    else (.error (lx.faultHere (.nonPrintable c)), lx)

/-- Reads blanks. -/
def skipBlanks : List Char → Lexer → Lexer
  | c :: rest, lx =>
    if c = ' ' || c = '\t' || c = '\x0c' then skipBlanks rest (lx.take c rest) else lx.openLine
  | [], lx => lx

/-- Reads a comment, up to the line end. -/
def skipComment : List Char → Lexer → Lexer
  | c :: rest, lx => if c = '\n' then lx else skipComment rest (lx.take c rest)
  | [], lx => lx

/-- Either a token or a reason to look again. -/
inductive Scan where
  | done (read : Read)
  /-- The rest of a continued line follows. -/
  | continued (lx : Lexer)
  /-- A new line follows that is not to be reported. -/
  | newLine (lx : Lexer)

/-- Reads a token on the current line. `blank` holds on a line without code. -/
def scanToken (blank : Bool) (lx : Lexer) : Scan :=
  let lx := skipBlanks lx.rest { lx with inToken := false }
  let start := { lx with inToken := true }
  let lx := match start.rest with
    | '#' :: _ => skipComment start.rest start
    | _ => start
  match lx.rest with
  | [] => .done (if lx.parens.isEmpty then (.ok (lx.layoutToken .finish), lx) else (.error .ended, lx))
  | '\n' :: rest =>
    let ended := { lx.take '\n' rest with atLineStart := true, inToken := false }
    if blank || !lx.parens.isEmpty then .newLine ended
    else .done (.ok { lx.token start .newline "" with }, ended)
  | c :: rest =>
    if startsName c || c = '"' || c = '\'' then
      match stringPrefix? false false false false lx.rest with
      | some n => .done (readString start (lx.skip n))
      | none => .done (readName start)
    else if c = '.' then
      match rest with
      | d :: more =>
        if d.isDigit then .done (readNumber start (fractionPart 1 rest))
        else if d = '.' && more.head? = some '.' then
          let lx := start.skip 3
          .done (.ok (lx.token start .punct "..."), lx)
        else .done (readPunct start c rest)
      | [] => .done (readPunct start c rest)
    else if c.isDigit then .done (readNumber start (measureNumber c rest))
    else if c = '\\' then
      match (start.take c rest).continueLine with
      | .error (stop, lx) => .done (.error stop, lx)
      | .ok lx => .continued lx
    else .done (readPunct start c rest)

/-- Reads the next token. Every look at a further line uses up fuel; a source has fewer lines
than characters. -/
def scan : Nat → Bool → Lexer → Read
  | 0, _, lx => (.ok (lx.layoutToken .finish), lx)
  | fuel + 1, blank, lx =>
    let begun : Except (LexStop × Lexer) (Bool × Lexer) :=
      if lx.atLineStart then
        match measureIndent {} lx.rest { lx with inToken := false, atLineStart := false } with
        | .error stop => .error stop
        | .ok (ind, lx) =>
          let blank := match lx.rest with
            | c :: _ => c = '#' || c = '\n'
            | [] => false
          if blank || !lx.parens.isEmpty then .ok (blank, lx)
          else (applyIndent ind lx).map fun lx => (false, lx)
      else .ok (blank, lx)
    match begun with
    | .error (stop, lx) => (.error stop, lx)
    | .ok (blank, lx) =>
      if lx.dedentsDue > 0 then
        (.ok (lx.layoutToken .dedent), { lx with dedentsDue := lx.dedentsDue - 1 })
      else if lx.indentsDue > 0 then
        (.ok (lx.layoutToken .indent), { lx with indentsDue := lx.indentsDue - 1 })
      else
        match scanToken blank lx with
        | .done read => read
        | .continued lx => scan fuel blank lx
        | .newLine lx => scan fuel false lx

/-- Reads the next token. -/
def next (lx : Lexer) : Read := scan (lx.rest.length + 1) false lx

end Lexer

end SourceLoader
