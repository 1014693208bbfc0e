import SourceLoader.Number.Reading
import SourceLoader.Syntax.Grammar.Operators

/-!
# Patterns

The patterns of `case` blocks.
-/

namespace SourceLoader.Grammar

open Parser

variable (g : Rules)

/-! ## Values -/

/-- A number, as an expression. -/
def patternNumber : Parser Tree := do
  let t ← kind .number
  match Number.ofToken t.text with
  | .ok value => return leaf t (.constant value)
  | .error digits => faultAtLine t.line (.hugeInteger digits)

/-- A number that may have a sign. -/
def signedNumber : Parser Tree :=
  firstOf [
    patternNumber,
    located do
      let _ ← punct "-"
      let n ← patternNumber
      return (.unaryOp .uSub, [[n]])]

/-- Is it an imaginary number? -/
def isImaginary (t : Tree) : Bool :=
  match t.kind with
  | .constant (.imaginary _) => true
  | _ => false

/-- A real number. -/
def realNumber : Parser Tree := do
  let n ← patternNumber
  if isImaginary n then faultAtTree n .realRequired else return n

/-- An imaginary number. -/
def imaginaryNumber : Parser Tree := do
  let n ← patternNumber
  if isImaginary n then return n else faultAtTree n .imaginaryRequired

/-- A sum of a real and an imaginary number. -/
def complexNumber : Parser Tree := do
  let start ← peek
  let real := firstOf [
    realNumber,
    located do
      let _ ← punct "-"
      let n ← realNumber
      return (.unaryOp .uSub, [[n]])]
  let joined (text : String) (op : BinOp) : Parser Tree := do
    let a ← real
    let _ ← punct text
    let b ← imaginaryNumber
    nodeFrom start (.binOp op) [[a], [b]]
  firstOf [joined "+" .add, joined "-" .sub]

/-- The value of a literal pattern. -/
def literalValue : Parser Tree :=
  firstOf [
    do
      let n ← signedNumber
      notLook (firstOf [punct "+", punct "-"])
      return n,
    complexNumber,
    g.one .strings]

/-- The constants that are words. -/
def wordConstant : Parser (Token × Constant) := do
  let t ← peek
  match t.kind, t.text with
  | .keyword, "None" => do advance; return (t, .none)
  | .keyword, "True" => do advance; return (t, .bool true)
  | .keyword, "False" => do advance; return (t, .bool false)
  | _, _ => fail

/-- A literal as the key of a mapping pattern. -/
def literalKey : Parser Tree :=
  firstOf [
    literalValue g,
    do
      let (t, c) ← wordConstant
      return leaf t (.constant c)]

/-- A name, or a member of a name. -/
def patternName : Parser Tree := do
  let start ← peek
  chain nameTree fun t => do
    let _ ← punct "."
    let name ← identifier
    nodeFrom start (.attribute name .load) [[t]]

/-- A member of a name. -/
def dottedName : Parser Tree := do
  let t ← g.one .patternName
  match t.kind with
  | .attribute _ _ => return t
  | _ => fail

/-! ## Closed patterns -/

/-- A name that is bound by a pattern. -/
def captureTarget : Parser String := do
  notLook (softKeyword "_")
  let name ← identifier
  notLook (firstOf [punct ".", punct "(", punct "="])
  return name

/-- A literal. -/
def literalPattern : Parser Tree :=
  firstOf [
    located do
      let value ← literalValue g
      return (.matchValue, [[value]]),
    located do
      let (_, c) ← wordConstant
      return (.matchSingleton c, [])]

/-- A starred name in a sequence. -/
def starPattern : Parser Tree :=
  firstOf [
    located do
      let _ ← punct "*"
      let name ← captureTarget
      return (.matchStar (some name), []),
    located do
      let _ ← punct "*"
      let _ ← softKeyword "_"
      return (.matchStar none, [])]

/-- An element of a sequence. -/
def maybeStarPattern : Parser Tree := firstOf [g.one .starPattern, g.one .pattern]

/-- Elements of a sequence. -/
def patternElements : Parser (List Tree) := do
  let elements ← sepBy1 (maybeStarPattern g) (punct ",")
  let _ ← opt (punct ",")
  return elements

/-- Elements of a sequence that has a comma. -/
def openPatternElements : Parser (List Tree) := do
  let first ← maybeStarPattern g
  let _ ← punct ","
  let others ← opt (g.many .patternElements)
  return first :: others.getD []

/-- A sequence in brackets or parentheses. -/
def sequencePattern : Parser Tree :=
  firstOf [
    located do
      let _ ← punct "["
      let elements ← opt (g.many .patternElements)
      let _ ← punct "]"
      return (.matchSequence, [elements.getD []]),
    located do
      let _ ← punct "("
      let elements ← opt (g.many .openPatternElements)
      let _ ← punct ")"
      return (.matchSequence, [elements.getD []])]

/-- A key with the pattern of its value. -/
def patternEntry : Parser (Tree × Tree) := do
  let key ← firstOf [literalKey g, dottedName g]
  let _ ← punct ":"
  let p ← g.one .pattern
  return (key, p)

/-- The name that takes the remaining entries. -/
def remainingEntries : Parser String := do
  let _ ← punct "**"
  captureTarget

/-- A mapping. -/
def mappingPattern : Parser Tree :=
  firstOf [
    located do
      let _ ← punct "\x7b"
      let _ ← punct "\x7d"
      return (.matchMapping none, [[], []]),
    located do
      let _ ← punct "\x7b"
      let rest ← remainingEntries
      let _ ← opt (punct ",")
      let _ ← punct "\x7d"
      return (.matchMapping (some rest), [[], []]),
    located do
      let _ ← punct "\x7b"
      let entries ← sepBy1 (patternEntry g) (punct ",")
      let _ ← punct ","
      let rest ← remainingEntries
      let _ ← opt (punct ",")
      let _ ← punct "\x7d"
      return (.matchMapping (some rest), [entries.map Prod.fst, entries.map Prod.snd]),
    located do
      let _ ← punct "\x7b"
      let entries ← sepBy1 (patternEntry g) (punct ",")
      let _ ← opt (punct ",")
      let _ ← punct "\x7d"
      return (.matchMapping none, [entries.map Prod.fst, entries.map Prod.snd])]

/-- Patterns by position. -/
def positionalPatterns : Parser (List Tree) := sepBy1 (g.one .pattern) (punct ",")

/-- Patterns by attribute. -/
def keywordPatterns : Parser (List (String × Tree)) :=
  sepBy1
    (do
      let name ← identifier
      let _ ← punct "="
      let p ← g.one .pattern
      return (name, p))
    (punct ",")

/-- A class with patterns for its attributes. -/
def classPattern : Parser Tree :=
  let node (cls : Tree) (positional : List Tree) (named : List (String × Tree)) :
      Kind × List (List Tree) :=
    (.matchClass (named.map Prod.fst), [[cls], positional, named.map Prod.snd])
  firstOf [
    located do
      let cls ← g.one .patternName
      let _ ← punct "("
      let _ ← punct ")"
      return node cls [] [],
    located do
      let cls ← g.one .patternName
      let _ ← punct "("
      let positional ← positionalPatterns g
      let _ ← opt (punct ",")
      let _ ← punct ")"
      return node cls positional [],
    located do
      let cls ← g.one .patternName
      let _ ← punct "("
      let named ← keywordPatterns g
      let _ ← opt (punct ",")
      let _ ← punct ")"
      return node cls [] named,
    located do
      let cls ← g.one .patternName
      let _ ← punct "("
      let positional ← positionalPatterns g
      let _ ← punct ","
      let named ← keywordPatterns g
      let _ ← opt (punct ",")
      let _ ← punct ")"
      return node cls positional named,
    diagnose [
      do
        let _ ← g.one .patternName
        let _ ← punct "("
        let _ ← opt do
          let _ ← positionalPatterns g
          punct ","
        let _ ← keywordPatterns g
        let _ ← punct ","
        let late ← positionalPatterns g
        match late.head? with
        | some p => faultAtTree p .positionalAfterKeywordPattern
        | none => pure ()]]

/-- A pattern that needs no parentheses. -/
def closedPattern : Parser Tree :=
  firstOf [
    literalPattern g,
    located do
      let name ← captureTarget
      return (.matchAs (some name), [[]]),
    located do
      let _ ← softKeyword "_"
      return (.matchAs none, [[]]),
    located do
      let value ← dottedName g
      notLook (firstOf [punct ".", punct "(", punct "="])
      return (.matchValue, [[value]]),
    do
      let _ ← punct "("
      let p ← g.one .pattern
      let _ ← punct ")"
      return p,
    sequencePattern g,
    mappingPattern g,
    classPattern g]

/-! ## Patterns -/

/-- Alternatives, or a single pattern. -/
def orPattern : Parser Tree := do
  let start ← peek
  let alternatives ← sepBy1 (g.one .closedPattern) (punct "|")
  match alternatives with
  | [p] => return p
  | ps => nodeFrom start .matchOr [ps]

/-- Mistakes behind `as`. -/
def invalidAsPattern : Parser Tree :=
  diagnose [
    do
      let _ ← orPattern g
      let _ ← keyword "as"
      let wildcard ← softKeyword "_"
      faultAtToken wildcard .wildcardTarget,
    do
      let _ ← orPattern g
      let _ ← keyword "as"
      notLook (kind .name)
      let e ← g.one .expression
      faultAtTree e .invalidPatternTarget]

/-- A pattern, perhaps with a name for what it matches. -/
def pattern : Parser Tree :=
  firstOf [
    located do
      let p ← orPattern g
      let _ ← keyword "as"
      let name ← captureTarget
      return (.matchAs (some name), [[p]]),
    invalidAsPattern g,
    orPattern g]

/-- The patterns of a `case`: a sequence without brackets, or a single pattern. -/
def patterns : Parser Tree :=
  firstOf [
    located do
      let elements ← g.many .openPatternElements
      return (.matchSequence, [elements]),
    g.one .pattern]

end SourceLoader.Grammar
