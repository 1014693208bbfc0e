import SourceLoader.Syntax.Parser

/-!
# Expressions from operators

Lists of expressions, named and conditional expressions, and the operators in the order in
which they bind, the loosest first.
-/

namespace SourceLoader.Grammar

open Parser

/-- Is it a name that began a statement in an older language? -/
def isLegacyName (t : Tree) : Bool :=
  match t.kind with
  | .name id _ => id = "print" || id = "exec"
  | _ => false

variable (g : Rules)

/-! ## Lists of expressions -/

/-- A tuple without parentheses, or its only element. `item` reads an element. -/
def tupleOrOne (item : Parser Tree) : Parser Tree := do
  let start ← peek
  firstOf [
    do
      let first ← item
      let others ← many1 (do let _ ← punct ","; item)
      let _ ← opt (punct ",")
      nodeFrom start (.tuple .load) [first :: others],
    do
      let first ← item
      let _ ← punct ","
      nodeFrom start (.tuple .load) [[first]],
    item]

/-- Expressions that may be starred. -/
def starExpressions : Parser Tree := tupleOrOne (g.one .starExpression)

/-- Expressions without stars. -/
def expressions : Parser Tree := tupleOrOne (g.one .expression)

/-- A starred operand. -/
def starredOperand : Parser Tree :=
  located do
    let _ ← punct "*"
    let value ← g.one .bitOr
    return (.starred .load, [[value]])

/-- An expression that may be starred. -/
def starExpression : Parser Tree := firstOf [starredOperand g, g.one .expression]

/-- An element of a display: a starred or a named expression. -/
def starNamedExpression : Parser Tree := firstOf [starredOperand g, g.one .namedExpression]

/-- Elements of a display. -/
def starNamedExpressions : Parser (List Tree) := do
  let elements ← sepBy1 (g.one .starNamedExpression) (punct ",")
  let _ ← opt (punct ",")
  return elements

/-! ## Named expressions -/

/-- A name bound to the value of an expression. -/
def assignmentExpression : Parser Tree :=
  located do
    let target ← nameTree
    let _ ← punct ":="
    let value ← g.one .expression
    return (.namedExpr, [[target.withUsage .store], [value]])

/-- An expression that is no target of a named expression. -/
def expressionAlone : Parser Tree := do
  let e ← g.one .expression
  notLook (punct ":=")
  return e

/-- Mistakes around `=` and `:=` in expressions. -/
def invalidNamed : Parser Tree :=
  diagnose [
    do
      let target ← g.one .expression
      let _ ← punct ":="
      let _ ← g.one .expression
      faultAtTree target (.cannotWalrus target.describe),
    do
      let name ← nameTree
      let _ ← punct "="
      let _ ← g.one .bitOr
      notLook (firstOf [punct "=", punct ":="])
      faultAtTree name .maybeComparison,
    do
      notLook (firstOf [
        ignore (g.one .listDisplay),
        ignore (g.one .tupleDisplay),
        ignore (g.one .generator),
        ignore (keyword "True"),
        ignore (keyword "None"),
        ignore (keyword "False")])
      let target ← g.one .bitOr
      let _ ← punct "="
      let _ ← g.one .bitOr
      notLook (firstOf [punct "=", punct ":="])
      faultAtTree target (.cannotAssignHere target.describe)]

/-- An expression that may bind a name. -/
def namedExpression : Parser Tree :=
  firstOf [assignmentExpression g, g.one .invalidNamed, expressionAlone g]

/-! ## Conditional expressions -/

/-- No parameters. -/
def noParameters : Tree := .node .arguments none [[], [], [], [], [], [], []]

/-- A function without a name. -/
def lambda : Parser Tree :=
  located do
    let _ ← keyword "lambda"
    let parameters ← opt (g.one .lambdaParameters)
    let _ ← punct ":"
    let body ← g.one .expression
    return (.lambda, [[parameters.getD noParameters], [body]])

/-- A choice between two expressions. -/
def conditional : Parser Tree :=
  located do
    let body ← g.one .disjunction
    let _ ← keyword "if"
    let test ← g.one .disjunction
    let _ ← keyword "else"
    let otherwise ← g.one .expression
    return (.ifExp, [[test], [body], [otherwise]])

/-- An expression, read without looking for mistakes. -/
def expressionWithoutMistakes : Parser Tree :=
  trusting (firstOf [conditional g, g.one .disjunction, lambda g])

/-- Two expressions in a row, and a condition without an alternative. -/
def invalidExpression : Parser Tree :=
  diagnose [
    do
      notLook (firstOf [
        do
          let _ ← kind .name
          ignore (kind .string),
        ignore (satisfy fun t => t.kind = .name
          && (t.text = "_" || t.text = "case" || t.text = "match"))])
      let first ← g.one .disjunction
      let _ ← expressionWithoutMistakes g
      let s ← get
      let depth := ((s.tokens[s.mark - 1]?).map Token.depth).getD 0
      if isLegacyName first || depth = 0 then pure ()
      else faultAtTree first .forgottenComma,
    do
      let first ← g.one .disjunction
      let _ ← keyword "if"
      let _ ← g.one .disjunction
      notLook (firstOf [keyword "else", punct ":"])
      faultAtTree first .expectedElse]

/-- A call without parentheses, as older languages had it. -/
def invalidLegacyExpression : Parser Tree :=
  diagnose [
    do
      let name ← nameTree
      notLook (punct "(")
      let _ ← g.one .starExpressions
      match name.kind with
      | .name id _ =>
        if isLegacyName name then faultAtTree name (.missingCallParentheses id) else pure ()
      | _ => pure ()]

/-- An expression. -/
def expression : Parser Tree :=
  firstOf [
    invalidExpression g,
    invalidLegacyExpression g,
    conditional g,
    g.one .disjunction,
    lambda g]

/-- A `yield`. -/
def yieldExpression : Parser Tree :=
  firstOf [
    located do
      let _ ← keyword "yield"
      let _ ← keyword "from"
      let value ← g.one .expression
      return (.yieldFrom, [[value]]),
    located do
      let _ ← keyword "yield"
      let value ← opt (g.one .starExpressions)
      return (.yield, [value.toList])]

/-! ## Operators -/

/-- Operands joined by a word, or a single operand. -/
def wordChain (word : String) (op : BoolOp) (operand : Parser Tree) : Parser Tree :=
  firstOf [
    located do
      let first ← operand
      let others ← many1 (do let _ ← keyword word; operand)
      return (.boolOp op, [first :: others]),
    operand]

/-- Alternatives joined by `or`. -/
def disjunction : Parser Tree := wordChain "or" .or (g.one .conjunction)

/-- Conditions joined by `and`. -/
def conjunction : Parser Tree := wordChain "and" .and (g.one .inversion)

/-- An operator of comparisons. -/
def comparisonOperator : Parser CmpOp := do
  let t ← peek
  match t.kind, t.text with
  | .punct, "==" => do advance; return .eq
  | .punct, "!=" => do advance; return .notEq
  | .punct, "<=" => do advance; return .ltE
  | .punct, "<" => do advance; return .lt
  | .punct, ">=" => do advance; return .gtE
  | .punct, ">" => do advance; return .gt
  | .keyword, "not" => do
    advance
    let _ ← keyword "in"
    return .notIn
  | .keyword, "in" => do advance; return .isIn
  | .keyword, "is" => fail
  | _, _ => fail

/-- An operator of comparisons and its right operand. -/
def comparisonPair : Parser (CmpOp × Tree) :=
  firstOf [
    do
      let op ← comparisonOperator
      return (op, ← g.one .bitOr),
    do
      let _ ← keyword "is"
      let _ ← keyword "not"
      return (.isNot, ← g.one .bitOr),
    do
      let _ ← keyword "is"
      return (.is, ← g.one .bitOr)]

/-- A chain of comparisons, or a single operand. -/
def comparison : Parser Tree :=
  firstOf [
    located do
      let first ← g.one .bitOr
      let others ← many1 (comparisonPair g)
      return (.compare (others.map Prod.fst), [[first], others.map Prod.snd]),
    g.one .bitOr]

/-- An operator in front of its operand. -/
def unary (operator : Parser Token) (op : UnaryOp) (operand : Parser Tree) : Parser Tree :=
  located do
    let _ ← operator
    let value ← operand
    return (.unaryOp op, [[value]])

/-- A negated condition, or a comparison. -/
def inversion : Parser Tree :=
  firstOf [unary (keyword "not") .not (g.one .inversion), comparison g]

/-- Operands joined by operators of one level, grouped to the left. -/
def binaryChain (operators : List (String × BinOp)) (operand : Parser Tree) : Parser Tree := do
  let start ← peek
  chain operand fun left =>
    firstOf (operators.map fun (text, op) => do
      let _ ← punct text
      let right ← operand
      nodeFrom start (.binOp op) [[left], [right]])

/-- Operands joined by `|`. -/
def bitOr : Parser Tree := binaryChain [("|", .bitOr)] (g.one .bitXor)

/-- Operands joined by `^`. -/
def bitXor : Parser Tree := binaryChain [("^", .bitXor)] (g.one .bitAnd)

/-- Operands joined by `&`. -/
def bitAnd : Parser Tree := binaryChain [("&", .bitAnd)] (g.one .shift)

/-- Operands joined by shifts. -/
def shift : Parser Tree := binaryChain [("<<", .lShift), (">>", .rShift)] (g.one .sum)

/-- Operands joined by `+` and `-`. -/
def sum : Parser Tree := binaryChain [("+", .add), ("-", .sub)] (g.one .term)

/-- Operands joined by operators of products. -/
def term : Parser Tree :=
  binaryChain [("*", .mult), ("/", .div), ("//", .floorDiv), ("%", .mod), ("@", .matMult)]
    (g.one .factor)

/-- A power. -/
def power : Parser Tree :=
  firstOf [
    located do
      let base ← g.one .awaitPrimary
      let _ ← punct "**"
      let exponent ← g.one .factor
      return (.binOp .pow, [[base], [exponent]]),
    g.one .awaitPrimary]

/-- A signed operand, or a power. -/
def factor : Parser Tree :=
  firstOf [
    unary (punct "+") .uAdd (g.one .factor),
    unary (punct "-") .uSub (g.one .factor),
    unary (punct "~") .invert (g.one .factor),
    power g]

/-- An awaited operand. -/
def awaitPrimary : Parser Tree :=
  firstOf [
    located do
      let _ ← keyword "await"
      let value ← g.one .primary
      return (.await, [[value]]),
    g.one .primary]

end SourceLoader.Grammar
