import SourceLoader.Syntax.Grammar.Operators

/-!
# Statements

Simple statements stand in a row on one line; compound statements own blocks. A block is
indented, or the rest of the line.
-/

namespace SourceLoader.Grammar

open Parser

variable (g : Rules)

/-! ## Blocks -/

/-- Reports a missing block behind the end of a line. -/
def requireBlock (start : Token) (owner : BlockOwner) : Parser Unit := do
  let _ ← kind .newline
  notLook (kind .indent)
  faultAtLast (.expectedBlockAfter owner start.line)

/-- Reports a missing colon at the end of a line. -/
def requireColon : Parser Unit := do
  let _ ← kind .newline
  faultAtLast (.expectedToken ":")

/-- The mistakes behind the head of a compound statement: no colon, or no block. -/
def invalidHead (start : Parser Token) (head : Parser Unit) (owner : BlockOwner) :
    List (Parser Unit) := [
  do
    let _ ← start
    head
    requireColon,
  do
    let t ← start
    head
    let _ ← punct ":"
    requireBlock t owner]

/-- A block. -/
def block : Parser (List Tree) :=
  firstOf [
    do
      let _ ← kind .newline
      let _ ← kind .indent
      let body ← g.many .statements
      let _ ← kind .dedent
      return body,
    g.many .simpleStatements,
    diagnose [
      do
        let _ ← kind .newline
        notLook (kind .indent)
        faultAtLast .expectedBlock]]

/-- A block behind a colon. -/
def colonBlock : Parser (List Tree) := do
  let _ ← punct ":"
  g.many .block

/-! ## Assignments -/

/-- The right side of an assignment. -/
def assignedValue : Parser Tree := firstOf [g.one .yieldExpression, g.one .starExpressions]

/-- An operator of augmented assignments. -/
def augmentedOperator : Parser BinOp := do
  let t ← satisfy fun t => t.kind = .punct
  match t.text with
  | "+=" => return .add
  | "-=" => return .sub
  | "*=" => return .mult
  | "@=" => return .matMult
  | "/=" => return .div
  | "%=" => return .mod
  | "&=" => return .bitAnd
  | "|=" => return .bitOr
  | "^=" => return .bitXor
  | "<<=" => return .lShift
  | ">>=" => return .rShift
  | "**=" => return .pow
  | "//=" => return .floorDiv
  | _ => fail

/-- The annotation of a target and the value it gets, if there is one. -/
def annotated : Parser (Tree × List Tree) := do
  let _ ← punct ":"
  let hint ← g.one .expression
  let value ← opt do
    let _ ← punct "="
    assignedValue g
  return (hint, value.toList)

/-- Targets, each with an equals sign behind it. -/
def chainedTarget : Parser Tree := do
  let t ← g.one .starTargets
  let _ ← punct "="
  return t

/-- Mistakes in assignments. -/
def invalidAssignment : Parser Tree :=
  diagnose [
    do
      let target ← g.one .annotationTarget
      let _ ← punct ":"
      let _ ← g.one .expression
      faultAtTree target (.onlySingleTarget target.describe),
    do
      let first ← g.one .starNamedExpression
      let _ ← punct ","
      let _ ← many (g.many .starNamedExpressions)
      let _ ← punct ":"
      let _ ← g.one .expression
      faultAtTree first (.onlySingleTarget "tuple"),
    do
      let target ← g.one .expression
      let _ ← punct ":"
      let _ ← g.one .expression
      faultAtTree target .illegalAnnotationTarget,
    do
      let _ ← many (chainedTarget g)
      let target ← g.one .starExpressions
      let _ ← punct "="
      refuseTarget .assignment target,
    do
      let _ ← many (chainedTarget g)
      let target ← g.one .yieldExpression
      let _ ← punct "="
      faultAtTree target .yieldNotAssignable,
    do
      let target ← g.one .starExpressions
      let _ ← augmentedOperator
      let _ ← assignedValue g
      faultAtTree target (.illegalAugmented target.describe)]

/-- An assignment. -/
def assignment : Parser Tree :=
  firstOf [
    located do
      let name ← nameTree
      let (hint, value) ← annotated g
      return (.annAssign true, [[name.withUsage .store], [hint], value]),
    located do
      let target ← firstOf [
        do
          let _ ← punct "("
          let t ← g.one .singleTarget
          let _ ← punct ")"
          return t,
        g.one .memberTarget]
      let (hint, value) ← annotated g
      return (.annAssign false, [[target], [hint], value]),
    located do
      let targets ← many1 (chainedTarget g)
      let value ← assignedValue g
      notLook (punct "=")
      return (.assign, [targets, [value]]),
    do
      let start ← peek
      commit
        (do
          let target ← g.one .singleTarget
          let op ← augmentedOperator
          return (target, op))
        (fun (target, op) => do
          let value ← assignedValue g
          nodeFrom start (.augAssign op) [[target], [value]])
        (invalidAssignment g)]

/-! ## Imports -/

/-- Names joined by points. -/
def dottedImportName : Parser String := do
  let names ← sepBy1 identifier (punct ".")
  return ".".intercalate names

/-- The name behind `as`, if there is one. -/
def importAlias : Parser (Option String) :=
  opt do
    let _ ← keyword "as"
    identifier

/-- An imported name. `name` reads it. -/
def aliasOf (name : Parser String) : Parser Tree :=
  located do
    let n ← name
    let asName ← importAlias
    return (.alias n asName, [])

/-- Names that are imported from a module. -/
def importedNames : Parser (List Tree) := sepBy1 (aliasOf identifier) (punct ",")

/-- What is imported from a module. -/
def importTargets : Parser (List Tree) :=
  firstOf [
    do
      let _ ← punct "("
      let names ← importedNames
      let _ ← opt (punct ",")
      let _ ← punct ")"
      return names,
    do
      let names ← importedNames
      notLook (punct ",")
      return names,
    do
      let star ← punct "*"
      return [leaf star (.alias "*" none)],
    diagnose [
      do
        let _ ← importedNames
        let _ ← punct ","
        let _ ← kind .newline
        faultAtLast .trailingComma]]

/-- The number of levels that a point or three points go up. -/
def importLevel : Parser Nat :=
  firstOf [
    do
      let _ ← punct "."
      return 1,
    do
      let _ ← punct "..."
      return 3]

/-- An import from a module. -/
def importFromStatement : Parser Tree :=
  firstOf [
    located do
      let _ ← keyword "from"
      let levels ← many importLevel
      let name ← dottedImportName
      let _ ← keyword "import"
      let names ← importTargets
      return (.importFrom (some name) (levels.foldl (· + ·) 0), [names]),
    located do
      let _ ← keyword "from"
      let levels ← many1 importLevel
      let _ ← keyword "import"
      let names ← importTargets
      return (.importFrom none (levels.foldl (· + ·) 0), [names])]

/-- An import of modules. -/
def importStatement : Parser Tree :=
  located do
    let _ ← keyword "import"
    let names ← sepBy1 (aliasOf dottedImportName) (punct ",")
    return (.importNames, [names])

/-! ## Simple statements -/

/-- A statement that is one word. -/
def wordStatement (word : String) (k : Kind) : Parser Tree :=
  located do
    let _ ← keyword word
    return (k, [])

/-- A declaration of names. -/
def declaration (word : String) (k : List String → Kind) : Parser Tree :=
  located do
    let _ ← keyword word
    let names ← sepBy1 identifier (punct ",")
    return (k names, [])

/-- A `return`. -/
def returnStatement : Parser Tree :=
  located do
    let _ ← keyword "return"
    let value ← opt (g.one .starExpressions)
    return (.returnStmt, [value.toList])

/-- A `raise`. -/
def raiseStatement : Parser Tree :=
  located do
    let _ ← keyword "raise"
    let exception ← opt do
      let exception ← g.one .expression
      let cause ← opt do
        let _ ← keyword "from"
        g.one .expression
      return (exception, cause)
    match exception with
    | some (e, cause) => return (.raise, [[e], cause.toList])
    | none => return (.raise, [[], []])

/-- A deletion. -/
def deleteStatement : Parser Tree :=
  firstOf [
    located do
      let _ ← keyword "del"
      let targets ← g.many .delTargets
      look (firstOf [punct ";", kind .newline])
      return (.delete, [targets]),
    diagnose [
      do
        let _ ← keyword "del"
        let targets ← g.one .starExpressions
        refuseTarget .deletion targets]]

/-- An assertion. -/
def assertStatement : Parser Tree :=
  located do
    let _ ← keyword "assert"
    let test ← g.one .expression
    let message ← opt do
      let _ ← punct ","
      g.one .expression
    return (.assert, [[test], message.toList])

/-- An expression as a statement. -/
def expressionStatement (value : Parser Tree) : Parser Tree :=
  located do
    let value ← value
    return (.exprStmt, [[value]])

/-- A statement that begins with a keyword. -/
def keywordStatement (word : String) : Parser Tree :=
  match word with
  | "return" => returnStatement g
  | "import" => importStatement
  | "from" => importFromStatement
  | "raise" => raiseStatement g
  | "pass" => wordStatement "pass" .pass
  | "del" => deleteStatement g
  | "yield" => expressionStatement (g.one .yieldExpression)
  | "assert" => assertStatement g
  | "break" => wordStatement "break" .breakStmt
  | "continue" => wordStatement "continue" .continueStmt
  | "global" => declaration "global" .globalNames
  | "nonlocal" => declaration "nonlocal" .nonlocalNames
  | _ => fail

/-- A simple statement. -/
def simpleStatement : Parser Tree :=
  firstOf [
    assignment g,
    expressionStatement (g.one .starExpressions),
    do
      let t ← peek
      if t.kind = .keyword then keywordStatement g t.text else fail]

/-- The simple statements of a line. -/
def simpleStatements : Parser (List Tree) :=
  firstOf [
    do
      let s ← g.one .simpleStatement
      notLook (punct ";")
      let _ ← kind .newline
      return [s],
    do
      let ss ← sepBy1 (g.one .simpleStatement) (punct ";")
      let _ ← opt (punct ";")
      let _ ← kind .newline
      return ss]

/-! ## Definitions -/

/-- Decorators. -/
def decorators : Parser (List Tree) :=
  many1 do
    let _ ← punct "@"
    let d ← g.one .namedExpression
    let _ ← kind .newline
    return d

/-- The bases and keywords of a class, if it has any. -/
def classParts : Parser (List (List Tree)) := do
  let bases ← opt do
    let _ ← punct "("
    let arguments ← opt (g.one .arguments)
    let _ ← punct ")"
    return arguments
  match bases.join with
  | some (.node _ _ [_, positional, named]) => return [positional, named]
  | _ => return [[], []]

/-- A class, without its decorators. -/
def classDefinition (decorators : List Tree) : Parser Tree :=
  let head : Parser Unit := do
    let _ ← kind .name
    ignore (classParts g)
  firstOf [
    diagnose (invalidHead (keyword "class") head .classDefinition),
    located do
      let _ ← keyword "class"
      let name ← identifier
      let parts ← classParts g
      let body ← colonBlock g
      return (.classDef name, parts ++ [body, decorators])]

/-- The result annotation of a function, if it has one. -/
def resultHint : Parser (Option Tree) :=
  opt do
    let _ ← punct "->"
    g.one .expression

/-- A function, behind its first words. -/
def functionBody (isAsync : Bool) (decorators : List Tree) :
    Parser (Kind × List (List Tree)) := do
  let name ← identifier
  let _ ← forced "("
  let parameters ← opt (g.one .parameters)
  let _ ← punct ")"
  let result ← resultHint g
  let _ ← forced ":"
  let body ← g.many .block
  return (.functionDef isAsync name,
    [[parameters.getD noParameters], body, decorators, result.toList])

/-- A function, without its decorators. -/
def functionDefinition (decorators : List Tree) : Parser Tree :=
  firstOf [
    diagnose [
      do
        let _ ← opt (keyword "async")
        let t ← keyword "def"
        let _ ← kind .name
        let _ ← punct "("
        let _ ← opt (g.one .parameters)
        let _ ← punct ")"
        let _ ← resultHint g
        let _ ← punct ":"
        requireBlock t .functionDefinition],
    located do
      let _ ← keyword "def"
      functionBody g false decorators,
    located do
      let _ ← keyword "async"
      let _ ← keyword "def"
      functionBody g true decorators]

/-- Something with decorators, or without. -/
def decorated (definition : List Tree → Parser Tree) : Parser Tree :=
  firstOf [
    do
      let ds ← decorators g
      definition ds,
    definition []]

/-! ## Branches and loops -/

/-- The part behind `else`. -/
def elsePart : Parser (List Tree) :=
  firstOf [
    diagnose [
      do
        let t ← keyword "else"
        let _ ← punct ":"
        requireBlock t (.statement "else")],
    do
      let _ ← keyword "else"
      let _ ← forced ":"
      g.many .block]

/-- The part behind `else`, empty if there is none. -/
def optionalElse : Parser (List Tree) := do
  let part ← opt (elsePart g)
  return part.getD []

/-- A branch with the branches behind it. `word` begins it. -/
def branch (word : String) : Parser Tree :=
  let head : Parser Tree := do
    let _ ← keyword word
    g.one .namedExpression
  firstOf [
    diagnose (invalidHead (keyword word) (ignore (g.one .namedExpression)) (.statement word)),
    located do
      let test ← head
      let body ← colonBlock g
      let otherwise ← g.one .elifPart
      return (.ifStmt, [[test], body, [otherwise]]),
    located do
      let test ← head
      let body ← colonBlock g
      let otherwise ← optionalElse g
      return (.ifStmt, [[test], body, otherwise])]

/-- An `if`. -/
def ifStatement : Parser Tree := branch g "if"

/-- An `elif`. -/
def elifPart : Parser Tree := branch g "elif"

/-- A `while`. -/
def whileStatement : Parser Tree :=
  firstOf [
    diagnose (invalidHead (keyword "while") (ignore (g.one .namedExpression))
      (.statement "while")),
    located do
      let _ ← keyword "while"
      let test ← g.one .namedExpression
      let body ← colonBlock g
      let otherwise ← optionalElse g
      return (.whileLoop, [[test], body, otherwise])]

/-- A `for`. -/
def forStatement : Parser Tree := do
  let start ← peek
  let head (word : Parser Token) : Parser Tree := do
    let _ ← word
    let target ← g.one .starTargets
    let _ ← keyword "in"
    return target
  let behind (isAsync : Bool) (target : Tree) : Parser Tree := do
    let iterable ← g.one .starExpressions
    let body ← colonBlock g
    let otherwise ← optionalElse g
    nodeFrom start (.forLoop isAsync) [[target], [iterable], body, otherwise]
  let word : Parser Token := do
    let _ ← opt (keyword "async")
    keyword "for"
  let asyncWord : Parser Token := do
    let _ ← keyword "async"
    keyword "for"
  let headAndIterable : Parser Unit := do
    let _ ← g.one .starTargets
    let _ ← keyword "in"
    ignore (g.one .starExpressions)
  firstOf [
    diagnose (invalidHead word headAndIterable (.statement "for")),
    commit (head (keyword "for")) (behind false)
      (commit (head asyncWord) (behind true)
        (diagnose [
          do
            let _ ← word
            let targets ← g.one .starExpressions
            refuseTarget .forLoop targets]))]

/-! ## Contexts -/

/-- A context, perhaps with a target. -/
def withItem : Parser Tree :=
  let behind : Parser Unit := look (firstOf [punct ",", punct ")", punct ":"])
  firstOf [
    do
      let e ← g.one .expression
      let _ ← keyword "as"
      let target ← g.one .starTarget
      behind
      return .node .withItem none [[e], [target]],
    diagnose [
      do
        let _ ← g.one .expression
        let _ ← keyword "as"
        let target ← g.one .expression
        behind
        refuseTarget .assignment target],
    do
      let e ← g.one .expression
      return .node .withItem none [[e], []]]

/-- A context whose target need not be complete. -/
def looseItem (e : Parser Tree) : Parser Unit := do
  let _ ← e
  ignore (opt do
    let _ ← keyword "as"
    g.one .starTarget)

/-- Contexts in a row, as the search for mistakes reads them. -/
def looseItems : Parser Unit := ignore (sepBy1 (looseItem g (g.one .expression)) (punct ","))

/-- Contexts in parentheses, as the search for mistakes reads them. -/
def looseParenthesizedItems : Parser Unit := do
  let _ ← punct "("
  let _ ← sepBy1 (looseItem g (expressions g)) (punct ",")
  let _ ← opt (punct ",")
  ignore (punct ")")

/-- A `with`. -/
def withStatement : Parser Tree :=
  let word : Parser Token := do
    let _ ← opt (keyword "async")
    keyword "with"
  let parenthesized : Parser (List Tree) := do
    let _ ← punct "("
    let items ← sepBy1 (withItem g) (punct ",")
    let _ ← opt (punct ",")
    let _ ← punct ")"
    return items
  let open_ : Parser (List Tree) := sepBy1 (withItem g) (punct ",")
  let form (isAsync : Bool) (items : Parser (List Tree)) : Parser Tree :=
    located do
      if isAsync then ignore (keyword "async")
      let _ ← keyword "with"
      let items ← items
      let body ← colonBlock g
      return (.withStmt isAsync, [items, body])
  let missingBlock (items : Parser Unit) : Parser Unit := do
    let t ← word
    items
    let _ ← punct ":"
    requireBlock t (.statement "with")
  let missingColon (items : Parser Unit) : Parser Unit := do
    let _ ← word
    items
    requireColon
  firstOf [
    diagnose [missingBlock (looseItems g), missingBlock (looseParenthesizedItems g)],
    form false parenthesized,
    form false open_,
    form true parenthesized,
    form true open_,
    diagnose [missingColon (looseItems g), missingColon (looseParenthesizedItems g)]]

/-! ## Handlers -/

/-- The name behind the type of a handler, if there is one. -/
def handlerName : Parser (Option String) := importAlias

/-- Mistakes in the head of a handler. -/
def invalidHandler : Parser Tree :=
  diagnose [
    do
      let _ ← keyword "except"
      let _ ← opt (punct "*")
      let e ← g.one .expression
      let _ ← punct ","
      let _ ← expressions g
      let _ ← handlerName
      let _ ← punct ":"
      faultAtTree e .unparenthesizedExceptions,
    do
      let _ ← keyword "except"
      let _ ← opt (punct "*")
      let _ ← g.one .expression
      let _ ← handlerName
      requireColon,
    do
      let _ ← keyword "except"
      requireColon,
    do
      let _ ← keyword "except"
      let _ ← punct "*"
      let _ ← firstOf [kind .newline, punct ":"]
      faultAtLast .expectedExceptionType]

/-- A handler. -/
def handler : Parser Tree :=
  firstOf [
    diagnose [
      do
        let t ← keyword "except"
        let _ ← g.one .expression
        let _ ← handlerName
        let _ ← punct ":"
        requireBlock t (.statement "except"),
      do
        let t ← keyword "except"
        let _ ← punct ":"
        requireBlock t (.statement "except")],
    located do
      let _ ← keyword "except"
      let e ← g.one .expression
      let name ← handlerName
      let body ← colonBlock g
      return (.exceptHandler name, [[e], body]),
    located do
      let _ ← keyword "except"
      let body ← colonBlock g
      return (.exceptHandler none, [[], body]),
    invalidHandler g]

/-- A handler of groups. -/
def groupHandler : Parser Tree :=
  firstOf [
    diagnose [
      do
        let t ← keyword "except"
        let _ ← punct "*"
        let _ ← g.one .expression
        let _ ← handlerName
        let _ ← punct ":"
        requireBlock t (.statement "except*")],
    located do
      let _ ← keyword "except"
      let _ ← punct "*"
      let e ← g.one .expression
      let name ← handlerName
      let body ← colonBlock g
      return (.exceptHandler name, [[e], body]),
    invalidHandler g]

/-- The part behind `finally`. -/
def finalPart : Parser (List Tree) :=
  firstOf [
    diagnose [
      do
        let t ← keyword "finally"
        let _ ← punct ":"
        requireBlock t (.statement "finally")],
    do
      let _ ← keyword "finally"
      let _ ← forced ":"
      g.many .block]

/-- Mistakes in a `try`. -/
def invalidTry : Parser Tree :=
  let word : Parser Token := do
    let t ← keyword "try"
    let _ ← punct ":"
    return t
  diagnose [
    do
      let t ← word
      requireBlock t (.statement "try"),
    do
      let _ ← word
      let _ ← g.many .block
      notLook (firstOf [keyword "except", keyword "finally"])
      faultAtLast .expectedHandler,
    do
      let _ ← word
      let _ ← many (g.many .block)
      let _ ← many1 (handler g)
      let t ← keyword "except"
      let _ ← punct "*"
      let _ ← g.one .expression
      let _ ← handlerName
      let _ ← punct ":"
      faultAtToken t .mixedHandlers,
    do
      let _ ← word
      let _ ← many (g.many .block)
      let _ ← many1 (groupHandler g)
      let t ← keyword "except"
      let _ ← opt do
        let _ ← g.one .expression
        handlerName
      let _ ← punct ":"
      faultAtToken t .mixedHandlers]

/-- A `try`. -/
def tryStatement : Parser Tree :=
  let body : Parser (List Tree) := do
    let _ ← keyword "try"
    let _ ← forced ":"
    g.many .block
  let handled (star : Bool) (one : Parser Tree) : Parser Tree :=
    located do
      let body ← body
      let handlers ← many1 one
      let otherwise ← optionalElse g
      let final ← opt (finalPart g)
      return (.tryStmt star, [body, handlers, otherwise, final.getD []])
  firstOf [
    invalidTry g,
    located do
      let body ← body
      let final ← finalPart g
      return (.tryStmt false, [body, [], [], final]),
    handled false (handler g),
    handled true (groupHandler g)]

/-! ## Matches -/

/-- What is matched. -/
def subject : Parser Tree :=
  firstOf [
    located do
      let first ← g.one .starNamedExpression
      let _ ← punct ","
      let others ← opt (g.many .starNamedExpressions)
      return (.tuple .load, [first :: others.getD []]),
    g.one .namedExpression]

/-- The condition of a `case`, if there is one. -/
def caseGuard : Parser (Option Tree) :=
  opt do
    let _ ← keyword "if"
    g.one .namedExpression

/-- A `case`. -/
def caseBlock : Parser Tree :=
  firstOf [
    diagnose (invalidHead (softKeyword "case")
      (do
        let _ ← g.one .casePatterns
        ignore (caseGuard g))
      (.statement "case")),
    do
      let _ ← softKeyword "case"
      let pattern ← g.one .casePatterns
      let condition ← caseGuard g
      let body ← colonBlock g
      return .node .matchCase none [[pattern], condition.toList, body]]

/-- A `match`. -/
def matchStatement : Parser Tree :=
  firstOf [
    located do
      let _ ← softKeyword "match"
      let value ← subject g
      let _ ← punct ":"
      let _ ← kind .newline
      let _ ← kind .indent
      let cases ← many1 (caseBlock g)
      let _ ← kind .dedent
      return (.matchStmt, [[value], cases]),
    diagnose (invalidHead (softKeyword "match") (ignore (subject g)) (.statement "match"))]

/-! ## Statements -/

/-- A compound statement. -/
def compoundStatement : Parser Tree := do
  let t ← peek
  match t.kind, t.text with
  | .keyword, "def" => functionDefinition g []
  | .punct, "@" =>
    firstOf [decorated g (functionDefinition g), decorated g (classDefinition g)]
  | .keyword, "async" =>
    firstOf [functionDefinition g [], withStatement g, forStatement g]
  | .keyword, "if" => ifStatement g
  | .keyword, "class" => classDefinition g []
  | .keyword, "with" => withStatement g
  | .keyword, "for" => forStatement g
  | .keyword, "try" => tryStatement g
  | .keyword, "while" => whileStatement g
  | .name, "match" => matchStatement g
  | _, _ => fail

/-- Statements in a row. -/
def statements : Parser (List Tree) := do
  let groups ← many1 (firstOf [
    do
      let s ← compoundStatement g
      return [s],
    g.many .simpleStatements])
  return groups.flatten

/-- A whole source. -/
def module : Parser Tree := do
  let body ← opt (g.many .statements)
  let _ ← kind .finish
  return .node .module none [body.getD []]

end SourceLoader.Grammar
