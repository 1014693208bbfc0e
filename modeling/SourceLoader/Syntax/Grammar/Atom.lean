import SourceLoader.Number.Reading
import SourceLoader.Syntax.Grammar.Operators

/-!
# Atoms, displays and members

What stands between operators: names, literals, displays in brackets, comprehensions, and the
members, calls and subscripts that follow an atom.
-/

namespace SourceLoader.Grammar

open Parser

variable (g : Rules)

/-! ## Comprehensions -/

/-- One `for` of a comprehension, with its conditions. -/
def forClause : Parser Tree :=
  let behind (isAsync : Bool) (target : Tree) : Parser Tree := do
    let iterable ← g.one .disjunction
    let conditions ← many (do let _ ← keyword "if"; g.one .disjunction)
    return .node (.comprehension isAsync) none [[target], [iterable], conditions]
  let before : Parser Tree := do
    let _ ← keyword "for"
    let target ← g.one .starTargets
    let _ ← keyword "in"
    return target
  commit (do let _ ← keyword "async"; before) (behind true)
    (commit before (behind false)
      (diagnose [
        do
          let _ ← opt (keyword "async")
          let _ ← keyword "for"
          let targets ← g.one .starExpressions
          refuseTarget .forLoop targets]))

/-- The clauses of a comprehension. -/
def forClauses : Parser (List Tree) := many1 (forClause g)

/-- Mistakes in comprehensions. -/
def invalidComprehension : Parser Tree :=
  diagnose [
    do
      let _ ← firstOf [punct "[", punct "(", punct "\x7b"]
      let starred ← located do
        let _ ← punct "*"
        let value ← g.one .expression
        return (.starred .load, [[value]])
      let _ ← g.many .forClauses
      faultAtTree starred .starredInComprehension,
    do
      let _ ← firstOf [punct "[", punct "\x7b"]
      let first ← g.one .starNamedExpression
      let _ ← punct ","
      let _ ← g.many .starNamedExpressions
      let _ ← g.many .forClauses
      faultAtTree first .unparenthesizedTarget,
    do
      let _ ← firstOf [punct "[", punct "\x7b"]
      let first ← g.one .starNamedExpression
      let _ ← punct ","
      let _ ← g.many .forClauses
      faultAtTree first .unparenthesizedTarget]

/-- A comprehension between two brackets. -/
def comprehension (kind : Kind) (opening closing : String) (element : Parser Tree) :
    Parser Tree :=
  firstOf [
    located do
      let _ ← punct opening
      let e ← element
      let clauses ← g.many .forClauses
      let _ ← punct closing
      return (kind, [[e], clauses]),
    invalidComprehension g]

/-- A generator in parentheses. -/
def generator : Parser Tree :=
  comprehension g .generatorExp "(" ")" (firstOf [assignmentExpression g, expressionAlone g])

/-! ## Displays -/

/-- A list display. -/
def listDisplay : Parser Tree :=
  located do
    let _ ← punct "["
    let elements ← opt (g.many .starNamedExpressions)
    let _ ← punct "]"
    return (.list .load, [elements.getD []])

/-- A tuple in parentheses. -/
def tupleDisplay : Parser Tree :=
  located do
    let _ ← punct "("
    let elements ← opt do
      let first ← g.one .starNamedExpression
      let _ ← punct ","
      let others ← opt (g.many .starNamedExpressions)
      return first :: others.getD []
    let _ ← punct ")"
    return (.tuple .load, [elements.getD []])

/-- An expression in parentheses. -/
def group : Parser Tree :=
  firstOf [
    do
      let _ ← punct "("
      let e ← firstOf [g.one .yieldExpression, g.one .namedExpression]
      let _ ← punct ")"
      return e,
    diagnose [
      do
        let _ ← punct "("
        let starred ← located do
          let _ ← punct "*"
          let value ← g.one .expression
          return (.starred .load, [[value]])
        let _ ← punct ")"
        faultAtTree starred .starredHere,
      do
        let _ ← punct "("
        let stars ← punct "**"
        let _ ← g.one .expression
        let _ ← punct ")"
        faultAtToken stars .doubleStarredHere]]

/-- A key with its value. -/
def keyValue : Parser (Tree × Tree) := do
  let key ← g.one .expression
  let _ ← punct ":"
  let value ← g.one .expression
  return (key, value)

/-- An entry of a mapping display: an unpacked mapping or a key with its value. -/
def entry : Parser (Tree × Tree) :=
  firstOf [
    do
      let _ ← punct "**"
      let mapping ← g.one .bitOr
      return (Tree.missing, mapping),
    keyValue g]

/-- A starred value, or no value, behind a key. -/
def invalidValue : List (Parser Unit) := [
  do
    let _ ← g.one .expression
    let _ ← punct ":"
    let star ← punct "*"
    let _ ← g.one .bitOr
    faultAtToken star .starredValue,
  do
    let _ ← g.one .expression
    let colon ← punct ":"
    look (firstOf [punct "\x7d", punct ","])
    faultAtToken colon .missingValue]

/-- Mistakes in mapping displays. -/
def invalidEntries : Parser Tree :=
  diagnose ((do
      let _ ← sepBy1 (entry g) (punct ",")
      let _ ← punct ","
      diagnose ((do
          let key ← g.one .expression
          notLook (punct ":")
          faultAt key.span.line (key.span.endColumn - 1) .missingColon)
        :: invalidValue g))
    :: invalidValue g)

/-- A mapping display. -/
def dictDisplay : Parser Tree :=
  firstOf [
    located do
      let _ ← punct "\x7b"
      let entries ← opt do
        let entries ← sepBy1 (entry g) (punct ",")
        let _ ← opt (punct ",")
        return entries
      let _ ← punct "\x7d"
      let entries := entries.getD []
      return (.dict, [entries.map Prod.fst, entries.map Prod.snd]),
    diagnose [
      do
        let _ ← punct "\x7b"
        let _ ← invalidEntries g
        ignore (punct "\x7d")]]

/-- A set display. -/
def setDisplay : Parser Tree :=
  located do
    let _ ← punct "\x7b"
    let elements ← g.many .starNamedExpressions
    let _ ← punct "\x7d"
    return (.set, [elements])

/-- A mapping comprehension. -/
def dictComprehension : Parser Tree :=
  firstOf [
    located do
      let _ ← punct "\x7b"
      let (key, value) ← keyValue g
      let clauses ← g.many .forClauses
      let _ ← punct "\x7d"
      return (.dictComp, [[key], [value], clauses]),
    diagnose [
      do
        let _ ← punct "\x7b"
        let stars ← punct "**"
        let _ ← g.one .bitOr
        let _ ← g.many .forClauses
        let _ ← punct "\x7d"
        faultAtToken stars .mappingInComprehension]]

/-! ## Atoms -/

/-- A number. -/
def number : Parser Tree := do
  let t ← kind .number
  match Number.ofToken t.text with
  | .ok value => return leaf t (.constant value)
  | .error digits => faultAtLine t.line (.hugeInteger digits)

/-- An atom. -/
def atom : Parser Tree := do
  let t ← peek
  match t.kind, t.text with
  | .name, _ => nameTree
  | .keyword, "True" => do advance; return leaf t (.constant (.bool true))
  | .keyword, "False" => do advance; return leaf t (.constant (.bool false))
  | .keyword, "None" => do advance; return leaf t (.constant .none)
  | .string, _ => g.one .strings
  | .number, _ => number
  | .punct, "(" => firstOf [g.one .tupleDisplay, group g, g.one .generator]
  | .punct, "[" =>
    firstOf [g.one .listDisplay, comprehension g .listComp "[" "]" (g.one .namedExpression)]
  | .punct, "\x7b" =>
    firstOf [dictDisplay g, setDisplay g, dictComprehension g,
      comprehension g .setComp "\x7b" "\x7d" (g.one .namedExpression)]
  | .punct, "..." => do advance; return leaf t (.constant .ellipsis)
  | _, _ => fail

/-! ## Members -/

/-- The arguments and keywords of a call. -/
def callParts (call : Option Tree) : List (List Tree) :=
  match call with
  | some (.node _ _ [_, arguments, keywords]) => [arguments, keywords]
  | _ => [[], []]

/-- A part of a subscript: a slice or an expression. -/
def slice : Parser Tree :=
  firstOf [
    located do
      let lower ← opt (g.one .expression)
      let _ ← punct ":"
      let upper ← opt (g.one .expression)
      let step ← opt do
        let _ ← punct ":"
        opt (g.one .expression)
      return (.slice, [lower.toList, upper.toList, (step.join).toList]),
    g.one .namedExpression]

/-- What stands between the brackets of a subscript. -/
def slices : Parser Tree :=
  firstOf [
    do
      let s ← slice g
      notLook (punct ",")
      return s,
    located do
      let elements ← sepBy1
        (firstOf [
          slice g,
          located do
            let _ ← punct "*"
            let value ← g.one .expression
            return (.starred .load, [[value]])])
        (punct ",")
      let _ ← opt (punct ",")
      return (.tuple .load, [elements])]

/-- A member of an object. -/
def memberStep (start : Token) (t : Tree) : Parser Tree := do
  let _ ← punct "."
  let name ← identifier
  nodeFrom start (.attribute name .load) [[t]]

/-- A call whose only argument is a generator. -/
def generatorCallStep (start : Token) (t : Tree) : Parser Tree := do
  let argument ← g.one .generator
  nodeFrom start .call [[t], [argument], []]

/-- A call. -/
def callStep (start : Token) (t : Tree) : Parser Tree := do
  let _ ← punct "("
  let arguments ← opt (g.one .arguments)
  let _ ← punct ")"
  nodeFrom start .call ([t] :: callParts arguments)

/-- A subscript. -/
def subscriptStep (start : Token) (t : Tree) : Parser Tree := do
  let _ ← punct "["
  let index ← g.one .slices
  let _ ← punct "]"
  nodeFrom start (.subscript .load) [[t], [index]]

/-- An atom with the members, calls and subscripts that follow. -/
def primary : Parser Tree := do
  let start ← peek
  chain (g.one .atom) fun t =>
    firstOf [memberStep start t, generatorCallStep g start t, callStep g start t,
      subscriptStep g start t]

/-! ## Arguments of calls -/

/-- A starred argument. -/
def starredArgument : Parser Tree :=
  located do
    let _ ← punct "*"
    let value ← g.one .expression
    return (.starred .load, [[value]])

/-- Mistakes in keyword arguments. -/
def invalidKeyword : Parser Tree :=
  diagnose [
    do
      let t ← firstOf [keyword "True", keyword "False", keyword "None"]
      let _ ← punct "="
      faultAtToken t (.cannotAssign t.text),
    do
      let name ← nameTree
      let _ ← punct "="
      let _ ← g.one .expression
      let _ ← g.many .forClauses
      faultAtTree name .maybeComparison,
    do
      notLook (do let _ ← kind .name; punct "=")
      let e ← g.one .expression
      let _ ← punct "="
      faultAtTree e .keywordEquals]

/-- An argument with a keyword. -/
def namedArgument : Parser Tree :=
  located do
    let name ← identifier
    let _ ← punct "="
    let value ← g.one .expression
    return (.keyword (some name), [[value]])

/-- A keyword argument or a starred one. -/
def keywordOrStarred : Parser Tree :=
  firstOf [invalidKeyword g, namedArgument g, starredArgument g]

/-- A keyword argument or an unpacked mapping. -/
def keywordOrMapping : Parser Tree :=
  firstOf [
    invalidKeyword g,
    namedArgument g,
    located do
      let _ ← punct "**"
      let value ← g.one .expression
      return (.keyword none, [[value]])]

/-- The keyword arguments of a call, with the starred ones among them. -/
def keywordArguments : Parser (List Tree) :=
  firstOf [
    do
      let first ← sepBy1 (keywordOrStarred g) (punct ",")
      let _ ← punct ","
      let second ← sepBy1 (keywordOrMapping g) (punct ",")
      return first ++ second,
    sepBy1 (keywordOrStarred g) (punct ","),
    sepBy1 (keywordOrMapping g) (punct ",")]

/-- Is it a starred argument? -/
def isStarred (t : Tree) : Bool :=
  match t.kind with
  | .starred _ => true
  | _ => false

/-- The arguments of a call, as a call of nothing. -/
def callArguments : Parser Tree :=
  firstOf [
    located do
      let positional ← sepBy1
        (firstOf [
          starredArgument g,
          do
            let e ← firstOf [assignmentExpression g, expressionAlone g]
            notLook (punct "=")
            return e])
        (punct ",")
      let named ← opt do
        let _ ← punct ","
        keywordArguments g
      let named := named.getD []
      return (.call, [[], positional ++ named.filter isStarred,
        named.filter fun t => !isStarred t]),
    located do
      let named ← keywordArguments g
      return (.call, [[], named.filter isStarred, named.filter fun t => !isStarred t])]

/-- Does a call of nothing unpack a mapping? -/
def unpacksMapping (call : Tree) : Bool :=
  match call with
  | .node _ _ [_, _, keywords] => keywords.any fun k => k.kind = .keyword none
  | _ => false

/-- Mistakes in the arguments of a call. -/
def invalidArguments : Parser Tree :=
  diagnose [
    do
      let arguments ← g.one .callArguments
      let _ ← punct ","
      let _ ← punct "*"
      faultAtTree arguments .iterableAfterMapping,
    do
      let e ← g.one .expression
      let _ ← g.many .forClauses
      let _ ← punct ","
      let _ ← opt (firstOf [
        ignore (g.one .callArguments),
        do
          let _ ← g.one .expression
          ignore (g.many .forClauses)])
      faultAtTree e .unparenthesizedGenerator,
    do
      let name ← nameTree
      let _ ← punct "="
      let _ ← g.one .expression
      let _ ← g.many .forClauses
      faultAtTree name .maybeComparison,
    do
      let arguments ← g.one .callArguments
      let _ ← g.many .forClauses
      match arguments with
      | .node _ _ [_, positional, _] =>
        match positional with
        | first :: second :: more =>
          faultAtTree ((second :: more).getLast?.getD first) .unparenthesizedGenerator
        | _ => pure ()
      | _ => pure (),
    do
      let _ ← g.one .callArguments
      let _ ← punct ","
      let e ← g.one .expression
      let _ ← g.many .forClauses
      faultAtTree e .unparenthesizedGenerator,
    do
      let arguments ← g.one .callArguments
      let _ ← punct ","
      let _ ← g.one .callArguments
      faultAtLast (if unpacksMapping arguments then .positionalAfterUnpacking
        else .positionalAfterKeyword)]

/-- The arguments of a call, up to its end. -/
def arguments : Parser Tree :=
  firstOf [
    do
      let arguments ← g.one .callArguments
      let _ ← opt (punct ",")
      look (punct ")")
      return arguments,
    invalidArguments g]

end SourceLoader.Grammar
