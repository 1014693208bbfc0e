import SourceLoader.Syntax.Grammar.Operators

/-!
# Parameters

The parameters of functions and of lambda expressions follow the same rules. They differ in
what ends them, a parenthesis or a colon, and in that a function's parameters may be
annotated.
-/

namespace SourceLoader.Grammar

open Parser

/-- A parameter with its default. -/
structure Parameter where
  arg : Tree
  default? : Option Tree

/-- What follows the positional parameters. -/
structure Tail where
  rest : Option Tree := none
  keywordOnly : List Parameter := []
  mapping : Option Tree := none

/-- Where parameters stand. -/
inductive Signature where
  | function
  | lambda
deriving DecidableEq

namespace Signature

/-- The token that ends the parameters. -/
def closing : Signature → Parser Token
  | .function => punct ")"
  | .lambda => punct ":"

/-- Are they the parameters of a lambda expression? -/
def isLambda : Signature → Bool
  | .function => false
  | .lambda => true

end Signature

variable (g : Rules) (sig : Signature)

/-! ## Single parameters -/

/-- A name with its annotation. -/
def parameter : Parser Tree :=
  located do
    let name ← identifier
    match sig with
    | .lambda => return (.arg name, [[]])
    | .function => do
      let hint ← opt do
        let _ ← punct ":"
        g.one .expression
      return (.arg name, [hint.toList])

/-- A name with an annotation that may be starred. -/
def starAnnotated : Parser Tree :=
  located do
    let name ← identifier
    let _ ← punct ":"
    let hint ← g.one .starExpression
    return (.arg name, [[hint]])

/-- The comma behind a parameter, or the end of the parameters. -/
def behindParameter : Parser Unit :=
  firstOf [
    do
      let _ ← punct ","
      ignore peek,
    look sig.closing]

/-- A default. -/
def defaultValue : Parser Tree :=
  firstOf [
    do
      let _ ← punct "="
      g.one .expression,
    diagnose [
      do
        let equals ← punct "="
        look (firstOf [punct ")", punct ","])
        faultAtToken equals .missingDefault]]

/-- A parameter without a default. -/
def plain : Parser Tree := do
  let p ← parameter g sig
  behindParameter sig
  return p

/-- A parameter with a default. -/
def defaulted : Parser Parameter := do
  let p ← parameter g sig
  let d ← defaultValue g
  behindParameter sig
  return ⟨p, some d⟩

/-- A parameter that may have a default. -/
def maybeDefaulted : Parser Parameter := do
  let p ← parameter g sig
  let d ← opt (defaultValue g)
  behindParameter sig
  return ⟨p, d⟩

/-- The slash behind positional-only parameters. -/
def slash : Parser Unit := do
  let _ ← punct "/"
  firstOf [ignore (punct ","), look sig.closing]

/-- Positional-only parameters without defaults. -/
def slashPlain : Parser (List Tree) := do
  let ps ← many1 (plain g sig)
  slash sig
  return ps

/-- Positional-only parameters, the last ones with defaults. -/
def slashDefaulted : Parser (List Tree × List Parameter) := do
  let ps ← many (plain g sig)
  let ds ← many1 (defaulted g sig)
  slash sig
  return (ps, ds)

/-! ## Starred parameters -/

/-- Mistakes behind `**`. -/
def invalidMapping : Parser Tree :=
  diagnose [
    do
      let _ ← punct "**"
      let _ ← parameter g sig
      let equals ← punct "="
      faultAtToken equals .mappingDefault,
    do
      let _ ← punct "**"
      let _ ← parameter g sig
      let _ ← punct ","
      let p ← parameter g sig
      faultAtTree p .afterMapping,
    do
      let _ ← punct "**"
      let _ ← parameter g sig
      let _ ← punct ","
      let t ← firstOf [punct "*", punct "**", punct "/"]
      faultAtToken t .afterMapping]

/-- The parameter that takes the remaining keywords. -/
def mappingParameter : Parser Tree :=
  firstOf [
    invalidMapping g sig,
    do
      let _ ← punct "**"
      plain g sig]

/-- Mistakes behind `*`. -/
def invalidTail : Parser Tail :=
  diagnose [
    do
      let star ← punct "*"
      firstOf [
        ignore sig.closing,
        do
          let _ ← punct ","
          ignore (firstOf [sig.closing, punct "**"])]
      match sig with
      | .function => faultAtToken star .bareStarNeedsNames
      | .lambda => faultAtLast .bareStarNeedsNames,
    do
      let _ ← punct "*"
      let _ ← parameter g sig
      let equals ← punct "="
      faultAtToken equals .starDefault,
    do
      let _ ← punct "*"
      firstOf [ignore (plain g sig), ignore (punct ",")]
      let _ ← many (maybeDefaulted g sig)
      let star ← punct "*"
      firstOf [ignore (plain g sig), ignore (punct ",")]
      faultAtToken star .starTwice]

/-- What follows the positional parameters. -/
def tail : Parser Tail :=
  firstOf [
    invalidTail g sig,
    do
      let _ ← punct "*"
      let rest ← plain g sig
      let named ← many (maybeDefaulted g sig)
      let mapping ← opt (mappingParameter g sig)
      return ⟨some rest, named, mapping⟩,
    match sig with
    | .lambda => fail
    | .function => do
      let _ ← punct "*"
      let rest ← starAnnotated g
      behindParameter sig
      let named ← many (maybeDefaulted g sig)
      let mapping ← opt (mappingParameter g sig)
      return ⟨some rest, named, mapping⟩,
    do
      let _ ← punct "*"
      let _ ← punct ","
      let named ← many1 (maybeDefaulted g sig)
      let mapping ← opt (mappingParameter g sig)
      return ⟨none, named, mapping⟩,
    do
      let mapping ← mappingParameter g sig
      return { mapping := some mapping }]

/-! ## All parameters -/

/-- The tree of some parameters. -/
def parameterTree (positionalOnly : List Tree) (positional : List Tree)
    (defaults : List Tree) (tail : Option Tail) : Tree :=
  let tail := tail.getD {}
  .node .arguments none
    [positionalOnly, positional, tail.rest.toList, tail.keywordOnly.map Parameter.arg,
      tail.keywordOnly.map fun p => p.default?.getD Tree.missing, tail.mapping.toList, defaults]

/-- The names of some parameters. -/
def argsOf (ps : List Parameter) : List Tree := ps.map Parameter.arg

/-- The defaults of some parameters. -/
def defaultsOf (ps : List Parameter) : List Tree := ps.filterMap Parameter.default?

/-- Parameters without a mistake. -/
def validParameters : Parser Tree :=
  firstOf [
    do
      let only ← slashPlain g sig
      let ps ← many (plain g sig)
      let ds ← many (defaulted g sig)
      let t ← opt (tail g sig)
      return parameterTree only (ps ++ argsOf ds) (defaultsOf ds) t,
    do
      let (only, onlyDs) ← slashDefaulted g sig
      let ds ← many (defaulted g sig)
      let t ← opt (tail g sig)
      return parameterTree (only ++ argsOf onlyDs) (argsOf ds)
        (defaultsOf onlyDs ++ defaultsOf ds) t,
    do
      let ps ← many1 (plain g sig)
      let ds ← many (defaulted g sig)
      let t ← opt (tail g sig)
      return parameterTree [] (ps ++ argsOf ds) (defaultsOf ds) t,
    do
      let ds ← many1 (defaulted g sig)
      let t ← opt (tail g sig)
      return parameterTree [] (argsOf ds) (defaultsOf ds) t,
    do
      let t ← tail g sig
      return parameterTree [] [] [] (some t)]

/-- Some positional-only parameters, with or without defaults. -/
def anySlash : Parser Unit :=
  firstOf [ignore (slashPlain g sig), ignore (slashDefaulted g sig)]

/-- Mistakes in parameters. -/
def invalidParameters : Parser Tree :=
  diagnose [
    do
      let _ ← many (plain g sig)
      firstOf [ignore (slashDefaulted g sig), ignore (many1 (defaulted g sig))]
      let p ← plain g sig
      faultAtTree p .defaultThenPlain,
    do
      let _ ← many (plain g sig)
      let opening ← punct "("
      match sig with
      | .function => ignore (many1 (plain g sig))
      | .lambda => ignore (sepBy1 (parameter g sig) (punct ","))
      let _ ← opt (punct ",")
      let _ ← punct ")"
      faultAtToken opening (.parenthesizedParameters sig.isLambda),
    do
      let slash ← punct "/"
      let _ ← punct ","
      faultAtToken slash .slashNeedsArgument,
    do
      anySlash g sig
      let _ ← many (maybeDefaulted g sig)
      let slash ← punct "/"
      faultAtToken slash .slashTwice,
    do
      let _ ← opt (anySlash g sig)
      let _ ← many (maybeDefaulted g sig)
      let _ ← punct "*"
      firstOf [ignore (punct ","), ignore (plain g sig)]
      let _ ← many (maybeDefaulted g sig)
      let slash ← punct "/"
      faultAtToken slash .slashAfterStar,
    do
      let _ ← many1 (maybeDefaulted g sig)
      let _ ← punct "/"
      let star ← punct "*"
      faultAtToken star .commaBetweenSlashAndStar]

/-- The parameters of a function or a lambda expression. -/
def parameters : Parser Tree := firstOf [invalidParameters g sig, validParameters g sig]

end SourceLoader.Grammar
