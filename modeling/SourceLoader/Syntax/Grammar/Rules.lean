import SourceLoader.Syntax.Grammar.Atom
import SourceLoader.Syntax.Grammar.Parameter
import SourceLoader.Syntax.Grammar.Pattern
import SourceLoader.Syntax.Grammar.Statement
import SourceLoader.Syntax.Grammar.Strings
import SourceLoader.Syntax.Grammar.Target

/-!
# The rules together

The rules call each other through `Rules`. Here the knot is tied: a number bounds how deep rules
may call rules, and each result is remembered.
-/

namespace SourceLoader.Grammar

open Parser

/-- The rules that yield one tree. -/
def oneRule (g : Rules) : OneRule → Parser Tree
  | .simpleStatement => simpleStatement g
  | .elifPart => elifPart g
  | .namedExpression => namedExpression g
  | .invalidNamed => invalidNamed g
  | .expression => expression g
  | .starExpressions => starExpressions g
  | .starExpression => starExpression g
  | .starNamedExpression => starNamedExpression g
  | .yieldExpression => yieldExpression g
  | .disjunction => disjunction g
  | .conjunction => conjunction g
  | .inversion => inversion g
  | .bitOr => bitOr g
  | .bitXor => bitXor g
  | .bitAnd => bitAnd g
  | .shift => shift g
  | .sum => sum g
  | .term => term g
  | .factor => factor g
  | .awaitPrimary => awaitPrimary g
  | .primary => primary g
  | .atom => atom g
  | .strings => strings g
  | .generator => generator g
  | .listDisplay => listDisplay g
  | .tupleDisplay => tupleDisplay g
  | .arguments => arguments g
  | .callArguments => callArguments g
  | .slices => slices g
  | .starTargets => starTargets g
  | .starTarget => starTarget g
  | .targetWithStarAtom => targetWithStarAtom g
  | .targetPrimary => targetPrimary g
  | .memberTarget => memberTarget g .store
  | .singleTarget => singleTarget g
  | .annotationTarget => annotationTarget g
  | .delTarget => delTarget g
  | .pattern => pattern g
  | .closedPattern => closedPattern g
  | .starPattern => starPattern
  | .patternName => patternName
  | .parameters => parameters g .function
  | .lambdaParameters => parameters g .lambda
  | .casePatterns => patterns g
  | .fieldInput => starExpressions g

/-- The rules that yield a sequence of trees. -/
def manyRule (g : Rules) : ManyRule → Parser (List Tree)
  | .statements => statements g
  | .block => block g
  | .starNamedExpressions => starNamedExpressions g
  | .forClauses => forClauses g
  | .delTargets => delTargets g
  | .patternElements => patternElements g
  | .openPatternElements => openPatternElements g
  | .simpleStatements => simpleStatements g

/-- The place where a result is remembered. It depends on the token, the number of the rule, and
whether mistakes are looked for, if that matters to the rule. There are fewer than 128 rules. -/
def placeOf (s : ParseState) (rule : Nat) (isShared : Bool) : Nat :=
  256 * s.mark + 2 * rule + (!isShared && s.diagnosing).toNat

/-- Looks a result up before it is worked out, and remembers it. -/
def rememberOne (rule : OneRule) (p : Parser Tree) : Parser Tree := fun s =>
  let key := placeOf s rule.ctorIdx rule.isShared
  match s.ones[key]? with
  | some (some (t, mark)) => .ok t { s with mark }
  | some none => .no s
  | none =>
    match p s with
    | .ok t s' => .ok t { s' with ones := s'.ones.insert key (some (t, s'.mark)) }
    | .no s' => .no { s' with ones := s'.ones.insert key none }
    | .stop e s' => .stop e s'

/-- Looks a result up before it is worked out, and remembers it. -/
def rememberMany (rule : ManyRule) (p : Parser (List Tree)) : Parser (List Tree) := fun s =>
  let key := placeOf s rule.ctorIdx rule.isShared
  match s.manys[key]? with
  | some (some (ts, mark)) => .ok ts { s with mark }
  | some none => .no s
  | none =>
    match p s with
    | .ok ts s' => .ok ts { s' with manys := s'.manys.insert key (some (ts, s'.mark)) }
    | .no s' => .no { s' with manys := s'.manys.insert key none }
    | .stop e s' => .stop e s'

/-- The rules, up to a depth. -/
def rules : Nat → Rules
  | 0 => ⟨fun _ => fail, fun _ => fail⟩
  | depth + 1 =>
    { one := fun rule s => rememberOne rule (oneRule (rules depth) rule) s
      many := fun rule s => rememberMany rule (manyRule (rules depth) rule) s }

/-- A depth that a source with so many tokens does not exceed: between two calls of a rule that
is about to call itself at the same token lie fewer than fifty others. -/
def depthFor (tokens : Nat) : Nat := 50 * (tokens + 10)

end SourceLoader.Grammar
