import SourceLoader.Body.Statement

/-!
# The evaluator

The parts of the evaluator tied together. The engine of a depth uses that of the depth below for
all that nests, so a body that nests deeper than that fails.
-/

namespace SourceLoader

namespace Engine

/-- The failure of code that nests too deeply. -/
def tooDeep {α : Type} : Eval α := Eval.error "RecursionError" "maximum recursion depth exceeded"

/-- The engine that does nothing but fail. -/
def exhausted (resolver : ConfigId → Resolver) : Engine where
  resolver := resolver
  expr _ _ := tooDeep
  block _ _ := tooDeep
  assign _ _ _ := tooDeep
  call _ _ _ _ := tooDeep
  awaited _ _ := tooDeep
  elements _ _ := tooDeep

/-- One level more. -/
def deepen (E : Engine) : Engine where
  resolver := E.resolver
  expr env t := (Expression.eval E env t).placed env.file (Expression.line t)
  block := Statement.block E
  assign := Target.assign E
  call := Invoke.call E
  awaited := Call.await E
  elements := Invoke.elements E

/-- The engine of a depth. -/
def ofDepth (resolver : ConfigId → Resolver) : Nat → Engine
  | 0 => exhausted resolver
  | depth + 1 => deepen (ofDepth resolver depth)

end Engine

end SourceLoader
