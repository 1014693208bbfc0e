import SourceLoader.Compile.Dependencies
import SourceLoader.Syntax.Fault

/-!
# Imports of `__future__`

Such imports switch features of the language on, and have to stand at the beginning of a
module: only a documentation and other such imports may precede them.
-/

namespace SourceLoader

/-- What the imports of `__future__` at the beginning of a module say. -/
structure Future where
  /-- Are annotations left unevaluated? -/
  postponesHints : Bool := false
  /-- The line of the last of the imports. -/
  line : Nat := 0

namespace Future

/-- The features that can be imported. -/
def features : List String :=
  ["nested_scopes", "generators", "division", "absolute_import", "with_statement",
    "print_function", "unicode_literals", "barry_as_FLUFL", "generator_stop", "annotations"]

/-- The error at a statement, `shift` columns behind its start. -/
def errorAt (span : Span) (shift : Nat) (fault : Fault) : SyntaxError :=
  { fault, file := none, line := some (span.line : Nat)
    offset := some (span.column + shift : Nat) }

/-- Switches the features of one import on. -/
def enable (span : Span) : List String → Future → Except SyntaxError Future
  | [], future => .ok future
  | name :: names, future =>
    if name = "braces" then .error (errorAt span 1 .braces)
    else if !features.contains name then .error (errorAt span 1 (.unknownFeature name))
    else if name = "annotations" then enable span names { future with postponesHints := true }
    else enable span names future

/-- Is the statement only a text? -/
def isDocumentation : Tree → Bool
  | .node .exprStmt _ [[.node (.constant (.text _ _)) _ _]] => true
  | _ => false

/-- Reads the beginning of a module. `isOver` holds once another statement was met; the rest of
its line still counts. -/
def scan (isOver : Bool) (line : Nat) (future : Future) : List Tree → Except SyntaxError Future
  | [] => .ok future
  | t :: ts =>
    let span := t.span
    if isOver && span.line > line then .ok future
    else
      match t with
      | .node (.importFrom module _) _ [aliases] =>
        if module = some Dependencies.futureModule then
          if isOver then .error (errorAt span 0 .futureNotFirst)
          else
            match enable span (Dependencies.aliasNames aliases) future with
            | .error e => .error e
            | .ok future => scan false span.line { future with line := span.line } ts
        else scan true span.line future ts
      | t => scan (isOver || !isDocumentation t) span.line future ts

/-- What the imports of `__future__` say, if they are sound. -/
def ofModule : Tree → Except SyntaxError Future
  | .node .module _ [body] => scan false 0 {} body
  | _ => .ok {}

end Future

end SourceLoader
