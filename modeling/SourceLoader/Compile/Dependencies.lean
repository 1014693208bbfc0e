import SourceLoader.Syntax.Tree

/-!
# Declared dependencies

The specifiers that a module declares: those of its import statements, and those of calls
`require('literal')` with exactly one text as argument. They are listed as they stand in the fields
of the nodes, and as often as they occur. Specifiers that are computed when the module runs are not
declared.
-/

namespace SourceLoader.Dependencies

/-- The function that fetches a dependency. -/
def requireName : String := "require"

/-- The module whose imports are switches for the compiler. -/
def futureModule : String := "__future__"

/-- The points in front of a relative module. -/
def dots (level : Nat) : String := String.ofList (List.replicate level '.')

/-- The names of imported things, as written before `as`. -/
def aliasNames (aliases : List Tree) : List String :=
  aliases.filterMap fun a =>
    match a.kind with
    | .alias name _ => some name
    | _ => none

/-- The specifiers of a `from` import. Without a module each name is a module of its own. -/
def ofImportFrom (module : Option String) (level : Nat) (names : List String) : List String :=
  match module with
  | some m => [dots level ++ m]
  | none => names.map (dots level ++ ·)

/-- The specifiers that a node declares itself. -/
def ofNode (includeImports : Bool) : Tree → List String
  | .node .importNames _ [aliases] => if includeImports then aliasNames aliases else []
  | .node (.importFrom module level) _ [aliases] =>
    if includeImports && module ≠ some futureModule then
      ofImportFrom module level (aliasNames aliases)
    else []
  | .node .call _ [[.node (.name id _) _ _], [.node (.constant (.text t _)) _ _], []] =>
    if id = requireName then [Text.toString t] else []
  | _ => []

mutual

/-- The specifiers that a tree declares. -/
def ofTree (includeImports : Bool) : Tree → List String
  | .node k s fs => ofNode includeImports (.node k s fs) ++ ofFields includeImports fs

/-- The specifiers that some fields declare. -/
def ofFields (includeImports : Bool) : List (List Tree) → List String
  | [] => []
  | f :: fs => ofAll includeImports f ++ ofFields includeImports fs

/-- The specifiers that some trees declare. -/
def ofAll (includeImports : Bool) : List Tree → List String
  | [] => []
  | t :: ts => ofTree includeImports t ++ ofAll includeImports ts

end

end SourceLoader.Dependencies
