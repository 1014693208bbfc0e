import SourceLoader.Syntax.Walk

/-!
# Dynamic imports

A module imports dynamically by calling `__import__`. Such calls are renamed to `import_`, the
name under which a running module finds the loader's own function. Renaming comes before any
other change of a tree.
-/

namespace SourceLoader.DynamicImport

/-- The function that a source calls. -/
def reserved : String := "__import__"

/-- The function that is called in its place. -/
def substitute : String := "import_"

/-- Renames the function of a call. -/
def renameCall : Tree → Tree
  | .node .call s ([.node (.name id usage) ns fs] :: rest) =>
    if id = reserved then .node .call s ([.node (.name substitute .load) none []] :: rest)
    else .node .call s ([.node (.name id usage) ns fs] :: rest)
  | t => t

/-- Renames the function of every dynamic import. -/
def rename (t : Tree) : Tree := (t.mapUp renameCall).fillSpans

end SourceLoader.DynamicImport
