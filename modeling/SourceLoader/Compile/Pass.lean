import SourceLoader.Failure

/-!
# Syntax passes

A pass is a change of a tree that a host adds to the compilation. It may fail, and it may give
way to other tasks before it is done. Below the type are passes for hosts and tests.
-/

namespace SourceLoader

/-- A change of a tree. -/
structure Pass where
  /-- How often the pass gives way to other tasks. -/
  pauses : Nat := 0
  /-- The tree after the change. -/
  apply : Tree → Except Failure Tree

namespace Pass

/-- A pass that cannot fail. -/
def ofMap (f : Tree → Tree) : Pass := { apply := fun t => .ok (f t) }

/-- The same pass, giving way to other tasks once. -/
def paused (p : Pass) : Pass := { p with pauses := p.pauses + 1 }

/-- Changes the statements of a module. -/
def mapBody (f : List Tree → List Tree) : Tree → Tree
  | .node .module s [body] => .node .module s [f body]
  | t => t

/-- Changes nothing. -/
def identity : Pass := ofMap id

/-- Doubles every whole number. -/
def doubleIntegers : Pass :=
  ofMap <| Tree.mapUp fun t =>
    match t with
    | .node (.constant (.int n)) s fs => .node (.constant (.int (2 * n))) s fs
    | t => t

/-- Renames a variable wherever it stands as a name of its own. -/
def rename (old new : String) : Pass :=
  ofMap <| Tree.mapUp fun t =>
    match t with
    | .node (.name id usage) s fs => .node (.name (if id = old then new else id) usage) s fs
    | t => t

/-- Adds a `return` at the end. -/
def appendReturn : Pass := ofMap (mapBody (· ++ [.node .returnStmt none [[]]]))

/-- Reverses the order of the statements. -/
def reverse : Pass := ofMap (mapBody List.reverse)

/-- Drops the first statement. -/
def dropFirst : Pass where
  apply
    | .node .module s [_ :: rest] => .ok (.node .module s [rest])
    | _ => .error (.host "IndexError" "pop from empty list")

/-- Puts the statements of a source in front, without places. -/
def prepend (source : String) : Pass where
  apply t :=
    match Source.parse source with
    | .error e => .error (Failure.ofParse "<unknown>" e)
    | .ok (front, _) =>
      .ok (mapBody ((front.children.map Tree.eraseSpans) ++ ·) t)

/-- Fails. -/
def fail (f : Failure) : Pass where
  apply _ := .error f

end Pass

end SourceLoader
