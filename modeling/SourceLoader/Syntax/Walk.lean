import SourceLoader.Syntax.Tree

/-!
# Walking a tree

`Tree.walk` lists what a tree is made of, level by level. Besides the nodes it lists the marks
that nodes carry: operators, and how an expression is used. Two trees have the same shape
exactly if their walks agree in these titles.

`Tree.fillSpans` gives every node a place: a node without one gets that of the nearest node
around it.
-/

namespace SourceLoader

namespace Usage

/-- The name of the usage, as listings of trees show it. -/
def title : Usage → String
  | .load => "Load"
  | .store => "Store"
  | .del => "Del"

end Usage

namespace BoolOp

/-- The name of the operator, as listings of trees show it. -/
def title : BoolOp → String
  | .and => "And"
  | .or => "Or"

end BoolOp

namespace BinOp

/-- The name of the operator, as listings of trees show it. -/
def title : BinOp → String
  | .add => "Add"
  | .sub => "Sub"
  | .mult => "Mult"
  | .matMult => "MatMult"
  | .div => "Div"
  | .mod => "Mod"
  | .pow => "Pow"
  | .lShift => "LShift"
  | .rShift => "RShift"
  | .bitOr => "BitOr"
  | .bitXor => "BitXor"
  | .bitAnd => "BitAnd"
  | .floorDiv => "FloorDiv"

end BinOp

namespace UnaryOp

/-- The name of the operator, as listings of trees show it. -/
def title : UnaryOp → String
  | .invert => "Invert"
  | .not => "Not"
  | .uAdd => "UAdd"
  | .uSub => "USub"

end UnaryOp

namespace CmpOp

/-- The name of the operator, as listings of trees show it. -/
def title : CmpOp → String
  | .eq => "Eq"
  | .notEq => "NotEq"
  | .lt => "Lt"
  | .ltE => "LtE"
  | .gt => "Gt"
  | .gtE => "GtE"
  | .is => "Is"
  | .isNot => "IsNot"
  | .isIn => "In"
  | .notIn => "NotIn"

end CmpOp

/-- One stop of a walk. -/
inductive WalkStop where
  | node (tree : Tree)
  /-- An operator or a usage. -/
  | mark (title : String)

namespace WalkStop

/-- What a listing calls the stop. -/
def title : WalkStop → String
  | .node t => t.kind.title
  | .mark title => title

/-- The line of the stop, if it has a place. -/
def line? : WalkStop → Option Nat
  | .node t => t.span?.map Span.line
  | .mark _ => none

end WalkStop

namespace Kind

/-- The marks of a node, and before which of its fields they stand. -/
def marks : Kind → Nat × List String
  | .boolOp op => (0, [op.title])
  | .binOp op | .augAssign op => (1, [op.title])
  | .unaryOp op => (0, [op.title])
  | .compare ops => (1, ops.map CmpOp.title)
  | .attribute _ usage | .starred usage | .list usage | .tuple usage => (1, [usage.title])
  | .subscript usage => (2, [usage.title])
  | .name _ usage => (0, [usage.title])
  | _ => (0, [])

end Kind

namespace Tree

/-- Puts two lists of levels side by side. -/
def besides {α : Type} : List (List α) → List (List α) → List (List α)
  | [], ms => ms
  | ls, [] => ls
  | l :: ls, m :: ms => (l ++ m) :: besides ls ms

mutual

/-- The levels of a tree, from the root down. A missing tree has none. -/
def levels : Tree → List (List WalkStop)
  | .node .absent _ _ => []
  | .node k s fs =>
    let (position, marks) := k.marks
    [.node (.node k s fs)] :: levelsOfFields position (marks.map .mark) fs

/-- The levels of some fields; `marks` stand before the field at `position`. -/
def levelsOfFields (position : Nat) (marks : List WalkStop) :
    List (List Tree) → List (List WalkStop)
  | [] => if marks.isEmpty then [] else [marks]
  | f :: fs =>
    match position with
    | 0 => besides (if marks.isEmpty then [] else [marks])
      (besides (levelsOfAll f) (levelsOfFields 0 [] fs))
    | n + 1 => besides (levelsOfAll f) (levelsOfFields n marks fs)

/-- The levels of some trees. -/
def levelsOfAll : List Tree → List (List WalkStop)
  | [] => []
  | t :: ts => besides (levels t) (levelsOfAll ts)

end

/-- All stops of a tree, level by level. -/
def walk (t : Tree) : List WalkStop := t.levels.flatten

/-- All nodes of a tree, level by level. -/
def walkNodes (t : Tree) : List Tree :=
  t.walk.filterMap fun stop =>
    match stop with
    | .node t => some t
    | .mark _ => none

mutual

/-- Gives the nodes without a place that of the nearest node around them; `outer` is it for the
root. -/
def fillSpansFrom (outer : Span) : Tree → Tree
  | .node k s fs =>
    let own := s.getD outer
    .node k (if k.hasSpan then some own else s) (fillSpansOfFields own fs)

/-- Gives the nodes of some fields a place. -/
def fillSpansOfFields (outer : Span) : List (List Tree) → List (List Tree)
  | [] => []
  | f :: fs => fillSpansOfAll outer f :: fillSpansOfFields outer fs

/-- Gives the nodes of some trees a place. -/
def fillSpansOfAll (outer : Span) : List Tree → List Tree
  | [] => []
  | t :: ts => fillSpansFrom outer t :: fillSpansOfAll outer ts

end

/-- Gives every node a place. Outside of all places it is the start of the source. -/
def fillSpans (t : Tree) : Tree := fillSpansFrom ⟨1, 0, 1, 0⟩ t

/-- Puts every node at one place. -/
def relocate (span : Option Span) : Tree → Tree :=
  mapUp fun t => t.withSpan (if t.kind.hasSpan then span else none)

end Tree

end SourceLoader
