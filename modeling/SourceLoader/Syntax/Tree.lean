import SourceLoader.Text.CodePoint

/-!
# Syntax trees

A tree is a node of some kind, with the place in the source that it was read from and its
fields. A field is a list of trees: one tree for a field that is always there, none or one for
an optional field, any number for a sequence. What the fields of a kind are, and in which
order, is said at the kind.

All traversals of the library (search, change, walking) treat the kinds alike, so they
are defined once for trees; only the grammar, the printer, the checks and the evaluator look at
single kinds.
-/

namespace SourceLoader

/-- A place in the source: lines count from one, columns in bytes of UTF-8 from zero. -/
structure Span where
  line : Nat
  column : Nat
  endLine : Nat
  endColumn : Nat
deriving DecidableEq, Repr, Inhabited

/-- An IEEE binary64 number, given by its bits. -/
structure Double where
  bits : UInt64
deriving DecidableEq, Repr, Inhabited

namespace Double

/-- The number with this value. -/
def ofFloat (x : Float) : Double := ⟨x.toBits⟩

/-- The value of the number. -/
def toFloat (x : Double) : Float := Float.ofBits x.bits

end Double

/-- How an expression is used: read, bound or deleted. -/
inductive Usage where
  | load
  | store
  | del
deriving DecidableEq, Repr, Inhabited

inductive BoolOp where
  | and
  | or
deriving DecidableEq, Repr

inductive BinOp where
  | add
  | sub
  | mult
  | matMult
  | div
  | mod
  | pow
  | lShift
  | rShift
  | bitOr
  | bitXor
  | bitAnd
  | floorDiv
deriving DecidableEq, Repr

inductive UnaryOp where
  | invert
  | not
  | uAdd
  | uSub
deriving DecidableEq, Repr

inductive CmpOp where
  | eq
  | notEq
  | lt
  | ltE
  | gt
  | gtE
  | is
  | isNot
  | isIn
  | notIn
deriving DecidableEq, Repr

/-- A literal value. -/
inductive Constant where
  | none
  | bool (value : Bool)
  | ellipsis
  | int (value : Nat)
  | float (value : Double)
  | imaginary (value : Double)
  /-- A text; `isUnicode` tells whether it was written with the prefix `u`. -/
  | text (value : Text) (isUnicode : Bool)
  | bytes (value : List UInt8)
deriving DecidableEq, Repr

/-- The kinds of nodes. -/
inductive Kind where
  /-- Fields: body. -/
  | module
  /-- Fields: arguments, body, decorators, result annotation (optional). -/
  | functionDef (isAsync : Bool) (name : String)
  /-- Fields: bases, keywords, body, decorators. -/
  | classDef (name : String)
  /-- Fields: value (optional). -/
  | returnStmt
  /-- Fields: targets. -/
  | delete
  /-- Fields: targets, value. -/
  | assign
  /-- Fields: target, value. -/
  | augAssign (op : BinOp)
  /-- Fields: target, annotation, value (optional). `simple` holds for a bare name. -/
  | annAssign (simple : Bool)
  /-- Fields: target, iterable, body, else part. -/
  | forLoop (isAsync : Bool)
  /-- Fields: test, body, else part. -/
  | whileLoop
  /-- Fields: test, body, else part. -/
  | ifStmt
  /-- Fields: items, body. -/
  | withStmt (isAsync : Bool)
  /-- Fields: subject, cases. -/
  | matchStmt
  /-- Fields: exception (optional), cause (optional). -/
  | raise
  /-- Fields: body, handlers, else part, final part. `star` holds for exception groups. -/
  | tryStmt (star : Bool)
  /-- Fields: test, message (optional). -/
  | assert
  /-- Fields: aliases. -/
  | importNames
  /-- Fields: aliases. -/
  | importFrom (module : Option String) (level : Nat)
  | globalNames (names : List String)
  | nonlocalNames (names : List String)
  /-- Fields: value. -/
  | exprStmt
  | pass
  | breakStmt
  | continueStmt
  /-- Fields: values. -/
  | boolOp (op : BoolOp)
  /-- Fields: target, value. -/
  | namedExpr
  /-- Fields: left, right. -/
  | binOp (op : BinOp)
  /-- Fields: operand. -/
  | unaryOp (op : UnaryOp)
  /-- Fields: arguments, body. -/
  | lambda
  /-- Fields: test, then, else. -/
  | ifExp
  /-- Fields: keys, values. An absent key stands before an unpacked mapping. -/
  | dict
  /-- Fields: elements. -/
  | set
  /-- Fields: element, clauses. -/
  | listComp
  /-- Fields: element, clauses. -/
  | setComp
  /-- Fields: key, value, clauses. -/
  | dictComp
  /-- Fields: element, clauses. -/
  | generatorExp
  /-- Fields: value. -/
  | await
  /-- Fields: value (optional). -/
  | yield
  /-- Fields: value. -/
  | yieldFrom
  /-- Fields: left, others. -/
  | compare (ops : List CmpOp)
  /-- Fields: function, arguments, keywords. -/
  | call
  /-- Fields: value, format (optional). The conversion is a letter, if there is one. -/
  | formattedValue (conversion : Option Char)
  /-- Fields: parts. -/
  | joinedStr
  | constant (value : Constant)
  /-- Fields: value. -/
  | attribute (name : String) (usage : Usage)
  /-- Fields: value, index. -/
  | subscript (usage : Usage)
  /-- Fields: value. -/
  | starred (usage : Usage)
  | name (id : String) (usage : Usage)
  /-- Fields: elements. -/
  | list (usage : Usage)
  /-- Fields: elements. -/
  | tuple (usage : Usage)
  /-- Fields: lower, upper, step (all optional). -/
  | slice
  /-- Fields: target, iterable, conditions. -/
  | comprehension (isAsync : Bool)
  /-- Fields: type (optional), body. -/
  | exceptHandler (name : Option String)
  /-- Fields: positional-only parameters, parameters, the `*` parameter (optional),
  keyword-only parameters, their defaults (absent where there is none), the `**` parameter
  (optional), defaults of the last positional parameters. -/
  | arguments
  /-- Fields: annotation (optional). -/
  | arg (name : String)
  /-- Fields: value. Without a name it is an unpacked mapping. -/
  | keyword (name : Option String)
  | alias (name : String) (asName : Option String)
  /-- Fields: context expression, target (optional). -/
  | withItem
  /-- Fields: pattern, guard (optional), body. -/
  | matchCase
  /-- Fields: value. -/
  | matchValue
  | matchSingleton (value : Constant)
  /-- Fields: patterns. -/
  | matchSequence
  /-- Fields: keys, patterns. -/
  | matchMapping (rest : Option String)
  /-- Fields: class, positional patterns, keyword patterns. -/
  | matchClass (attributes : List String)
  | matchStar (name : Option String)
  /-- Fields: pattern (optional). -/
  | matchAs (name : Option String)
  /-- Fields: patterns. -/
  | matchOr
  /-- A missing key or default. -/
  | absent
deriving DecidableEq, Repr

/-- A syntax tree. -/
inductive Tree where
  | node (kind : Kind) (span : Option Span) (fields : List (List Tree))
deriving Repr

instance : Inhabited Tree := ⟨.node .absent none []⟩

namespace Tree

/-- The kind of the root. -/
def kind : Tree → Kind
  | .node k _ _ => k

/-- The place of the root. -/
def span? : Tree → Option Span
  | .node _ s _ => s

/-- The fields of the root. -/
def fields : Tree → List (List Tree)
  | .node _ _ fs => fs

/-- The place of the root, at the very start when it has none. -/
def span (t : Tree) : Span := t.span?.getD default

/-- The same tree at another place. -/
def withSpan (t : Tree) (span : Option Span) : Tree := .node t.kind span t.fields

/-- The trees right below the root, in the order of the fields. -/
def children (t : Tree) : List Tree := t.fields.flatten

/-- A tree that stands for a missing one. -/
def missing : Tree := .node .absent none []

/-- Does the tree stand for a missing one? -/
def isMissing : Tree → Bool
  | .node .absent _ _ => true
  | _ => false

mutual

/-- Number of nodes. -/
def size : Tree → Nat
  | .node _ _ fs => 1 + sizeOfFields fs

/-- Number of nodes below some fields. -/
def sizeOfFields : List (List Tree) → Nat
  | [] => 0
  | f :: fs => sizeOfAll f + sizeOfFields fs

/-- Number of nodes of some trees. -/
def sizeOfAll : List Tree → Nat
  | [] => 0
  | t :: ts => t.size + sizeOfAll ts

end

mutual

/-- Changes a tree from the leaves up: `f` sees a node whose fields are done. -/
def mapUp (f : Tree → Tree) : Tree → Tree
  | .node k s fs => f (.node k s (mapUpFields f fs))

/-- Changes all trees of some fields. -/
def mapUpFields (f : Tree → Tree) : List (List Tree) → List (List Tree)
  | [] => []
  | g :: gs => mapUpAll f g :: mapUpFields f gs

/-- Changes some trees. -/
def mapUpAll (f : Tree → Tree) : List Tree → List Tree
  | [] => []
  | t :: ts => mapUp f t :: mapUpAll f ts

end

/-- Forgets all places. -/
def eraseSpans : Tree → Tree := mapUp fun t => t.withSpan none

end Tree

namespace Kind

/-- Does a node of this kind have a place of its own? -/
def hasSpan : Kind → Bool
  | .module | .comprehension _ | .arguments | .withItem | .matchCase | .absent => false
  | _ => true

/-- Is a node of this kind a statement? -/
def isStatement : Kind → Bool
  | .functionDef _ _ | .classDef _ | .returnStmt | .delete | .assign | .augAssign _
  | .annAssign _ | .forLoop _ | .whileLoop | .ifStmt | .withStmt _ | .matchStmt | .raise
  | .tryStmt _ | .assert | .importNames | .importFrom _ _ | .globalNames _
  | .nonlocalNames _ | .exprStmt | .pass | .breakStmt | .continueStmt => true
  | _ => false

/-- The name of the kind, as listings of trees show it. -/
def title : Kind → String
  | .module => "Module"
  | .functionDef false _ => "FunctionDef"
  | .functionDef true _ => "AsyncFunctionDef"
  | .classDef _ => "ClassDef"
  | .returnStmt => "Return"
  | .delete => "Delete"
  | .assign => "Assign"
  | .augAssign _ => "AugAssign"
  | .annAssign _ => "AnnAssign"
  | .forLoop false => "For"
  | .forLoop true => "AsyncFor"
  | .whileLoop => "While"
  | .ifStmt => "If"
  | .withStmt false => "With"
  | .withStmt true => "AsyncWith"
  | .matchStmt => "Match"
  | .raise => "Raise"
  | .tryStmt false => "Try"
  | .tryStmt true => "TryStar"
  | .assert => "Assert"
  | .importNames => "Import"
  | .importFrom _ _ => "ImportFrom"
  | .globalNames _ => "Global"
  | .nonlocalNames _ => "Nonlocal"
  | .exprStmt => "Expr"
  | .pass => "Pass"
  | .breakStmt => "Break"
  | .continueStmt => "Continue"
  | .boolOp _ => "BoolOp"
  | .namedExpr => "NamedExpr"
  | .binOp _ => "BinOp"
  | .unaryOp _ => "UnaryOp"
  | .lambda => "Lambda"
  | .ifExp => "IfExp"
  | .dict => "Dict"
  | .set => "Set"
  | .listComp => "ListComp"
  | .setComp => "SetComp"
  | .dictComp => "DictComp"
  | .generatorExp => "GeneratorExp"
  | .await => "Await"
  | .yield => "Yield"
  | .yieldFrom => "YieldFrom"
  | .compare _ => "Compare"
  | .call => "Call"
  | .formattedValue _ => "FormattedValue"
  | .joinedStr => "JoinedStr"
  | .constant _ => "Constant"
  | .attribute _ _ => "Attribute"
  | .subscript _ => "Subscript"
  | .starred _ => "Starred"
  | .name _ _ => "Name"
  | .list _ => "List"
  | .tuple _ => "Tuple"
  | .slice => "Slice"
  | .comprehension _ => "comprehension"
  | .exceptHandler _ => "ExceptHandler"
  | .arguments => "arguments"
  | .arg _ => "arg"
  | .keyword _ => "keyword"
  | .alias _ _ => "alias"
  | .withItem => "withitem"
  | .matchCase => "match_case"
  | .matchValue => "MatchValue"
  | .matchSingleton _ => "MatchSingleton"
  | .matchSequence => "MatchSequence"
  | .matchMapping _ => "MatchMapping"
  | .matchClass _ => "MatchClass"
  | .matchStar _ => "MatchStar"
  | .matchAs _ => "MatchAs"
  | .matchOr => "MatchOr"
  | .absent => "absent"

end Kind

end SourceLoader
