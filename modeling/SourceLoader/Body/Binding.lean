import SourceLoader.Compile.Scope

/-!
# Names that a block binds

Which names the statements of a block bind, and which of them it declares to live elsewhere.
Inner functions, classes and `lambda` expressions are blocks of their own; a comprehension binds
its targets for itself alone, but an assignment expression in it binds in the block around.
-/

namespace SourceLoader

/-- What a tree says about a name of its block. -/
inductive NameNote where
  | bound (name : String)
  | isGlobal (name : String)
  | isNonlocal (name : String)
deriving DecidableEq, Repr

namespace NameNote

/-- The name that an import binds. -/
def ofAlias : Tree → List NameNote
  | .node (.alias name asName) _ _ =>
    if name = "*" then []
    else [bound (asName.getD (String.ofList (name.toList.takeWhile (· ≠ '.'))))]
  | _ => []

/-- A name that may be absent. -/
def ofOption : Option String → List NameNote
  | some name => [bound name]
  | none => []

mutual

/-- The notes of a tree. Within a comprehension (`inner`) only assignment expressions count. -/
def ofTree (inner : Bool) : Tree → List NameNote
  | .node (.name id usage) _ _ => if inner || usage = .load then [] else [bound id]
  | .node (.functionDef _ name) _
      [[.node .arguments _ [_, _, _, _, kds, _, ds]], _, decorators, _] =>
    bound name :: (ofAll inner decorators ++ ofAll inner ds ++ ofAll inner kds)
  | .node (.classDef name) _ [bases, keywords, _, decorators] =>
    bound name :: (ofAll inner decorators ++ ofAll inner bases ++ ofAll inner keywords)
  | .node .lambda _ [[.node .arguments _ [_, _, _, _, kds, _, ds]], _] =>
    ofAll inner ds ++ ofAll inner kds
  | .node .namedExpr _ [[.node (.name id _) _ _], value] => bound id :: ofAll inner value
  | .node (.importNames) _ [names] => names.flatMap ofAlias
  | .node (.importFrom _ _) _ [names] => names.flatMap ofAlias
  | .node (.globalNames names) _ _ => names.map isGlobal
  | .node (.nonlocalNames names) _ _ => names.map isNonlocal
  | .node (.exceptHandler name) _ fs => ofOption name ++ ofFields inner fs
  | .node (.matchStar name) _ _ => ofOption name
  | .node (.matchAs name) _ fs => ofOption name ++ ofFields inner fs
  | .node (.matchMapping rest) _ fs => ofOption rest ++ ofFields inner fs
  | .node .listComp _ fs => ofFields true fs
  | .node .setComp _ fs => ofFields true fs
  | .node .dictComp _ fs => ofFields true fs
  | .node .generatorExp _ fs => ofFields true fs
  | .node _ _ fs => ofFields inner fs

/-- The notes of some fields. -/
def ofFields (inner : Bool) : List (List Tree) → List NameNote
  | [] => []
  | f :: fs => ofAll inner f ++ ofFields inner fs

/-- The notes of some trees. -/
def ofAll (inner : Bool) : List Tree → List NameNote
  | [] => []
  | t :: ts => ofTree inner t ++ ofAll inner ts

end

/-- The names that notes declare global. -/
def globals (notes : List NameNote) : List String :=
  notes.filterMap fun n => match n with
    | isGlobal name => some name
    | _ => none

/-- The names that notes bind in the block itself, each once. -/
def locals (notes : List NameNote) : List String :=
  let elsewhere := notes.filterMap fun n => match n with
    | isGlobal name | isNonlocal name => some name
    | bound _ => none
  let names := notes.filterMap fun n => match n with
    | bound name => some name
    | _ => none
  (names.filter (!elsewhere.contains ·)).eraseDups

end NameNote

/-- The statements in which an annotation sets up the annotations of a module or class: those
that are not in a block of their own. -/
def Tree.hasAnnotations : Tree → Bool
  | .node (.annAssign _) _ _ => true
  | .node (.forLoop _) _ [_, _, body, rest] => anyOf body || anyOf rest
  | .node .whileLoop _ [_, body, rest] => anyOf body || anyOf rest
  | .node .ifStmt _ [_, body, rest] => anyOf body || anyOf rest
  | .node (.withStmt _) _ [_, body] => anyOf body
  | .node (.tryStmt _) _ [body, handlers, rest, final] =>
    anyOf body || anyHandler handlers || anyOf rest || anyOf final
  | _ => false
where
  /-- Is there an annotation in some statements? -/
  anyOf : List Tree → Bool
    | [] => false
    | t :: ts => t.hasAnnotations || anyOf ts
  /-- Is there an annotation in some handlers? -/
  anyHandler : List Tree → Bool
    | [] => false
    | .node (.exceptHandler _) _ [_, body] :: ts => anyOf body || anyHandler ts
    | _ :: ts => anyHandler ts

end SourceLoader
