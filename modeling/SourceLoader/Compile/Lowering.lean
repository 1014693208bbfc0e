import SourceLoader.Compile.Dependencies
import SourceLoader.Syntax.Fault
import SourceLoader.Syntax.Walk
import SourceLoader.Text.Lines

/-!
# Lowering of imports

Import statements become assignments of what `require` returns:

* `import a` becomes `a = require('a')`, and `import a.b as c` becomes `c = require('a.b')`;
* `from m import x as y` becomes `y = require('m').x`;
* `from . import x` becomes `x = require('.x')`;
* `from m import *` becomes an update of the globals with the public names of the module.

Imports of `__future__` stay. An import of `a.b` without another name binds no single name and
is refused, and so is `from . import *`. All nodes of a statement that is put in get the place
of the import.
-/

namespace SourceLoader.Lowering

open Dependencies (dots requireName futureModule)

/-! ## Building statements -/

/-- A name that is read. -/
def readName (id : String) : Tree := .node (.name id .load) none []

/-- A text. -/
def textLiteral (s : String) : Tree := .node (.constant (.text (Text.ofString s) false)) none []

/-- A call without keywords. -/
def callOf (function : Tree) (arguments : List Tree) : Tree :=
  .node .call none [[function], arguments, []]

/-- The member of an object. -/
def memberOf (value : Tree) (name : String) : Tree := .node (.attribute name .load) none [[value]]

/-- A clause of a comprehension. -/
def clauseOf (target : String) (iterable : Tree) (conditions : List Tree) : Tree :=
  .node (.comprehension false) none [[.node (.name target .store) none []], [iterable], conditions]

/-- The call that fetches a dependency. -/
def requireCall (specifier : String) : Tree :=
  callOf (readName requireName) [textLiteral specifier]

/-- Binds a name to a value. -/
def bind (name : String) (value : Tree) : Tree :=
  .node .assign none [[.node (.name name .store) none []], [value]]

/-- Binds all public names of a module: those that it lists, or else those that do not begin
with an underscore. -/
def bindAll (specifier : String) : Tree :=
  let isPublic := .node (.unaryOp .not) none
    [[callOf (memberOf (readName "_public") "startswith") [textLiteral "_"]]]
  let publicNames := .node .listComp none
    [[readName "_public"], [clauseOf "_public" (callOf (readName "dir") [readName "_star_module"])
      [isPublic]]]
  let names := callOf (readName "getattr")
    [readName "_star_module", textLiteral "__all__", publicNames]
  let values := .node .dictComp none
    [[readName "_star_name"],
      [callOf (readName "getattr") [readName "_star_module", readName "_star_name"]],
      [clauseOf "_star_module" (.node (.list .load) none [[requireCall specifier]]) [],
        clauseOf "_star_name" names []]]
  .node .exprStmt none
    [[callOf (memberOf (callOf (readName "globals") []) "update") [values]]]

/-! ## Refusing statements -/

/-- What errors say about the source that a tree was read from. -/
structure Origin where
  file : String := "<unknown>"
  text : String := ""

/-- The error of an import that cannot be lowered. -/
def refuse (origin : Origin) (span : Option Span) (fault : Fault) : SyntaxError :=
  let place := span.getD ⟨1, 0, 1, 0⟩
  let lines := Text.splitLines origin.text
  { fault, file := some origin.file
    line := some (place.line : Nat), offset := some (place.column + 1 : Nat)
    endLine := some (place.endLine : Nat), endOffset := some (place.endColumn + 1 : Nat)
    text := if place.line = 0 then none else lines[place.line - 1]? }

/-! ## Lowering -/

/-- Lowers `import` statements. -/
def lowerNames (origin : Origin) (span : Option Span) :
    List Tree → Except SyntaxError (List Tree)
  | [] => return []
  | .node (.alias name asName) _ _ :: rest => do
    if asName.isNone && name.toList.contains '.' then
      throw (refuse origin span (.dottedImport name))
    let others ← lowerNames origin span rest
    return bind (asName.getD name) (requireCall name) :: others
  | _ :: rest => lowerNames origin span rest

/-- Lowers `from` imports without a module. -/
def lowerSiblings (origin : Origin) (span : Option Span) (level : Nat) :
    List Tree → Except SyntaxError (List Tree)
  | [] => return []
  | .node (.alias name asName) _ _ :: rest => do
    if name = "*" then throw (refuse origin span (.relativeStar (dots level)))
    let others ← lowerSiblings origin span level rest
    return bind (asName.getD name) (requireCall (dots level ++ name)) :: others
  | _ :: rest => lowerSiblings origin span level rest

/-- Lowers `from` imports of a module. -/
def lowerMembers (specifier : String) (aliases : List Tree) : List Tree :=
  aliases.filterMap fun a =>
    match a.kind with
    | .alias name asName =>
      some (if name = "*" then bindAll specifier
        else bind (asName.getD name) (memberOf (requireCall specifier) name))
    | _ => none

/-- The statements that a node turns into, if it is an import that is lowered. -/
def lowerNode? (origin : Origin) : Tree → Except SyntaxError (Option (List Tree))
  | .node .importNames span [aliases] => do
    return some ((← lowerNames origin span aliases).map (Tree.relocate span))
  | .node (.importFrom module level) span [aliases] => do
    if module = some futureModule then return none
    match module with
    | none => return some ((← lowerSiblings origin span level aliases).map (Tree.relocate span))
    | some m => return some ((lowerMembers (dots level ++ m) aliases).map (Tree.relocate span))
  | _ => return none

mutual

/-- Lowers the imports below a node. -/
def lowerTree (origin : Origin) : Tree → Except SyntaxError Tree
  | .node k s fs => do return .node k s (← lowerFields origin fs)

/-- Lowers the imports in some fields. -/
def lowerFields (origin : Origin) : List (List Tree) → Except SyntaxError (List (List Tree))
  | [] => return []
  | f :: fs => do
    let g ← lowerAll origin f
    return g :: (← lowerFields origin fs)

/-- Lowers the imports among some trees and below them. -/
def lowerAll (origin : Origin) : List Tree → Except SyntaxError (List Tree)
  | [] => return []
  | t :: ts => do
    match ← lowerNode? origin t with
    | some statements => return statements ++ (← lowerAll origin ts)
    | none => do
      let t ← lowerTree origin t
      return t :: (← lowerAll origin ts)

end

/-- Lowers all imports of a module. -/
def lower (origin : Origin) (module : Tree) : Except SyntaxError Tree := lowerTree origin module

end SourceLoader.Lowering
