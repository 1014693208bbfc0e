import SourceLoader.Syntax.Parser

/-!
# Targets

What can be bound, and what can be deleted: names, members, subscripts, and tuples and lists
of these.
-/

namespace SourceLoader.Grammar

open Parser

variable (g : Rules)

/-- The start of a member, a call or a subscript. -/
def opensTail : Parser Token := firstOf [punct "(", punct "[", punct "."]

/-- A member of an object. -/
def memberOf (start : Token) (usage : Usage) (t : Tree) : Parser Tree := do
  let _ ← punct "."
  let name ← identifier
  nodeFrom start (.attribute name usage) [[t]]

/-- A subscript of an object. -/
def subscriptOf (start : Token) (usage : Usage) (t : Tree) : Parser Tree := do
  let _ ← punct "["
  let index ← g.one .slices
  let _ ← punct "]"
  nodeFrom start (.subscript usage) [[t], [index]]

/-- What stands in front of the last member or subscript of a target. -/
def targetPrimary : Parser Tree := do
  let start ← peek
  let followed (p : Parser Tree) : Parser Tree := do
    let t ← p
    look opensTail
    return t
  chain (followed (g.one .atom)) fun t =>
    firstOf [
      followed (memberOf start .load t),
      followed (subscriptOf g start .load t),
      followed do
        let argument ← g.one .generator
        nodeFrom start .call [[t], [argument], []],
      followed do
        let _ ← punct "("
        let arguments ← opt (g.one .arguments)
        let _ ← punct ")"
        let fields := match arguments with
          | some (.node _ _ [_, positional, named]) => [[t], positional, named]
          | _ => [[t], [], []]
        nodeFrom start .call fields]

/-- A member or subscript as a target. -/
def memberTarget (usage : Usage) : Parser Tree := do
  let start ← peek
  firstOf [
    do
      let t ← g.one .targetPrimary
      let m ← memberOf start usage t
      notLook opensTail
      return m,
    do
      let t ← g.one .targetPrimary
      let m ← subscriptOf g start usage t
      notLook opensTail
      return m]

/-- A name that is bound. -/
def boundName (usage : Usage) : Parser Tree := do
  let t ← nameTree
  return t.withUsage usage

/-! ## Assignment -/

/-- A target in parentheses, a tuple or a list of targets, or a name. -/
def starAtom : Parser Tree :=
  firstOf [
    boundName .store,
    do
      let _ ← punct "("
      let t ← g.one .targetWithStarAtom
      let _ ← punct ")"
      return t.withUsage .store,
    located do
      let _ ← punct "("
      let elements ← opt (firstOf [
        do
          let first ← g.one .starTarget
          let others ← many1 (do let _ ← punct ","; g.one .starTarget)
          let _ ← opt (punct ",")
          return first :: others,
        do
          let first ← g.one .starTarget
          let _ ← punct ","
          return [first]])
      let _ ← punct ")"
      return (.tuple .store, [elements.getD []]),
    located do
      let _ ← punct "["
      let elements ← opt do
        let elements ← sepBy1 (g.one .starTarget) (punct ",")
        let _ ← opt (punct ",")
        return elements
      let _ ← punct "]"
      return (.list .store, [elements.getD []])]

/-- A target without a star. -/
def targetWithStarAtom : Parser Tree := firstOf [memberTarget g .store, starAtom g]

/-- A target that may be starred. -/
def starTarget : Parser Tree :=
  firstOf [
    located do
      let _ ← punct "*"
      notLook (punct "*")
      let t ← g.one .starTarget
      return (.starred .store, [[t.withUsage .store]]),
    g.one .targetWithStarAtom]

/-- One target, or several that make a tuple. -/
def starTargets : Parser Tree :=
  firstOf [
    do
      let t ← g.one .starTarget
      notLook (punct ",")
      return t,
    located do
      let first ← g.one .starTarget
      let others ← many (do let _ ← punct ","; g.one .starTarget)
      let _ ← opt (punct ",")
      return (.tuple .store, [first :: others])]

/-- A target of an augmented or annotated assignment. -/
def singleTarget : Parser Tree :=
  firstOf [
    g.one .memberTarget,
    boundName .store,
    do
      let _ ← punct "("
      let t ← g.one .singleTarget
      let _ ← punct ")"
      return t]

/-- A list or a tuple where an annotated target should be. -/
def annotationTarget : Parser Tree :=
  firstOf [
    g.one .listDisplay,
    g.one .tupleDisplay,
    do
      let _ ← punct "("
      let t ← g.one .annotationTarget
      let _ ← punct ")"
      return t]

/-! ## Deletion -/

/-- Targets of a deletion. -/
def delTargets : Parser (List Tree) := do
  let targets ← sepBy1 (g.one .delTarget) (punct ",")
  let _ ← opt (punct ",")
  return targets

/-- A target of a deletion. -/
def delTarget : Parser Tree :=
  firstOf [
    memberTarget g .del,
    boundName .del,
    do
      let _ ← punct "("
      let t ← g.one .delTarget
      let _ ← punct ")"
      return t.withUsage .del,
    located do
      let _ ← punct "("
      let targets ← opt (g.many .delTargets)
      let _ ← punct ")"
      return (.tuple .del, [targets.getD []]),
    located do
      let _ ← punct "["
      let targets ← opt (g.many .delTargets)
      let _ ← punct "]"
      return (.list .del, [targets.getD []])]

end SourceLoader.Grammar
