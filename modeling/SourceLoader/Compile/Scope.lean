import SourceLoader.Compile.Future

/-!
# Scopes

Every module, class, function, lambda expression and comprehension is a block with names of its
own. The tree is read once and notes for every block how its names are used; what contradicts
an earlier use is refused on the spot. Then every name that is declared nonlocal has to be bound
in a function around the block.
-/

namespace SourceLoader

namespace Scope

/-- How a name is used in a block. -/
structure Uses where
  isGlobal : Bool := false
  isNonlocal : Bool := false
  /-- It is bound otherwise than by an import or as a parameter. -/
  isBound : Bool := false
  isParameter : Bool := false
  isImported : Bool := false
  isRead : Bool := false
  isAnnotated : Bool := false
  /-- It is a variable of a comprehension. -/
  isIterated : Bool := false

namespace Uses

/-- Both uses. -/
def union (a b : Uses) : Uses :=
  { isGlobal := a.isGlobal || b.isGlobal, isNonlocal := a.isNonlocal || b.isNonlocal
    isBound := a.isBound || b.isBound, isParameter := a.isParameter || b.isParameter
    isImported := a.isImported || b.isImported, isRead := a.isRead || b.isRead
    isAnnotated := a.isAnnotated || b.isAnnotated, isIterated := a.isIterated || b.isIterated }

/-- Is the name bound in the block in any way? -/
def isLocal (u : Uses) : Bool := u.isBound || u.isParameter || u.isImported

end Uses

/-- The kinds of blocks. -/
inductive BlockKind where
  | module
  | classBody
  | function
  /-- A comprehension; the text is what messages call it. -/
  | comprehension (title : String)
  /-- An annotation that is not evaluated. -/
  | hint
deriving DecidableEq

namespace BlockKind

/-- Does the block run as a function of its own? -/
def isFunction : BlockKind → Bool
  | .function | .comprehension _ => true
  | _ => false

end BlockKind

/-- What a block says about its names. -/
inductive Block where
  | mk (kind : BlockKind) (names : List (String × Uses)) (declared : List (String × Span))
    (inner : List Block)

/-- A block that is being read. -/
structure OpenBlock where
  kind : BlockKind
  /-- Names in the order in which they were met. -/
  names : List (String × Uses) := []
  /-- Where names were declared global or nonlocal. -/
  declared : List (String × Span) := []
  inner : List Block := []
  /-- The targets of a comprehension are being read. -/
  inTarget : Bool := false
  /-- How many iterables of comprehensions are being read. -/
  iterables : Nat := 0

namespace OpenBlock

/-- How a name is used so far. -/
def uses (b : OpenBlock) (name : String) : Uses := (b.names.lookup name).getD {}

/-- The block with another use of a name. -/
def put (b : OpenBlock) (name : String) (uses : Uses) : OpenBlock :=
  if (b.names.lookup name).isSome then
    { b with names := b.names.map fun (n, u) => (n, if n = name then uses else u) }
  else { b with names := b.names ++ [(name, uses)] }

/-- The finished block. -/
def close (b : OpenBlock) : Block := .mk b.kind b.names b.declared b.inner

end OpenBlock

/-- The blocks around a place, the innermost first. -/
structure State where
  current : OpenBlock
  outer : List OpenBlock := []
  /-- The class whose private names are told apart. -/
  className : Option String := none

/-- A reading of scopes. -/
abbrev Reader := StateT State (Except SyntaxError)

/-- Refuses the source at a place. -/
def refuse {α : Type} (span : Span) (fault : Fault) : Reader α :=
  throw (Future.errorAt span 1 fault)

/-- The name that a private name of a class stands for. -/
def privateName (className : Option String) (name : String) : String :=
  match className with
  | none => name
  | some c =>
    let stripped := c.toList.dropWhile (· = '_')
    if !name.startsWith "__" || name.endsWith "__" || name.toList.contains '.'
        || stripped.isEmpty then name
    else "_" ++ String.ofList stripped ++ name

/-- Begins a block. -/
def openBlock (kind : BlockKind) : Reader Unit :=
  modify fun s =>
    { s with current := { kind, iterables := s.current.iterables }, outer := s.current :: s.outer }

/-- Ends a block. What an unevaluated annotation says is forgotten. -/
def closeBlock : Reader Unit :=
  modify fun s =>
    match s.outer with
    | [] => s
    | around :: outer =>
      let around := if s.current.kind = .hint then around
        else { around with inner := around.inner ++ [s.current.close] }
      { s with current := around, outer }

/-- The blocks from the innermost to the module. -/
def blocks (s : State) : List OpenBlock := s.current :: s.outer

/-- Replaces the `n`-th block from within. -/
def State.set (s : State) (n : Nat) (b : OpenBlock) : State :=
  match n with
  | 0 => { s with current := b }
  | n + 1 => { s with outer := s.outer.set n b }

/-- Notes a use of a name in the `n`-th block from within. -/
def noteIn (n : Nat) (name : String) (uses : Uses) (span : Span) : Reader Unit := do
  let s ← get
  match (blocks s)[n]? with
  | none => return ()
  | some b =>
    let key := privateName s.className name
    let before := b.uses key
    if uses.isParameter && before.isParameter then refuse span (.duplicateArgument name)
    let after := before.union uses
    if b.inTarget && (after.isGlobal || after.isNonlocal) then
      refuse span (.comprehensionInnerTarget name)
    let after := if b.inTarget then { after with isIterated := true } else after
    set (s.set n (b.put key after))
    if uses.isGlobal then
      modify fun s =>
        let last := (blocks s).length - 1
        match (blocks s)[last]? with
        | some m => s.set last (m.put key ((m.uses key).union uses))
        | none => s

/-- Notes a use of a name. -/
def note (name : String) (uses : Uses) (span : Span) : Reader Unit := noteIn 0 name uses span

/-- Notes where a name was declared. -/
def declare (name : String) (span : Span) : Reader Unit :=
  modify fun s =>
    let key := privateName s.className name
    { s with current := { s.current with declared := s.current.declared ++ [(key, span)] } }

/-- Declares names as global or nonlocal. -/
def declareAll (span : Span) (word : String) (uses : Uses) : List String → Reader Unit
  | [] => return ()
  | name :: names => do
    let s ← get
    let before := s.current.uses (privateName s.className name)
    if before.isParameter then refuse span (.parameterDeclared name word)
    if before.isRead then refuse span (.usedBefore name word)
    if before.isAnnotated then refuse span (.annotatedDeclared name word)
    if before.isBound then refuse span (.assignedBefore name word)
    note name uses span
    declare name span
    declareAll span word uses names

/-- Binds the target of a named expression inside a comprehension: it belongs to the function,
or else the module, around all comprehensions. -/
def bindOutside (name : String) (span : Span) : Nat → List OpenBlock → Reader Unit
  | _, [] => return ()
  | n, b :: outer => do
    let uses := b.uses (privateName (← get).className name)
    match b.kind with
    | .comprehension _ =>
      if uses.isIterated then refuse span (.comprehensionRebinds name)
      bindOutside name span (n + 1) outer
    | .function => do
      if uses.isGlobal then note name { isGlobal := true } span
      else note name { isNonlocal := true } span
      declare name span
      noteIn n name { isBound := true } span
    | .module => do
      note name { isGlobal := true } span
      declare name span
      noteIn n name { isGlobal := true } span
    | .classBody => refuse span .comprehensionInClass
    | .hint => bindOutside name span (n + 1) outer

/-- Refuses something in an unevaluated annotation. -/
def notInHint (what : String) (span : Span) : Reader Unit := do
  if (← get).current.kind = .hint then refuse span (.forbiddenInHint what)

/-- Refuses `yield` in a comprehension. -/
def notInComprehension (what : String) (span : Span) : Reader Unit := do
  match (← get).current.kind with
  | .comprehension title => refuse span (.forbiddenInComprehension what title)
  | _ => return ()

/-- Binds a name if there is one. -/
def bindOptional (name : Option String) (span : Span) : Reader Unit :=
  match name with
  | some n => note n { isBound := true } span
  | none => return ()

/-- The part of a dotted name that an import binds. -/
def boundPart (name : String) : String := String.ofList (name.toList.takeWhile (· ≠ '.'))

/-- What messages call a comprehension. -/
def comprehensionTitle? : Kind → Option String
  | .listComp => some "list comprehension"
  | .setComp => some "set comprehension"
  | .dictComp => some "dict comprehension"
  | .generatorExp => some "generator expression"
  | _ => none

/-- Reads an iterable of a comprehension. -/
def iterable (r : Reader Unit) : Reader Unit := do
  modify fun s => { s with current := { s.current with iterables := s.current.iterables + 1 } }
  r
  modify fun s => { s with current := { s.current with iterables := s.current.iterables - 1 } }

/-- Reads the target of a comprehension. -/
def target (r : Reader Unit) : Reader Unit := do
  modify fun s => { s with current := { s.current with inTarget := true } }
  r
  modify fun s => { s with current := { s.current with inTarget := false } }

/-- Reads an annotation. -/
def hint (postponed : Bool) (r : Reader Unit) : Reader Unit := do
  if postponed then
    openBlock .hint
    r
    closeBlock
  else r

mutual

/-- Reads a tree. -/
def tree (future : Bool) : Tree → Reader Unit
  | .node (.functionDef _ name) s [[.node .arguments _ [only, ps, rest, named, kds, mapping, ds]],
      body, decorators, result] => do
    note name { isBound := true } (s.getD default)
    trees future ds
    trees future kds
    hint future do
      hints future only
      hints future ps
      hints future rest
      hints future mapping
      hints future named
    optionalHint future result
    trees future decorators
    openBlock .function
    parameters only
    parameters ps
    parameters named
    parameters rest
    parameters mapping
    trees future body
    closeBlock
  | .node (.classDef name) s [bases, keywords, body, decorators] => do
    note name { isBound := true } (s.getD default)
    trees future bases
    trees future keywords
    trees future decorators
    openBlock .classBody
    let outer := (← get).className
    modify fun s => { s with className := some name }
    trees future body
    modify fun s => { s with className := outer }
    closeBlock
  | .node .lambda _ [[.node .arguments _ [only, ps, rest, named, kds, mapping, ds]], body] => do
    trees future ds
    trees future kds
    openBlock .function
    parameters only
    parameters ps
    parameters named
    parameters rest
    parameters mapping
    trees future body
    closeBlock
  | .node (.tryStmt _) _ [body, handlers, otherwise, final] => do
    trees future body
    trees future otherwise
    trees future handlers
    trees future final
  | .node (.annAssign simple) s [[.node (.name id _) ns _], [h], value] => do
    let state ← get
    let uses := state.current.uses (privateName state.className id)
    if (uses.isGlobal || uses.isNonlocal) && state.current.kind ≠ .module && simple then
      refuse (s.getD default) (.annotatedDeclared id
        (if uses.isGlobal then "global" else "nonlocal"))
    if simple then note id { isAnnotated := true, isBound := true } (ns.getD default)
    else if !value.isEmpty then note id { isBound := true } (ns.getD default)
    hint future (tree future h)
    trees future value
  | .node (.annAssign _) _ [[t], [h], value] => do
    tree future t
    hint future (tree future h)
    trees future value
  | .node (.globalNames names) s _ =>
    declareAll (s.getD default) "global" { isGlobal := true } names
  | .node (.nonlocalNames names) s _ =>
    declareAll (s.getD default) "nonlocal" { isNonlocal := true } names
  | .node (.alias name asName) s _ => do
    if name = "*" && asName.isNone then
      if (← get).current.kind ≠ .module then refuse (s.getD default) .starImportInside
    else note (boundPart (asName.getD name)) { isImported := true } (s.getD default)
  | .node (.exceptHandler name) s [type, body] => do
    trees future type
    bindOptional name (s.getD default)
    trees future body
  | .node (.name id usage) s _ => do
    if usage = .load then note id { isRead := true } (s.getD default)
    else note id { isBound := true } (s.getD default)
  | .node .namedExpr s [[.node (.name id usage) ns fs], [value]] => do
    notInHint "named expression" (s.getD default)
    let state ← get
    if state.current.iterables > 0 then refuse (s.getD default) .walrusInIterable
    match state.current.kind with
    | .comprehension _ => bindOutside id (ns.getD default) 0 (blocks state)
    | _ => pure ()
    tree future value
    tree future (.node (.name id usage) ns fs)
  | .node .yield s [value] => do
    notInHint "yield expression" (s.getD default)
    trees future value
    notInComprehension "yield" (s.getD default)
  | .node .yieldFrom s [value] => do
    notInHint "yield expression" (s.getD default)
    trees future value
    notInComprehension "yield" (s.getD default)
  | .node .await s [value] => do
    notInHint "await expression" (s.getD default)
    trees future value
  | .node .listComp _ [[element], .node (.comprehension _) _ [[t], [source], conditions] :: more] =>
    do
    iterable (tree future source)
    openBlock (.comprehension "list comprehension")
    target (tree future t)
    trees future conditions
    clauses future more
    tree future element
    closeBlock
  | .node .setComp _ [[element], .node (.comprehension _) _ [[t], [source], conditions] :: more] =>
    do
    iterable (tree future source)
    openBlock (.comprehension "set comprehension")
    target (tree future t)
    trees future conditions
    clauses future more
    tree future element
    closeBlock
  | .node .generatorExp _
      [[element], .node (.comprehension _) _ [[t], [source], conditions] :: more] => do
    iterable (tree future source)
    openBlock (.comprehension "generator expression")
    target (tree future t)
    trees future conditions
    clauses future more
    tree future element
    closeBlock
  | .node .dictComp _
      [[key], [value], .node (.comprehension _) _ [[t], [source], conditions] :: more] => do
    iterable (tree future source)
    openBlock (.comprehension "dict comprehension")
    target (tree future t)
    trees future conditions
    clauses future more
    tree future value
    tree future key
    closeBlock
  | .node (.matchStar name) s _ => bindOptional name (s.getD default)
  | .node (.matchAs name) s [pattern] => do
    trees future pattern
    bindOptional name (s.getD default)
  | .node (.matchMapping rest) s [keys, patterns] => do
    trees future keys
    trees future patterns
    bindOptional rest (s.getD default)
  | .node _ _ fs => fields future fs

/-- Reads some fields. -/
def fields (future : Bool) : List (List Tree) → Reader Unit
  | [] => return ()
  | f :: fs => do
    trees future f
    fields future fs

/-- Reads some trees. -/
def trees (future : Bool) : List Tree → Reader Unit
  | [] => return ()
  | t :: ts => do
    tree future t
    trees future ts

/-- Reads the later clauses of a comprehension. -/
def clauses (future : Bool) : List Tree → Reader Unit
  | .node (.comprehension _) _ [[t], [source], conditions] :: more => do
    target (tree future t)
    iterable (tree future source)
    trees future conditions
    clauses future more
  | _ => return ()

/-- Reads the annotations of some parameters. -/
def hints (future : Bool) : List Tree → Reader Unit
  | .node (.arg _) _ [h] :: ps => do
    trees future h
    hints future ps
  | _ => return ()

/-- Reads the annotation of a result. -/
def optionalHint (future : Bool) : List Tree → Reader Unit
  | [h] => hint future (tree future h)
  | _ => return ()

/-- Binds some parameters. -/
def parameters : List Tree → Reader Unit
  | .node (.arg name) s _ :: ps => do
    note name { isParameter := true } (s.getD default)
    parameters ps
  | _ => return ()

end

/-! ## Nonlocal names -/

/-- Refuses a declaration. -/
def refuseDeclared {α : Type} (declared : List (String × Span)) (name : String) (fault : Fault) :
    Except SyntaxError α :=
  .error (Future.errorAt ((declared.lookup name).getD default) 1 fault)

/-- Checks the names of a block. `visible` are the names bound in functions around it; there are
none around a module. The result is what remains visible inside the block, and what it binds. -/
def checkNames (declared : List (String × Span)) (visible : Option (List String))
    (bound : List String) :
    List (String × Uses) → Except SyntaxError (Option (List String) × List String)
  | [] => .ok (visible, bound)
  | (name, uses) :: names =>
    if uses.isGlobal then
      if uses.isNonlocal then refuseDeclared declared name (.nonlocalAndGlobal name)
      else checkNames declared (visible.map fun v => v.filter (· ≠ name)) bound names
    else if uses.isNonlocal then
      match visible with
      | none => refuseDeclared declared name .nonlocalAtModule
      | some v =>
        if v.contains name then checkNames declared visible bound names
        else refuseDeclared declared name (.noNonlocalBinding name)
    else checkNames declared visible (if uses.isLocal then name :: bound else bound) names

mutual

/-- Checks a block and those inside it. -/
def check (visible : Option (List String)) : Block → Except SyntaxError Unit
  | .mk kind names declared inner =>
    match checkNames declared visible [] names with
    | .error e => .error e
    | .ok (remaining, bound) =>
      let inside := match kind with
        | .classBody => "__class__" :: visible.getD []
        | .module => remaining.getD []
        | _ => bound ++ remaining.getD []
      checkAll inside inner

/-- Checks several blocks. -/
def checkAll (visible : List String) : List Block → Except SyntaxError Unit
  | [] => .ok ()
  | b :: bs =>
    match check (some visible) b with
    | .error e => .error e
    | .ok () => checkAll visible bs

end

/-- Checks how a module uses names. -/
def checkModule (future : Future) (module : Tree) : Except SyntaxError Unit := do
  let ((), s) ← (tree future.postponesHints module).run { current := { kind := .module } }
  check none s.current.close

end Scope

end SourceLoader
