import SourceLoader.Body.Import
import SourceLoader.Body.Target

/-!
# Statements

What the statements of a body do. A block ends early when a statement jumps: out of a loop, on to
its next turn, or out of the function. An error that a handler takes up is in hand while the
handler runs, so that it can be raised again.
-/

namespace SourceLoader

namespace Statement

/-! ## Errors -/

/-- Keeps the trace of an error on its way in the error object. -/
def remember (e : Thrown) : Eval Unit :=
  Eval.modifyMemory fun m =>
    match m.get? e.problem with
    | some (.problem p) => m.put e.problem (.problem { p with trace := e.trace })
    | _ => m

/-- The error object that a value stands for: an error, or a class of errors that is called. -/
def problemOf (E : Engine) (env : Env) (message : String) (v : Value) : Eval Nat := do
  let m ← Eval.memory
  let isErrorClass := m.isClass v && (m.errorClass? v).isSome
  let v ← if isErrorClass then E.call env v [] [] else pure v
  let m ← Eval.memory
  match v, m.problem? v with
  | .ref address, some _ => pure address
  | _, _ => Eval.typeError message

/-- Raises an error. -/
def raise (E : Engine) (env : Env) (error cause : List Tree) : Eval Flow := do
  match error with
  | [t] => do
    let v ← E.expr env t
    let problem ← problemOf E env "exceptions must derive from BaseException" v
    match cause with
    | [c] => do
      let c ← E.expr env c
      let cause ← if c = .none then pure none else do
        let address ← problemOf E env "exception causes must derive from BaseException" c
        pure (some (Value.ref address))
      Eval.modifyMemory fun m =>
        match m.get? problem with
        | some (.problem p) => m.put problem (.problem { p with cause })
        | _ => m
    | _ => pure ()
    Eval.raise problem
  | _ =>
    match env.handled with
    | some problem => (Eval.raise problem).mapThrown fun e => { e with isPlaced := true }
    | none => Eval.error "RuntimeError" "No active exception to reraise"

/-- Does an error belong to what a handler names? -/
def catches (m : Memory) (problem kinds : Value) : Option Bool :=
  let isErrorClass (c : Value) : Bool := m.isClass c && (m.errorClass? c).isSome
  match m.object? kinds with
  | some (.tuple cs) => if cs.all isErrorClass then some (cs.any (m.isOf problem)) else none
  | _ => if isErrorClass kinds then some (m.isOf problem kinds) else none

/-- Runs the body of a handler with its name bound to the error. The name is gone afterwards. -/
def runHandler (E : Engine) (env : Env) (e : Thrown) (name : Option String) (body : List Tree) :
    Eval Flow := do
  remember e
  let env := { env with handled := some e.problem }
  match name with
  | none => E.block env body
  | some name => do
    Name.write env name (.ref e.problem)
    let forget : Eval Unit := do
      Name.write env name .none
      Name.delete env name
    (E.block env body).afterwards fun r =>
      match r with
      | .ok flow => do
        forget
        pure flow
      | .error other => do
        forget
        Eval.throw other

/-- Takes an error to the first handler that catches it. -/
def handle (E : Engine) (env : Env) (e : Thrown) : List Tree → Eval Flow
  | [] => Eval.throw e
  | .node (.exceptHandler name) span [kinds, body] :: rest => do
    match kinds with
    | [t] => do
      let inHand := { env with handled := some e.problem }
      let k ← E.expr inHand t
      let m ← Eval.memory
      match catches m (.ref e.problem) k with
      | some true => runHandler E env e name body
      | some false => handle E env e rest
      | none =>
        (Eval.typeError
          "catching classes that do not inherit from BaseException is not allowed").placed
            env.file ((span.map Span.line).getD 1)
    | _ => runHandler E env e name body
  | _ :: rest => handle E env e rest

/-- Runs the final part of a statement after the rest of it; a jump in the final part counts
more than how the rest has ended. -/
def finally_ (E : Engine) (env : Env) (final : List Tree) (x : Eval Flow) : Eval Flow :=
  if final.isEmpty then x
  else
    x.afterwards fun r =>
      match r with
      | .ok flow => do
        let last ← E.block env final
        match last with
        | .next => pure flow
        | last => pure last
      | .error e => do
        remember e
        let last ← E.block { env with handled := some e.problem } final
        match last with
        | .next => Eval.throw e
        | last => pure last

/-- Runs statements and takes errors to handlers. -/
def guarded (E : Engine) (env : Env) (body handlers rest : List Tree) : Eval Flow :=
  (E.block env body).afterwards fun r =>
    match r with
    | .ok .next => E.block env rest
    | .ok flow => pure flow
    | .error e => handle E env e handlers

/-! ## Loops -/

/-- Most turns of a loop. -/
def maxTurns : Nat := 10000000

/-- Runs the body of a loop for the elements of a list, which may change meanwhile. -/
def listTurns (E : Engine) (env : Env) (target : Tree) (body : List Tree) (address : Nat) :
    Nat → Nat → Eval Flow
  | 0, _ => pure .next
  | turns + 1, n => do
    let m ← Eval.memory
    let element := match m.get? address with
      | some (.list xs) => xs[n]?
      | _ => none
    match element with
    | none => pure .next
    | some v => do
      E.assign env target v
      let flow ← E.block env body
      match flow with
      | .broken | .returned _ => pure flow
      | _ => listTurns E env target body address turns (n + 1)

/-- Runs the body of a loop for some values. -/
def valueTurns (E : Engine) (env : Env) (target : Tree) (body : List Tree) : List Value → Eval Flow
  | [] => pure .next
  | v :: vs => do
    E.assign env target v
    let flow ← E.block env body
    match flow with
    | .broken | .returned _ => pure flow
    | _ => valueTurns E env target body vs

/-- Ends a loop: the other part runs if the loop was not left. -/
def endLoop (E : Engine) (env : Env) (rest : List Tree) (flow : Flow) : Eval Flow :=
  match flow with
  | .broken => pure .next
  | .returned v => pure (.returned v)
  | _ => E.block env rest

/-- A loop over the elements of a value. -/
def forLoop (E : Engine) (env : Env) (target source : Tree) (body rest : List Tree) :
    Eval Flow := do
  let v ← E.expr env source
  let m ← Eval.memory
  let flow ← match v, m.object? v with
    | .ref address, some (.list _) => listTurns E env target body address maxTurns 0
    | v, _ => do
      let vs ← E.elements env v
      valueTurns E env target body vs
  endLoop E env rest flow

/-- Runs the body of a loop as long as a test holds. -/
def whileHolds (E : Engine) (env : Env) (test : Tree) (body : List Tree) : Nat → Eval Flow
  | 0 => pure .next
  | turns + 1 => do
    let v ← E.expr env test
    let m ← Eval.memory
    if m.isTrue v then
      let flow ← E.block env body
      match flow with
      | .broken | .returned _ => pure flow
      | _ => whileHolds E env test body turns
    else pure .next

/-! ## Definitions -/

/-- Calls decorators, the last one first. -/
def decorate (E : Engine) (env : Env) (v : Value) : List Value → Eval Value
  | [] => pure v
  | d :: ds => do
    let inner ← decorate E env v ds
    E.call env d [inner] []

/-- The annotations of parameters. -/
def hintsOf (ts : List Tree) : List (String × Tree) :=
  ts.filterMap fun t => match t with
    | .node (.arg name) _ [[hint]] => some (name, hint)
    | _ => none

/-- The value of an annotation; it may be kept as text. -/
def hint (E : Engine) (env : Env) (t : Tree) : Eval Value :=
  if env.site.keepsHints then
    match Printer.expr false .test t with
    | .ok s => pure (.text s)
    | .error _ => pure (.text "")
  else E.expr env t

/-- The annotations of a function. -/
def functionHints (E : Engine) (env : Env) (parameters : Tree) (result : List Tree) :
    Eval (List (Value × Value)) := do
  let named := match parameters.fields with
    | [ps, qs, r, ks, _, kr, _] => hintsOf (ps ++ qs ++ r ++ ks ++ kr)
    | _ => []
  let all := named ++ result.map fun t => ("return", t)
  Eval.each (fun h => do
    let v ← hint E env h.2
    pure (Value.text h.1, v)) all

/-- Defines a function. -/
def defineFunction (E : Engine) (env : Env) (name : String) (isAsync : Bool) (parameters : Tree)
    (body decorators result : List Tree) : Eval Unit := do
  let ds ← Eval.each (E.expr env) decorators
  let f ← Expression.makeFunction E env name isAsync parameters (.statements body)
  let hints ← functionHints E env parameters result
  let attributes ← if hints.isEmpty then pure [] else do
    let v ← Eval.add (.dict hints)
    pure [("__annotations__", v)]
  let fullName := if env.globalNames.contains name then name else f.fullName
  let v ← Eval.add (.function { f with
    fullName
    attributes })
  let v ← decorate E env v ds
  Name.write env name v

/-- Sets up the names of a block that holds names for others: its annotations, and its
documentation. -/
def setUpNames (names : Nat) (body : List Tree) : Eval Unit := do
  let m ← Eval.memory
  if body.any Tree.hasAnnotations && (m.nameIn? names "__annotations__").isNone then
    let v ← Eval.add (.dict [])
    Eval.modifyMemory (·.setName names "__annotations__" v)
  match Attribute.documentation body with
  | .none => pure ()
  | v => Eval.modifyMemory (·.setName names "__doc__" v)

/-- The bases of a class. -/
def basesOf (E : Engine) (env : Env) (bases : List Tree) : Eval (List Value) := do
  let vs ← Expression.elementsOf E env bases
  let m ← Eval.memory
  match vs.find? fun v => !m.isClass v with
  | some v =>
    if (m.typeName v) = "module" then
      Eval.typeError "module() takes at most 2 arguments (3 given)"
    else if (m.typeName v) = "function" then
      Eval.typeError "function() argument 'code' must be code, not str"
    else Eval.typeError s!"{m.typeName v}() takes at most 2 arguments (3 given)"
  | none => pure (vs.filter (· ≠ .type "object"))

/-- Defines a class. -/
def defineClass (E : Engine) (env : Env) (name : String)
    (bases body decorators : List Tree) : Eval Unit := do
  let ds ← Eval.each (E.expr env) decorators
  let bases ← basesOf E env bases
  let m ← Eval.memory
  let fullName :=
    if env.globalNames.contains name then name else env.site.qualifier ++ name
  let module := (m.nameIn? env.site.globals "__name__").getD (.text "builtins")
  let names ← Eval.add (.dict
    [(.text "__module__", module), (.text "__qualname__", .text fullName)])
  match names with
  | .ref address => do
    let site := { env.site with
      qualifier := fullName ++ "."
      className := some name }
    let inner := { env with
      site
      classNames := some address
      globalNames := NameNote.globals (NameNote.ofAll false body) }
    setUpNames address body
    let _ ← (E.block inner body).asCall
    let m ← Eval.memory
    let attributes : Attributes := match m.get? address with
      | some (.dict es) => es.filterMap fun e => match e.1 with
        | .text s => some (s, e.2)
        | _ => none
      | _ => []
    let c ← Eval.add (.class { name, bases, attributes })
    let v ← decorate E env c ds
    Name.write env name v
  | _ => pure ()

/-! ## Annotated assignments -/

/-- An assignment with an annotation. In a module or class the annotation of a name is kept. -/
def annotate (E : Engine) (env : Env) (isSimple : Bool) (target note : Tree)
    (value : List Tree) : Eval Unit := do
  match value with
  | [t] => do
    let v ← E.expr env t
    E.assign env target v
  | _ => pure ()
  let names? : Option Nat :=
    if env.isModule then some env.site.globals else env.classNames
  match names?, target with
  | some names, .node (.name id _) _ _ => do
    if isSimple then
      let v ← hint E env note
      let m ← Eval.memory
      match m.nameIn? names "__annotations__" with
      | some hints => Subscript.set (E.elements env) hints (.text (env.ownName id)) v
      | none => Name.unknown "__annotations__"
    else if env.site.keepsHints then pure ()
    else
      let _ ← E.expr env note
      pure ()
  | some _, target => do
    match target with
    | .node (.attribute _ _) _ [[object]] => do
      if value.isEmpty then
        let _ ← E.expr env object
        pure ()
      else pure ()
    | .node (.subscript _) _ [[object], [index]] => do
      if value.isEmpty then
        let _ ← E.expr env object
        let _ ← E.expr env index
        pure ()
      else pure ()
    | _ => pure ()
    if env.site.keepsHints then pure ()
    else
      let _ ← E.expr env note
      pure ()
  | none, _ => pure ()

/-! ## Contexts -/

/-- Calls a method that the class of a value has for entering or leaving it. -/
def contextMethod (E : Engine) (env : Env) (v : Value) (name : String) (args : List Value) :
    Eval Value := do
  match ← Builtin.special E env v name args with
  | some r => pure r
  | none => do
    let m ← Eval.memory
    Eval.typeError s!"'{m.shownType v}' object does not support the context manager protocol"

/-- Runs statements within values that are entered and left. -/
def within (E : Engine) (env : Env) (body : List Tree) : List Tree → Eval Flow
  | [] => E.block env body
  | .node .withItem _ [[context], target] :: rest => do
    let v ← E.expr env context
    let entered ← contextMethod E env v "__enter__" []
    match target with
    | [t] => E.assign env t entered
    | _ => pure ()
    (within E env body rest).afterwards fun r =>
      match r with
      | .ok flow => do
        let _ ← contextMethod E env v "__exit__" [.none, .none, .none]
        pure flow
      | .error e => do
        remember e
        let m ← Eval.memory
        let problem := Value.ref e.problem
        let r ← contextMethod E env v "__exit__" [m.typeOf problem, problem, .none]
        let m ← Eval.memory
        if m.isTrue r then pure .next else Eval.throw e
  | _ :: rest => within E env body rest

/-! ## All statements -/

/-- Runs a statement. -/
def run (E : Engine) (env : Env) (t : Tree) : Eval Flow :=
  let next (x : Eval Unit) : Eval Flow := do
    x
    pure .next
  match t with
  | .node .exprStmt _ [[value]] => do
    let _ ← E.expr env value
    pure .next
  | .node .assign _ [targets, [value]] => do
    let v ← E.expr env value
    next (Target.assignEach E env (targets.map fun t => (t, v)))
  | .node (.augAssign op) _ [[target], [value]] => next (Target.augment E env op target value)
  | .node (.annAssign isSimple) _ [[target], [note], value] =>
    next (annotate E env isSimple target note value)
  | .node (.functionDef isAsync name) _ [[parameters], body, decorators, result] =>
    next (defineFunction E env name isAsync parameters body decorators result)
  | .node (.classDef name) _ [bases, _, body, decorators] =>
    next (defineClass E env name bases body decorators)
  | .node .returnStmt _ [value] => do
    let v ← Expression.optional E env value
    pure (.returned v)
  | .node .delete _ [targets] => next (Target.delete E env Memory.maxDepth targets)
  | .node (.forLoop _) _ [[target], [source], body, rest] =>
    forLoop E env target source body rest
  | .node .whileLoop _ [[test], body, rest] => do
    let flow ← whileHolds E env test body maxTurns
    endLoop E env rest flow
  | .node .ifStmt _ [[test], body, rest] => do
    let v ← E.expr env test
    let m ← Eval.memory
    if m.isTrue v then E.block env body else E.block env rest
  | .node (.withStmt _) _ [items, body] => within E env body items
  | .node .raise _ [error, cause] => raise E env error cause
  | .node (.tryStmt false) _ [body, handlers, rest, final] =>
    finally_ E env final (guarded E env body handlers rest)
  | .node .assert _ [[test], message] => do
    let v ← E.expr env test
    let m ← Eval.memory
    if m.isTrue v then pure .next
    else
      let arguments ← Eval.each (E.expr env) message
      Eval.raiseWith "AssertionError" arguments
  | .node .importNames _ [aliases] => next (Import.names env aliases)
  | .node (.importFrom name level) _ [aliases] => next (Import.from_ env name level aliases)
  | .node (.globalNames _) _ _ | .node (.nonlocalNames _) _ _ | .node .pass _ _ => pure .next
  | .node .breakStmt _ _ => pure .broken
  | .node .continueStmt _ _ => pure .continued
  | t => Eval.error "NotImplementedError" s!"{t.kind.title} is not supported"

/-- Runs statements one after the other. -/
def block (E : Engine) (env : Env) : List Tree → Eval Flow
  | [] => pure .next
  | t :: ts => do
    let flow ← (run E env t).placed env.file t.span.line
    match flow with
    | .next => block E env ts
    | flow => pure flow

end Statement

end SourceLoader
