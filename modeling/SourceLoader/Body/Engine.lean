import SourceLoader.Body.Binding
import SourceLoader.Load.Config
import SourceLoader.Object.Attribute

/-!
# Running bodies

The parts of the evaluator call each other through an `Engine`, which is built for some depth:
what an engine of depth `n + 1` does may use the engine of depth `n`. So every part is a plain
function, and a body that nests too deeply fails with an error that modules can see.

`Env` is where a piece of code stands: the names it can see, the error that is being handled,
and how many functions are running around it.
-/

namespace SourceLoader

/-- How a statement has ended. -/
inductive Flow where
  | next
  | broken
  | continued
  | returned (value : Value)
deriving Repr, Inhabited

/-- Where code stands. -/
structure Env where
  site : Site
  /-- The names of the class whose body runs. -/
  classNames : Option Nat := none
  /-- Names that the block declares global. -/
  globalNames : List String := []
  /-- The error that is being handled. -/
  handled : Option Nat := none
  /-- The number of functions that are running. -/
  depth : Nat := 0
  /-- The list that takes what the code yields. -/
  yields : Option Nat := none
deriving Inhabited

/-- The parts of the evaluator. -/
structure Engine where
  resolver : ConfigId → Resolver
  expr : Env → Tree → Eval Value
  block : Env → List Tree → Eval Flow
  /-- Binds a target to a value. -/
  assign : Env → Tree → Value → Eval Unit
  call : Env → Value → List Value → Attributes → Eval Value
  awaited : Env → Value → Eval Value
  elements : Env → Value → Eval (List Value)

namespace Env

/-- The file of the code. -/
def file (env : Env) : String := env.site.file

/-- The name that a private name of a class stands for. -/
def ownName (env : Env) (name : String) : String := Scope.privateName env.site.className name

/-- Most functions that run at once. -/
def maxCalls : Nat := 980

/-- Does the code stand outside of all functions and classes? -/
def isModule (env : Env) : Bool := env.classNames.isNone && env.site.scopes.isEmpty

end Env

/-! ## Names -/

namespace Name

/-- Functions of the language. -/
def functions : List String :=
  ["abs", "aiter", "all", "anext", "any", "ascii", "bin", "breakpoint", "callable", "chr",
    "compile", "delattr", "dir", "divmod", "eval", "exec", "format", "getattr", "globals",
    "hasattr", "hash", "hex", "id", "input", "isinstance", "issubclass", "iter", "len", "locals",
    "max", "min", "next", "oct", "open", "ord", "pow", "print", "repr", "round", "setattr",
    "sorted", "sum", "vars", "__import__", "__build_class__"]

/-- Types of the language. -/
def types : List String :=
  ["bool", "bytearray", "bytes", "classmethod", "complex", "dict", "enumerate", "filter",
    "float", "frozenset", "int", "list", "map", "memoryview", "object", "property", "range",
    "reversed", "set", "slice", "staticmethod", "str", "super", "tuple", "type", "zip"]

/-- What a name of the language stands for. -/
def ofLanguage? (name : String) : Option Value :=
  if functions.contains name then some (.builtin name)
  else if types.contains name then some (.type name)
  else if name = "Ellipsis" then some .ellipsis
  else if name = "__debug__" then some (.bool true)
  else if name = "EnvironmentError" || name = "IOError" then some (.errorClass ⟨"OSError"⟩)
  else if ErrorClass.isBuiltin name then some (.errorClass ⟨name⟩)
  else none

/-- Fails because a name is not known. -/
def unknown {α : Type} (name : String) : Eval α :=
  Eval.raiseWith "NameError" [.text s!"name '{name}' is not defined"]

/-- Fails because a name of a function has no value. -/
def unbound {α : Type} (isOwn : Bool) (name : String) : Eval α :=
  if isOwn then
    Eval.error "UnboundLocalError"
      s!"cannot access local variable '{name}' where it is not associated with a value"
  else
    Eval.error "NameError" (s!"cannot access free variable '{name}' where it is not associated "
      ++ "with a value in enclosing scope")

/-- The first scope that has a name, with the value and whether it is the innermost one. -/
def find? (m : Memory) (name : String) : Bool → List Nat → Option (Nat × Option Value × Bool)
  | _, [] => none
  | isOwn, s :: rest =>
    match m.get? s with
    | some (.scope names) =>
      match names.lookup name with
      | some v => some (s, v, isOwn)
      | none => find? m name false rest
    | _ => find? m name false rest

/-- Reads a name behind all scopes. -/
def readGlobal (env : Env) (name : String) : Eval Value := do
  let m ← Eval.memory
  match m.nameIn? env.site.globals name with
  | some v => pure v
  | none =>
    match m.nameIn? env.site.builtins name with
    | some v => pure v
    | none =>
      match ofLanguage? name with
      | some v => pure v
      | none => unknown name

/-- Reads a name. -/
def read (env : Env) (name : String) : Eval Value := do
  let name := env.ownName name
  let m ← Eval.memory
  match env.classNames.bind (m.nameIn? · name) with
  | some v => pure v
  | none =>
    if env.globalNames.contains name then readGlobal env name
    else
      match find? m name true env.site.scopes with
      | some (_, some v, _) => pure v
      | some (_, none, isOwn) => unbound isOwn name
      | none => readGlobal env name

/-- A scope with another value for a name. -/
def setIn (name : String) (value : Option Value) (names : List (String × Option Value)) :
    List (String × Option Value) :=
  names.map fun e => if e.1 = name then (name, value) else e

/-- Sets the value of a name in a scope. -/
def putInScope (scope : Nat) (name : String) (value : Option Value) : Eval Unit :=
  Eval.modifyMemory fun m =>
    match m.get? scope with
    | some (.scope names) => m.put scope (.scope (setIn name value names))
    | _ => m

/-- Binds a name. -/
def write (env : Env) (name : String) (value : Value) : Eval Unit := do
  let name := env.ownName name
  let m ← Eval.memory
  if env.globalNames.contains name then Eval.modifyMemory (·.setName env.site.globals name value)
  else
    match env.classNames with
    | some names => Eval.modifyMemory (·.setName names name value)
    | none =>
      match find? m name true env.site.scopes with
      | some (scope, _, _) => putInScope scope name (some value)
      | none => Eval.modifyMemory (·.setName env.site.globals name value)

/-- Deletes a name. -/
def delete (env : Env) (name : String) : Eval Unit := do
  let name := env.ownName name
  let m ← Eval.memory
  let from_ (names : Nat) : Eval Unit :=
    if (m.nameIn? names name).isSome then Eval.modifyMemory (·.eraseName names name)
    else unknown name
  if env.globalNames.contains name then from_ env.site.globals
  else
    match env.classNames with
    | some names => from_ names
    | none =>
      match find? m name true env.site.scopes with
      | some (scope, some _, _) => putInScope scope name none
      | some (_, none, isOwn) => unbound isOwn name
      | none => from_ env.site.globals

/-- The names that a block has, as a mapping. -/
def localsOf (env : Env) : Eval Value := do
  let m ← Eval.memory
  match env.classNames, env.site.scopes with
  | some names, _ => pure (.ref names)
  | none, [] => pure (.ref env.site.globals)
  | none, s :: _ =>
    match m.get? s with
    | some (.scope names) =>
      Eval.add (.dict (names.filterMap fun e => e.2.map fun v => (.text e.1, v)))
    | _ => pure (.ref env.site.globals)

end Name

end SourceLoader
