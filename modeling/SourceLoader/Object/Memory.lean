import SourceLoader.Object.Value

/-!
# Memory

The objects of a run, by address. An object is never taken away, so an address that was handed
out stays good.
-/

namespace SourceLoader

/-- The objects of a run. -/
structure Memory where
  objects : Array Object := #[]
  /-- The names of modules of the host that were set, or deleted, by module. -/
  hostNames : List (String × List (String × Option Value)) := []
deriving Inhabited

namespace Memory

/-- Adds an object. -/
def add (m : Memory) (o : Object) : Memory × Nat :=
  ({ m with objects := m.objects.push o }, m.objects.size)

/-- Replaces an object. -/
def put (m : Memory) (address : Nat) (o : Object) : Memory :=
  { m with objects := m.objects.setIfInBounds address o }

/-- The object at an address. -/
def get? (m : Memory) (address : Nat) : Option Object := m.objects[address]?

/-- The object that a value refers to. -/
def object? (m : Memory) : Value → Option Object
  | .ref address => m.get? address
  | _ => none

/-! ## Modules of the host -/

/-- What was done to the names of a module of the host, by name: the value that was set, or
`none` for a name that was deleted. -/
def changesOf (m : Memory) (module : String) : List (String × Option Value) :=
  (m.hostNames.lookup module).getD []

/-- Sets or deletes a name of a module of the host. -/
def changeHost (m : Memory) (module name : String) (value : Option Value) : Memory :=
  let changes := (name, value) :: (m.changesOf module).filter (·.1 ≠ name)
  { m with hostNames := (module, changes) :: m.hostNames.filter (·.1 ≠ module) }

/-! ## Mappings with names -/

/-- The value of a name in a mapping. -/
def nameIn? (m : Memory) (names : Nat) (name : String) : Option Value :=
  match m.get? names with
  | some (.dict entries) =>
    (entries.find? fun e => match e.1 with
      | .text s => s = name
      | _ => false).map Prod.snd
  | _ => none

/-- Entries with a value for a name. -/
def setEntry (name : String) (value : Value) : List (Value × Value) → List (Value × Value)
  | [] => [(.text name, value)]
  | e :: es => if e.1 = .text name then (e.1, value) :: es else e :: setEntry name value es

/-- Sets a name in a mapping. -/
def setName (m : Memory) (names : Nat) (name : String) (value : Value) : Memory :=
  match m.get? names with
  | some (.dict entries) => m.put names (.dict (setEntry name value entries))
  | _ => m

/-- Takes a name out of a mapping. -/
def eraseName (m : Memory) (names : Nat) (name : String) : Memory :=
  match m.get? names with
  | some (.dict entries) => m.put names (.dict (entries.filter fun e => e.1 ≠ .text name))
  | _ => m

/-- The names of a mapping. -/
def namesIn (m : Memory) (names : Nat) : List String :=
  match m.get? names with
  | some (.dict entries) => entries.filterMap fun e => match e.1 with
    | .text s => some s
    | _ => none
  | _ => []

/-! ## Types -/

/-- How deep a question about a value goes at most. -/
def maxDepth : Nat := 1000

/-- Modules of the language that types and errors live in, for names that are shown in full. -/
def fullTypeName (name : String) : String :=
  if name = "SimpleNamespace" then "types.SimpleNamespace" else name

/-- The type of an object of memory, by name, if it belongs to the language. -/
def languageType : Object → String
  | .list _ => "list"
  | .tuple _ => "tuple"
  | .dict _ => "dict"
  | .set _ isFrozen => if isFrozen then "frozenset" else "set"
  | .module _ => "module"
  | .namespace _ => "SimpleNamespace"
  | .record _ => "ModuleRecord"
  | .instance _ _ => "object"
  | .class _ => "type"
  | .function _ | .tool _ _ _ => "function"
  | .method _ _ => "method"
  | .builtinMethod _ _ => "builtin_function_or_method"
  | .problem _ => "Exception"
  | .coroutine _ _ => "coroutine"
  | .generator _ _ => "generator"
  | .sequence typeName _ => typeName
  | .slice _ _ _ => "slice"
  | .scope _ => "dict"
  | .plain typeName => typeName

/-- The type of a value. -/
def typeOf (m : Memory) : Value → Value
  | .none => .type "NoneType"
  | .bool _ => .type "bool"
  | .int _ => .type "int"
  | .float _ => .type "float"
  | .text _ => .type "str"
  | .bytes _ => .type "bytes"
  | .ellipsis => .type "ellipsis"
  | .type _ | .errorClass _ => .type "type"
  | .builtin _ => .type "builtin_function_or_method"
  | .hostModule _ => .type "module"
  | .hostFunction _ _ => .type "function"
  | .ref address =>
    match m.get? address with
    | some (.instance c _) => c
    | some (.problem p) => p.kind
    | some o => .type (languageType o)
    | none => .type "object"

/-- The name of a class. -/
def className (m : Memory) : Value → String
  | .type name => name
  | .errorClass c => c.name
  | v =>
    match m.object? v with
    | some (.class c) => c.name
    | _ => "type"

/-- The name of the type of a value. -/
def typeName (m : Memory) (v : Value) : String := m.className (m.typeOf v)

/-- The name of the type of a value, as messages show it. -/
def shownType (m : Memory) (v : Value) : String := fullTypeName (m.typeName v)

/-- A class and those above it, the closest first, down to some depth. Classes of modules are
followed through their bases. -/
def lineageWithin (m : Memory) : Nat → Value → List Value
  | 0, c => [c]
  | depth + 1, c =>
    match c with
    | .type "object" => [c]
    | .type "bool" => [c, .type "int", .type "object"]
    | .type _ => [c, .type "object"]
    | .errorClass e => e.lineage.map .errorClass ++ [.type "object"]
    | c =>
      match m.object? c with
      | some (.class o) =>
        let above := (o.bases.map (lineageWithin m depth)).flatten
        let object := Value.type "object"
        let above := (above.filter (· ≠ object)).eraseDups
        c :: above ++ [object]
      | _ => [c]

/-- A class and those above it. -/
def lineage (m : Memory) (c : Value) : List Value := lineageWithin m maxDepth c

/-- Is a class another one or below it? -/
def isBelow (m : Memory) (c d : Value) : Bool := (m.lineage c).contains d

/-- Is a value of a class? -/
def isOf (m : Memory) (v c : Value) : Bool := m.isBelow (m.typeOf v) c

/-- The class of the language, if any, that a class of errors belongs to. -/
def errorClass? (m : Memory) (c : Value) : Option ErrorClass :=
  (m.lineage c).findSome? fun c => match c with
    | .errorClass e => some e
    | _ => none

/-- Is a value a class? -/
def isClass (m : Memory) (v : Value) : Bool :=
  match v with
  | .type _ | .errorClass _ => true
  | v =>
    match m.object? v with
    | some (.class _) => true
    | _ => false

/-- The error object that a value refers to. -/
def problem? (m : Memory) (v : Value) : Option Problem :=
  match m.object? v with
  | some (.problem p) => some p
  | _ => none

end Memory

end SourceLoader
