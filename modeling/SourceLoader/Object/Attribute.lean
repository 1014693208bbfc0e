import SourceLoader.Object.Eval
import SourceLoader.Text.Unicode.Case

/-!
# Attributes

What an object answers when one of its attributes is read, set or deleted. Values of the
language have methods by type; an object of a class looks at itself, then at its class and the
classes above it, and a function found there becomes a method.
-/

namespace SourceLoader

namespace Attribute

/-- The methods of the types of the language. -/
def methods : List (String × List String) :=
  [("list", ["append", "clear", "copy", "count", "extend", "index", "insert", "pop", "remove",
      "reverse", "sort"]),
    ("tuple", ["count", "index"]),
    ("dict", ["clear", "copy", "fromkeys", "get", "items", "keys", "pop", "popitem",
      "setdefault", "update", "values"]),
    ("set", ["add", "clear", "copy", "difference", "difference_update", "discard",
      "intersection", "intersection_update", "isdisjoint", "issubset", "issuperset", "pop",
      "remove", "symmetric_difference", "symmetric_difference_update", "union", "update"]),
    ("frozenset", ["copy", "difference", "intersection", "isdisjoint", "issubset", "issuperset",
      "symmetric_difference", "union"]),
    ("str", ["capitalize", "casefold", "center", "count", "encode", "endswith", "expandtabs",
      "find", "format", "format_map", "index", "isalnum", "isalpha", "isascii", "isdecimal",
      "isdigit", "isidentifier", "islower", "isnumeric", "isprintable", "isspace", "istitle",
      "isupper", "join", "ljust", "lower", "lstrip", "maketrans", "partition", "removeprefix",
      "removesuffix", "replace", "rfind", "rindex", "rjust", "rpartition", "rsplit", "rstrip",
      "split", "splitlines", "startswith", "strip", "swapcase", "title", "translate", "upper",
      "zfill"]),
    ("bytes", ["capitalize", "center", "count", "decode", "endswith", "expandtabs", "find",
      "fromhex", "hex", "index", "isalnum", "isalpha", "isascii", "isdigit", "islower", "isspace",
      "istitle", "isupper", "join", "ljust", "lower", "lstrip", "maketrans", "partition",
      "removeprefix", "removesuffix", "replace", "rfind", "rindex", "rjust", "rpartition",
      "rsplit", "rstrip", "split", "splitlines", "startswith", "strip", "swapcase", "title",
      "translate", "upper", "zfill"]),
    ("int", ["as_integer_ratio", "bit_count", "bit_length", "conjugate", "from_bytes",
      "to_bytes"]),
    ("float", ["as_integer_ratio", "conjugate", "fromhex", "hex", "is_integer"])]

/-- The methods of a type. -/
def methodsOf (typeName : String) : List String :=
  (methods.lookup (if typeName = "bool" then "int" else typeName)).getD []

/-- Attributes that every object has. -/
def common : List String :=
  ["__class__", "__delattr__", "__dir__", "__doc__", "__eq__", "__format__", "__ge__",
    "__getattribute__", "__getstate__", "__gt__", "__hash__", "__init__", "__init_subclass__",
    "__le__", "__lt__", "__ne__", "__new__", "__reduce__", "__reduce_ex__", "__repr__",
    "__setattr__", "__sizeof__", "__str__", "__subclasshook__"]

/-- The parts of a number that can be read. -/
def numberPart? (v : Value) (name : String) : Option Value :=
  match v, v.int? with
  | .float x, _ =>
    if name = "real" then some (.float x)
    else if name = "imag" then some (.float ⟨0⟩) else none
  | _, some n =>
    if name = "real" || name = "numerator" then some (.int n)
    else if name = "imag" then some (.int 0)
    else if name = "denominator" then some (.int 1) else none
  | _, none => none

/-- The names of functions of the modules of the host. -/
def hostFunctions : List (String × List String) :=
  [("json", ["dump", "dumps", "load", "loads"]), ("os", ["getcwd", "getenv", "listdir"])]

/-- Other parts of the modules of the host. -/
def hostValues : List (String × Attributes) :=
  [("json", [("__name__", .text "json"), ("JSONDecodeError", .errorClass ⟨"JSONDecodeError"⟩),
      ("JSONDecoder", .type "JSONDecoder"), ("JSONEncoder", .type "JSONEncoder")]),
    ("os", [("__name__", .text "os"), ("sep", .text "/"), ("name", .text "posix"),
      ("linesep", .text "\n"), ("curdir", .text "."), ("pardir", .text ".."),
      ("extsep", .text "."), ("altsep", .none), ("pathsep", .text ":"),
      ("devnull", .text "/dev/null"), ("path", .hostModule "posixpath")]),
    ("posixpath", [("__name__", .text "posixpath"), ("sep", .text "/")])]

/-- The names that a module of the host hands out to those who ask for all. -/
def hostExports (module : String) : Option (List String) :=
  if module = "json" then
    some ["dump", "dumps", "load", "loads", "JSONDecoder", "JSONDecodeError", "JSONEncoder"]
  else none

/-- An attribute that a module of the host has from the start. -/
def ofFreshHostModule (module name : String) : Eval (Option Value) :=
  match (hostExports module).filter fun _ => name = "__all__" with
  | some names => return some (← Eval.add (.list (names.map .text)))
  | none =>
    if ((hostFunctions.lookup module).getD []).contains name then
      pure (some (.hostFunction module name))
    else pure (((hostValues.lookup module).getD []).lookup name)

/-- An attribute of a module of the host. -/
def ofHostModule (m : Memory) (module name : String) : Eval (Option Value) :=
  match (m.changesOf module).lookup name with
  | some value => pure value
  | none => ofFreshHostModule module name

/-- The names of the attributes of a module of the host. -/
def hostNames (m : Memory) (module : String) : List String :=
  let fresh := (hostFunctions.lookup module).getD [] ++ ((hostValues.lookup module).getD []).map
    Prod.fst ++ (if (hostExports module).isSome then ["__all__"] else [])
  let changes := m.changesOf module
  fresh.filter (fun name => (changes.lookup name).isNone)
    ++ changes.filterMap fun e => e.2.map fun _ => e.1

/-- The value of a name in the first class of a lineage that has it. -/
def inClasses (m : Memory) (classes : List Value) (name : String) : Option Value :=
  classes.findSome? fun c =>
    match m.object? c with
    | some (.class o) => o.attributes.get? name
    | _ => none

/-- A value found in a class, for an object of the class. -/
def bound (m : Memory) (receiver found : Value) : Eval Value :=
  match m.object? found with
  | some (.function _) => Eval.add (.method receiver found)
  | _ => pure found

/-- The documentation of a body. -/
def documentation : List Tree → Value
  | .node .exprStmt _ [[.node (.constant (.text t _)) _ _]] :: _ => .text t.toString
  | _ => .none

/-- An attribute of a function. -/
def ofFunction (m : Memory) (f : Function) (name : String) : Eval (Option Value) :=
  match f.attributes.get? name, name with
  | some v, _ => pure (some v)
  | none, "__name__" => pure (some (.text f.name))
  | none, "__qualname__" => pure (some (.text f.fullName))
  | none, "__module__" => pure (some ((m.nameIn? f.site.globals "__name__").getD .none))
  | none, "__globals__" => pure (some (.ref f.site.globals))
  | none, "__doc__" =>
    pure (some (match f.code with
      | .statements body => documentation body
      | .expression _ => .none))
  | none, "__defaults__" =>
    if f.defaults.isEmpty then pure (some .none)
    else return some (← Eval.add (.tuple f.defaults))
  | none, "__annotations__" => return some (← Eval.add (.dict []))
  | none, "__dict__" =>
    return some (← Eval.add (.dict (f.attributes.map fun a => (.text a.1, a.2))))
  | none, _ => pure none

/-- An attribute of an error object. -/
def ofProblem (m : Memory) (receiver : Value) (p : Problem) (name : String) :
    Eval (Option Value) := do
  match p.attributes.get? name with
  | some v => return some v
  | none =>
    match inClasses m (m.lineage p.kind) name with
    | some found => return some (← bound m receiver found)
    | none =>
      let texts (ss : List String) : Eval (Option Value) := do
        return some (← Eval.add (.list (ss.map .text)))
      let number (n : Option Int) : Value := (n.map Value.int).getD .none
      match name, p.failure with
      | "args", _ => return some (← Eval.add (.tuple p.arguments))
      | "__cause__", _ => return some (p.cause.getD .none)
      | "__context__", _ | "__traceback__", _ => return some .none
      | "__suppress_context__", _ => return some (.bool p.cause.isSome)
      | "__notes__", _ => if p.notes.isEmpty then return none else texts p.notes
      | "add_note", _ | "with_traceback", _ => return some (← Eval.add (.builtinMethod receiver name))
      | "path", some f => return f.path?.map .text
      | "user_message", some f => return if f.isOwn then some (.text f.message) else none
      | "cycle", some f =>
        match f.cycle? with
        | some cycle => texts cycle
        | none => return none
      | "msg", some (.rejected e) => return some (.text e.fault.message)
      | "filename", some (.rejected e) => return some ((e.file.map Value.text).getD .none)
      | "lineno", some (.rejected e) => return some (number e.line)
      | "offset", some (.rejected e) => return some (number e.offset)
      | "text", some (.rejected e) => return some ((e.text.map Value.text).getD .none)
      | "msg", _ | "name", _ | "value", _ | "code", _ =>
        let owner := if name = "value" then "StopIteration"
          else if name = "code" then "SystemExit" else "ImportError"
        let named := name = "name" && m.isBelow p.kind (.errorClass ⟨"NameError"⟩)
        if named || m.isBelow p.kind (.errorClass ⟨owner⟩) then
          return some (if name = "name" then .none else p.arguments.headD .none)
        else return none
      | _, _ => return none

/-- An attribute of a class of the language. -/
def ofType (typeName name : String) : Eval (Option Value) :=
  match name with
  | "__name__" | "__qualname__" => pure (some (.text typeName))
  | "__module__" => pure (some (.text "builtins"))
  | name =>
    if (methodsOf typeName).contains name then pure (some (.builtin s!"{typeName}.{name}"))
    else pure none

/-- An attribute of an object of memory, as the object itself has it. -/
def ofObject (m : Memory) (receiver : Value) (o : Object) (name : String) : Eval (Option Value) :=
  match o with
  | .module names =>
    if name = "__dict__" then pure (some (.ref names)) else pure (m.nameIn? names name)
  | .namespace as | .record as =>
    match as.get? name with
    | some v => pure (some v)
    | none =>
      if name = "__dict__" then do
        return some (← Eval.add (.dict (as.map fun a => (.text a.1, a.2))))
      else pure none
  | .instance c as =>
    match as.get? name, inClasses m (m.lineage c) name with
    | some v, _ => pure (some v)
    | none, some found => do return some (← bound m receiver found)
    | none, none =>
      if name = "__dict__" then do
        return some (← Eval.add (.dict (as.map fun a => (.text a.1, a.2))))
      else pure none
  | .class c =>
    match inClasses m (m.lineage receiver) name, name with
    | some v, _ => pure (some v)
    | none, "__name__" => pure (some (.text c.name))
    | none, "__doc__" => pure (some .none)
    | none, "__bases__" => do
      let bases := if c.bases.isEmpty then [Value.type "object"] else c.bases
      return some (← Eval.add (.tuple bases))
    | none, "__dict__" => do
      return some (← Eval.add (.dict (c.attributes.map fun a => (.text a.1, a.2))))
    | none, _ => pure none
  | .function f => ofFunction m f name
  | .tool tool _ _ =>
    match name with
    | "__name__" => pure (some (.text tool.name))
    | "__qualname__" => pure (some (.text tool.fullName))
    | _ => pure none
  | .method self function =>
    match name, m.object? function with
    | "__self__", _ => pure (some self)
    | "__func__", _ => pure (some function)
    | name, some (.function f) => ofFunction m f name
    | _, _ => pure none
  | .builtinMethod self function =>
    match name with
    | "__name__" => pure (some (.text function))
    | "__self__" => pure (some self)
    | _ => pure none
  | .problem p => ofProblem m receiver p name
  | .coroutine title _ | .generator title _ =>
    if name = "__name__" then pure (some (.text title))
    else if ["close", "send", "throw"].contains name then do
      return some (← Eval.add (.builtinMethod receiver name))
    else pure none
  | .slice lower upper step =>
    match name with
    | "start" => pure (some lower)
    | "stop" => pure (some upper)
    | "step" => pure (some step)
    | _ => pure none
  | o =>
    if (methodsOf (Memory.languageType o)).contains name then do
      return some (← Eval.add (.builtinMethod receiver name))
    else pure none

/-- Reads an attribute; the result is `none` if there is no such attribute. -/
def get? (v : Value) (name : String) : Eval (Option Value) := do
  let m ← Eval.memory
  if name = "__class__" then return some (m.typeOf v)
  let own ← match v with
    | .hostModule module => ofHostModule m module name
    | .type typeName => ofType typeName name
    | .errorClass c => ofType c.name name
    | .builtin function | .hostFunction _ function =>
      pure (if name = "__name__" || name = "__qualname__" then some (.text function) else none)
    | .ref address =>
      match m.get? address with
      | some o => ofObject m v o name
      | none => pure none
    | v =>
      match numberPart? v name with
      | some part => pure (some part)
      | none =>
        if (methodsOf (m.typeName v)).contains name then do
          return some (← Eval.add (.builtinMethod v name))
        else pure none
  match own with
  | some found => return some found
  | none =>
    if name = "__doc__" then return some .none
    else if name = "__dict__" || name = "__name__" || !common.contains name then return none
    else return some (← Eval.add (.builtinMethod v name))

/-- How a missing attribute is told. -/
def missingMessage (m : Memory) (v : Value) (name : String) : String :=
  match v with
  | .hostModule module => s!"module '{module}' has no attribute '{name}'"
  | v =>
    match m.object? v with
    | some (.module names) =>
      match m.nameIn? names "__name__" with
      | some (.text title) => s!"module '{title}' has no attribute '{name}'"
      | _ => s!"module has no attribute '{name}'"
    | _ =>
      if m.isClass v then s!"type object '{fullClassName m v}' has no attribute '{name}'"
      else s!"'{m.shownType v}' object has no attribute '{name}'"
where
  /-- The name of a class as messages show it. -/
  fullClassName (m : Memory) (v : Value) : String := Memory.fullTypeName (m.className v)

/-- Fails because an attribute is missing. -/
def missing {α : Type} (v : Value) (name : String) : Eval α := do
  let m ← Eval.memory
  Eval.error "AttributeError" (missingMessage m v name)

/-- Reads an attribute. -/
def get (v : Value) (name : String) : Eval Value := do
  match ← get? v name with
  | some found => pure found
  | none => missing v name

/-- An object with other attributes of its own, if it has any. -/
def withAttributes? (o : Object) (f : Attributes → Attributes) : Option Object :=
  match o with
  | .namespace as => some (.namespace (f as))
  | .record as => some (.record (f as))
  | .instance c as => some (.instance c (f as))
  | .class c => some (.class { c with attributes := f c.attributes })
  | .function g => some (.function { g with attributes := f g.attributes })
  | .problem p => some (.problem { p with attributes := f p.attributes })
  | _ => none

/-- Sets an attribute. -/
def set (v : Value) (name : String) (value : Value) : Eval Unit := do
  let m ← Eval.memory
  match v with
  | .ref address =>
    match m.get? address with
    | some (.module names) => Eval.modifyMemory (·.setName names name value)
    | some o =>
      match withAttributes? o (·.set name value) with
      | some o => Eval.put address o
      | none => missing v name
    | none => missing v name
  | .hostModule module => Eval.modifyMemory (·.changeHost module name (some value))
  | v =>
    if m.isClass v then
      Eval.typeError s!"cannot set '{name}' attribute of immutable type '{m.className v}'"
    else missing v name

/-- Deletes an attribute. -/
def delete (v : Value) (name : String) : Eval Unit := do
  let m ← Eval.memory
  let has (as : Attributes) : Bool := (as.get? name).isSome
  match v, m.object? v with
  | .hostModule module, _ =>
    if (hostNames m module).contains name then
      Eval.modifyMemory (·.changeHost module name none)
    else Eval.error "AttributeError" name
  | _, some (.module names) =>
    if (m.nameIn? names name).isSome then Eval.modifyMemory (·.eraseName names name)
    else Eval.error "AttributeError" name
  | .ref address, some o =>
    let known := match o with
      | .namespace as | .record as | .instance _ as => has as
      | .class c => has c.attributes
      | .function g => has g.attributes
      | .problem p => has p.attributes
      | _ => false
    match withAttributes? o (·.erase name) with
    | some o =>
      if known then Eval.put address o
      else
        match o with
        | .instance _ _ => missing v name
        | _ => Eval.error "AttributeError" name
    | none => missing v name
  | v, _ => missing v name

/-- The names of the attributes of a value, in order. -/
def names (m : Memory) (v : Value) : List String :=
  let typeNames (v : Value) : List String :=
    let parts := match v with
      | .float _ => ["imag", "real"]
      | .int _ | .bool _ => ["denominator", "imag", "numerator", "real"]
      | _ => []
    common ++ methodsOf (m.typeName v) ++ parts
  let own (as : Attributes) : List String := as.map Prod.fst
  let inherited (c : Value) : List String := (m.lineage c).flatMap fun c =>
    match m.object? c with
    | some (.class o) => own o.attributes
    | _ => []
  let found := match v with
    | .hostModule module => hostNames m module
    | v =>
      match m.object? v with
      | some (.module names) => m.namesIn names
      | some (.namespace as) => "__dict__" :: common ++ own as
      | some (.record as) => "__dict__" :: common ++ own as
      | some (.instance c as) =>
        ["__dict__", "__module__", "__weakref__"] ++ common ++ own as ++ inherited c
      | some (.class _) => ["__dict__", "__module__", "__weakref__"] ++ common ++ inherited v
      | some (.problem p) =>
        ["__cause__", "__context__", "__dict__", "__setstate__", "__suppress_context__",
          "__traceback__", "add_note", "args", "with_traceback"] ++ common ++ own p.attributes
      | _ => typeNames v
  (found.mergeSort fun a b => decide (a ≤ b)).eraseDups

end Attribute

end SourceLoader
