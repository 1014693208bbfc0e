import SourceLoader.Object.Equality

/-!
# How values of running modules are written

Every value has a literal form and a plain form; the plain form of a text is the text itself and
that of an error is its message. Inside containers everything is in literal form. Host data can
be brought into memory, and what is made of plain parts can be read back from it.
-/

namespace SourceLoader

namespace Memory

/-- The text of a number. -/
def numberText : Value → String
  | .bool b => Data.boolText b
  | .int n => toString n
  | .float x => Number.textOf x true
  | _ => ""

/-- The exports' own name of a module, and its file. -/
def moduleText (m : Memory) (names : Nat) : String :=
  let part (name : String) : Option String := match m.nameIn? names name with
    | some (.text s) => some s
    | _ => none
  let shown (s : String) : String := Text.quoted (Text.ofString s)
  match part "__name__", part "__file__" with
  | some name, some file => s!"<module {shown name} from {shown file}>"
  | some name, none => s!"<module {shown name}>"
  | none, _ => "<module '?'>"

/-- The literal form of a value, looking at parts down to some depth. -/
def shownWithin (m : Memory) : Nat → Value → String
  | 0, _ => "..."
  | depth + 1, v =>
    let all (vs : List Value) : String := ", ".intercalate (vs.map (shownWithin m depth))
    let named (as : Attributes) : String :=
      ", ".intercalate (as.map fun a => a.1 ++ "=" ++ shownWithin m depth a.2)
    match v with
    | .none => "None"
    | .bool _ | .int _ | .float _ => numberText v
    | .text s => Text.quoted (Text.ofString s)
    | .bytes bs => Text.quotedBytes bs
    | .ellipsis => "Ellipsis"
    | .type name => s!"<class '{fullTypeName name}'>"
    | .errorClass c => s!"<class '{c.name}'>"
    | .builtin name => s!"<built-in function {name}>"
    | .hostModule name => s!"<module '{name}'>"
    | .hostFunction _ name => s!"<function {name}>"
    | .ref address =>
      match m.get? address with
      | some (.list vs) => "[" ++ all vs ++ "]"
      | some (.tuple [v]) => "(" ++ all [v] ++ ",)"
      | some (.tuple vs) => "(" ++ all vs ++ ")"
      | some (.dict es) =>
        let entry (e : Value × Value) : String :=
          shownWithin m depth e.1 ++ ": " ++ shownWithin m depth e.2
        "\x7b" ++ ", ".intercalate (es.map entry) ++ "\x7d"
      | some (.set [] isFrozen) => if isFrozen then "frozenset()" else "set()"
      | some (.set vs isFrozen) =>
        let braced := "\x7b" ++ all vs ++ "\x7d"
        if isFrozen then "frozenset(" ++ braced ++ ")" else braced
      | some (.module names) => m.moduleText names
      | some (.namespace as) => "namespace(" ++ named as ++ ")"
      | some (.record as) => "ModuleRecord(" ++ named as ++ ")"
      | some (.instance c _) => s!"<{m.className c} object>"
      | some (.class c) => s!"<class '{c.name}'>"
      | some (.function f) => s!"<function {f.fullName}>"
      | some (.tool _ _ _) => "<function>"
      | some (.method _ _) => "<bound method>"
      | some (.builtinMethod _ name) => s!"<built-in method {name}>"
      | some (.problem p) => m.className p.kind ++ "(" ++ all p.arguments ++ ")"
      | some (.coroutine name _) => s!"<coroutine object {name}>"
      | some (.generator name _) => s!"<generator object {name}>"
      | some (.sequence name vs) => name ++ "([" ++ all vs ++ "])"
      | some (.slice a b c) => "slice(" ++ all [a, b, c] ++ ")"
      | some (.scope _) => "<scope>"
      | some (.plain name) => s!"<{name} object>"
      | none => "<object>"

/-- The literal form of a value. -/
def shown (m : Memory) (v : Value) : String := shownWithin m maxDepth v

/-- The message of an error, looking at errors within errors down to some depth. A missing key
is said in its literal form. -/
def messageWithin (m : Memory) : Nat → Problem → String
  | 0, _ => ""
  | depth + 1, p =>
    let isBelow (name : String) : Bool :=
      ((m.errorClass? p.kind).map (·.isBelow ⟨name⟩)).getD false
    let plain (v : Value) : String := match v with
      | .text s => s
      | v =>
        match m.problem? v with
        | some inner => messageWithin m depth inner
        | none => m.shown v
    match p.failure, p.arguments with
    | some f, _ => f.message
    | none, [] => ""
    | none, [v] => if isBelow "KeyError" then m.shown v else plain v
    | none, vs =>
      match isBelow "OSError", vs with
      | true, [number, reason] => s!"[Errno {plain number}] {plain reason}"
      | _, vs => "(" ++ ", ".intercalate (vs.map m.shown) ++ ")"

/-- The message of an error. -/
def message (m : Memory) (p : Problem) : String := messageWithin m maxDepth p

/-- The plain form of a value. -/
def plain (m : Memory) (v : Value) : String :=
  match v with
  | .text s => s
  | v =>
    match m.problem? v with
    | some p => m.message p
    | none => m.shown v

/-! ## Host data -/

mutual

/-- Brings host data into memory. -/
def ofData (m : Memory) : Data → Memory × Value
  | .none => (m, .none)
  | .bool b => (m, .bool b)
  | .int n => (m, .int n)
  | .float x => (m, .float x)
  | .text s => (m, .text s)
  | .bytes bs => (m, .bytes bs)
  | .list ds =>
    let (m, vs) := ofAllData m ds
    let (m, address) := m.add (.list vs)
    (m, .ref address)
  | .tuple ds =>
    let (m, vs) := ofAllData m ds
    let (m, address) := m.add (.tuple vs)
    (m, .ref address)
  | .set ds =>
    let (m, vs) := ofAllData m ds
    let (m, address) := m.add (.set vs false)
    (m, .ref address)
  | .dict es =>
    let (m, entries) := ofEntries m es
    let (m, address) := m.add (.dict entries)
    (m, .ref address)
  | .namespace as =>
    let (m, attributes) := ofAttributes m as
    let (m, address) := m.add (.namespace attributes)
    (m, .ref address)
  | .module as =>
    let (m, attributes) := ofAttributes m as
    let unset := ["__doc__", "__package__", "__loader__", "__spec__"].map fun s => (s, Value.none)
    let given := ("__name__", Value.text "host") :: unset
    let names := attributes.foldl (fun names a => Attributes.set a.1 a.2 names) given
    let (m, address) := m.add (.dict (names.map fun a => (.text a.1, a.2)))
    let (m, address) := m.add (.module address)
    (m, .ref address)
  | .hostModule name => (m, .hostModule name)
  | .object =>
    let (m, address) := m.add (.plain "object")
    (m, .ref address)

/-- Brings several values into memory. -/
def ofAllData (m : Memory) : List Data → Memory × List Value
  | [] => (m, [])
  | d :: ds =>
    let (m, v) := ofData m d
    let (m, vs) := ofAllData m ds
    (m, v :: vs)

/-- Brings entries into memory. -/
def ofEntries (m : Memory) : List (Data × Data) → Memory × List (Value × Value)
  | [] => (m, [])
  | (k, d) :: es =>
    let (m, key) := ofData m k
    let (m, v) := ofData m d
    let (m, rest) := ofEntries m es
    (m, (key, v) :: rest)

/-- Brings attributes into memory. -/
def ofAttributes (m : Memory) : List (String × Data) → Memory × Attributes
  | [] => (m, [])
  | (name, d) :: as =>
    let (m, v) := ofData m d
    let (m, rest) := ofAttributes m as
    (m, (name, v) :: rest)

end

/-- Reads a value from memory. The result is the type of a part that is no host data if there
is one. -/
def toDataWithin (m : Memory) : Nat → Value → Except String Data
  | 0, v => .error (m.typeName v)
  | depth + 1, v =>
    let all (vs : List Value) : Except String (List Data) := vs.mapM (toDataWithin m depth)
    match v with
    | .none => .ok .none
    | .bool b => .ok (.bool b)
    | .int n => .ok (.int n)
    | .float x => .ok (.float x)
    | .text s => .ok (.text s)
    | .bytes bs => .ok (.bytes bs)
    | .hostModule name => .ok (.hostModule name)
    | v =>
      match m.object? v with
      | some (.list vs) => (all vs).map .list
      | some (.tuple vs) => (all vs).map .tuple
      | some (.set vs false) => (all vs).map .set
      | some (.dict es) => do
        let entries ← es.mapM fun e => do
          let key ← toDataWithin m depth e.1
          let value ← toDataWithin m depth e.2
          return (key, value)
        return .dict entries
      | _ => .error (m.typeName v)

/-- Reads a value from memory. -/
def toData (m : Memory) (v : Value) : Except String Data := toDataWithin m maxDepth v

end Memory

end SourceLoader
