import SourceLoader.Body.Engine

/-!
# Imports of the host

A script leaves its imports to the host, which brings a few modules along. Everything else is
not found, and relative imports are refused because a script is not part of a package.
-/

namespace SourceLoader

namespace Import

/-- The modules of the host by the names under which they are imported. -/
def known : List (String × String) :=
  [("json", "json"), ("os", "os"), ("os.path", "posixpath"), ("posixpath", "posixpath"),
    ("__future__", "__future__")]

/-- Modules of the host that have modules below them. -/
def packages : List String := ["json"]

/-- The parts of a dotted name. -/
def parts (name : String) : List String := (Path.parts '.' name.toList).map String.ofList

/-- Fails because a module is not found. The first part of the name that is not found counts. -/
def notFound {α : Type} (name : String) : Eval α :=
  let first := (parts name).headD ""
  let message :=
    match known.lookup first with
    | none => s!"No module named '{first}'"
    | some _ =>
      if packages.contains first then s!"No module named '{name}'"
      else s!"No module named '{name}'; '{first}' is not a package"
  Eval.error "ModuleNotFoundError" message

/-- The module of a name. -/
def module (name : String) : Eval Value :=
  match known.lookup name with
  | some found => pure (.hostModule found)
  | none => notFound name

/-- Imports modules by their names. -/
def names (env : Env) : List Tree → Eval Unit
  | [] => pure ()
  | .node (.alias name asName) _ _ :: rest => do
    let found ← module name
    let bound := asName.getD ((parts name).headD name)
    let v ← if asName.isSome then pure found else module ((parts name).headD name)
    Name.write env bound v
    names env rest
  | _ :: rest => names env rest

/-- The value that a name of a module stands for in an import. -/
def member (module : String) (v : Value) (name : String) : Eval Value := do
  if module = Dependencies.futureModule then Eval.add (.plain "_Feature")
  else
    match ← Attribute.get? v name with
    | some found => pure found
    | none =>
      Eval.error "ImportError" s!"cannot import name '{name}' from '{module}' (unknown location)"

/-- Imports parts of a module. -/
def members (env : Env) (module : String) (v : Value) : List Tree → Eval Unit
  | [] => pure ()
  | .node (.alias "*" _) _ _ :: rest => do
    let m ← Eval.memory
    let all := match v with
      | .hostModule host => (Attribute.hostExports host).getD
        ((Attribute.names m v).filter fun n => n.toList.head? ≠ some '_')
      | _ => []
    for name in all do
      let found ← member module v name
      Name.write env name found
    members env module v rest
  | .node (.alias name asName) _ _ :: rest => do
    let found ← member module v name
    Name.write env (asName.getD name) found
    members env module v rest
  | _ :: rest => members env module v rest

/-- Fails because a relative import has nothing to start from. A module whose name has points
counts as part of the packages in front of it, and those are not found. -/
def relative (env : Env) : Eval Unit := do
  let m ← Eval.memory
  let package := match m.nameIn? env.site.globals "__name__" with
    | some (.text name) => (parts name).dropLast
    | _ => []
  match package with
  | [] => Eval.error "ImportError" "attempted relative import with no known parent package"
  | first :: _ =>
    if first = "" then
      Eval.error "ImportError" "attempted relative import with no known parent package"
    else Eval.error "ModuleNotFoundError" s!"No module named '{first}'"

/-- Imports from a module. -/
def from_ (env : Env) (name : Option String) (level : Nat) (aliases : List Tree) : Eval Unit := do
  if level > 0 then relative env
  else
    let name := name.getD ""
    let v ← module name
    members env name v aliases

end Import

end SourceLoader
