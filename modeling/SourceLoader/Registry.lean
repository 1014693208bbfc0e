import SourceLoader.Failure

/-!
# The registry

The modules that are loaded, by path, in the order in which they were registered. There is at
most one record for a path and records are never dropped; the exports of a record may be
replaced.
-/

namespace SourceLoader

/-- A loaded module. -/
structure Record (α : Type) where
  path : String
  exports : α
deriving Repr

/-- The modules that are loaded. -/
structure Registry (α : Type) where
  records : List (Record α) := []
deriving Repr, Inhabited

namespace Registry

variable {α : Type}

/-- The paths, in order. -/
def paths (r : Registry α) : List String := r.records.map Record.path

/-- Is there a record for the path? -/
def contains (r : Registry α) (path : String) : Bool := r.records.any (·.path = path)

/-- The record of a path. -/
def record? (r : Registry α) (path : String) : Option (Record α) :=
  r.records.find? (·.path = path)

/-- The exports of a path, which must be registered. -/
def exports (r : Registry α) (path : String) : Except Failure α :=
  match r.record? path with
  | some record => .ok record.exports
  | none => .error (.notLoaded path)

/-- Registers a module. -/
def register (r : Registry α) (path : String) (exports : α) : Except Failure (Registry α) :=
  if r.contains path then .error (.alreadyRegistered path)
  else .ok ⟨r.records ++ [⟨path, exports⟩]⟩

/-- Replaces the exports of a path. -/
def replace (r : Registry α) (path : String) (exports : α) : Registry α :=
  ⟨r.records.map fun record => if record.path = path then { record with exports } else record⟩

/-- A registry in short. -/
def summary (r : Registry α) : String := s!"ModuleRegistry({r.records.length} modules)"

end Registry

end SourceLoader
