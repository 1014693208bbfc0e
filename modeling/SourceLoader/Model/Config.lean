import SourceLoader.Model.Field
import SourceLoader.Text.Unicode.Case

/-!
# Configurations

The settings that a host makes for a loader, and how they are checked. A setting that is not
made has a default; two defaults come from the environment and are fixed when the configuration
is made.
-/

namespace SourceLoader

/-- The environment variables that matter. -/
structure Environment where
  version : Option String := none
  sourceMaps : Option String := none
deriving Repr

namespace Environment

/-- The version that stands for the library itself. -/
def ownVersion : String := "0.1.0"

/-- The version that is part of every cache key. -/
def versionTag (e : Environment) : String :=
  match e.version with
  | none | some "" => ownVersion
  | some v => v

/-- Without blanks at both ends. -/
def strip (s : String) : String :=
  let isBlank (c : Char) : Bool := Text.Unicode.isBlank c.toNat
  String.ofList ((s.toList.dropWhile isBlank).reverse.dropWhile isBlank).reverse

/-- Are line maps wanted? -/
def sourceMapsEnabled (e : Environment) : Bool :=
  ["1", "true", "yes", "on"].contains (Text.Unicode.lower (strip (e.sourceMaps.getD "")))

end Environment

/-- A value of a setting. -/
inductive Setting where
  | data (value : Data)
  | store
  | registry
  /-- Something that can be called, with the name of its type. -/
  | callable (typeName : String)
  /-- A tree transformer, which cannot be called. -/
  | transformer
  | object
  | list (items : List Setting)
deriving Inhabited

namespace Setting

/-- May the setting be called? -/
def isCallable : Setting → Bool
  | callable _ => true
  | _ => false

/-- The value as it is shown. -/
def shown : Setting → String
  | data d => d.shown
  | callable type => s!"<{type}>"
  | store => "<store>"
  | registry => "ModuleRegistry(0 modules)"
  | transformer => "<transformer>"
  | object => "<object object>"
  | list _ => "[]"

/-- The plain value, if the setting is one. -/
def data? : Setting → Option Data
  | data d => some d
  | _ => none

/-- The name of the type of a pass. -/
def passType : Setting → String
  | callable type => type
  | transformer => "NodeTransformer"
  | data d => d.typeName
  | _ => "object"

end Setting

/-- A configuration as far as it can be seen. -/
structure ConfigSummary where
  version : String
  sourceMaps : Bool
  defaultResolver : Bool
  hasStore : Bool
  hasSink : Bool
  /-- The types of the passes. -/
  passes : List String
deriving Repr

namespace ConfigSummary

open Model

/-- The name of the model. -/
def title : String := "LoaderConfig"

/-- The names of the settings, in the order in which they are checked. -/
def fields : List String :=
  ["resolve", "module_registry", "compiled_cache", "log", "additional_passes", "version",
    "source_maps"]

/-- The setting of a name. -/
def setting? (name : String) (settings : List (String × Setting)) : Option Setting :=
  (settings.find? (·.1 = name)).map Prod.snd

/-- Checks a setting if it is made. -/
def field {α : Type} (name : String) (value : α) (read : Setting → Reading α)
    (settings : List (String × Setting)) : Reading α :=
  match setting? name settings with
  | none => .ok value
  | some s => inside (.name name) (read s)

/-- Reads a plain value. -/
def plain {α : Type} (read : Data → Reading α) : Setting → Reading α
  | .data d => read d
  | _ => read .object

/-- Something that can be called. -/
def callable (s : Setting) : Reading Unit :=
  if s.isCallable then .ok () else misfit "callable_type" "Input should be callable"

/-- A setting that may be none. -/
def orNone (read : Setting → Reading Unit) : Setting → Reading Bool
  | .data .none => .ok false
  | s =>
    match read s with
    | .ok _ => .ok true
    | .error ms => .error ms

/-- A registry. -/
def registry : Setting → Reading Unit
  | .registry => .ok ()
  | _ => misfit "is_instance_of" "Input should be an instance of ModuleRegistry"

/-- A store. -/
def store : Setting → Reading Unit
  | .store => .ok ()
  | _ => misfit "is_instance_of" "Input should be an instance of Cache"

/-- A pass. -/
def pass (s : Setting) : Reading String :=
  let fits := match s with
    | .transformer => true
    | s => s.isCallable
  if fits then .ok s.passType
  else
    misfit "value_error" ("Value error, syntax pass must be an ast.NodeTransformer or callable, "
      ++ "got " ++ s.shown)

/-- Passes: the first one that does not fit is told. -/
def readPasses : Setting → Reading (List String)
  | .list items => items.mapM pass
  | .data (.list ds) | .data (.tuple ds) | .data (.set ds) => ds.mapM fun d => pass (.data d)
  | _ => misfit "tuple_type" "Input should be a valid tuple"

/-- There are no other settings. -/
def onlyFields (settings : List (String × Setting)) : Reading Unit :=
  match settings.filter fun s => !fields.contains s.1 with
  | [] => .ok ()
  | others =>
    .error (others.map fun s =>
      ⟨"extra_forbidden", [.name s.1], "Extra inputs are not permitted"⟩)

/-- Checks settings in an environment. -/
def ofSettings (e : Environment) (settings : List (String × Setting)) :
    Except Failure ConfigSummary :=
  let read :=
    both (field "resolve" true (fun s => (callable s).map fun _ => false) settings) <|
    both (field "module_registry" () registry settings) <|
    both (field "compiled_cache" false (orNone store) settings) <|
    both (field "log" false (orNone callable) settings) <|
    both (field "additional_passes" [] readPasses settings) <|
    both (field "version" e.versionTag (plain nonEmptyText) settings) <|
    both (field "source_maps" e.sourceMapsEnabled (plain truth) settings)
      (onlyFields settings)
  match read with
  | .ok (defaultResolver, _, hasStore, hasSink, passes, version, sourceMaps, _) =>
    .ok { version, sourceMaps, defaultResolver, hasStore, hasSink, passes }
  | .error ms => .error (.misfits title ms)

end ConfigSummary

end SourceLoader
