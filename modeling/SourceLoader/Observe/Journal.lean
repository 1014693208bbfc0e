import SourceLoader.Failure

/-!
# The journal

What a run shows of itself: log entries, calls of the sink that a host has set, and stages. A
stage is one step of a load with a beginning and an end. It ends well, or it takes the wording
of the failure that leaves it, and then an entry is logged that tells the failure and the
attributes of the stage.
-/

namespace SourceLoader

/-- How much an entry matters. -/
inductive Level where
  | debug
  | info
  | warning
  | error
  | critical
deriving DecidableEq, Repr

namespace Level

/-- The name of a level. -/
def title : Level → String
  | debug => "debug"
  | info => "info"
  | warning => "warning"
  | error => "error"
  | critical => "critical"

/-- The weight of a level. -/
def weight : Level → Nat
  | debug => 10
  | info => 20
  | warning => 30
  | error => 40
  | critical => 50

/-- All levels. -/
def all : List Level := [debug, info, warning, error, critical]

end Level

/-- A log entry. -/
structure Entry where
  level : Level
  event : String
  fields : List (String × Data) := []
deriving Repr

/-- The entry on a failure of the loader that is made with details for the log alone. -/
def Entry.ofDetails (f : Failure) (details : String) : Entry :=
  ⟨.error, "modloom_error", [("error_type", .text f.errorClass.name),
    ("user_message", .text f.message), ("internal_details", .text details)]⟩

/-- Makes a failure of a class with one argument and maybe with details. Some classes take no
details; empty details are not logged. -/
def Failure.make (c : ErrorClass) (argument : Data) (details : Option Data) :
    Except Failure (Failure × List Entry) :=
  let f := Failure.ofClass c argument
  match details with
  | none => .ok (f, [])
  | some d =>
    if ["ModuleAlreadyRegisteredError", "CircularDependencyError"].contains c.name then
      .error (.host "TypeError"
        s!"{c.name}.__init__() got an unexpected keyword argument 'internal_details'")
    else
      match d with
      | .none | .text "" => .ok (f, [])
      | d => .ok (f, [.ofDetails f d.plain])

/-- How a stage has ended so far. -/
inductive StageStatus where
  | isOpen
  | done
  | failed (message : String)
deriving DecidableEq, Repr

/-- A stage of a run. -/
structure Stage where
  name : String
  attributes : List (String × Data) := []
  status : StageStatus := .isOpen
  /-- The classes of the failures that left the stage. -/
  recorded : List ErrorClass := []
deriving Repr

namespace Stage

/-- Parameters of the function that writes the entry. An attribute cannot have such a name. -/
def logParameters : List String := ["self", "event"]

/-- The name of the function that writes an entry. -/
def logFunction : String := "_make_filtering_bound_logger.<locals>.make_method.<locals>.meth"

/-- The entry on a failure that leaves a stage. The attributes of the stage become fields; an
attribute that is named like the field of the failure, or like a parameter of the logging
functions, makes another failure of it. -/
def failureEntry (name : String) (attributes : List (String × Data)) (message : String) :
    Except Failure Entry :=
  let clash (text : String) : Except Failure Entry := .error (.host "TypeError" text)
  if attributes.any (·.1 = "error") then
    clash s!"structlog._native.{logFunction}() got multiple values for keyword argument 'error'"
  else
    match attributes.find? fun a => logParameters.contains a.1 with
    | some (key, _) => clash s!"{logFunction}() got multiple values for argument '{key}'"
    | none =>
      if attributes.any (·.1 = "method_name") then
        clash
          "BoundLoggerBase._proxy_to_logger() got multiple values for argument 'method_name'"
      else .ok ⟨.debug, name ++ "_failed", ("error", .text message) :: attributes⟩

end Stage

/-- What a run has shown so far. -/
structure Journal where
  entries : Array Entry := #[]
  /-- The calls of the sink, each with its values. -/
  calls : Array (List Data) := #[]
  stages : Array Stage := #[]
deriving Inhabited

namespace Journal

/-- Adds an entry. -/
def log (j : Journal) (e : Entry) : Journal := { j with entries := j.entries.push e }

/-- Adds a call of the sink. -/
def call (j : Journal) (values : List Data) : Journal := { j with calls := j.calls.push values }

/-- Begins a stage. The result has its number. -/
def enter (j : Journal) (name : String) (attributes : List (String × Data)) : Journal × Nat :=
  ({ j with stages := j.stages.push { name, attributes } }, j.stages.size)

/-- Ends a stage well. -/
def leave (j : Journal) (stage : Nat) : Journal :=
  { j with stages := j.stages.modify stage fun s => { s with status := .done } }

/-- Ends a stage with a failure, and logs it. The other result is the failure that goes on. -/
def fail (j : Journal) (stage : Nat) (errorClass : ErrorClass) (message : String) :
    Journal × Option Failure :=
  let j := { j with stages := j.stages.modify stage fun s =>
    { s with status := .failed message, recorded := s.recorded ++ [errorClass] } }
  match j.stages[stage]? with
  | none => (j, none)
  | some s =>
    match Stage.failureEntry s.name s.attributes message with
    | .ok entry => (j.log entry, none)
    | .error failure => (j, some failure)

end Journal

end SourceLoader
