import SourceLoader.Cache
import SourceLoader.Load.Machine
import SourceLoader.Object.Eval
import SourceLoader.Sources

/-!
# The world of a run

What the courses of modules work on: memory, the journal, the stores of compiled sources, and
the sources themselves. `Act` is a step in the world; the steps of code are those steps that
touch nothing but memory.
-/

namespace SourceLoader

/-- An attempt to load a module that is under way. -/
structure OpenLoad where
  path : String
  /-- The number of its stage in the journal. -/
  stage : Nat
  moduleMode : Bool := true

/-- The body of a compiled source that has begun to run. -/
structure Begun where
  config : ConfigId
  file : String
  /-- What the compiled source declares. -/
  specifiers : List String
deriving DecidableEq, Repr

/-- What the courses of modules work on. -/
structure World where
  memory : Memory := {}
  journal : Journal := {}
  stores : List (String × Store) := []
  sources : SourceProvider := .table []
  /-- Other courses may run before a source is there. -/
  sourcePauses : Nat := 0
  /-- How often the source of a path was looked up. -/
  lookups : List (String × Nat) := []
  /-- The bodies that have begun, the latest first. -/
  begun : List Begun := []
  /-- The paths that a stand-in for loading was asked for. -/
  requested : List String := []
  /-- The lines of the sources that run, by file. -/
  lines : List (String × List String) := []
  openLoads : List OpenLoad := []

instance : Inhabited World := ⟨{}⟩

namespace World

/-- Replaces the memory. -/
def withMemory (w : World) (memory : Memory) : World := { w with memory }

/-- Makes an error of a failure. -/
def fail (f : Failure) (w : World) : World × Thrown :=
  let (memory, e) := w.memory.fail f
  (w.withMemory memory, e)

/-- The message of an error on its way. -/
def message (w : World) (e : Thrown) : String :=
  ((w.memory.problem? (.ref e.problem)).map w.memory.message).getD ""

/-- The class of an error on its way. -/
def errorClass (w : World) (e : Thrown) : ErrorClass :=
  match w.memory.problem? (.ref e.problem) with
  | some p => ⟨w.memory.className p.kind⟩
  | none => .exception

end World

/-- A step in the world. -/
def Act (α : Type) : Type := World → Course World Value Thrown α

namespace Act

variable {α β : Type}

/-- The step that does nothing. -/
def ofValue (a : α) : Act α := fun w => .done w (.ok a)

/-- One step after the other. -/
def andThen (x : Act α) (f : α → Act β) : Act β := fun w => (x w).bind f

instance : Monad Act where
  pure := ofValue
  bind := andThen

instance : Inhabited (Act α) := ⟨fun w => .done w (.error default)⟩

/-- A step of code. -/
def ofEval (x : Eval α) : Act α := fun w =>
  (x w.memory).within World.memory World.withMemory w

instance : MonadLift Eval Act := ⟨ofEval⟩

/-- The world as it is. -/
def world : Act World := fun w => .done w (.ok w)

/-- Changes the world. -/
def modify (f : World → World) : Act Unit := fun w => .done (f w) (.ok ())

/-- A result that may be a failure. -/
def ofExcept (result : Except Failure α) : Act α := ofEval (Eval.ofExcept result)

/-- Lets other courses run. -/
def pause : Act Unit := do
  let _ ← Eval.ask .pause

/-- Logs an entry. -/
def log (e : Entry) : Act Unit := modify fun w => { w with journal := w.journal.log e }

end Act

end SourceLoader
