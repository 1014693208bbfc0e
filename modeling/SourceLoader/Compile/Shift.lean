import SourceLoader.Compile.Board
import SourceLoader.Compile.Transform
import SourceLoader.Crowd
import SourceLoader.Load.Course

/-!
# Compiling side by side

Several compilations share one board of notices. A compilation reads its source and checks its tree
with the board changed, so that a record of its own is told all that is remarked, and puts the board
back at once. Between the two its passes may pause, and then other compilations have their turns.
When a text is read again for a line map, nobody is told.

Which remarks a step makes is what the step itself says, as it does in `compile`. A step that fails
may have made remarks before; they are `Compilation.unheard`.
-/

namespace SourceLoader

/-- A turn of a course that only pauses: it goes on to its next pause, or to its end. -/
def Course.turn {σ ν ε α : Type} (shared : σ) : Course σ ν ε α → σ × Course σ ν ε α
  | .done w result => (shared, .done w result)
  | .ask _ _ next =>
    match next shared (.ok none) with
    | .done w result => (w, .done w result)
    | .ask w request next => (w, .ask w request next)

/-- A step with the board. Others have their turns while it pauses. -/
def Shift (α : Type) : Type := Board → Course Board Unit Failure α

namespace Shift

variable {α β : Type}

/-- The step that does nothing. -/
def ofValue (a : α) : Shift α := fun b => .done b (.ok a)

/-- One step after the other. -/
def andThen (x : Shift α) (f : α → Shift β) : Shift β := fun b => (x b).bind f

instance : Monad Shift where
  pure := ofValue
  bind := andThen

/-- A result that may be a failure. -/
def ofExcept (result : Except Failure α) : Shift α := fun b => .done b result

/-- A result that may be a failure, after some pauses. -/
def pausing (result : Except Failure α) : Nat → Shift α
  | 0 => ofExcept result
  | n + 1 => fun b => .ask b .pause fun b _ => pausing result n b

/-- A step on the board that is done at once. -/
def atOnce (f : Board → Board × Except Failure α) : Shift α := fun b => .done (f b).1 (f b).2

/-- Puts notices on the board. -/
def post : List Notice → Shift Unit
  | [] => pure ()
  | n :: ns => do
    atOnce (·.post n)
    post ns

/-- Takes a step with the board changed. Its filters and its listener are put back, however the step
ends. -/
def during (change : Board → Board) (x : Shift α) : Shift α := fun b =>
  (x (change b)).andThen fun after result => .done (b.restore after) result

/-- Takes a step with a record that is told all. The number of the record comes with the result. -/
def recording (x : Shift α) : Shift (α × Nat) := fun b =>
  -- the number of the record that is opened next
  let number := b.records.length
  during (·.openRecord.withAction .tell) (do return (← x, number)) b

/-- Takes a step of which nobody is told. -/
def muted (x : Shift α) : Shift α := during (·.withAction .hide) x

/-- What some records were told, one after the other. -/
def told (numbers : List Nat) : Shift (List Notice) := atOnce fun b =>
  (b, .ok (numbers.flatMap b.record))

/-- Runs a step as a stage. -/
def stage (name : String) (attributes : List (String × Data)) (x : Shift α) : Shift α := fun b =>
  (x b).andThen fun b result =>
    .done b ((Script.ofExcept result).stage name attributes).outcome

end Shift

/-- A compilation. -/
structure Compilation where
  request : CompileRequest
  /-- What a step remarks before it fails. -/
  unheard : List Notice := []

namespace Compilation

variable {α : Type} (c : Compilation)

/-- A step that comes to a result with remarks about a file, or fails. -/
def remarking (file : String) : Except Failure (α × List Warning) → Shift α
  | .ok (a, remarks) => do
    Shift.post (remarks.map fun w => ⟨file, w⟩)
    return a
  | .error f => do
    Shift.post c.unheard
    Shift.ofExcept (.error f)

/-- Applies passes in turn. -/
def applyPasses : List Pass → Tree → Shift Tree
  | [], t => pure t
  | p :: ps, t => do
    let t ← Shift.pausing (p.apply t) p.pauses
    applyPasses ps t

/-- Changes and checks a tree that was read. The result is the tree, and the number of the record of
the check. -/
def change (t : Tree) : Shift (Tree × Nat) := do
  let t ← applyPasses (Compile.allPasses c.request) t
  let t := t.fillSpans
  let checked := (Compile.check c.request t).map fun remarks => ((), remarks)
  let (_, number) ← Shift.recording (c.remarking c.request.file checked)
  return (t, number)

/-- Reads the text that was written, and maps its lines. -/
def mapLines (t : Tree) (text : String) : Shift (List Nat) := do
  let written : CompileRequest := { c.request with file := "<unknown>", source := text }
  let _ ← Shift.muted (c.remarking written.file (Compile.parse written))
  Shift.ofExcept (Compile.mapLines t text)

/-- Writes a checked tree, with a line map if it is wanted. -/
def finish (t : Tree) : Shift (String × Option (List Nat)) := do
  let text ← Shift.ofExcept (Compile.print t)
  if c.request.sourceMaps then return (text, some (← c.mapLines t text)) else return (text, none)

/-- The steps of a compilation. -/
def steps : Shift Compiled := do
  let req := c.request
  let (t, first) ← Shift.recording (c.remarking req.file (Compile.parse req))
  let t := DynamicImport.rename t
  let dependencies := Dependencies.ofTree req.moduleMode t
  let (t, second) ← c.change t
  -- others have had their turns since the first record was opened
  let notices ← Shift.told [first, second]
  let warnings := notices.map fun n => Compile.describe n.file n.warning
  let (text, lineMap) ← c.finish t
  return { dependencies, text, lineMap, warnings }

/-- Compiles a source. -/
def transform : Shift Compiled :=
  c.steps.stage "modloom.transform" [("modloom.filename", .text c.request.file),
    ("modloom.module_mode", .bool c.request.moduleMode)]

/-- Compilations that share a board. None has begun. -/
def together (b : Board) (cs : List Compilation) :
    Crowd Board (Course Board Unit Failure Compiled) where
  shared := b
  members := cs.map fun c => .ask b .pause fun b _ => c.transform b

end Compilation

end SourceLoader
