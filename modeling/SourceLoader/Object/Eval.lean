import SourceLoader.Load.Course
import SourceLoader.Object.Shown

/-!
# Steps of code

What code does to memory. `Eval` is a step that changes memory, may ask the loader for something
and may fail with an error object. Code has no hand in anything but memory: the rest of the world
is out of its reach.

An error carries the places in modules that it has come through. Each function adds one place,
that of the innermost expression that failed; `isPlaced` tells whether the function in hand has
added its place.
-/

namespace SourceLoader

/-- An error on its way. -/
structure Thrown where
  /-- The address of the error object. -/
  problem : Nat
  /-- Places in files, the outermost first. -/
  trace : List (String × Nat) := []
  isPlaced : Bool := false
deriving DecidableEq, Repr, Inhabited

/-- The error object of a failure. -/
def Problem.ofFailure (f : Failure) (causeAddress : Option Value) : Problem where
  kind := .errorClass f.errorClass
  arguments :=
    match f with
    | .raised _ arguments => arguments.map fun d => match d with
      | .int n => .int n
      | .none => .none
      | d => .text d.plain
    | f => [.text f.message]
  failure := some f
  cause := causeAddress

/-- Makes an error of a failure. -/
def Memory.fail (f : Failure) (m : Memory) : Memory × Thrown :=
  let (m, cause) : Memory × Option Value := match f.cause? with
    | some c =>
      let (m, address) := m.add (.problem { kind := .errorClass c })
      (m, some (.ref address))
    | none => (m, none)
  let (m, address) := m.add (.problem (.ofFailure f cause))
  (m, { problem := address })

/-- A step of code. -/
def Eval (α : Type) : Type := Memory → Course Memory Value Thrown α

namespace Eval

variable {α β : Type}

/-- The step that does nothing. -/
def ofValue (a : α) : Eval α := fun m => .done m (.ok a)

/-- One step after the other. -/
def andThen (x : Eval α) (f : α → Eval β) : Eval β := fun m => (x m).bind f

instance : Monad Eval where
  pure := ofValue
  bind := andThen

instance : Inhabited (Eval α) := ⟨fun m => .done m (.error default)⟩

/-- The memory as it is. -/
def memory : Eval Memory := fun m => .done m (.ok m)

/-- Changes the memory. -/
def modifyMemory (f : Memory → Memory) : Eval Unit := fun m => .done (f m) (.ok ())

/-- Adds an object. -/
def add (o : Object) : Eval Value := fun m =>
  let (m, address) := m.add o
  .done m (.ok (.ref address))

/-- Brings host data into memory. -/
def addData (d : Data) : Eval Value := fun m =>
  let (m, v) := m.ofData d
  .done m (.ok v)

/-- Replaces an object. -/
def put (address : Nat) (o : Object) : Eval Unit := modifyMemory (·.put address o)

/-- Fails with an error that is on its way already. -/
def throw (e : Thrown) : Eval α := fun m => .done m (.error e)

/-- Fails with an error object. Its trace so far goes on. -/
def raise (address : Nat) : Eval α := fun m =>
  let trace := ((m.problem? (.ref address)).map Problem.trace).getD []
  .done m (.error { problem := address, trace })

/-- Fails with a new error object. -/
def raiseNew (p : Problem) : Eval α := fun m =>
  let (m, address) := m.add (.problem p)
  .done m (.error { problem := address })

/-- Fails with an error of a class with some arguments. -/
def raiseWith (className : String) (arguments : List Value) : Eval α :=
  raiseNew { kind := .errorClass ⟨className⟩, arguments }

/-- Fails with an error of a class and a message. -/
def error (className message : String) : Eval α := raiseWith className [.text message]

/-- Fails with a type error. -/
def typeError (message : String) : Eval α := error "TypeError" message

/-- Fails with a failure. -/
def fail (f : Failure) : Eval α := fun m =>
  let (m, e) := m.fail f
  .done m (.error e)

/-- A result that may be a failure. -/
def ofExcept : Except Failure α → Eval α
  | .ok a => pure a
  | .error f => fail f

/-- Goes on from the result of a step, good or bad. -/
def afterwards (x : Eval α) (f : Except Thrown α → Eval β) : Eval β := fun m =>
  (x m).andThen fun m r => f r m

/-- Changes an error on its way. -/
def mapThrown (f : Thrown → Thrown) (x : Eval α) : Eval α :=
  x.afterwards fun r =>
    match r with
    | .ok a => pure a
    | .error e => throw (f e)

/-- Adds the place of a failing step, unless that has been done in this function. -/
def placed (file : String) (line : Nat) (x : Eval α) : Eval α :=
  x.mapThrown fun e =>
    if e.isPlaced then e else { e with trace := (file, line) :: e.trace, isPlaced := true }

/-- The step as one function that another one has called. -/
def asCall (x : Eval α) : Eval α := x.mapThrown fun e => { e with isPlaced := false }

/-- Asks the loader. -/
def ask (request : Request) : Eval (Option Value) := fun m => .once m request

/-- Steps one after the other, with their results. -/
def each (f : α → Eval β) : List α → Eval (List β)
  | [] => pure []
  | x :: xs => do
    let y ← f x
    let ys ← each f xs
    pure (y :: ys)

end Eval

end SourceLoader
