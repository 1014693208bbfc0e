import SourceLoader.Observe.Journal

/-!
# Scripts

A script is a step of a run whose course does not depend on anything outside of it: the
effects that it has, in order, and how it ends. A script may give way to other tasks; while it
does nothing can happen to it.
-/

namespace SourceLoader

/-- One effect of a script. -/
inductive Effect where
  | log (entry : Entry)
  | call (values : List Data)
  /-- Other tasks may run. -/
  | pause
  | enter (name : String) (attributes : List (String × Data))
  /-- The innermost open stage ends well. -/
  | leave
  /-- The innermost open stage ends with a failure. -/
  | fail (errorClass : ErrorClass) (message : String)
deriving Repr

/-- A script: its effects and its outcome. -/
structure Script (α : Type) where
  effects : List Effect
  outcome : Except Failure α

namespace Script

variable {α β : Type}

/-- The script without effects that ends with `a`. -/
def done (a : α) : Script α := ⟨[], .ok a⟩

/-- The script that only fails. -/
def failing (f : Failure) : Script α := ⟨[], .error f⟩

/-- The script of one effect. -/
def emit (e : Effect) : Script Unit := ⟨[e], .ok ()⟩

/-- Goes on after a script that has not failed. -/
def andThen (s : Script α) (next : α → Script β) : Script β :=
  match s.outcome with
  | .error f => ⟨s.effects, .error f⟩
  | .ok a => ⟨s.effects ++ (next a).effects, (next a).outcome⟩

instance : Monad Script where
  pure := done
  bind := andThen

/-- A step without effects. -/
def ofExcept (result : Except Failure α) : Script α := ⟨[], result⟩

/-- Has the effects of `onError` if the script fails. -/
def onFailure (s : Script α) (onError : Failure → List Effect) : Script α :=
  match s.outcome with
  | .error f => ⟨s.effects ++ onError f, .error f⟩
  | .ok a => ⟨s.effects, .ok a⟩

/-- Runs a script as a stage. -/
def stage (name : String) (attributes : List (String × Data)) (s : Script α) : Script α :=
  let opening := Effect.enter name attributes :: s.effects
  match s.outcome with
  | .ok a => ⟨opening ++ [.leave], .ok a⟩
  | .error f =>
    let result := match Stage.failureEntry name attributes f.message with
      | .ok _ => f
      | .error other => other
    ⟨opening ++ [.fail f.errorClass f.message], .error result⟩

/-- Writes the effects into a journal; `isOpen` are the numbers of the open stages, the
innermost one first. -/
def record : List Nat → List Effect → Journal → Journal
  | _, [], j => j
  | isOpen, e :: es, j =>
    match e, isOpen with
    | .log entry, _ => record isOpen es (j.log entry)
    | .call values, _ => record isOpen es (j.call values)
    | .enter name attributes, _ =>
      let (j, stage) := j.enter name attributes
      record (stage :: isOpen) es j
    | .leave, stage :: outer => record outer es (j.leave stage)
    | .fail c message, stage :: outer => record outer es (j.fail stage c message).1
    | _, _ => record isOpen es j

/-- What a script shows of itself. -/
def journal (s : Script α) : Journal := record [] s.effects {}

end Script

end SourceLoader
