import SourceLoader.Model.Artifact
import SourceLoader.Module.Instantiate

/-!
# Creating a module

One source becomes a module in three steps: it is compiled, or what was kept of an earlier
compilation is taken from the store; all modules that it declares as dependencies are loaded at
the same time; and its body runs. The body does not begin before all dependencies are loaded.

A compilation with remarks is not kept, so the remarks are made again the next time.
-/

namespace SourceLoader

namespace Create

/-- Writes the effects of a script into the world; `isOpen` are the open stages, the innermost
first. -/
def play : List Nat → List Effect → Act Unit
  | _, [] => pure ()
  | isOpen, .pause :: rest => do
    Act.pause
    play isOpen rest
  | isOpen, .enter name attributes :: rest => do
    let w ← Act.world
    let (journal, stage) := w.journal.enter name attributes
    Act.modify fun w => { w with journal }
    play (stage :: isOpen) rest
  | stage :: outer, .leave :: rest => do
    Act.modify fun w => { w with journal := w.journal.leave stage }
    play outer rest
  | stage :: outer, .fail c message :: rest => do
    Act.modify fun w => { w with journal := (w.journal.fail stage c message).1 }
    play outer rest
  | isOpen, e :: rest => do
    Act.modify fun w => { w with journal := Script.record [] [e] w.journal }
    play isOpen rest

/-- Runs a script. -/
def perform {α : Type} (s : Script α) : Act α := do
  play [] s.effects
  Act.ofExcept s.outcome

/-- Compiles a source. The result is what may be kept, and whether it must not be. -/
def produce (c : LoadConfig) (file source : String) (moduleMode : Bool) : Act (Data × Bool) := do
  let compiled ← perform (compile (c.request file source moduleMode))
  pure (compiled.toArtifact.toData, !compiled.warnings.isEmpty)

/-- The store of a name. -/
def storeOf (name : String) : Act Store := do
  let w ← Act.world
  pure ((w.stores.lookup name).getD {})

/-- Replaces a store and logs entries about it. -/
def putStore (name : String) (store : Store) (log : List Entry) : Act Unit :=
  Act.modify fun w =>
    { w with
      stores := (name, store) :: w.stores.filter (·.1 ≠ name)
      journal := log.foldl Journal.log w.journal }

/-- The compiled source: from a store if it is there, and compiled otherwise. -/
def stored (c : LoadConfig) (storeName file source : String) (moduleMode : Bool) : Act Data := do
  let key ← Act.ofExcept (fingerprint [.text c.version, .text source, .text file])
  let store ← storeOf storeName
  let asked := Cache.ask store key
  putStore storeName asked.store asked.log
  match ← Act.ofExcept asked.result with
  | some d => pure d
  | none => do
    let (d, prevented) ← produce c file source moduleMode
    let store ← storeOf storeName
    let kept := Cache.keep store key d prevented
    putStore storeName kept.store kept.log
    Act.ofExcept kept.result
    pure d

/-- The compiled source under a configuration. -/
def artifact (c : LoadConfig) (file source : String) (moduleMode : Bool) : Act Artifact := do
  let d ← match c.store with
    | some name => stored c name file source moduleMode
    | none => do
      let (d, _) ← produce c file source moduleMode
      pure d
  Act.ofExcept (Artifact.ofData d)

/-- Notes that a body begins. -/
def note (b : Begun) : Act Unit := Act.modify fun w => { w with begun := b :: w.begun }

/-- The entry on a module whose body has run. -/
def entry (file : String) (dependencies : Nat) : Entry :=
  ⟨.debug, "module_instantiated", [("filename", .text file), ("dependencies", .int dependencies)]⟩

end Create

/-- Loads all modules that specifiers in a file stand for, at the same time. Nothing is loaded if
one of the specifiers cannot be resolved. -/
def loadDependencies (resolver : Resolver) (config : ConfigId) (file : String)
    (specifiers : List String) : Eval Unit := do
  let paths ← Eval.each (fun s => Eval.ofExcept (resolver.apply file s)) specifiers
  let _ ← (Eval.ask (.loadAll config paths)).asCall

/-- Makes a module of a source. The result are its exports. -/
def createModule (c : LoadConfig) (E : Engine) (config : ConfigId) (file source : String)
    (moduleMode : Bool) : Act Value := do
  let artifact ← Create.artifact c file source moduleMode
  loadDependencies c.resolver config file artifact.dependencies
  Create.note ⟨config, file, artifact.dependencies⟩
  let exports ← instantiate E config file artifact.text artifact.lineMap
  Act.log (Create.entry file artifact.dependencies.length)
  pure exports

end SourceLoader
