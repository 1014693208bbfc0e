import SourceLoader.Module.Create

/-!
# The loader over modules

What an attempt to load a path is made of: the source is looked up, a module is created of it,
and the journal shows the attempt as a stage. A stand-in with a table of answers takes the place
of the loader where only the steps around it are of interest.
-/

namespace SourceLoader

namespace ModuleLoader

/-- Counts a lookup of a path. -/
def countLookup (path : String) : List (String × Nat) → List (String × Nat)
  | [] => [(path, 1)]
  | e :: es => if e.1 = path then (path, e.2 + 1) :: es else e :: countLookup path es

/-- Looks up the source of a path. -/
def sourceOf (path : String) : Act ModuleSource := do
  Act.modify fun w => { w with lookups := countLookup path w.lookups }
  let w ← Act.world
  for _ in List.range w.sourcePauses do Act.pause
  let w ← Act.world
  Create.perform (w.sources.get path)

/-- The name of the stage of an attempt. -/
def stageName : String := "modloom.load"

/-- An attempt begins. -/
def begin (path : String) (w : World) : World :=
  let (journal, stage) := w.journal.enter stageName [("modloom.path", .text path)]
  { w with
    journal
    openLoads := { path, stage } :: w.openLoads }

/-- Notes how the source of an attempt is to be read. -/
def noteMode (path : String) (moduleMode : Bool) : Act Unit :=
  Act.modify fun w =>
    { w with openLoads := w.openLoads.map fun o =>
      if o.path = path then { o with moduleMode } else o }

/-- The course of an attempt. -/
def attempt (configs : ConfigId → LoadConfig) (E : Engine) (config : ConfigId) (path : String) :
    Act Value := do
  let source ← sourceOf path
  noteMode path source.moduleMode
  createModule (configs config) E config path source.text source.moduleMode

/-- The entry on a module that is loaded. -/
def entry (o : OpenLoad) : Entry :=
  ⟨.info, "module_loaded", [("path", .text o.path), ("module_mode", .bool o.moduleMode)]⟩

/-- An attempt has ended. -/
def conclude (path : String) (result : Except Thrown Value) (w : World) : World :=
  match w.openLoads.find? (·.path = path) with
  | none => w
  | some o =>
    let journal := match result with
      | .ok _ => (w.journal.leave o.stage).log (entry o)
      | .error e => (w.journal.fail o.stage (w.errorClass e) (w.message e)).1
    { w with
      journal
      openLoads := w.openLoads.filter (·.path ≠ path) }

/-- The loader over modules. -/
def host (configs : ConfigId → LoadConfig) (E : Engine) : Host World Value Thrown where
  failing := World.fail
  begin := begin
  attempt := attempt configs E
  conclude := conclude

/-- What a stand-in answers about a path. -/
inductive Answer where
  | value (exports : Data)
  | failure (f : Failure)
deriving Repr

/-- A stand-in with a table of answers. -/
def standIn (answers : List (String × Answer)) (keeps : Bool) : StandIn World Value Thrown where
  asked path w := { w with requested := w.requested ++ [path] }
  answer path w :=
    let failing (f : Failure) : World × Except Thrown Value :=
      let (w, e) := w.fail f
      (w, .error e)
    match answers.lookup path with
    | none => failing (.sourceNotFound path)
    | some (.failure f) => failing f
    | some (.value d) =>
      let (memory, v) := w.memory.ofData d
      ({ w with memory }, .ok v)
  keeps := keeps

end ModuleLoader

/-! ## Sessions -/

/-- A loader with its configurations, between calls of the host. -/
structure Session where
  configs : List LoadConfig
  machine : Machine World Value Thrown
  standIn : Option (StandIn World Value Thrown) := none

namespace Session

/-- How deep bodies may nest. -/
def depth : Nat := 12000

/-- Most steps that one call of the host may take. -/
def maxSteps : Nat := 10000000

/-- The configuration of a number. -/
def config (s : Session) (n : ConfigId) : LoadConfig := s.configs.getD n {}

/-- The evaluator of a session. -/
def engine (s : Session) : Engine := Engine.ofDepth (fun n => (s.config n).resolver) depth

/-- The surroundings of courses in a session. -/
def host (s : Session) (E : Engine) : Host World Value Thrown :=
  { ModuleLoader.host s.config E with standIn := s.standIn }

/-- Runs calls of the host at the same time until nothing is left to do. -/
def run (s : Session) (E : Engine) (calls : List (Act Value)) :
    Session × List (Except Thrown Value) :=
  let first := s.machine.threads.length
  let begun := calls.foldl (fun m call => m.spawn .hostCall none call) s.machine
  let ended := begun.run (s.host E) maxSteps
  let results := (List.range calls.length).filterMap fun n => ended.result? (first + n)
  ({ s with machine := ended }, results)

/-- Loads a path. -/
def load (config : ConfigId) (path : String) : Act Value := do
  let v ← Eval.ask (.load config path)
  pure (v.getD .none)

/-- Registers host data in advance. -/
def preload (s : Session) (config : ConfigId) (entries : List (String × Data)) : Session :=
  let add (m : Machine World Value Thrown) (e : String × Data) : Machine World Value Thrown :=
    let (memory, v) := m.world.memory.ofData e.2
    let world := { m.world with memory }
    match m.loading.register config e.1 v with
    | .ok loading => { m with
      world
      loading }
    | .error _ => { m with world }
  { s with machine := entries.foldl add s.machine }

/-- A session with configurations. -/
def start (configs : List LoadConfig) (world : World)
    (standIn : Option (StandIn World Value Thrown)) : Session where
  configs := configs
  machine := { world, loading := { registries := configs.map fun _ => {} } }
  standIn := standIn

/-- The part of an object that a name stands for: an entry of a mapping, or an attribute. -/
def part (v : Value) (name : String) : Eval Value := do
  let m ← Eval.memory
  match m.object? v with
  | some (.dict _) => Subscript.get v (.text name)
  | _ => Attribute.get v name

/-- Follows names from an object. -/
def follow (v : Value) : List String → Eval Value
  | [] => pure v
  | name :: names => do
    let inner ← part v name
    follow inner names

/-- Calls what names lead to from an object, and waits for the result if need be. -/
def callPart (E : Engine) (v : Value) (names : List String) (arguments : List Data) :
    Act Value := do
  let env : Env := { site := { file := "", globals := 0, builtins := 0 } }
  let args ← Eval.each Eval.addData arguments
  let f ← follow v names
  let result ← (E.call env f args []).asCall
  let m ← Eval.memory
  if Call.isAwaitable m result then E.awaited env result else pure result

/-- Calls what names lead to from the exports of a path. -/
def callExports (E : Engine) (config : ConfigId) (path : String) (names : List String)
    (arguments : List Data) : Act Value := do
  let v ← Eval.ask (.exports config path)
  callPart E (v.getD .none) names arguments

/-- The exports of a path. -/
def exports (config : ConfigId) (path : String) : Act Value := do
  let v ← Eval.ask (.exports config path)
  pure (v.getD .none)

end Session

end SourceLoader
