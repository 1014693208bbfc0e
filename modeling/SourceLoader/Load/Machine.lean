import SourceLoader.Load.Course
import SourceLoader.Load.Wait

/-!
# Loading

Modules are loaded by threads that take turns. A thread runs its course until it has to wait;
whatever is ready to go on stands in a queue, and one step of the machine takes one entry of the
queue and carries it out. `Machine.step` may take any entry, so that one can speak about all
orders; `Machine.run` takes the first one.

How a module is asked for:

* exports that are registered are handed out at once;
* a path that is being loaded is not loaded again: the thread waits for the attempt that is
  under way and gets what comes of it;
* a wait that would close a ring is refused;
* otherwise an attempt begins, in a thread of its own.

An attempt that ends well registers the exports. However it ends, nothing is noted any more about
what the path waits for, and a failed attempt leaves nothing behind.

What a module is made of is not said here: `Host` tells how an attempt runs and how failures
become errors of the world that courses work on.
-/

namespace SourceLoader

/-- A stand-in for loading: it takes note of the path, lets others run, and then has an answer. For
loads that are asked for together it may do more than that. -/
structure StandIn (σ ν ε : Type) where
  /-- A path is asked for. -/
  asked : String → σ → σ
  /-- How often others may run once more before the answer. -/
  pauses : Nat := 0
  /-- The exports, or why there are none. -/
  answer : String → σ → σ × Except ε ν
  /-- The exports are registered. -/
  keeps : Bool := true
  /-- The course of each load of several, if it does not just wait for the answer. -/
  member : Option (ConfigId → String → σ → Course σ ν ε ν) := none

/-- The surroundings of the loader. -/
structure Host (σ ν ε : Type) where
  /-- Makes an error of a failure. -/
  failing : Failure → σ → σ × ε
  /-- An attempt to load a path begins. -/
  begin : String → σ → σ
  /-- The course of an attempt, up to the exports. -/
  attempt : ConfigId → String → σ → Course σ ν ε ν
  /-- An attempt has ended. -/
  conclude : String → Except ε ν → σ → σ
  /-- What answers in place of the loader, if there is such a thing. -/
  standIn : Option (StandIn σ ν ε) := none

/-- What a thread is there for. -/
inductive Role where
  /-- An attempt to load a path. -/
  | attempt (config : ConfigId) (path : String)
  /-- One load of a group of loads that were asked for together. -/
  | member (group : Nat)
  /-- A call of the host. -/
  | hostCall
deriving DecidableEq, Repr

/-- The attempt in whose name a load is asked for. -/
structure Client where
  path : String
  /-- The thread of the attempt. -/
  thread : Nat
deriving DecidableEq, Repr

/-- A call of the loader. -/
structure LoadCall where
  config : ConfigId
  path : String
  client : Option Client
deriving DecidableEq, Repr

/-- What a thread waits for. -/
inductive Wait where
  /-- Its next turn. -/
  | turn
  /-- The attempt that runs in a thread, which will answer a call. -/
  | attempt (thread : Nat) (call : LoadCall)
  | group (group : Nat)
deriving DecidableEq, Repr

/-- How far a thread has come. -/
inductive ThreadState (σ ν ε : Type) where
  | fresh (start : σ → Course σ ν ε ν)
  | waiting (wait : Wait) (next : σ → Response ν ε → Course σ ν ε ν)
  /-- A stand-in has been asked for a path and lets others run a few more times. -/
  | asking (left : Nat) (config : ConfigId) (path : String)
    (next : σ → Response ν ε → Course σ ν ε ν)
  | ended (result : Except ε ν)

/-- A thread. -/
structure Thread (σ ν ε : Type) where
  role : Role
  /-- The path of the attempt in whose name the thread runs. -/
  requester : Option String := none
  state : ThreadState σ ν ε
  /-- The threads that wait for the result, the earliest first, each with its call. -/
  waiters : List (Nat × LoadCall) := []

/-- Loads that were asked for together. The thread that asked for them goes on when the last one
has ended well or the first one has failed. -/
structure Group where
  asker : Nat
  config : ConfigId
  paths : List String
  /-- The threads of the loads that have not been counted as ended. -/
  left : List Nat
  /-- The thread that asked for them goes on already. -/
  isSettled : Bool := false
deriving Repr

/-- An entry of the queue. A response is for one wait only; a thread that does not wait for it
any more is not concerned. -/
inductive Handle (ν ε : Type) where
  | begin (thread : Nat)
  | resume (thread : Nat) (wait : Wait) (response : Response ν ε)
  /-- An attempt has ended for a thread that waits for it. -/
  | settle (thread : Nat) (wait : Wait) (response : Response ν ε)
  /-- A member of a group has ended. -/
  | count (group : Nat) (thread : Nat) (response : Response ν ε)

/-- The state of the loader. -/
structure Loading (ν : Type) where
  /-- The registries of the configurations. -/
  registries : List (Registry ν) := []
  /-- The paths that are being loaded, each with the thread of the attempt. -/
  inFlight : List (String × Nat) := []
  waits : Waits := []

namespace Loading

variable {ν : Type}

/-- The registry of a configuration. -/
def registry (l : Loading ν) (config : ConfigId) : Registry ν := l.registries.getD config {}

/-- Replaces the registry of a configuration. -/
def withRegistry (l : Loading ν) (config : ConfigId) (r : Registry ν) : Loading ν :=
  let missing : List (Registry ν) := List.replicate (config + 1 - l.registries.length) {}
  { l with registries := (l.registries ++ missing).set config r }

/-- Is a path being loaded? -/
def isLoading (l : Loading ν) (path : String) : Bool := (l.inFlight.lookup path).isSome

/-- The attempt in whose name a load is asked for; one that has ended does not count. -/
def client? (l : Loading ν) (requester : Option String) : Option Client :=
  requester.bind fun path => (l.inFlight.lookup path).map fun thread => ⟨path, thread⟩

/-- Is nothing being loaded? -/
def isIdle (l : Loading ν) : Bool := l.inFlight.isEmpty && l.waits.isEmpty

/-- What a load comes to. -/
inductive Decision (ν : Type) where
  | registered (exports : ν)
  | circular (cycle : List String)
  /-- The attempt in a thread is under way. -/
  | join (thread : Nat)
  | start

/-- Decides about a load. -/
def decide (l : Loading ν) (call : LoadCall) : Decision ν :=
  match (l.registry call.config).record? call.path with
  | some record => .registered record.exports
  | none =>
    match call.client.bind fun client => l.waits.cycle? l.isLoading call.path client.path with
    | some cycle => .circular cycle
    | none =>
      match l.inFlight.lookup call.path with
      | some thread => .join thread
      | none => .start

/-- Notes that a call is waited for. -/
def await (l : Loading ν) (call : LoadCall) : Loading ν :=
  match call.client with
  | some client => { l with waits := l.waits.add client.path call.path }
  | none => l

/-- Notes that an attempt at `path` begins in a thread. -/
def start (l : Loading ν) (path : String) (thread : Nat) : Loading ν :=
  { l with inFlight := l.inFlight ++ [(path, thread)] }

/-- Forgets the attempt at a path. -/
def finish (l : Loading ν) (path : String) : Loading ν :=
  { l with inFlight := l.inFlight.filter (·.1 ≠ path), waits := l.waits.drop path }

/-- Registers exports. -/
def register (l : Loading ν) (config : ConfigId) (path : String) (exports : ν) :
    Except Failure (Loading ν) :=
  match (l.registry config).register path exports with
  | .ok registry => .ok (l.withRegistry config registry)
  | .error f => .error f

end Loading

/-! ## Following a course -/

/-- Where a course comes to a halt. -/
inductive Halt (σ ν ε : Type) where
  /-- It lets others run. -/
  | pause (world : σ) (next : σ → Response ν ε → Course σ ν ε ν)
  /-- It waits for the attempt that is under way in a thread. -/
  | join (world : σ) (call : LoadCall) (attempt : Nat)
    (next : σ → Response ν ε → Course σ ν ε ν)
  /-- It waits for an attempt that has yet to begin. -/
  | start (world : σ) (call : LoadCall) (next : σ → Response ν ε → Course σ ν ε ν)
  /-- It waits for a stand-in. -/
  | standIn (world : σ) (left : Nat) (config : ConfigId) (path : String)
    (next : σ → Response ν ε → Course σ ν ε ν)
  /-- It waits for a group of loads. -/
  | group (world : σ) (config : ConfigId) (paths : List String)
    (next : σ → Response ν ε → Course σ ν ε ν)
  /-- It has ended. -/
  | done (world : σ) (result : Except ε ν)

namespace Host

variable {σ ν ε : Type}

/-- Follows a course that runs in the name of an attempt, up to its next halt. -/
def follow (h : Host σ ν ε) (l : Loading ν) (requester : Option String) :
    Course σ ν ε ν → Halt σ ν ε
  | .done world result => .done world result
  | .ask world request next =>
    match request with
    | .pause => .pause world next
    | .exports config path =>
      match (l.registry config).exports path with
      | .ok v => follow h l requester (next world (.ok (some v)))
      | .error f =>
        let (world, e) := h.failing f world
        follow h l requester (next world (.error e))
    | .load config path =>
      match h.standIn with
      | some s => .standIn (s.asked path world) s.pauses config path next
      | none =>
        let call : LoadCall := { config, path, client := l.client? requester }
        match l.decide call with
        | .registered v => follow h l requester (next world (.ok (some v)))
        | .circular cycle =>
          let (world, e) := h.failing (.circular cycle) world
          follow h l requester (next world (.error e))
        | .join attempt => .join world call attempt next
        | .start => .start world call next
    | .loadAll config paths =>
      if paths.isEmpty then follow h l requester (next world (.ok none))
      else .group world config paths next

/-- The course of an attempt. -/
def attemptCourse (h : Host σ ν ε) (config : ConfigId) (path : String) (world : σ) :
    Course σ ν ε ν :=
  h.attempt config path (h.begin path world)

/-- How one load that was asked for by itself goes on from the response. -/
def loaded (h : Host σ ν ε) (path : String) (world : σ) : Response ν ε → Course σ ν ε ν
  | .ok (some v) => .done world (.ok v)
  | .ok none =>
    let (world, e) := h.failing (.notLoaded path) world
    .done world (.error e)
  | .error e => .done world (.error e)

/-- The course of one load that was asked for by itself. -/
def loadCourse (h : Host σ ν ε) (config : ConfigId) (path : String) (world : σ) :
    Course σ ν ε ν :=
  .ask world (.load config path) (h.loaded path)

/-- The course of one load that was asked for together with others. -/
def memberCourse (h : Host σ ν ε) (config : ConfigId) (path : String) : σ → Course σ ν ε ν :=
  match h.standIn.bind StandIn.member with
  | some course => course config path
  | none => h.loadCourse config path

/-- What an attempt comes to: good exports are registered. -/
def conclusion (h : Host σ ν ε) (l : Loading ν) (config : ConfigId) (path : String) (world : σ) :
    Except ε ν → Loading ν × σ × Except ε ν
  | .error e => (l, world, .error e)
  | .ok v =>
    match l.register config path v with
    | .ok l => (l, world, .ok v)
    | .error f =>
      let (world, e) := h.failing f world
      (l, world, .error e)

end Host

/-! ## The machine -/

/-- The loader at work. -/
structure Machine (σ ν ε : Type) where
  world : σ
  loading : Loading ν := {}
  threads : List (Thread σ ν ε) := []
  groups : List Group := []
  /-- What is ready to go on, the earliest first. -/
  queue : List (Handle ν ε) := []

namespace Machine

variable {σ ν ε : Type}

/-- Appends to the queue. -/
def push (m : Machine σ ν ε) (handles : List (Handle ν ε)) : Machine σ ν ε :=
  { m with queue := m.queue ++ handles }

/-- Changes a thread. -/
def onThread (m : Machine σ ν ε) (thread : Nat) (f : Thread σ ν ε → Thread σ ν ε) :
    Machine σ ν ε :=
  { m with threads := m.threads.modify thread f }

/-- Brings a thread to another state. -/
def setState (m : Machine σ ν ε) (thread : Nat) (state : ThreadState σ ν ε) : Machine σ ν ε :=
  m.onThread thread fun t => { t with state }

/-- Adds threads that are ready to begin. They are numbered on from the threads so far. -/
def spawnAll (m : Machine σ ν ε) (threads : List (Thread σ ν ε)) : Machine σ ν ε :=
  { m with
    threads := m.threads ++ threads
    queue := m.queue ++ (List.range threads.length).map fun n => .begin (m.threads.length + n) }

/-- Adds a thread that is ready to begin. -/
def spawn (m : Machine σ ν ε) (role : Role) (requester : Option String)
    (start : σ → Course σ ν ε ν) : Machine σ ν ε :=
  m.spawnAll [{ role, requester, state := .fresh start }]

/-- A thread waits for the attempt that runs in another one. -/
def join (m : Machine σ ν ε) (thread : Nat) (call : LoadCall) (attempt : Nat)
    (next : σ → Response ν ε → Course σ ν ε ν) : Machine σ ν ε :=
  let m := { m with loading := m.loading.await call }
  let m := m.onThread attempt fun t => { t with waiters := t.waiters ++ [(thread, call)] }
  m.setState thread (.waiting (.attempt attempt call) next)

/-- Begins an attempt at a path. -/
def startAttempt (h : Host σ ν ε) (m : Machine σ ν ε) (config : ConfigId) (path : String) :
    Machine σ ν ε :=
  let begun := m.spawn (.attempt config path) (some path) (h.attemptCourse config path)
  { begun with loading := m.loading.start path m.threads.length }

/-- Asks for several loads. -/
def spawnGroup (h : Host σ ν ε) (m : Machine σ ν ε) (thread : Nat) (requester : Option String)
    (config : ConfigId) (paths : List String) : Machine σ ν ε :=
  let left := (List.range paths.length).map (m.threads.length + ·)
  let members : List (Thread σ ν ε) := paths.map fun path =>
    { role := .member m.groups.length
      requester
      state := .fresh (h.memberCourse config path) }
  let g : Group := { asker := thread, config, paths, left }
  ({ m with groups := m.groups ++ [g] } : Machine σ ν ε).spawnAll members

/-- A thread has ended: those who wait for it are told. -/
def finish (m : Machine σ ν ε) (thread : Nat) (role : Role) (result : Except ε ν) :
    Machine σ ν ε :=
  let response : Response ν ε := result.map some
  let waiters := (m.threads[thread]?.map Thread.waiters).getD []
  let m := m.onThread thread fun t => { t with state := .ended result, waiters := [] }
  match role with
  | .attempt _ _ => m.push (waiters.map fun w => .settle w.1 (.attempt thread w.2) response)
  | .member group => m.push [.count group thread response]
  | .hostCall => m

/-- The course of a thread has ended. An attempt is forgotten with that. -/
def endCourse (h : Host σ ν ε) (m : Machine σ ν ε) (thread : Nat) (role : Role)
    (result : Except ε ν) : Machine σ ν ε :=
  match role with
  | .attempt config path =>
    let (loading, world, result) := h.conclusion m.loading config path m.world result
    let m := { m with
      world := h.conclude path result world
      loading := loading.finish path }
    m.finish thread role result
  | role => m.finish thread role result

/-- A thread comes to a halt. -/
def halt (h : Host σ ν ε) (m : Machine σ ν ε) (thread : Nat) (role : Role)
    (requester : Option String) : Halt σ ν ε → Machine σ ν ε
  | .pause world next =>
    (({ m with world } : Machine σ ν ε).setState thread (.waiting .turn next)).push
      [.resume thread .turn (.ok none)]
  | .join world call attempt next =>
    ({ m with world } : Machine σ ν ε).join thread call attempt next
  | .start world call next =>
    (startAttempt h { m with world } call.config call.path).join thread call m.threads.length
      next
  | .standIn world left config path next =>
    (({ m with world } : Machine σ ν ε).setState thread (.asking left config path next)).push
      [.resume thread .turn (.ok none)]
  | .group world config paths next =>
    (spawnGroup h { m with world } thread requester config paths).setState thread
      (.waiting (.group m.groups.length) next)
  | .done world result => endCourse h { m with world } thread role result

/-- Runs a thread along a course. -/
def advance (h : Host σ ν ε) (m : Machine σ ν ε) (thread : Nat) (t : Thread σ ν ε)
    (course : Course σ ν ε ν) : Machine σ ν ε :=
  halt h m thread t.role t.requester (h.follow m.loading t.requester course)

/-- The answer of a stand-in about a path. Registered exports come first. -/
def answer (s : StandIn σ ν ε) (m : Machine σ ν ε) (config : ConfigId) (path : String) :
    Machine σ ν ε × Response ν ε :=
  match s.answer path m.world with
  | (world, .error e) => ({ m with world }, .error e)
  | (world, .ok v) =>
    match (m.loading.registry config).record? path with
    | some record => ({ m with world }, .ok (some record.exports))
    | none =>
      match s.keeps, m.loading.register config path v with
      | true, .ok loading => ({ m with
        world
        loading }, .ok (some v))
      | _, _ => ({ m with world }, .ok (some v))

/-- Lets a thread begin. -/
def begin (h : Host σ ν ε) (m : Machine σ ν ε) (thread : Nat) : Machine σ ν ε :=
  match m.threads[thread]? with
  | none => m
  | some t =>
    match t.state with
    | .fresh start => advance h m thread t (start m.world)
    | _ => m

/-- Lets a thread go on from the response to a wait. -/
def resume (h : Host σ ν ε) (m : Machine σ ν ε) (thread : Nat) (wait : Wait)
    (response : Response ν ε) : Machine σ ν ε :=
  match m.threads[thread]? with
  | none => m
  | some t =>
    match t.state with
    | .waiting wait' next =>
      if wait = wait' then advance h m thread t (next m.world response) else m
    | .asking left config path next =>
      match h.standIn, left with
      | none, _ => m
      | some _, left + 1 =>
        (m.setState thread (.asking left config path next)).push [.resume thread .turn (.ok none)]
      | some s, 0 =>
        let (m, response) := answer s m config path
        advance h m thread t (next m.world response)
    | _ => m

/-- A member of a group has ended: the thread that asked for the group may be able to go on. -/
def settleGroup (m : Machine σ ν ε) (group thread : Nat) (result : Response ν ε) :
    Machine σ ν ε :=
  match m.groups[group]? with
  | none => m
  | some g =>
    let left := g.left.filter (· ≠ thread)
    let response? : Option (Response ν ε) :=
      if g.isSettled then none
      else match result with
        | .error e => some (.error e)
        | .ok _ => if left.isEmpty then some (.ok none) else none
    let g' := { g with left, isSettled := g.isSettled || response?.isSome }
    let m := { m with groups := m.groups.set group g' }
    match response? with
    | some response => m.push [.resume g.asker (.group group) response]
    | none => m

/-- Carries out an entry of the queue. -/
def perform (h : Host σ ν ε) (m : Machine σ ν ε) : Handle ν ε → Machine σ ν ε
  | .begin thread => begin h m thread
  | .resume thread wait response => resume h m thread wait response
  | .settle thread wait response => m.push [.resume thread wait response]
  | .count group thread result => settleGroup m group thread result

/-- One step: the entry at place `n` of the queue is taken out and carried out. -/
def step (h : Host σ ν ε) (m : Machine σ ν ε) (n : Nat) : Option (Machine σ ν ε) :=
  (m.queue[n]?).map fun handle => perform h { m with queue := m.queue.eraseIdx n } handle

/-- Takes the first entry of the queue as long as there is one, at most `limit` times. -/
def run (h : Host σ ν ε) : Nat → Machine σ ν ε → Machine σ ν ε
  | 0, m => m
  | limit + 1, m =>
    match m.step h 0 with
    | some m => run h limit m
    | none => m

/-- How a thread has ended. -/
def result? (m : Machine σ ν ε) (thread : Nat) : Option (Except ε ν) :=
  m.threads[thread]?.bind fun t =>
    match t.state with
    | .ended result => some result
    | _ => none

end Machine

end SourceLoader
