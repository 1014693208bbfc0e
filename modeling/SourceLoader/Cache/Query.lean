import SourceLoader.Cache
import SourceLoader.Crowd

/-!
# Calls for values

A call for a value goes through up to three steps: the store is asked, the producer runs, and the
value is kept. Each step is done at once, and between two steps of a call others may take theirs.
`Query.step` is one step; `Query.call` is a call that nobody comes between, and `Cache.together` are
calls whose steps come in any order.

A producer is handed a control, with which it can forbid, any number of times, that its value is
kept.
-/

namespace SourceLoader.Cache

/-- What a producer is handed. -/
structure Control where
  prevented : Bool := false
deriving DecidableEq, Repr

/-- Forbids that the value is kept. -/
def Control.prevent (c : Control) : Control := { c with prevented := true }

/-- A producer: how often it forbids that its value is kept, and what it comes to. -/
structure Producer where
  prevents : Nat := 0
  value : Except Failure Data

/-- Runs a producer with a control of its own. -/
def Producer.run (p : Producer) : Production where
  value := p.value
  prevented := (Nat.repeat Control.prevent p.prevents {}).prevented

/-- A call for a value: the parts that the value depends on, and its producer. -/
structure Query where
  parts : List Data
  producer : Producer

/-- Where a call stands. -/
inductive Phase where
  | begun
  /-- The store had nothing under the key. -/
  | producing (key : String)
  | produced (key : String) (value : Data) (prevented : Bool)
  | ended (result : Except Failure Data)

/-- Where a call stands that has asked under a key. -/
def Phase.ofAnswer (key : String) : Except Failure (Option Data) → Phase
  | .error f => ended (.error f)
  | .ok (some value) => ended (.ok value)
  | .ok none => producing key

/-- Where a call stands whose producer has run. -/
def Phase.ofProduction (key : String) (made : Production) : Phase :=
  match made.value with
  | .error f => ended (.error f)
  | .ok value => produced key value made.prevented

namespace Query

/-- The next step of a call: what becomes of the store, and where the call then stands. -/
def step (q : Query) (store : Store) : Phase → Store × Phase
  | .begun =>
    match fingerprint q.parts with
    | .error f => (store, .ended (.error f))
    | .ok key =>
      let asked := ask store key
      (asked.store, .ofAnswer key asked.result)
  | .producing key => (store, .ofProduction key q.producer.run)
  | .produced key value prevented =>
    let kept := keep store key value prevented
    (kept.store, .ended (kept.result.map fun _ => value))
  | .ended result => (store, .ended result)

/-- A whole call. -/
def call (q : Query) (store : Store) : Outcome Data := Cache.call store q.parts q.producer.run

/-- Does a call run its producer? -/
def runsProducer (q : Query) (store : Store) : Bool := produces store q.parts

end Query

/-- A step of a call that is one of several. -/
def Query.turn (store : Store) (member : Query × Phase) : Store × Query × Phase :=
  let (store, phase) := member.1.step store member.2
  (store, member.1, phase)

/-- Calls that share a store. None has begun, and the store is empty. -/
def together (qs : List Query) : Crowd Store (Query × Phase) where
  shared := {}
  members := qs.map fun q => (q, .begun)

/-- The store after calls one after the other. -/
def callAll (store : Store) (qs : List Query) : Store :=
  qs.foldl (fun store q => (q.call store).store) store

end SourceLoader.Cache
