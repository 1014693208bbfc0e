import SourceLoader.Fingerprint
import SourceLoader.Observe.Journal

/-!
# The cache

A store keeps texts under keys. A value that is costly to produce is kept as JSON text under
the fingerprint of the parts that it depends on: the store is asked first, and only if it holds
no text under the key the value is produced and kept. The producer may forbid keeping it.

`Cache.ask` and `Cache.keep` are the two steps around the production, each done at once;
`Cache.call` is a whole call whose producer does not touch the store.
-/

namespace SourceLoader

/-- The two uses of a store. -/
inductive StoreUse where
  | get
  | set
deriving DecidableEq, Repr

/-- A store, with counts of its uses. One use may be out of order. -/
structure Store where
  entries : List (String × String) := []
  gets : Nat := 0
  sets : Nat := 0
  failing : Option StoreUse := none
deriving Repr, Inhabited

namespace Store

/-- The text under a key. -/
def text? (s : Store) (key : String) : Option String :=
  (s.entries.find? (·.1 = key)).map Prod.snd

/-- Is there a text under a key? -/
def contains (s : Store) (key : String) : Bool := s.entries.any (·.1 = key)

/-- Entries with a text under a key. -/
def insert (key text : String) : List (String × String) → List (String × String)
  | [] => [(key, text)]
  | e :: es => if e.1 = key then (key, text) :: es else e :: insert key text es

/-- Asks for the text under a key. -/
def get (s : Store) (key : String) : Store × Except Failure (Option String) :=
  let counted := { s with gets := s.gets + 1 }
  if s.failing = some .get then (counted, .error (.host "ConnectionError" "store unavailable"))
  else (counted, .ok (s.text? key))

/-- Puts a text under a key. -/
def set (s : Store) (key text : String) : Store × Except Failure Unit :=
  let counted := { s with sets := s.sets + 1 }
  if s.failing = some .set then (counted, .error (.host "ConnectionError" "store read-only"))
  else ({ counted with entries := insert key text s.entries }, .ok ())

end Store

/-- What a producer has come to. -/
structure Production where
  /-- The value, or why there is none. -/
  value : Except Failure Data
  /-- The value must not be kept. -/
  prevented : Bool := false

namespace Cache

/-- A log entry about a key. -/
def entry (event key : String) : Entry := ⟨.debug, event, [("cache_key", .text key)]⟩

/-- A store after a step, the log entries of the step, and its result. -/
structure Outcome (α : Type) where
  store : Store
  log : List Entry
  result : Except Failure α

/-- Asks a store for a value. The result is `none` if the value has to be produced. An empty
text counts as none. -/
def ask (store : Store) (key : String) : Outcome (Option Data) :=
  match store.get key with
  | (store, .error f) => ⟨store, [], .error f⟩
  | (store, .ok text) =>
    if text.getD "" = "" then ⟨store, [entry "compile_cache_miss" key], .ok none⟩
    else
      let stored := text.getD ""
      let result := match Json.read stored with
        | .ok value => .ok (some value)
        | .error rejection => .error (.unreadable stored rejection)
      ⟨store, [entry "compile_cache_hit" key], result⟩

/-- Keeps a value that was produced, unless that is forbidden. -/
def keep (store : Store) (key : String) (value : Data) (prevented : Bool) : Outcome Unit :=
  if prevented then ⟨store, [entry "compile_cache_prevented" key], .ok ()⟩
  else
    match Json.write .spaced value with
    | .error obstacle => ⟨store, [], .error (.unwritable obstacle)⟩
    | .ok text =>
      let (store, result) := store.set key text
      ⟨store, [], result⟩

/-- Asks for the value that depends on `parts`, and produces it if need be. -/
def call (store : Store) (parts : List Data) (producer : Production) : Outcome Data :=
  match fingerprint parts with
  | .error f => ⟨store, [], .error f⟩
  | .ok key =>
    let asked := ask store key
    match asked.result with
    | .error f => ⟨asked.store, asked.log, .error f⟩
    | .ok (some value) => ⟨asked.store, asked.log, .ok value⟩
    | .ok none =>
      match producer.value with
      | .error f => ⟨asked.store, asked.log, .error f⟩
      | .ok value =>
        let kept := keep asked.store key value producer.prevented
        ⟨kept.store, asked.log ++ kept.log, kept.result.map fun _ => value⟩

/-- Does a call run its producer? -/
def produces (store : Store) (parts : List Data) : Bool :=
  match fingerprint parts with
  | .error _ => false
  | .ok key =>
    match (ask store key).result with
    | .ok none => true
    | _ => false

end Cache

end SourceLoader
