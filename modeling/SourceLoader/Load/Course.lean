import SourceLoader.Registry

/-!
# Courses

A course is something that runs: the body of a module, an attempt to load a module, a call of a
host. It works on a world of its own, and it ends with a result or asks its surroundings for one
of a few things and goes on from the response. All that a course can do to the state of the loader
is in `Request`; the world it works on is a parameter, so nothing that is proved about loading
depends on what bodies are made of.
-/

namespace SourceLoader

/-- The number of a configuration. -/
abbrev ConfigId := Nat

/-- What a course asks its surroundings for. -/
inductive Request where
  /-- Other courses may run. -/
  | pause
  /-- The exports of a module that is loaded already. -/
  | exports (config : ConfigId) (path : String)
  /-- The exports of a module, which is loaded if need be. -/
  | load (config : ConfigId) (path : String)
  /-- Several modules shall be loaded at the same time. -/
  | loadAll (config : ConfigId) (paths : List String)
deriving DecidableEq, Repr

/-- What comes back: exports if some were asked for, or an error. -/
abbrev Response (ν ε : Type) := Except ε (Option ν)

/-- A course over a world `σ` with exports `ν`, errors `ε` and a result `α`. -/
inductive Course (σ ν ε α : Type) where
  | done (world : σ) (result : Except ε α)
  | ask (world : σ) (request : Request) (next : σ → Response ν ε → Course σ ν ε α)

namespace Course

variable {σ ν ε α β : Type}

/-- Goes on from the result of a course, whatever it is. -/
def andThen (f : σ → Except ε α → Course σ ν ε β) : Course σ ν ε α → Course σ ν ε β
  | done w r => f w r
  | ask w request next => ask w request fun w response => andThen f (next w response)

/-- Goes on from the result of a course that ends well. -/
def bind (c : Course σ ν ε α) (f : α → σ → Course σ ν ε β) : Course σ ν ε β :=
  c.andThen fun w r =>
    match r with
    | .ok a => f a w
    | .error e => done w (.error e)

/-- A course over a part of a larger world. -/
def within {τ : Type} (get : τ → σ) (put : τ → σ → τ) : Course σ ν ε α → τ → Course τ ν ε α
  | done s r, w => .done (put w s) r
  | ask s request next, w =>
    .ask (put w s) request fun w response => within get put (next (get w) response) w

/-- The course that asks for one thing and ends with the response. -/
def once (world : σ) (request : Request) : Course σ ν ε (Option ν) :=
  ask world request fun w response => done w response

end Course

end SourceLoader
