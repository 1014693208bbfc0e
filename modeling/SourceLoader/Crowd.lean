/-!
# Crowds

Several that share a state and take turns: whoever has its turn takes one step, which changes the
shared state and where it stands itself. A schedule says whose turn it is, one after the other; a
turn of nobody changes nothing.
-/

namespace SourceLoader

/-- What is shared, and where each member of the crowd stands. -/
structure Crowd (σ π : Type) where
  shared : σ
  members : List π

namespace Crowd

variable {σ π : Type}

/-- A turn of the `n`-th member. -/
def turn (step : σ → π → σ × π) (c : Crowd σ π) (n : Nat) : Crowd σ π :=
  match c.members[n]? with
  | none => c
  | some p =>
    let (shared, p) := step c.shared p
    ⟨shared, c.members.set n p⟩

/-- All turns of a schedule. -/
def run (step : σ → π → σ × π) (c : Crowd σ π) (schedule : List Nat) : Crowd σ π :=
  schedule.foldl (turn step) c

end Crowd

end SourceLoader
