import SourceLoader.Load.Machine
import Mathlib.Logic.Relation

/-!
# Runs of the loader

`Machine.step` takes an entry of the queue. A run is more than that: between two steps the host
may call, code may start tasks of its own, a wait may be given up, files may change, and somebody
may write a registry. `Move` lists what can happen next, and `Reaches` says what can come of it in
any order; `ReachesBy` admits only moves of some kind.

A task that code starts keeps the name of the attempt that the code runs for. A thread that waits
and is given up goes on with an error, and a task that has not begun yet ends with one. The tasks
of attempts are not handed out, so nobody gives them up before they begin.
-/

namespace SourceLoader

/-- What can happen next. -/
inductive Move (σ ν ε : Type) where
  /-- The entry at a place of the queue is carried out. -/
  | turn (place : Nat)
  /-- The host calls. -/
  | call (start : σ → Course σ ν ε ν)
  /-- Code that runs in a thread starts a task of its own. -/
  | task (thread : Nat) (start : σ → Course σ ν ε ν)
  /-- A thread is given up. -/
  | cancel (thread : Nat) (error : ε)
  /-- Something outside changes the world. -/
  | change (f : σ → σ)
  /-- Something outside writes the registries. -/
  | write (f : List (Registry ν) → List (Registry ν))

namespace Machine

variable {σ ν ε : Type}

/-- A loader that has done nothing so far. Modules may have been registered in advance. -/
def atRest (world : σ) (registries : List (Registry ν)) : Machine σ ν ε :=
  { world, loading := { registries } }

/-- Gives up a thread. -/
def cancel (m : Machine σ ν ε) (thread : Nat) (error : ε) : Option (Machine σ ν ε) :=
  match m.threads[thread]? with
  | none => none
  | some t =>
    match t.state, t.role with
    | .waiting wait _, _ => some (m.push [.resume thread wait (.error error)])
    | .fresh _, .attempt _ _ => none
    | .fresh _, _ => some (m.setState thread (.fresh fun w => .done w (.error error)))
    | _, _ => none

/-- Writes the registries from outside. -/
def writeRegistries (m : Machine σ ν ε) (f : List (Registry ν) → List (Registry ν)) :
    Machine σ ν ε :=
  { m with loading := { m.loading with registries := f m.loading.registries } }

/-- Makes a move, if it is possible. -/
def move (h : Host σ ν ε) (m : Machine σ ν ε) : Move σ ν ε → Option (Machine σ ν ε)
  | .turn place => m.step h place
  | .call start => some (m.spawn .hostCall none start)
  | .task thread start => m.threads[thread]?.map fun t => m.spawn .hostCall t.requester start
  | .cancel thread error => m.cancel thread error
  | .change f => some { m with world := f m.world }
  | .write f => some (m.writeRegistries f)

/-- One move of a kind leads from one state to another one. -/
def Goes (h : Host σ ν ε) (P : Move σ ν ε → Prop) (m m' : Machine σ ν ε) : Prop :=
  ∃ e, P e ∧ m.move h e = some m'

/-- Moves of a kind lead from one state to another one. -/
def ReachesBy (h : Host σ ν ε) (P : Move σ ν ε → Prop) : Machine σ ν ε → Machine σ ν ε → Prop :=
  Relation.ReflTransGen (Goes h P)

/-- Moves of any kind lead from one state to another one. -/
def Reaches (h : Host σ ν ε) : Machine σ ν ε → Machine σ ν ε → Prop := ReachesBy h fun _ => True

/-- Makes moves one after the other, if they are possible. -/
def moves (h : Host σ ν ε) : Machine σ ν ε → List (Move σ ν ε) → Option (Machine σ ν ε)
  | m, [] => some m
  | m, e :: es => (m.move h e).bind fun m => moves h m es

variable {h : Host σ ν ε} {P : Move σ ν ε → Prop} {m m' : Machine σ ν ε}

theorem Goes.mono {P' : Move σ ν ε → Prop} (hsub : ∀ {e}, P e → P' e) (hg : Goes h P m m') :
    Goes h P' m m' := by
  obtain ⟨e, hP, hm⟩ := hg
  exact ⟨e, hsub hP, hm⟩

theorem ReachesBy.mono {P' : Move σ ν ε → Prop} (hsub : ∀ {e}, P e → P' e)
    (hr : ReachesBy h P m m') : ReachesBy h P' m m' :=
  Relation.ReflTransGen.mono (fun _ _ hg => Goes.mono hsub hg) _ _ hr

theorem reachesBy_of_moves {es : List (Move σ ν ε)} (hP : ∀ e ∈ es, P e)
    (hm : m.moves h es = some m') : ReachesBy h P m m' := by
  induction es generalizing m with
  | nil =>
      injection hm with hm
      subst hm
      exact Relation.ReflTransGen.refl
  | cons e es ih =>
      rw [moves, Option.bind_eq_some_iff] at hm
      obtain ⟨m₁, h1, h2⟩ := hm
      have hgo : Goes h P m m₁ := ⟨e, hP e List.mem_cons_self, h1⟩
      exact Relation.ReflTransGen.head hgo (ih (fun e he => hP e (List.mem_cons_of_mem _ he)) h2)

/-- The state that moves lead to; the one before them if they are not possible. -/
def after (h : Host σ ν ε) (m : Machine σ ν ε) (es : List (Move σ ν ε)) : Machine σ ν ε :=
  (m.moves h es).getD m

theorem reachesBy_after {es : List (Move σ ν ε)} (hP : ∀ e ∈ es, P e)
    (hm : (m.moves h es).isSome = true) : ReachesBy h P m (m.after h es) := by
  obtain ⟨m', hm⟩ := Option.isSome_iff_exists.mp hm
  unfold after
  rw [hm]
  exact reachesBy_of_moves hP hm

theorem goes_after {e : Move σ ν ε} (hP : P e) (hm : (m.moves h [e]).isSome = true) :
    Goes h P m (m.after h [e]) := by
  obtain ⟨m', hm⟩ := Option.isSome_iff_exists.mp hm
  unfold after
  rw [hm]
  rw [moves, Option.bind_eq_some_iff] at hm
  obtain ⟨m₁, h1, h2⟩ := hm
  injection h2 with h2
  subst h2
  exact ⟨e, hP, h1⟩

/-- The machine at work makes moves. -/
theorem reachesBy_run (hP : P (.turn 0)) (limit : Nat) (m : Machine σ ν ε) :
    ReachesBy h P m (m.run h limit) := by
  induction limit generalizing m with
  | zero => exact Relation.ReflTransGen.refl
  | succ limit ih =>
      unfold run
      split
      · rename_i m₁ hs
        have hgo : Goes h P m m₁ := ⟨.turn 0, hP, hs⟩
        exact Relation.ReflTransGen.head hgo (ih m₁)
      · exact Relation.ReflTransGen.refl

end Machine

end SourceLoader
