import Mathlib.Data.List.Count
import SourceLoader.Compile.Shift
import SourceLoader.Crowd

/-!
# Turns of those who keep to a promise

A course that pauses leaves the shared state to others for a while. `Course.Abides` says of a course
that all it does from one pause to the next is promised, as long as the others keep to the promise
too, how often it pauses, and how it ends. Such a course can have its turns at any time: it pauses
as often as it does alone, and ends in the same way (`Course.Reached.turn`).

In a crowd, what holds of a member after some turns of its own can be lost when others take theirs.
It is not lost if each member keeps to a promise about what it does to the shared state
(`Reliable.does`), and what holds of a member withstands all that the promise allows
(`Reliable.withstands`). Then each member can be looked at alone, and what it has come to depends on
nothing but the number of turns that it has had (`Crowd.stands_run`).
-/

namespace SourceLoader

/-! ## A course -/

namespace Course

variable {σ ν ε α β : Type} {Promise : σ → σ → Prop} {P : σ → Except ε α → Prop} {n k : Nat}
  {s s' : σ} {c : Course σ ν ε α}

/-- A course that starts at a state pauses a number of times, and then it ends in this way. What it
does in between is promised, if what others do while it pauses is. -/
def Abides (Promise : σ → σ → Prop) (P : σ → Except ε α → Prop) :
    Nat → σ → Course σ ν ε α → Prop
  | n, s, done w r => n = 0 ∧ Promise s w ∧ P w r
  | n, s, ask w request next => request = .pause ∧ Promise s w
    ∧ ∃ m, n = m + 1 ∧ ∀ w', Promise w w' → Abides Promise P m w' (next w' (.ok none))

theorem Abides.mono {Q : σ → Except ε α → Prop} (hc : c.Abides Promise P n s)
    (h : ∀ w r, P w r → Q w r) : c.Abides Promise Q n s := by
  induction c generalizing n s with
  | done w r => exact ⟨hc.1, hc.2.1, h w r hc.2.2⟩
  | ask w request next ih =>
      obtain ⟨hpause, hw, m, hm, hnext⟩ := hc
      exact ⟨hpause, hw, m, hm, fun w' hw' => ih w' _ (hnext w' hw')⟩

theorem Abides.since (hc : c.Abides Promise P n s')
    (htrans : ∀ {s s' s''}, Promise s s' → Promise s' s'' → Promise s s'') (hs : Promise s s') :
    c.Abides Promise P n s := by
  cases c with
  | done w r => exact ⟨hc.1, htrans hs hc.2.1, hc.2.2⟩
  | ask w request next => exact ⟨hc.1, htrans hs hc.2.1, hc.2.2⟩

/-- The rest of a course starts where the first part has come to. -/
theorem Abides.andThen {R : σ → Except ε β → Prop} {m : Nat} (hc : c.Abides Promise P n s)
    (htrans : ∀ {s s' s''}, Promise s s' → Promise s' s'' → Promise s s'')
    {next : σ → Except ε α → Course σ ν ε β}
    (hnext : ∀ w r, Promise s w → P w r → (next w r).Abides Promise R m w) :
    (c.andThen next).Abides Promise R (n + m) s := by
  induction c generalizing n s with
  | done w r =>
      obtain ⟨rfl, hw, hr⟩ := hc
      rw [Nat.zero_add]
      exact (hnext w r hw hr).since htrans hw
  | ask w request following ih =>
      -- others go from `w` to `w'`, and that is promised, so what follows still starts after `s`
      obtain ⟨hpause, hw, k, rfl, hfollowing⟩ := hc
      refine ⟨hpause, hw, k + m, by omega, fun w' hw' => ?_⟩
      exact ih w' _ (hfollowing w' hw') fun v r hv => hnext v r (htrans hw (htrans hw' hv))

/-- Where a course that abides stands after some turns: it waits at a pause, or it has ended. -/
def Reached (Promise : σ → σ → Prop) (P : σ → Except ε α → Prop) (n k : Nat) (s : σ) :
    Course σ ν ε α → Prop
  | done w r => n < k ∧ P w r
  | ask w _ next => k ≤ n ∧ Promise w s
    ∧ ∀ w', Promise w w' → (next w' (.ok none)).Abides Promise P (n - k) w'

theorem Reached.withstands (hc : c.Reached Promise P n k s)
    (htrans : ∀ {s s' s''}, Promise s s' → Promise s' s'' → Promise s s'') (hs : Promise s s') :
    c.Reached Promise P n k s' := by
  cases c with
  | done w r => exact hc
  | ask w request next => exact ⟨hc.1, htrans hc.2.1 hs, hc.2.2⟩

/-- **A turn of a course that abides.** -/
theorem Reached.turn (hrefl : ∀ s, Promise s s) (hc : c.Reached Promise P n k s) :
    Promise s (c.turn s).1 ∧ (c.turn s).2.Reached Promise P n (k + 1) (c.turn s).1 := by
  cases c with
  | done w r => exact ⟨hrefl s, Nat.lt_succ_of_lt hc.1, hc.2⟩
  | ask w request next =>
      obtain ⟨hk, hw, hnext⟩ := hc
      have habides := hnext s hw
      cases hcourse : next s (.ok none) with
      | done v r =>
          rw [hcourse] at habides
          obtain ⟨hlast, hv, hr⟩ := habides
          simp only [Course.turn, hcourse]
          exact ⟨hv, by omega, hr⟩
      | ask v request' next' =>
          rw [hcourse] at habides
          obtain ⟨-, hv, m, hm, hnext'⟩ := habides
          obtain rfl : m = n - (k + 1) := by omega
          simp only [Course.turn, hcourse]
          exact ⟨hv, by omega, hrefl v, hnext'⟩

end Course

/-! ## A crowd -/

namespace Crowd

variable {σ π : Type} {step : σ → π → σ × π} {Inv : σ → Prop} {Promise : σ → σ → Prop}
  {At : Nat → Nat → σ → π → Prop} {c : Crowd σ π}

/-- The members of a crowd can rely on each other: they all keep to a promise. `At n k` is what
holds of the `n`-th member after `k` turns of its own. -/
structure Reliable (step : σ → π → σ × π) (Inv : σ → Prop) (Promise : σ → σ → Prop)
    (At : Nat → Nat → σ → π → Prop) : Prop where
  refl : ∀ s, Promise s s
  trans : ∀ {s s' s''}, Promise s s' → Promise s' s'' → Promise s s''
  does : ∀ {n k s p}, Inv s → At n k s p →
    Inv (step s p).1 ∧ Promise s (step s p).1 ∧ At n (k + 1) (step s p).1 (step s p).2
  withstands : ∀ {n k s s' p}, At n k s p → Promise s s' → At n k s' p

/-- How a crowd stands after some turns of each member. -/
structure Stands (Inv : σ → Prop) (At : Nat → Nat → σ → π → Prop) (turns : Nat → Nat)
    (c : Crowd σ π) : Prop where
  inv : Inv c.shared
  each : ∀ n p, c.members[n]? = some p → At n (turns n) c.shared p

theorem length_turn (c : Crowd σ π) (n : Nat) :
    (c.turn step n).members.length = c.members.length := by
  unfold turn
  cases c.members[n]? with
  | none => rfl
  | some p => exact List.length_set

theorem length_run (c : Crowd σ π) (schedule : List Nat) :
    (c.run step schedule).members.length = c.members.length := by
  induction schedule generalizing c with
  | nil => rfl
  | cons n schedule ih => exact (ih (c.turn step n)).trans (length_turn c n)

/-- Nobody leaves. -/
theorem exists_member (schedule : List Nat) {n : Nat} {p : π} (h : c.members[n]? = some p) :
    ∃ p', (c.run step schedule).members[n]? = some p' := by
  have hlt : n < (c.run step schedule).members.length :=
    length_run c schedule ▸ (List.getElem?_eq_some_iff.mp h).1
  exact ⟨_, List.getElem?_eq_getElem hlt⟩

/-- One turn counts for the member that takes it, and for nobody else. -/
theorem stands_turn (hreliable : Reliable step Inv Promise At) {turns : Nat → Nat}
    (h : c.Stands Inv At turns) (n : Nat) :
    (c.turn step n).Stands Inv At (fun m => turns m + if m = n then 1 else 0)
      ∧ Promise c.shared (c.turn step n).shared := by
  unfold turn
  cases hmember : c.members[n]? with
  | none =>
      refine ⟨⟨h.inv, fun m q hq => ?_⟩, hreliable.refl _⟩
      have hne : m ≠ n := by
        rintro rfl
        cases hmember.symm.trans hq
      simpa [hne] using h.each m q hq
  | some p =>
      obtain ⟨hinv, hpromise, hat⟩ := hreliable.does h.inv (h.each n p hmember)
      refine ⟨⟨hinv, fun m q hq => ?_⟩, hpromise⟩
      rcases eq_or_ne m n with rfl | hne
      · rw [List.getElem?_set_self (List.getElem?_eq_some_iff.mp hmember).1] at hq
        obtain rfl := Option.some.inj hq
        simpa using hat
      · -- the others have not moved, and what holds of them withstands the turn
        rw [List.getElem?_set_ne hne.symm] at hq
        simpa [hne] using hreliable.withstands (h.each m q hq) hpromise

/-- **Whatever the schedule, a member stands where its own turns have brought it.** -/
theorem stands_run (hreliable : Reliable step Inv Promise At) {turns : Nat → Nat}
    (h : c.Stands Inv At turns) (schedule : List Nat) :
    (c.run step schedule).Stands Inv At (fun m => turns m + schedule.count m)
      ∧ Promise c.shared (c.run step schedule).shared := by
  induction schedule generalizing c turns with
  | nil => exact ⟨h, hreliable.refl _⟩
  | cons n schedule ih =>
      obtain ⟨hturn, hpromise⟩ := stands_turn hreliable h n
      obtain ⟨hrun, hpromises⟩ := ih hturn
      refine ⟨⟨hrun.inv, fun m p hp => ?_⟩, hreliable.trans hpromise hpromises⟩
      -- the turns so far are not fixed, so that the first one can be counted among them
      have hcount : turns m + (n :: schedule).count m
          = turns m + (if m = n then 1 else 0) + schedule.count m := by
        rw [List.count_cons]
        simp only [beq_iff_eq, eq_comm (a := n)]
        omega
      exact hcount ▸ hrun.each m p hp

end Crowd

end SourceLoader
