/-!
# Steps that agree

Two steps with states of their own agree if from related states both come to related results, or
both fail. Nothing is said of the errors. A step may be `loose` against the other, and then it may
come to a result where the other fails.

The states may be related in another way before the steps than after them, as in a relational
Hoare triple, so that a step may begin what another one ends.
-/

namespace SourceLoader

/-- Both outcomes are related results, or both are failures. -/
def Outcomes {ε γ δ : Type} (loose : Prop) (R : γ → δ → Prop) : Except ε γ → Except ε δ → Prop
  | .ok a, .ok b => R a b
  | .error _, .error _ => True
  | .error _, .ok _ => loose
  | .ok _, .error _ => False

/-- The second outcome is a result if the first one is. -/
theorem Outcomes.ok {ε γ δ : Type} {loose : Prop} {R : γ → δ → Prop} {a : γ} {y : Except ε δ}
    (h : Outcomes loose R (.ok a) y) : ∃ b, y = .ok b ∧ R a b := by
  cases y with
  | ok b => exact ⟨b, rfl, h⟩
  | error _ => exact h.elim

/-- Two steps agree: from states in `S` they come to results in `R` and states in `T`. -/
def Agree {σ τ ε α β : Type} (loose : Prop) (S T : σ → τ → Prop) (R : α → β → Prop)
    (x : StateT σ (Except ε) α) (y : StateT τ (Except ε) β) : Prop :=
  ∀ s s', S s s' → Outcomes loose (fun a b => R a.1 b.1 ∧ T a.2 b.2) (x s) (y s')

section

variable {σ τ ε α β α' β' : Type} {loose : Prop} {S T U : σ → τ → Prop} {R : α → β → Prop}
  {Q : α' → β' → Prop} {x : StateT σ (Except ε) α} {y : StateT τ (Except ε) β}

theorem Agree.bind (hx : Agree loose S T R x y) {f : α → StateT σ (Except ε) α'}
    {g : β → StateT τ (Except ε) β'} (hf : ∀ a b, R a b → Agree loose T U Q (f a) (g b)) :
    Agree loose S U Q (x >>= f) (y >>= g) := by
  intro s s' hs
  have houtcomes := hx s s' hs
  show Outcomes loose _ ((x s).bind fun a => f a.1 a.2) ((y s').bind fun b => g b.1 b.2)
  cases hxs : x s with
  | ok a =>
      cases hys : y s' with
      | ok b =>
          rw [hxs, hys] at houtcomes
          exact hf a.1 b.1 houtcomes.1 a.2 b.2 houtcomes.2
      | error e =>
          rw [hxs, hys] at houtcomes
          exact houtcomes.elim
  | error e =>
      cases hys : y s' with
      | ok b =>
          rw [hxs, hys] at houtcomes
          show Outcomes loose _ (.error e) (g b.1 b.2)
          cases g b.1 b.2 with
          | ok c => exact houtcomes
          | error e' => trivial
      | error e' => trivial

/-- One step after another whose result is of no interest. -/
theorem Agree.seq (hx : Agree loose S T R x y) {x' : StateT σ (Except ε) α'}
    {y' : StateT τ (Except ε) β'} (hx' : Agree loose T U Q x' y') :
    Agree loose S U Q (x >>= fun _ => x') (y >>= fun _ => y') :=
  hx.bind fun _ _ _ => hx'

theorem agree_pure {a : α} {b : β} (h : R a b) :
    Agree loose S S R (pure a : StateT σ (Except ε) α) (pure b : StateT τ (Except ε) β) :=
  fun _ _ hs => ⟨h, hs⟩

theorem agree_throw (e e' : ε) : Agree loose S T R (throw e : StateT σ (Except ε) α)
    (throw e' : StateT τ (Except ε) β) :=
  fun _ _ _ => trivial

theorem agree_get : Agree loose S S S (get : StateT σ (Except ε) σ)
    (get : StateT τ (Except ε) τ) :=
  fun _ _ hs => ⟨hs, hs⟩

theorem agree_set {s : σ} {s' : τ} (h : T s s') : Agree loose S T (fun _ _ => True)
    (set s : StateT σ (Except ε) PUnit)
    (set s' : StateT τ (Except ε) PUnit) :=
  fun _ _ _ => ⟨trivial, h⟩

theorem agree_modify {f : σ → σ} {g : τ → τ} (h : ∀ s s', S s s' → T (f s) (g s')) :
    Agree loose S T (fun _ _ => True) (modify f : StateT σ (Except ε) PUnit)
      (modify g : StateT τ (Except ε) PUnit) :=
  fun s s' hs => ⟨trivial, h s s' hs⟩

theorem Agree.ite {c : Prop} [Decidable c] {x' : StateT σ (Except ε) α}
    {y' : StateT τ (Except ε) β}
    (hx : c → Agree loose S T R x y) (hx' : ¬c → Agree loose S T R x' y') :
    Agree loose S T R (if c then x else x') (if c then y else y') := by
  by_cases h : c
  · rw [if_pos h, if_pos h]
    exact hx h
  · rw [if_neg h, if_neg h]
    exact hx' h

/-- A refusal that the second step makes only if the first one does, and that only a loose one may
miss. -/
theorem Agree.unless {c c' : Prop} [Decidable c] [Decidable c'] {e e' : ε} (hleft : c' → c)
    (hright : c → c' ∨ loose) (h : Agree loose S T R x y) :
    Agree loose S T R (if c then do (throw e : StateT σ (Except ε) PUnit); x else x)
      (if c' then do (throw e' : StateT τ (Except ε) PUnit); y else y) := by
  by_cases hc : c
  · rw [if_pos hc]
    by_cases hc' : c'
    · rw [if_pos hc']
      exact fun _ _ _ => trivial
    · rw [if_neg hc']
      intro s s' hs
      show Outcomes loose _ (.error e) (y s')
      cases y s' with
      | ok _ => exact (hright hc).resolve_left hc'
      | error _ => trivial
  · rw [if_neg hc, if_neg fun hc' => hc (hleft hc')]
    exact h

/-- The same for each element of a list and of its image. -/
theorem Agree.forM_map {δ : Type} {m : δ → δ} {ds : List δ} {f : δ → StateT σ (Except ε) PUnit}
    {g : δ → StateT τ (Except ε) PUnit}
    (h : ∀ d ∈ ds, Agree loose S S (fun _ _ => True) (f d) (g (m d))) :
    Agree loose S S (fun _ _ => True) (ds.forM f) ((ds.map m).forM g) := by
  induction ds with
  | nil => exact agree_pure trivial
  | cons d ds ih =>
      exact (h d List.mem_cons_self).seq (ih fun e he => h e (List.mem_cons_of_mem _ he))

/-- The same for each element of a list. -/
theorem agree_forM {δ : Type} {ds : List δ} {f : δ → StateT σ (Except ε) PUnit}
    {g : δ → StateT τ (Except ε) PUnit}
    (h : ∀ d ∈ ds, Agree loose S S (fun _ _ => True) (f d) (g d)) :
    Agree loose S S (fun _ _ => True) (ds.forM f) (ds.forM g) := by
  have hmap := Agree.forM_map (m := id) h
  rwa [List.map_id] at hmap

end

end SourceLoader
