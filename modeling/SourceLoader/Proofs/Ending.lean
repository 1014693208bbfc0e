import SourceLoader.Proofs.Lookup

/-!
# Steps that end by themselves

Most steps of a body ask the loader nothing. They end, well or with an error, in a memory that is
what it was but for objects that are new and for a few that they change. `Eval.Ends` says so of a
step, with what holds after a good end and what holds after a bad one, and has a rule for each way
of putting steps together. `Memory.Keeps` says which objects of a memory are still what they were.
-/

namespace SourceLoader

/-! ## Memory that is kept -/

namespace Memory

/-- A memory comes from another one: nothing is gone, and what has changed stands at some
addresses. -/
structure Keeps (changed : List Nat) (m w : Memory) : Prop where
  size : m.objects.size ≤ w.objects.size
  get? : ∀ a < m.objects.size, a ∉ changed → w.get? a = m.get? a
  host : w.hostNames = m.hostNames

variable {changed changed' : List Nat} {m v w : Memory} {a : Nat} {o : Object}

theorem lt_of_get? (h : m.get? a = some o) : a < m.objects.size :=
  (Array.getElem?_eq_some_iff.mp h).1

theorem get?_put_self (h : a < m.objects.size) (o : Object) : (m.put a o).get? a = some o :=
  Array.getElem?_setIfInBounds_self_of_lt h

namespace Keeps

theorem refl (changed : List Nat) (m : Memory) : Keeps changed m m :=
  ⟨Nat.le_refl _, fun _ _ _ => rfl, rfl⟩

theorem trans (h : Keeps changed m v) (h' : Keeps changed v w) : Keeps changed m w where
  size := Nat.le_trans h.size h'.size
  get? a ha hchanged := by
    rw [h'.get? a (Nat.lt_of_lt_of_le ha h.size) hchanged, h.get? a ha hchanged]
  host := h'.host.trans h.host

theorem mono (h : Keeps changed m w) (hsub : changed ⊆ changed') : Keeps changed' m w :=
  { h with get? := fun a ha hchanged => h.get? a ha fun hmem => hchanged (hsub hmem) }

/-- Changes to new objects are no changes. -/
theorem of_new (h : Keeps changed m w) (hnew : ∀ a ∈ changed, m.objects.size ≤ a) :
    Keeps [] m w :=
  { h with get? := fun a ha _ => h.get? a ha fun hmem => absurd (hnew a hmem) (by omega) }

theorem add (changed : List Nat) (m : Memory) (o : Object) : Keeps changed m (m.add o).1 where
  size := by rw [Name.size_add]; omega
  get? a ha _ := by rw [Name.get?_add, if_neg (by omega)]
  host := rfl

theorem fail (m : Memory) (f : Failure) : Keeps [] m (m.fail f).1 := by
  unfold Memory.fail
  cases f.cause? with
  | none => exact add _ _ _
  | some c => exact (add _ _ _).trans (add _ _ _)

theorem put (m : Memory) (a : Nat) (o : Object) : Keeps [a] m (m.put a o) where
  size := Nat.le_of_eq Array.size_setIfInBounds.symm
  get? _ _ hne := Name.get?_put_of_ne fun heq => hne (heq ▸ List.mem_singleton_self a)
  host := rfl

/-- An object that is new may be replaced. -/
theorem put_new (h : Keeps changed m w) (ha : m.objects.size ≤ a) (o : Object) :
    Keeps changed m (w.put a o) where
  size := Nat.le_trans h.size (put w a o).size
  get? b hb hchanged := by
    rw [Name.get?_put_of_ne (by omega), h.get? b hb hchanged]
  host := h.host

/-- An object that has not changed is still there. -/
theorem object (h : Keeps changed m w) (ha : a ∉ changed) (hget : m.get? a = some o) :
    w.get? a = some o := by
  rw [h.get? a (lt_of_get? hget) ha, hget]

end Keeps

end Memory

/-! ## Ends -/

namespace Eval

variable {α β : Type} {x y : Eval α} {m : Memory} {good good' : α → Memory → Prop}
  {bad bad' : Memory → Prop}

theorem modifyMemory_eq {f : Memory → Memory} {w : Memory} (h : f m = w) :
    modifyMemory f m = .done w (.ok ()) :=
  congrArg (Course.done · (.ok ())) h

/-- A step asks nothing. What holds after a good end is `good`, and after an error `bad`. -/
def Ends (x : Eval α) (m : Memory) (good : α → Memory → Prop) (bad : Memory → Prop) : Prop :=
  (∃ w a, x m = .done w (.ok a) ∧ good a w) ∨ ∃ w e, x m = .done w (.error e) ∧ bad w

namespace Ends

theorem of_ok {w : Memory} {a : α} (h : x m = .done w (.ok a)) (hgood : good a w) :
    x.Ends m good bad :=
  .inl ⟨w, a, h, hgood⟩

theorem of_error {w : Memory} {e : Thrown} (h : x m = .done w (.error e)) (hbad : bad w) :
    x.Ends m good bad :=
  .inr ⟨w, e, h, hbad⟩

theorem mono (h : x.Ends m good bad) (hgood : ∀ a w, good a w → good' a w)
    (hbad : ∀ w, bad w → bad' w) : x.Ends m good' bad' := by
  rcases h with ⟨w, a, hx, ha⟩ | ⟨w, e, hx, he⟩
  · exact of_ok hx (hgood a w ha)
  · exact of_error hx (hbad w he)

theorem imp (h : x.Ends m good bad) (hgood : ∀ a w, good a w → good' a w) : x.Ends m good' bad :=
  h.mono hgood fun _ hbad => hbad

/-- A step that never fails. -/
theorem of_safe (h : x.Ends m good fun _ => False) : x.Ends m good bad :=
  h.mono (fun _ _ hgood => hgood) fun _ hfalse => hfalse.elim

theorem bind (h : x.Ends m good bad) {k : α → Eval β} {last : β → Memory → Prop}
    (hk : ∀ a w, good a w → (k a).Ends w last bad) : (x >>= k).Ends m last bad := by
  rcases h with ⟨w, a, hx, ha⟩ | ⟨w, e, hx, he⟩
  · have hbind : (x >>= k) m = k a w := by rw [bind_apply, hx]; rfl
    rcases hk a w ha with ⟨w', b, hb, hlast⟩ | ⟨w', e, he, hbad⟩
    · exact of_ok (hbind.trans hb) hlast
    · exact of_error (hbind.trans he) hbad
  · refine of_error (e := e) ?_ he
    rw [bind_apply, hx]
    rfl

/-- A step whose end is known, and then the rest. -/
theorem step {w : Memory} {a : α} (h : x m = .done w (.ok a)) {k : α → Eval β}
    {last : β → Memory → Prop} (hk : (k a).Ends w last bad) : (x >>= k).Ends m last bad := by
  have hx : x.Ends m (fun b v => b = a ∧ v = w) bad := of_ok h ⟨rfl, rfl⟩
  refine hx.bind ?_
  rintro _ _ ⟨rfl, rfl⟩
  exact hk

/-- A new error is one more object. -/
theorem raiseWith (className : String) (arguments : List Value)
    (hbad : ∀ w, Memory.Keeps [] m w → bad w) :
    (Eval.raiseWith className arguments : Eval α).Ends m good bad :=
  of_error rfl (hbad _ (.add _ _ _))

/-- The places that errors come through do not count. -/
theorem of_resembles (hxy : y.Resembles x) (h : x.Ends m good bad) : y.Ends m good bad := by
  have hm := hxy m
  rcases h with ⟨w, a, hx, ha⟩ | ⟨w, e, hx, he⟩
  · rw [hx] at hm
    exact of_ok hm.eq_ok ha
  · rw [hx] at hm
    obtain ⟨e', he', -⟩ := hm.eq_error
    exact of_error he' he

/-- A loop keeps what each turn keeps, for the elements that have been passed. -/
theorem forIn {γ δ : Type} {g : γ → δ} {xs : List γ} {f : δ → PUnit → Eval (ForInStep PUnit)}
    (inv : List γ → Memory → Prop) (h : inv [] m)
    (hstep : ∀ passed c rest w, xs = passed ++ c :: rest → inv passed w →
      (f (g c) ⟨⟩).Ends w (fun s v => s = .yield ⟨⟩ ∧ inv (passed ++ [c]) v) bad) :
    (forIn (xs.map g) ⟨⟩ f : Eval PUnit).Ends m (fun _ w => inv xs w) bad := by
  suffices hrest : ∀ rest passed w, xs = passed ++ rest → inv passed w →
      (ForIn.forIn (rest.map g) ⟨⟩ f : Eval PUnit).Ends w (fun _ v => inv xs v) bad from
    hrest xs [] m rfl h
  intro rest
  induction rest with
  | nil =>
      intro passed w hxs hinv
      rw [List.append_nil] at hxs
      subst hxs
      exact of_ok rfl hinv
  | cons c rest ih =>
      intro passed w hxs hinv
      rw [List.map_cons, List.forIn_cons]
      refine (hstep passed c rest w hxs hinv).bind ?_
      rintro _ v ⟨rfl, hv⟩
      refine ih (passed ++ [c]) v ?_ hv
      rw [hxs, List.append_assoc]
      rfl

end Ends

end Eval

end SourceLoader
