import Mathlib.Data.List.Sort
import Mathlib.Data.String.Basic
import SourceLoader.Proofs.Ending

/-!
# Reading modules

What code reads of a module: one of its attributes, or the list of their names. Reading adds objects
at most, such as a list of a module of the host, and what it finds depends on the module alone.
-/

namespace SourceLoader

open Memory (Keeps)

variable {m w : Memory} {v : Value} {name : String}

/-- The value is a module: one that was loaded, with its names, or one of the host. -/
inductive IsModule (m : Memory) : Value → Prop
  | loaded {a names : Nat} {entries : List (Value × Value)}
      (hmodule : m.get? a = some (.module names)) (hnames : m.get? names = some (.dict entries)) :
      IsModule m (.ref a)
  | host (module : String) : IsModule m (.hostModule module)

theorem Memory.Keeps.nameIn? (h : Keeps [] m w) {names : Nat} {entries : List (Value × Value)}
    (hnames : m.get? names = some (.dict entries)) (name : String) :
    w.nameIn? names name = m.nameIn? names name := by
  unfold Memory.nameIn?
  rw [h.object List.not_mem_nil hnames, hnames]

namespace Attribute

/-- What is found if a value has nothing by itself under a name. -/
def otherwise (v : Value) (name : String) : Eval (Option Value) :=
  if name = "__doc__" then pure (some .none)
  else if name = "__dict__" || name = "__name__" || !common.contains name then pure none
  else do return some (← Eval.add (.builtinMethod v name))

/-- What a loaded module has by itself. -/
def ofNames (m : Memory) (names : Nat) (name : String) : Option Value :=
  if name = "__dict__" then some (.ref names) else m.nameIn? names name

theorem get?_loaded {a names : Nat} (hmodule : m.get? a = some (.module names)) (name : String) :
    get? (.ref a) name m =
      if name = "__class__" then .done m (.ok (some (m.typeOf (.ref a))))
      else
        match ofNames m names name with
        | some found => .done m (.ok (some found))
        | none => otherwise (.ref a) name m := by
  have hmemory : Eval.memory m = .done m (.ok m) := rfl
  have hown : ofObject m (.ref a) (.module names) name m = .done m (.ok (ofNames m names name)) := by
    unfold ofObject ofNames
    dsimp only
    split <;> rfl
  unfold get?
  rw [Eval.bind_apply, hmemory]
  simp only [Course.bind, Course.andThen, hmodule]
  by_cases hclass : name = "__class__"
  · simp only [if_pos hclass]
    rfl
  · simp only [if_neg hclass]
    rw [Eval.bind_apply, hown]
    cases ofNames m names name with
    | some found => rfl
    | none => rfl

theorem get?_host (module name : String) :
    get? (.hostModule module) name m =
      if name = "__class__" then .done m (.ok (some (m.typeOf (.hostModule module))))
      else (ofHostModule m module name >>= fun own =>
        match own with
        | some found => pure (some found)
        | none => otherwise (.hostModule module) name) m := by
  have hmemory : Eval.memory m = .done m (.ok m) := rfl
  unfold get?
  rw [Eval.bind_apply, hmemory]
  simp only [Course.bind, Course.andThen]
  by_cases hclass : name = "__class__"
  · simp only [if_pos hclass]
    rfl
  · simp only [if_neg hclass]
    rfl

end Attribute

/-! ## What does not depend on the memory around -/

/-- Two reads found the same: nothing both times, or values with the same elements. -/
def SameFound (m : Memory) (r : Option Value) (w : Memory) (r' : Option Value) : Prop :=
  match r, r' with
  | none, none => True
  | some x, some x' => ∀ vs, Subscript.elements? m x = some vs → Subscript.elements? w x' = some vs
  | _, _ => False

theorem elements?_keeps (h : Keeps [] m w) {x : Value} {vs : List Value}
    (hx : Subscript.elements? m x = some vs) : Subscript.elements? w x = some vs := by
  cases x with
  | ref a =>
      cases hget : m.get? a with
      | none => simp [Subscript.elements?, Memory.object?, hget] at hx
      | some o =>
          have hget' := h.object List.not_mem_nil hget
          simpa [Subscript.elements?, Memory.object?, hget, hget'] using hx
  | _ => exact hx

theorem sameFound_of_keeps (h : Keeps [] m w) (r : Option Value) : SameFound m r w r := by
  cases r with
  | none => trivial
  | some x => exact fun vs hx => elements?_keeps h hx

theorem sameFound_add (m w : Memory) (o : Object) :
    SameFound (m.add o).1 (some (.ref m.objects.size)) (w.add o).1 (some (.ref w.objects.size)) := by
  intro vs hx
  have hm : (m.add o).1.object? (.ref m.objects.size) = some o := Name.get?_add_self m o
  have hw : (w.add o).1.object? (.ref w.objects.size) = some o := Name.get?_add_self w o
  unfold Subscript.elements? at hx ⊢
  dsimp only at hx ⊢
  rw [hm] at hx
  rw [hw]
  exact hx

/-- Two reads, in a memory and in one that has grown from it, end well, with objects added at most,
and have found the same. -/
def Reads (m w : Memory) (c c' : Course Memory Value Thrown (Option Value)) : Prop :=
  ∃ m' r w' r', c = .done m' (.ok r) ∧ Keeps [] m m' ∧ c' = .done w' (.ok r') ∧ Keeps [] w w'
    ∧ SameFound m' r w' r'

theorem reads_pure (h : Keeps [] m w) (r : Option Value) :
    Reads m w (.done m (.ok r)) (.done w (.ok r)) :=
  ⟨m, r, w, r, rfl, .refl _ _, rfl, .refl _ _, sameFound_of_keeps h r⟩

theorem reads_add (o : Object) (m w : Memory) :
    Reads m w (.done (m.add o).1 (.ok (some (.ref m.objects.size))))
      (.done (w.add o).1 (.ok (some (.ref w.objects.size)))) :=
  ⟨_, _, _, _, rfl, .add _ _ _, rfl, .add _ _ _, sameFound_add m w o⟩

namespace Attribute

theorem reads_otherwise (h : Keeps [] m w) (v : Value) (name : String) :
    Reads m w (otherwise v name m) (otherwise v name w) := by
  unfold otherwise
  split
  · exact reads_pure h _
  · split
    · exact reads_pure h _
    · exact reads_add _ m w

/-- What a module of the host has, in the steps in which it is looked for. -/
theorem get?_host_eq (module name : String) (hclass : name ≠ "__class__") :
    get? (.hostModule module) name m =
      match (m.changesOf module).lookup name with
      | some (some found) => .done m (.ok (some found))
      | some none => otherwise (.hostModule module) name m
      | none =>
        match (hostExports module).filter fun _ => name = "__all__" with
        | some names =>
          .done (m.add (.list (names.map .text))).1 (.ok (some (.ref m.objects.size)))
        | none =>
          if ((hostFunctions.lookup module).getD []).contains name then
            .done m (.ok (some (.hostFunction module name)))
          else
            match ((hostValues.lookup module).getD []).lookup name with
            | some found => .done m (.ok (some found))
            | none => otherwise (.hostModule module) name m := by
  rw [get?_host, if_neg hclass, Eval.bind_apply, ofHostModule]
  cases (m.changesOf module).lookup name with
  | some value => cases value <;> rfl
  | none =>
      dsimp only
      unfold ofFreshHostModule
      cases (hostExports module).filter fun _ => name = "__all__" with
      | some names => rfl
      | none =>
          dsimp only
          split
          · rfl
          · cases ((hostValues.lookup module).getD []).lookup name <;> rfl

/-- **Reading a module finds the same as long as the module is kept.** -/
theorem reads_get? (hmodule : IsModule m v) (h : Keeps [] m w) (name : String) :
    Reads m w (get? v name m) (get? v name w) := by
  cases hmodule with
  | @loaded a names entries hmodule hnames =>
      have hmodule' := h.object List.not_mem_nil hmodule
      have hsame : ofNames w names name = ofNames m names name := by
        rw [ofNames, ofNames, h.nameIn? hnames]
      rw [get?_loaded hmodule, get?_loaded hmodule', hsame]
      by_cases hclass : name = "__class__"
      · have htype : w.typeOf (.ref a) = m.typeOf (.ref a) := by
          simp only [Memory.typeOf, hmodule, hmodule']
        rw [if_pos hclass, if_pos hclass, htype]
        exact reads_pure h _
      · rw [if_neg hclass, if_neg hclass]
        cases ofNames m names name with
        | some found => exact reads_pure h _
        | none => exact reads_otherwise h _ _
  | host module =>
      by_cases hclass : name = "__class__"
      · rw [get?_host, get?_host, if_pos hclass, if_pos hclass]
        exact reads_pure h _
      · have hchanges : w.changesOf module = m.changesOf module := by
          rw [Memory.changesOf, Memory.changesOf, h.host]
        rw [get?_host_eq module name hclass, get?_host_eq module name hclass, hchanges]
        cases (m.changesOf module).lookup name with
        | some value =>
            cases value with
            | some found => exact reads_pure h _
            | none => exact reads_otherwise h _ _
        | none =>
            dsimp only
            cases (hostExports module).filter fun _ => name = "__all__" with
            | some names => exact reads_add _ m w
            | none =>
                dsimp only
                split
                · exact reads_pure h _
                · cases ((hostValues.lookup module).getD []).lookup name with
                  | some found => exact reads_pure h _
                  | none => exact reads_otherwise h _ _

/-- A value has an attribute. -/
def Has (m : Memory) (v : Value) (name : String) : Prop :=
  ∃ w x, get? v name m = .done w (.ok (some x))

/-- Reading an attribute that a module has. -/
theorem get_of_has (hmodule : IsModule m v) (h : Keeps [] m w) (hhas : Has m v name) :
    ∃ w' x, get v name w = .done w' (.ok x) ∧ Keeps [] w w' := by
  obtain ⟨m', r, w', r', hm, -, hw, hkeeps, hfound⟩ := reads_get? hmodule h name
  obtain ⟨m'', x, hx⟩ := hhas
  rw [hm] at hx
  cases hx
  cases r' with
  | none => exact hfound.elim
  | some x' =>
      refine ⟨w', x', ?_, hkeeps⟩
      rw [get, Eval.bind_apply, hw]
      rfl

theorem get?_of_not_has {name : String} (hmodule : IsModule m v) (h : Keeps [] m w)
    (hhas : ¬ Has m v name) : ∃ w', get? v name w = .done w' (.ok none) ∧ Keeps [] w w' := by
  obtain ⟨m', r, w', r', hm, -, hw, hkeeps, hfound⟩ := reads_get? hmodule h name
  cases r with
  | some x => exact absurd ⟨m', x, hm⟩ hhas
  | none =>
      cases r' with
      | some x' => exact hfound.elim
      | none => exact ⟨w', hw, hkeeps⟩

/-- Reading an attribute that a module has not fails. -/
theorem get_of_not_has (hmodule : IsModule m v) (h : Keeps [] m w) (hhas : ¬ Has m v name) :
    ∃ w' e, get v name w = .done w' (.error e) ∧ Keeps [] w w' := by
  obtain ⟨m', r, w', r', hm, -, hw, hkeeps, hfound⟩ := reads_get? hmodule h name
  cases r with
  | some x => exact absurd ⟨m', x, hm⟩ hhas
  | none =>
      cases r' with
      | some x' => exact hfound.elim
      | none =>
          have hget : get v name w = missing v name w' := by
            rw [get, Eval.bind_apply, hw]
            rfl
          have hmissing : (missing v name : Eval Value).Ends w' (fun _ _ => False)
              (Keeps [] w' ·) := .raiseWith _ _ fun _ h => h
          rcases hmissing with ⟨_, _, -, hfalse⟩ | ⟨w'', e, he, hnew⟩
          · exact hfalse.elim
          · exact ⟨w'', e, hget.trans he, hkeeps.trans hnew⟩

end Attribute

/-! ## Sorting keys -/

/-- Is a key a name? -/
def Value.isText : Value → Bool
  | .text _ => true
  | _ => false

namespace Comparison

theorem ordered_eq (a b : Value) (m : Memory) (h : m.object? a = none ∨ m.object? b = none) :
    ordered .lt a b m = (match m.order a b with
      | .ok o => pure ((o.map (fits .lt)).getD false)
      | .error (x, y) => Eval.typeError (s!"'{symbol .lt}' not supported between instances of "
        ++ s!"'{m.shownType x}' and '{m.shownType y}'") : Eval Bool) m := by
  have hmemory : Eval.memory m = .done m (.ok m) := rfl
  unfold ordered
  rw [Eval.bind_apply, hmemory]
  simp only [Course.bind, Course.andThen]
  revert h
  generalize m.object? a = first, m.object? b = second
  rintro (rfl | rfl)
  · rfl
  · cases first with
    | none => rfl
    | some o => cases o <;> rfl

/-- A comparison changes nothing. -/
theorem ordered_ends (op : CmpOp) (a b : Value) (m : Memory) :
    (ordered op a b).Ends m (fun _ w => w = m) (Keeps [] m ·) := by
  have hmemory : Eval.memory m = .done m (.ok m) := rfl
  refine .step hmemory ?_
  split
  · exact .of_ok rfl rfl
  · split
    · exact .of_ok rfl rfl
    · exact .raiseWith _ _ fun _ h => h

theorem ordered_texts (a b : String) (m : Memory) :
    ordered .lt (.text a) (.text b) m = .done m (.ok (decide (a < b))) := by
  have horder : m.order (.text a) (.text b) = .ok (some (compareOfLessAndEq a b)) := rfl
  rw [ordered_eq _ _ _ (.inl rfl), horder]
  change Course.done m (Except.ok (fits .lt (compareOfLessAndEq a b))) = _
  unfold fits compareOfLessAndEq
  by_cases h : a < b
  · simp [h]
  · by_cases h' : a = b <;> simp [h, h']

theorem order_ref_text (m : Memory) (address : Nat) (s : String) :
    m.order (.ref address) (.text s) = .error (.ref address, .text s) := by
  have hright : m.object? (.text s) = none := rfl
  unfold Memory.order Memory.maxDepth
  rw [Memory.orderWithin]
  dsimp only [Value.compareNumbers?]
  rw [hright]
  cases m.object? (.ref address) with
  | none => rfl
  | some o => cases o <;> rfl

/-- A name and something else have no order. -/
theorem ordered_mixed {a b : Value} (h : a.isText ≠ b.isText) (m : Memory) :
    (ordered .lt a b).Ends m (fun _ _ => False) (Keeps [] m ·) := by
  have horder : ∃ p, m.order a b = .error p := by
    cases a <;> cases b <;> first
      | exact absurd rfl h
      | exact ⟨_, rfl⟩
      | exact ⟨_, order_ref_text m _ _⟩
  have hobject : m.object? a = none ∨ m.object? b = none := by
    cases a <;> cases b <;> first
      | exact absurd rfl h
      | exact .inl rfl
      | exact .inr rfl
  obtain ⟨⟨x, y⟩, hp⟩ := horder
  have heq := ordered_eq a b m hobject
  rw [hp] at heq
  have hfails : (Eval.typeError (s!"'{symbol .lt}' not supported between instances of "
        ++ s!"'{m.shownType x}' and '{m.shownType y}'") : Eval Bool).Ends m (fun _ _ => False)
      (Keeps [] m ·) := .raiseWith _ _ fun _ h => h
  unfold Eval.Ends at hfails ⊢
  rw [heq]
  exact hfails

end Comparison

namespace Method

/-- A key and the value it stands for, which is the key itself. -/
def twice (v : Value) : Value × Value := (v, v)

theorem insertSorted_texts (a : String) (bs : List String) (m : Memory) :
    insertSorted (twice (.text a)) (bs.map fun b => twice (.text b)) m
      = .done m (.ok ((bs.orderedInsert (· < ·) a).map fun b => twice (.text b))) := by
  induction bs with
  | nil => rfl
  | cons b bs ih =>
      rw [List.map_cons, insertSorted, Eval.bind_apply]
      change (Comparison.ordered .lt (.text a) (.text b) m).bind _ = _
      rw [Comparison.ordered_texts]
      by_cases h : a < b
      · rw [List.orderedInsert_cons_of_le _ _ h, decide_eq_true h]
        rfl
      · rw [List.orderedInsert_of_not_le _ _ h, decide_eq_false h]
        change (insertSorted _ _ m).bind _ = _
        rw [ih]
        rfl

theorem sortPairs_texts (as bs : List String) (m : Memory) :
    sortPairs (as.map fun a => twice (.text a)) (bs.map fun b => twice (.text b)) m
      = .done m (.ok ((as.foldl (fun found a => found.orderedInsert (· < ·) a) bs).map
        fun b => twice (.text b))) := by
  induction as generalizing bs with
  | nil => rfl
  | cons a as ih =>
      rw [List.map_cons, sortPairs, Eval.bind_apply, insertSorted_texts]
      exact ih _

theorem pairwise_orderedInsert {a : String} {bs : List String} (h : bs.Pairwise (· ≤ ·)) :
    (bs.orderedInsert (· < ·) a).Pairwise (· ≤ ·) := by
  induction bs with
  | nil => exact List.pairwise_singleton _ _
  | cons b bs ih =>
      obtain ⟨hb, hbs⟩ := List.pairwise_cons.mp h
      by_cases hab : a < b
      · rw [List.orderedInsert_cons_of_le _ _ hab]
        refine List.pairwise_cons.mpr ⟨fun c hc => ?_, h⟩
        rcases List.mem_cons.mp hc with rfl | hc
        · exact le_of_lt hab
        · exact le_trans (le_of_lt hab) (hb c hc)
      · rw [List.orderedInsert_of_not_le _ _ hab]
        refine List.pairwise_cons.mpr ⟨fun c hc => ?_, ih hbs⟩
        rcases List.mem_cons.mp ((List.perm_orderedInsert _ a bs).mem_iff.mp hc) with rfl | hc
        · exact not_lt.mp hab
        · exact hb c hc

theorem sort_eq (as : List String) :
    as.foldl (fun found a => found.orderedInsert (· < ·) a) []
      = as.mergeSort fun a b => decide (a ≤ b) := by
  have hsteps : ∀ bs : List String, bs.Pairwise (· ≤ ·) →
      (as.foldl (fun found a => found.orderedInsert (· < ·) a) bs).Pairwise (· ≤ ·)
      ∧ (as.foldl (fun found a => found.orderedInsert (· < ·) a) bs).Perm (as ++ bs) := by
    induction as with
    | nil => exact fun bs h => ⟨h, .refl _⟩
    | cons a as ih =>
        intro bs h
        obtain ⟨hsorted, hperm⟩ := ih _ (pairwise_orderedInsert (a := a) h)
        refine ⟨hsorted, hperm.trans ?_⟩
        exact ((List.perm_orderedInsert _ a bs).append_left as).trans List.perm_middle
  obtain ⟨hsorted, hperm⟩ := hsteps [] .nil
  rw [List.append_nil] at hperm
  have hmerge : (as.mergeSort fun a b => decide (a ≤ b)).Pairwise (· ≤ ·) := by
    have h : (as.mergeSort fun a b => decide (a ≤ b)).Pairwise fun a b => decide (a ≤ b) = true :=
      List.pairwise_mergeSort
        (fun a b c hab hbc => by
          simpa using le_trans (of_decide_eq_true hab) (of_decide_eq_true hbc))
        (fun a b => by simpa using le_total a b) as
    exact h.imp fun h => of_decide_eq_true h
  exact List.Perm.eq_of_pairwise (fun a b _ _ hab hba => le_antisymm hab hba) hsorted hmerge
    (hperm.trans (List.mergeSort_perm _ _).symm)

/-- Without a key function the values are sorted themselves. -/
theorem sorted_eq (E : Engine) (env : Env) (vs : List Value) (m : Memory) :
    sorted E env vs [] m = (sortPairs (vs.map twice) [] >>= fun pairs =>
      pure (pairs.map Prod.snd)) m := rfl

/-- Names are sorted as texts. -/
theorem sorted_texts (E : Engine) (env : Env) (as : List String) (m : Memory) :
    sorted E env (as.map .text) [] m
      = .done m (.ok ((as.mergeSort fun a b => decide (a ≤ b)).map .text)) := by
  have hpairs := sortPairs_texts as [] m
  rw [sort_eq] at hpairs
  have htwice : (as.map Value.text).map twice = as.map fun a => twice (.text a) := List.map_map
  rw [sorted_eq, Eval.bind_apply, htwice]
  change (sortPairs _ (([] : List String).map fun b => twice (.text b)) m).bind _ = _
  rw [hpairs]
  change Course.done m (.ok _) = _
  rw [List.map_map]
  rfl

/-- The keys in a sorted list are of one sort, and there is at least one. -/
def Uniform (isText : Bool) (ps : List (Value × Value)) : Prop :=
  ps ≠ [] ∧ ∀ p ∈ ps, p.1.isText = isText

theorem insertSorted_uniform {b : Bool} {x : Value × Value} {ps : List (Value × Value)}
    (hx : x.1.isText = b) (h : ∀ p ∈ ps, p.1.isText = b) :
    (insertSorted x ps).Ends m (fun qs w => Uniform b qs ∧ w = m) (Keeps [] m ·) := by
  induction ps with
  | nil =>
      refine .of_ok rfl ⟨⟨List.cons_ne_nil _ _, ?_⟩, rfl⟩
      intro p hp
      rw [List.mem_singleton.mp hp, hx]
  | cons y ys ih =>
      rw [insertSorted]
      refine (Comparison.ordered_ends _ _ _ m).bind ?_
      rintro isBefore _ rfl
      cases isBefore with
      | true =>
          refine .of_ok rfl ⟨⟨List.cons_ne_nil _ _, ?_⟩, rfl⟩
          intro p hp
          rcases List.mem_cons.mp hp with rfl | hp
          · exact hx
          · exact h p hp
      | false =>
          refine (ih fun p hp => h p (List.mem_cons_of_mem _ hp)).bind ?_
          rintro qs _ ⟨hqs, rfl⟩
          refine .of_ok rfl ⟨⟨List.cons_ne_nil _ _, ?_⟩, rfl⟩
          intro p hp
          rcases List.mem_cons.mp hp with rfl | hp
          · exact h p List.mem_cons_self
          · exact hqs.2 p hp

/-- Among names and other keys, one is compared with one of the other sort at the latest when the
first of that sort comes. -/
theorem sortPairs_mixed {b : Bool} {xs ps : List (Value × Value)} (hps : Uniform b ps)
    (hmixed : ∃ x ∈ xs, x.1.isText ≠ b) :
    (sortPairs xs ps).Ends m (fun _ _ => False) (Keeps [] m ·) := by
  induction xs generalizing ps with
  | nil =>
      obtain ⟨x, hx, -⟩ := hmixed
      cases hx
  | cons x xs ih =>
      rw [sortPairs]
      by_cases hx : x.1.isText = b
      · refine (insertSorted_uniform hx hps.2).bind ?_
        rintro qs _ ⟨hqs, rfl⟩
        refine ih hqs ?_
        obtain ⟨y, hy, hne⟩ := hmixed
        rcases List.mem_cons.mp hy with rfl | hy
        · exact absurd hx hne
        · exact ⟨y, hy, hne⟩
      · obtain ⟨p, rest, rfl⟩ := List.exists_cons_of_ne_nil hps.1
        have hp : p.1.isText = b := hps.2 p List.mem_cons_self
        have hfails : (insertSorted x (p :: rest)).Ends m (fun _ _ => False) (Keeps [] m ·) := by
          rw [insertSorted]
          exact (Comparison.ordered_mixed (hp ▸ hx) m).bind fun _ _ hfalse => hfalse.elim
        exact hfails.bind fun _ _ hfalse => hfalse.elim

/-- **Names cannot be sorted among other keys.** -/
theorem sorted_mixed {E : Engine} {env : Env} {vs : List Value} {v w : Value} (hv : v ∈ vs)
    (hw : w ∈ vs) (htext : v.isText = true) (hother : w.isText = false) :
    (sorted E env vs []).Ends m (fun _ _ => False) (Keeps [] m ·) := by
  have hpairs : (sortPairs (vs.map twice) []).Ends m (fun _ _ => False) (Keeps [] m ·) := by
    obtain ⟨x, xs, rfl⟩ := List.exists_cons_of_ne_nil (List.ne_nil_of_mem hv)
    rw [List.map_cons, sortPairs]
    have hfirst : insertSorted (twice x) [] m = .done m (.ok [twice x]) := rfl
    refine .step hfirst (sortPairs_mixed (b := x.isText) ⟨List.cons_ne_nil _ _, ?_⟩ ?_)
    · intro p hp
      rw [List.mem_singleton.mp hp]
      rfl
    · -- one of the two keys is not of the sort of the first one
      have hpick : ∃ y ∈ x :: xs, y.isText ≠ x.isText := by
        cases hx : x.isText with
        | true => exact ⟨w, hw, by rw [hother]; decide⟩
        | false => exact ⟨v, hv, by rw [htext]; decide⟩
      obtain ⟨y, hy, hne⟩ := hpick
      rcases List.mem_cons.mp hy with rfl | hy
      · exact absurd rfl hne
      · exact ⟨twice y, List.mem_map_of_mem hy, hne⟩
  have hall : (sortPairs (vs.map twice) [] >>= fun pairs => pure (pairs.map Prod.snd)).Ends m
      (fun _ _ => False) (Keeps [] m ·) := hpairs.bind fun _ _ hfalse => hfalse.elim
  exact hall

end Method

/-! ## What `dir` lists -/

namespace Builtin

/-- The names that `dir` lists of a module; there is no such list if some keys of its mapping are
names and some are not. -/
def listed? (m : Memory) (v : Value) : Option (List String) :=
  match v with
  | .hostModule _ => some (Attribute.names m v)
  | v =>
    match m.object? v with
    | some (.module names) =>
      match m.get? names with
      | some (.dict entries) =>
        if entries.all fun e => e.1.isText then
          some ((m.namesIn names).mergeSort fun a b => decide (a ≤ b))
        else none
      | _ => none
    | _ => none

theorem keys_eq_texts {names : Nat} {entries : List (Value × Value)}
    (hnames : m.get? names = some (.dict entries)) (h : entries.all (fun e => e.1.isText) = true) :
    entries.map Prod.fst = (m.namesIn names).map Value.text := by
  unfold Memory.namesIn
  rw [hnames]
  dsimp only
  clear hnames
  induction entries with
  | nil => rfl
  | cons e entries ih =>
      obtain ⟨k, x⟩ := e
      rw [List.all_cons, Bool.and_eq_true] at h
      cases k with
      | text s => rw [List.map_cons, ih h.2]; rfl
      | _ => cases h.1

theorem dir_eq (E : Engine) (env : Env) (v : Value) (m : Memory) :
    call E env "dir" [v] [] m = (do
      let keys ← match m.object? v with
        | some (.module names) => sortedKeys E env names
        | _ => pure ((Attribute.names m v).map Value.text)
      Eval.add (.list keys) : Eval Value) m := rfl

/-- **`dir` makes a list of the names of a module.** -/
theorem dir_listed (hmodule : IsModule m v) (h : Keeps [] m w) {ns : List String}
    (hlisted : listed? m v = some ns) (E : Engine) (env : Env) :
    call E env "dir" [v] [] w
      = .done (w.add (.list (ns.map .text))).1 (.ok (.ref w.objects.size)) := by
  rw [dir_eq]
  cases hmodule with
  | @loaded a names entries hmodule hnames =>
      have hmodule' := h.object List.not_mem_nil hmodule
      have hnames' := h.object List.not_mem_nil hnames
      simp only [listed?, Memory.object?, hmodule, hnames, Option.ite_none_right_eq_some,
        Option.some.injEq] at hlisted
      obtain ⟨htexts, rfl⟩ := hlisted
      have hkeys : sortedKeys E env names w
          = .done w (.ok (((m.namesIn names).mergeSort fun a b => decide (a ≤ b)).map .text)) := by
        have hmemory : Eval.memory w = .done w (.ok w) := rfl
        unfold sortedKeys
        rw [Eval.bind_apply, hmemory]
        simp only [Course.bind, Course.andThen, hnames']
        rw [keys_eq_texts hnames htexts, Method.sorted_texts]
      simp only [Memory.object?, hmodule']
      rw [Eval.bind_apply, hkeys]
      rfl
  | host module =>
      cases hlisted
      have hnames : Attribute.hostNames w module = Attribute.hostNames m module := by
        unfold Attribute.hostNames Memory.changesOf
        rw [h.host]
      have hsame : Attribute.names w (.hostModule module) = Attribute.names m (.hostModule module) := by
        unfold Attribute.names
        dsimp only
        rw [hnames]
      rw [← hsame]
      rfl

/-- A module has keys that are names and keys that are not. -/
def Mixed (m : Memory) (v : Value) : Prop :=
  ∃ a names entries, v = .ref a ∧ m.get? a = some (.module names) ∧ m.get? names = some (.dict entries)
    ∧ (∃ e ∈ entries, e.1.isText = true) ∧ ∃ e ∈ entries, e.1.isText = false

theorem Mixed.listed?_eq_none (h : Mixed m v) : listed? m v = none := by
  obtain ⟨a, names, entries, rfl, hmodule, hnames, -, e, he, hother⟩ := h
  have hall : ¬ entries.all (fun e => e.1.isText) = true := fun htexts => by
    rw [List.all_eq_true.mp htexts e he] at hother
    cases hother
  simp only [listed?, Memory.object?, hmodule, hnames, if_neg hall]

/-- **`dir` fails for a module that has a key which is no name.** -/
theorem dir_mixed (hmixed : Mixed m v) (h : Keeps [] m w) (E : Engine) (env : Env) :
    (call E env "dir" [v] []).Ends w (fun _ _ => False) (Keeps [] w ·) := by
  obtain ⟨a, names, entries, rfl, hmodule, hnames, ⟨e, he, htext⟩, e', he', hother⟩ := hmixed
  have hmodule' := h.object List.not_mem_nil hmodule
  have hnames' := h.object List.not_mem_nil hnames
  have hsorted : (Method.sorted E env (entries.map Prod.fst) []).Ends w (fun _ _ => False)
      (Keeps [] w ·) :=
    Method.sorted_mixed (List.mem_map_of_mem he) (List.mem_map_of_mem he') htext hother
  have hkeys : sortedKeys E env names w = Method.sorted E env (entries.map Prod.fst) [] w := by
    have hmemory : Eval.memory w = .done w (.ok w) := rfl
    unfold sortedKeys
    rw [Eval.bind_apply, hmemory]
    simp only [Course.bind, Course.andThen, hnames']
  unfold Eval.Ends
  rw [dir_eq]
  simp only [Memory.object?, hmodule']
  rcases hsorted with ⟨_, _, -, hfalse⟩ | ⟨w', e, hfails, hkeeps⟩
  · exact hfalse.elim
  · refine .inr ⟨w', e, ?_, hkeeps⟩
    rw [Eval.bind_apply, hkeys, hfails]
    rfl

end Builtin

/-! ## What a module lists itself -/

/-- The names that a module hands out as `__all__`. -/
def Lists (m : Memory) (v : Value) (ns : List String) : Prop :=
  ∃ w x, Attribute.get? v "__all__" m = .done w (.ok (some x))
    ∧ Subscript.elements? w x = some (ns.map .text)

theorem Lists.read (hmodule : IsModule m v) (h : Keeps [] m w) {ns : List String}
    (hlists : Lists m v ns) : ∃ w' x, Attribute.get? v "__all__" w = .done w' (.ok (some x))
      ∧ Keeps [] w w' ∧ Subscript.elements? w' x = some (ns.map .text) := by
  obtain ⟨m', r, w', r', hm, -, hw, hkeeps, hfound⟩ := Attribute.reads_get? hmodule h "__all__"
  obtain ⟨m'', x, hx, helements⟩ := hlists
  rw [hm] at hx
  cases hx
  cases r' with
  | none => exact hfound.elim
  | some x' => exact ⟨w', x', hw, hkeeps, hfound _ helements⟩

end SourceLoader
