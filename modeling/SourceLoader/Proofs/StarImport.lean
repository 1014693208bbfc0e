import SourceLoader.Proofs.StarParts

/-!
# Star imports

What `from m import *` comes to at the level of a module. All names are looked up before the first
one is bound: the values are collected in a mapping that is new, and the names of the module change
at the end and all at once. The names that a module lists as `__all__` come first; but the list of
its public names, which takes their place if there is none, is made in any case. So a module of
which `dir` cannot list the names cannot be imported from in this way, even if it has `__all__`.
-/

namespace SourceLoader

open Memory (Keeps)
open Engine (ofDepth)

variable {resolver : ConfigId → Resolver} {n : Nat} {env : Env} {m w : Memory} {v : Value}

/-! ## Entries for names -/

/-- Entries with values for names. -/
def Memory.setEntries (pairs : List (String × Value)) (entries : List (Value × Value)) :
    List (Value × Value) :=
  pairs.foldl (fun es p => setEntry p.1 p.2 es) entries

/-- The entry of a name. -/
def entryOf (p : String × Value) : Value × Value := (.text p.1, p.2)

/-- A name that has a value gets another one in its place, and any other name gets one at the end. -/
theorem setEntry_entryOf (name : String) (x : Value) {pairs : List (String × Value)}
    (h : (pairs.map Prod.fst).Nodup) :
    ∃ pairs' : List (String × Value),
      Memory.setEntry name x (pairs.map entryOf) = pairs'.map entryOf
        ∧ (pairs'.map Prod.fst).Nodup
        ∧ (∀ n, n ∈ pairs'.map Prod.fst ↔ n ∈ pairs.map Prod.fst ∨ n = name)
        ∧ ∀ p ∈ pairs', p ∈ pairs ∨ p = (name, x) := by
  induction pairs with
  | nil => exact ⟨[(name, x)], rfl, by simp, by simp, by simp⟩
  | cons p ps ih =>
      obtain ⟨k, y⟩ := p
      obtain ⟨hk, hps⟩ := List.nodup_cons.mp h
      rw [List.map_cons, Memory.setEntry]
      by_cases hkey : k = name
      · subst hkey
        exact ⟨(k, x) :: ps, by simp [entryOf], List.nodup_cons.mpr ⟨hk, hps⟩, by simp,
          by simp; tauto⟩
      · obtain ⟨ps', heq, hnodup, hnames, hmem⟩ := ih hps
        refine ⟨(k, y) :: ps', by simp [entryOf, hkey, ← heq], ?_, fun n => ?_, fun p hp => ?_⟩
        · refine List.nodup_cons.mpr ⟨fun hmem => ?_, hnodup⟩
          rcases (hnames k).mp hmem with hmem | rfl
          · exact hk hmem
          · exact hkey rfl
        · simp only [List.map_cons, List.mem_cons, hnames, or_assoc]
        · rcases List.mem_cons.mp hp with rfl | hp
          · exact .inl List.mem_cons_self
          · exact (hmem p hp).imp_left (List.mem_cons_of_mem _)

/-- Values for names: one each for some names, and each of them what a module has under the name. -/
structure Values (m : Memory) (v : Value) (ns : List String) (pairs : List (String × Value)) :
    Prop where
  names : ∀ n, n ∈ pairs.map Prod.fst ↔ n ∈ ns
  nodup : (pairs.map Prod.fst).Nodup
  read : ∀ p ∈ pairs, Lowering.ReadAs m v p.1 p.2

theorem Values.setEntry {ns : List String} {pairs : List (String × Value)} {name : String}
    {x : Value} (h : Values m v ns pairs) (hx : Lowering.ReadAs m v name x) :
    ∃ pairs', Values m v (ns ++ [name]) pairs'
      ∧ Memory.setEntry name x (pairs.map entryOf) = pairs'.map entryOf := by
  obtain ⟨pairs', heq, hnodup, hnames, hmem⟩ := setEntry_entryOf name x h.nodup
  refine ⟨pairs', ⟨fun n => ?_, hnodup, fun p hp => ?_⟩, heq⟩
  · rw [hnames, h.names, List.mem_append, List.mem_singleton]
  · rcases hmem p hp with hp | rfl
    · exact h.read p hp
    · exact hx

/-- An update puts one entry after the other. -/
theorem Method.ends_update {a : Nat} {entries : List (Value × Value)}
    (h : m.get? a = some (.dict entries)) (pairs : List (String × Value)) :
    (update a (pairs.map entryOf)).Ends m
      (fun _ w => Keeps [a] m w ∧ w.get? a = some (.dict (Memory.setEntries pairs entries)))
      fun _ => False := by
  unfold update
  refine Eval.Ends.bind (.forIn (fun passed w => Keeps [a] m w
    ∧ w.get? a = some (.dict (Memory.setEntries passed entries))) ⟨.refl _ _, h⟩ ?_)
    fun _ _ hinv => .of_ok rfl hinv
  rintro passed ⟨name, x⟩ rest w - ⟨hkeeps, hget⟩
  have hput : w.insertEntry (.text name) x (Memory.setEntries passed entries)
      = Memory.setEntries (passed ++ [(name, x)]) entries := by
    rw [Memory.insertEntry_text, Memory.setEntries, Memory.setEntries, List.foldl_append]
    rfl
  refine .step (Subscript.hashable_text name w) ?_
  refine .step (Eval.modifyMemory_eq
    (w := w.put a (.dict (Memory.setEntries (passed ++ [(name, x)]) entries))) ?_) ?_
  · simp only [hget, entryOf, hput]
  · exact .of_ok (a := .yield ⟨⟩) rfl ⟨rfl, hkeeps.trans (.put _ _ _),
      Memory.get?_put_self (Memory.lt_of_get? hget) _⟩

/-- Calling `update` of a mapping with another one. -/
theorem Method.ends_call_update (E : Engine) (env : Env) {a b : Nat}
    {entries : List (Value × Value)} {pairs : List (String × Value)}
    (ha : m.get? a = some (.dict entries)) (hb : m.get? b = some (.dict (pairs.map entryOf))) :
    (call E env (.ref a) "update" [.ref b] []).Ends m
      (fun _ w => Keeps [a] m w ∧ w.get? a = some (.dict (Memory.setEntries pairs entries)))
      fun _ => False := by
  have hmemory : Eval.memory m = .done m (.ok m) := rfl
  have hdict : ofDict E env a entries "update" [.ref b] [] m = (do
      let given ← entriesOf E env (.ref b)
      update a (given ++ [])
      pure (some Value.none) : Eval (Option Value)) m := rfl
  have hentries : entriesOf E env (.ref b) m = .done m (.ok (pairs.map entryOf)) := by
    unfold entriesOf
    rw [Eval.bind_apply, hmemory]
    simp only [Course.bind, Course.andThen, Memory.object?, hb]
    rfl
  have hupdate : (ofDict E env a entries "update" [.ref b] []).Ends m
      (fun found w => found = some .none ∧ Keeps [a] m w
        ∧ w.get? a = some (.dict (Memory.setEntries pairs entries))) fun _ => False := by
    unfold Eval.Ends
    rw [hdict]
    refine Eval.Ends.step hentries ?_
    rw [List.append_nil]
    exact (ends_update ha pairs).bind fun _ _ h => .of_ok rfl ⟨rfl, h⟩
  unfold Eval.Ends call
  rw [Eval.bind_apply, hmemory]
  simp only [Course.bind, Course.andThen, Memory.object?, ha]
  refine Eval.Ends.bind hupdate ?_
  rintro _ w ⟨rfl, hgood⟩
  exact .of_ok rfl hgood

namespace Lowering

/-! ## Collecting the values -/

theorem HandsOut.unique {ns ns' : List String} (h : HandsOut m v ns) (h' : HandsOut m v ns') :
    ns = ns' := by
  have hhas : ∀ {ns}, Lists m v ns → Attribute.Has m v "__all__" := fun ⟨w, x, hread, _⟩ =>
    ⟨w, x, hread⟩
  rcases h with h | ⟨hnone, all, hall, rfl⟩ <;> rcases h' with h' | ⟨hnone', all', hall', rfl⟩
  · obtain ⟨w, x, hread, hx⟩ := h
    obtain ⟨w', x', hread', hx'⟩ := h'
    rw [hread] at hread'
    cases hread'
    rw [hx, Option.some.injEq] at hx'
    exact List.map_injective_iff.mpr (fun a b hab => by cases hab; rfl) hx'
  · exact absurd (hhas h) hnone'
  · exact absurd (hhas h') hnone
  · rw [hall, Option.some.injEq] at hall'
    rw [hall']

theorem HandsOut.lists {ns : List String} (h : HandsOut m v ns) (hhas : Attribute.Has m v "__all__") :
    ∃ ns, Lists m v ns := by
  rcases h with h | ⟨hnone, -⟩
  · exact ⟨ns, h⟩
  · exact absurd hhas hnone

/-- Not all names can be looked up: the module has no list of its names, or it hands out a name that
it has not. -/
def Lacks (m : Memory) (v : Value) : Prop :=
  Builtin.listed? m v = none ∨ ∃ ns, HandsOut m v ns ∧ ∃ n ∈ ns, ¬ Attribute.Has m v n

/-- The comprehension takes one name after the other, and puts the value under it into a mapping. -/
theorem ends_values {base : Memory} (hbase : Keeps [] base m) (hmodule : IsModule base v)
    (hclass : env.classNames = none) (hglobals : env.globalNames = [])
    (hgetattr : Name.Stands env base "getattr" (.builtin "getattr"))
    {out scope : Nat} {y : Option Value} (hkeeps : Keeps [out] m w) (hout : w.get? out = some (.dict []))
    (hscope : w.get? scope = some (.scope [("_star_module", some v), ("_star_name", y)]))
    (hnewOut : base.objects.size ≤ out) (hnewScope : m.objects.size ≤ scope) (hne : scope ≠ out)
    {x : Value} {ns : List String} (helements : Subscript.elements? w x = some (ns.map .text))
    {key value source : Tree} (hkey : key.eraseSpans = readName "_star_name")
    (hvalue : value.eraseSpans = listedValue) (s s' : Option Span) (qualifier : String) :
    (Expression.clauses (ofDepth resolver (n + 6)) (env.inComprehension scope qualifier)
      (Expression.putEntry (ofDepth resolver (n + 6)) key value (.ref out)
        (env.inComprehension scope qualifier)) (some x)
      [.node (.comprehension false) s
        [[.node (.name "_star_name" .store) s' []], [source], []]]).Ends w
      (fun _ w' => Keeps [out] m w' ∧ (∀ n ∈ ns, Attribute.Has base v n)
        ∧ ∃ pairs, Values base v ns pairs ∧ w'.get? out = some (.dict (pairs.map entryOf)))
      (fun w' => Keeps [out] m w' ∧ ∃ n ∈ ns, ¬ Attribute.Has base v n) := by
  have hown : env.ownName "_star_name" = "_star_name" := ownName_eq (by decide +kernel) env
  refine (Expression.ends_clauses .text ns
    (fun passed w' => Keeps [out] m w' ∧ (∀ n ∈ passed, Attribute.Has base v n)
      ∧ (∃ pairs, Values base v passed pairs ∧ w'.get? out = some (.dict (pairs.map entryOf)))
      ∧ ∃ y, w'.get? scope = some (.scope [("_star_module", some v), ("_star_name", y)]))
    (Engine.elements_ofDepth helements)
    ⟨hkeeps, by simp, ⟨[], ⟨by simp, by simp, by simp⟩, hout⟩, y, hscope⟩ ?_).imp
    fun _ _ h => ⟨h.1, h.2.1, h.2.2.1⟩
  rintro passed c rest w₀ rfl ⟨hkeeps₀, hhas, ⟨pairs, hpairs, hout₀⟩, y, hscope₀⟩
  obtain ⟨w₁, hw₁⟩ : ∃ w₁, w₁ = w₀.put scope
      (.scope [("_star_module", some v), ("_star_name", some (.text c))]) := ⟨_, rfl⟩
  have hassign : (ofDepth resolver (n + 6)).assign (env.inComprehension scope qualifier)
      (.node (.name "_star_name" .store) s' []) (.text c) w₀ = .done w₁ (.ok ()) := by
    rw [hw₁]
    exact Name.write_variable hown hglobals hscope₀ rfl _
  have hscope₁ : w₁.get? scope
      = some (.scope [("_star_module", some v), ("_star_name", some (.text c))]) := by
    rw [hw₁]
    exact Memory.get?_put_self (Memory.lt_of_get? hscope₀) _
  have hout₁ : w₁.get? out = some (.dict (pairs.map entryOf)) := by
    rw [hw₁, Name.get?_put_of_ne hne.symm, hout₀]
  have hkeeps₁ : Keeps [out] m w₁ := hw₁ ▸ hkeeps₀.put_new hnewScope _
  have hbase₁ : Keeps [] base w₁ := hbase.step hkeeps₁ (by simpa using hnewOut)
  have hname := Name.Stands.of_variable "_star_name" hglobals hscope₁ rfl qualifier
  have hstar := Name.Stands.of_variable "_star_module" hglobals hscope₁ rfl qualifier
  refine .step hassign (.step (a := true) rfl ?_)
  refine .step (expr_readName hkey (by decide +kernel) hname.now) ?_
  refine Eval.Ends.bind ((ends_listedValue hbase₁ hmodule
    ((hgetattr.keeps hbase₁).around hclass hscope₁ rfl qualifier) hstar hname hvalue).mono
    (fun _ _ h => h) fun w₂ h => ⟨hkeeps₁.trans (h.1.mono (List.nil_subset _)), c, by simp, h.2⟩) ?_
  rintro z w₂ ⟨hkeeps₂, hc, hread⟩
  obtain ⟨pairs', hpairs', heq⟩ := hpairs.setEntry hread
  have hout₂ := hkeeps₂.object List.not_mem_nil hout₁
  refine .step (Subscript.hashable_text c w₂) (.of_ok (Expression.grow_ref _ hout₂)
    ⟨(hkeeps₁.trans (hkeeps₂.mono (List.nil_subset _))).trans (.put _ _ _), ?_,
      ⟨pairs', hpairs', ?_⟩, some (.text c), ?_⟩)
  · intro n hn
    rcases List.mem_append.mp hn with hn | hn
    · exact hhas n hn
    · rwa [List.mem_singleton.mp hn]
  · rw [Memory.get?_put_self (Memory.lt_of_get? hout₂), ← heq]
    dsimp only
    rw [Memory.insertEntry_text]
  · rw [Name.get?_put_of_ne hne, hkeeps₂.object List.not_mem_nil hscope₁]

/-- The comprehension takes one name after the other, and collects the values. -/
theorem ends_collect {base : Memory} (hbase : Keeps [] base m) (hmodule : IsModule base v)
    (hlisting : Builtin.listed? base v ≠ none ∨ Builtin.Mixed base v)
    (hnames : Builtin.listed? base v ≠ none → Attribute.Has base v "__all__" →
      ∃ ns, Lists base v ns)
    (hclass : env.classNames = none) (hglobals : env.globalNames = [])
    (hdir : Name.Stands env base "dir" (.builtin "dir"))
    (hgetattr : Name.Stands env base "getattr" (.builtin "getattr"))
    {first : Value} {out : Nat} (hfirst : Subscript.elements? m first = some [v])
    (hout : m.get? out = some (.dict [])) (hnew : base.objects.size ≤ out)
    {specifier : String} {key value : Tree} {cs : List Tree}
    (hcs : Collects specifier key value cs) :
    (Expression.inside (ofDepth resolver (n + 6)) env "<dictcomp>" cs
      (Expression.putEntry (ofDepth resolver (n + 6)) key value (.ref out)) first).Ends m
      (fun _ w => Keeps [out] m w ∧ Builtin.listed? base v ≠ none ∧ ∃ ns pairs, HandsOut base v ns
        ∧ Values base v ns pairs ∧ (∀ n ∈ ns, Attribute.Has base v n)
        ∧ w.get? out = some (.dict (pairs.map entryOf)))
      (fun w => Keeps [out] m w ∧ Lacks base v) := by
  obtain ⟨clause, names, rfl, hclause, hlisted⟩ := hcs.pair
  obtain ⟨s₁, s₁', source, tests, rfl, -, htests⟩ := eraseSpans_eq_clauseOf hclause
  obtain rfl := List.map_eq_nil_iff.mp htests
  obtain ⟨s₂, s₂', list, tests, rfl, hlist, htests⟩ := eraseSpans_eq_clauseOf hlisted
  obtain rfl := List.map_eq_nil_iff.mp htests
  have hown : env.ownName "_star_module" = "_star_module" := ownName_eq (by decide +kernel) env
  have hne : m.objects.size ≠ out := (Memory.lt_of_get? hout).ne'
  obtain ⟨w, hw⟩ : ∃ w, w
      = (m.add (.scope [("_star_module", none), ("_star_name", none)])).1 := ⟨_, rfl⟩
  have hscope : w.get? m.objects.size
      = some (.scope [("_star_module", none), ("_star_name", none)]) := hw ▸ Name.get?_add_self _ _
  have hkeeps : Keeps [out] m w := hw ▸ .add _ _ _
  have hkeeps' : Keeps [] m w := hw ▸ .add _ _ _
  refine Expression.ends_inside hglobals fun qualifier => ?_
  change Eval.Ends _ (m.add (.scope [("_star_module", none), ("_star_name", none)])).1 _ _
  rw [← hw]
  refine (Expression.ends_clauses id [v] (fun passed w' =>
    passed = [] ∧ w' = w ∨ passed = [v] ∧ Keeps [out] m w' ∧ Builtin.listed? base v ≠ none
      ∧ ∃ ns pairs, HandsOut base v ns ∧ Values base v ns pairs
        ∧ (∀ n ∈ ns, Attribute.Has base v n) ∧ w'.get? out = some (.dict (pairs.map entryOf)))
    (Engine.elements_ofDepth (elements?_keeps hkeeps' hfirst)) (.inl ⟨rfl, rfl⟩) ?_).imp ?_
  · rintro passed c rest w' hpassed (⟨rfl, rfl⟩ | ⟨rfl, -⟩)
    swap
    · simp at hpassed
    obtain ⟨rfl, rfl⟩ : v = c ∧ [] = rest := by simpa using hpassed
    obtain ⟨w₁, hw₁⟩ : ∃ w₁, w₁ = w'.put m.objects.size
        (.scope [("_star_module", some v), ("_star_name", none)]) := ⟨_, rfl⟩
    have hassign : (ofDepth resolver (n + 6)).assign (env.inComprehension m.objects.size qualifier)
        (.node (.name "_star_module" .store) s₁' []) v w' = .done w₁ (.ok ()) := by
      rw [hw₁]
      exact Name.write_variable hown hglobals hscope rfl _
    have hscope₁ : w₁.get? m.objects.size
        = some (.scope [("_star_module", some v), ("_star_name", none)]) := by
      rw [hw₁]
      exact Memory.get?_put_self (Memory.lt_of_get? hscope) _
    have hkeeps₁ : Keeps [] m w₁ := hw₁ ▸ hkeeps'.put_new (Nat.le_refl _) _
    have hbase₁ := hbase.trans hkeeps₁
    have hstar := Name.Stands.of_variable "_star_module" hglobals hscope₁ rfl qualifier
    refine .step hassign (.step (a := true) rfl ?_)
    change Eval.Ends (Expression.clauses _ _ _ none _) _ _ _
    rw [Expression.clauses_none]
    refine Eval.Ends.bind ((ends_listedNames hbase₁ hmodule hlisting hnames
      (show (env.inComprehension m.objects.size qualifier).globalNames = [] from hglobals)
      ((hdir.keeps hbase₁).around hclass hscope₁ rfl qualifier)
      ((hgetattr.keeps hbase₁).around hclass hscope₁ rfl qualifier) hstar hlist).mono
      (fun _ _ h => h) fun w₂ h => ⟨(hkeeps₁.trans h.1).mono (List.nil_subset _), .inl h.2⟩) ?_
    rintro x w₂ ⟨hkeeps₂, hlisted, ns, hns, helements⟩
    refine (ends_values hbase hmodule hclass hglobals hgetattr
      ((hkeeps₁.trans hkeeps₂).mono (List.nil_subset _))
      ((hkeeps₁.trans hkeeps₂).object List.not_mem_nil hout)
      (hkeeps₂.object List.not_mem_nil hscope₁) hnew (Nat.le_refl _) hne helements hcs.key
      hcs.value s₂ s₂' qualifier).mono ?_ ?_
    · rintro _ w₃ ⟨hkeeps₃, hhas, pairs, hpairs, hout₃⟩
      exact .inr ⟨rfl, hkeeps₃, hlisted, ns, pairs, hns, hpairs, hhas, hout₃⟩
    · rintro w₃ ⟨hkeeps₃, hmissing⟩
      exact ⟨hkeeps₃, .inr ⟨ns, hns, hmissing⟩⟩
  · rintro _ w' (⟨hfalse, -⟩ | ⟨-, hgood⟩)
    · cases hfalse
    · exact hgood

/-! ## Binding them -/

/-- The names of a module have got the values that another module has under the names that it hands
out, and nothing else has changed. -/
def Binds (base : Memory) (globals : Nat) (v : Value) (entries : List (Value × Value))
    (w : Memory) : Prop :=
  Builtin.listed? base v ≠ none ∧ ∃ ns pairs, HandsOut base v ns ∧ Values base v ns pairs
    ∧ (∀ n ∈ ns, Attribute.Has base v n)
    ∧ Keeps [globals] base w ∧ w.get? globals = some (.dict (Memory.setEntries pairs entries))

theorem ends_bindCollected {base : Memory} (hbase : Keeps [] base m) (hmodule : IsModule base v)
    (hlisting : Builtin.listed? base v ≠ none ∨ Builtin.Mixed base v)
    (hnames : Builtin.listed? base v ≠ none → Attribute.Has base v "__all__" →
      ∃ ns, Lists base v ns)
    (hclass : env.classNames = none) (hdeclared : env.globalNames = [])
    (hdir : Name.Stands env base "dir" (.builtin "dir"))
    (hgetattr : Name.Stands env base "getattr" (.builtin "getattr"))
    {entries : List (Value × Value)} (hglobals : base.get? env.site.globals = some (.dict entries))
    {update out : Nat} (hupdate : m.get? update
      = some (.builtinMethod (.ref env.site.globals) "update"))
    (hout : m.get? out = some (.dict [])) (hnew : base.objects.size ≤ out)
    {specifier : String} {key value : Tree} {cs : List Tree}
    (hcs : Collects specifier key value cs) :
    (bindCollected (ofDepth resolver (n + 6)) env key value cs (.ref update, .ref out) v).Ends m
      (fun _ w => Binds base env.site.globals v entries w)
      (fun w => Keeps [] base w ∧ Lacks base v) := by
  have hfirst : (m.add (.list [v])).1.object? (.ref m.objects.size) = some (.list [v]) :=
    Name.get?_add_self _ _
  have hadd : Keeps [] m (m.add (.list [v])).1 := .add _ _ _
  have hsafe : ∀ {w}, Keeps [out] (m.add (.list [v])).1 w → Keeps [] base w := fun h =>
    (hbase.trans hadd).step h (by simpa using hnew)
  have hadded : Eval.add (.list [v]) m = .done (m.add (.list [v])).1 (.ok (.ref m.objects.size)) :=
    rfl
  refine .step hadded ?_
  refine ((ends_collect (hbase.trans hadd) hmodule hlisting hnames hclass hdeclared hdir hgetattr
    (by unfold Subscript.elements?; simp only [hfirst]) (hadd.object List.not_mem_nil hout) hnew
    hcs).mono (fun _ _ h => h) fun w h => ⟨hsafe h.1, h.2⟩).bind ?_
  rintro _ w ⟨hkeeps, hlisted, ns, pairs, hns, hpairs, hhas, hout'⟩
  have hne : update ≠ out := by
    rintro rfl
    rw [hout] at hupdate
    cases hupdate
  have hupdate' := hkeeps.object (by simpa using hne) (hadd.object List.not_mem_nil hupdate)
  have hglobals' := (hsafe hkeeps).object List.not_mem_nil hglobals
  have hcall : (ofDepth resolver (n + 7)).call env (.ref update) [.ref out] [] w
      = Method.call (ofDepth resolver (n + 6)) env (.ref env.site.globals) "update" [.ref out] [] w :=
    call_method hupdate' _
  have hends : ((ofDepth resolver (n + 7)).call env (.ref update) [.ref out] []).Ends w
      (fun _ w' => Binds base env.site.globals v entries w')
      (fun w' => Keeps [] base w' ∧ Lacks base v) := by
    unfold Eval.Ends
    rw [hcall]
    refine (Method.ends_call_update _ env hglobals' hout').of_safe.imp ?_
    rintro _ w' ⟨hkeeps', hbound⟩
    exact ⟨hlisted, ns, pairs, hns, hpairs, hhas,
      ((hsafe hkeeps).mono (List.nil_subset _)).trans hkeeps', hbound⟩
  exact hends.bind fun _ _ h => .of_ok rfl h

/-! ## The whole statement -/

/-- At the level of a module, helpers that are not shadowed stay so as long as memory is kept. -/
theorem Unshadowed.stands {config : ConfigId} {names : List String}
    (h : Unshadowed env m config names) (hmodule : env.isModule = true) {helper : String}
    (hn : helper ∈ names) (hlanguage : helper ∈ languageHelpers) :
    Name.Stands env m helper (.builtin helper) := by
  obtain ⟨hclass, hscopes⟩ : env.classNames = none ∧ env.site.scopes = [] := by
    simpa [Env.isModule] using hmodule
  intro w hw
  obtain ⟨entries, hentries⟩ := h.globals
  obtain ⟨address, hrequire, htool⟩ := h.require
  have hbuiltins : ∃ given, m.get? env.site.builtins = some (.dict given) := by
    unfold Memory.nameIn? at hrequire
    split at hrequire
    · exact ⟨_, ‹_›⟩
    · cases hrequire
  obtain ⟨given, hgiven⟩ := hbuiltins
  have h' : Unshadowed env w config names := {
    free := fun n hn => by
      have hfree := h.free n hn
      unfold Name.bound? at hfree ⊢
      rw [hclass, hscopes] at hfree ⊢
      rw [hw.nameIn? hentries]
      exact hfree
    require := ⟨address, by rw [hw.nameIn? hgiven, hrequire], hw.object List.not_mem_nil htool⟩
    language := fun n hn => by rw [hw.nameIn? hgiven, h.language n hn]
    globals := ⟨entries, hw.object List.not_mem_nil hentries⟩ }
  exact h'.value?_language hn hlanguage

/-- The call of `require` and what follows it. -/
theorem run_bindAll {config : ConfigId} (h : Unshadowed env m config helpers) {specifier : String}
    {u : Tree} (hu : u.eraseSpans = bindAll specifier) (resolver : ConfigId → Resolver) (depth : Nat) :
    ∃ m' update out key value cs, Collects specifier key value cs ∧ Keeps [] m m'
      ∧ m.objects.size ≤ out
      ∧ m'.get? update = some (.builtinMethod (.ref env.site.globals) "update")
      ∧ m'.get? out = some (.dict [])
      ∧ (Statement.run (ofDepth resolver (depth + 8)) env u m).Resembles
        ((Call.tool (ofDepth resolver (depth + 3)) .require config env.file [.text specifier] []
          >>= bindCollected (ofDepth resolver (depth + 6)) env key value cs
            (.ref update, .ref out)) m') := by
  obtain ⟨key, value, cs, hcs, hruns⟩ := resembles_bindAll hu
  obtain ⟨m', update, out, hprepare, h', hkeeps, hnew, hupdate, hout⟩ :=
    prepares_all resolver (depth + 3) h
  refine ⟨m', update, out, key, value, cs, hcs, hkeeps, hnew, hupdate, hout, ?_⟩
  obtain ⟨address, hvalue, hget⟩ := h'.value?_require (by simp [helpers])
  have hread := Name.read_eq (m := m')
    (ownName_of_mem_helpers (n := "require") (by simp [helpers]) env)
  rw [hvalue] at hread
  have hcall : Name.call (ofDepth resolver (depth + 4)) env "require" [.text specifier] m'
      = Call.tool (ofDepth resolver (depth + 3)) .require config env.file [.text specifier] [] m' := by
    rw [Name.call, Eval.bind_apply, hread]
    exact Invoke.call_tool hget _ _
  have hrun := hruns (ofDepth resolver (depth + 3)) env m
  have hsame : (do
      let names ← Name.call (ofDepth resolver (depth + 5)) env "globals" []
      let update ← Attribute.get names (env.ownName "update")
      let entries ← Eval.add (.dict [])
      let v ← Name.call (ofDepth resolver (depth + 4)) env "require" [.text specifier]
      bindCollected (ofDepth resolver (depth + 6)) env key value cs (update, entries) v) m
      = (Name.call (ofDepth resolver (depth + 4)) env "require" [.text specifier] m').bind
        (bindCollected (ofDepth resolver (depth + 6)) env key value cs (.ref update, .ref out)) := by
    have hprepared := congrArg (fun c => c.bind fun p =>
      Name.call (ofDepth resolver (depth + 4)) env "require" [.text specifier] >>=
        bindCollected (ofDepth resolver (depth + 6)) env key value cs p) hprepare
    rw [← Eval.bind_apply] at hprepared
    simp only [Eval.bind_assoc, Eval.pure_bind] at hprepared
    exact hprepared
  rw [Eval.bind_apply, ← hcall, ← hsame]
  exact hrun

/-- The exports that a specifier in a file stands for. -/
def fetched (resolver : ConfigId → Resolver) (l : Loading Value) (config : ConfigId)
    (file specifier : String) : Except Failure Value := do
  let path ← (resolver config).apply file specifier
  (l.registry config).exports path

/-- A statement that runs by itself. -/
def alone (x : Eval Flow) : Act Value := Act.ofEval do
  let _ ← x
  pure Value.none

section Follow

variable {h : Host World Value Thrown} {l : Loading Value} {requester : Option String}
  {config : ConfigId} {x : Eval Flow} {world : World}

theorem follow_of_ok {flow : Flow} (hx : x world.memory = .done w (.ok flow)) :
    h.follow l requester (alone x world) = .done (world.withMemory w) (.ok .none) := by
  unfold alone Act.ofEval
  rw [Eval.bind_apply, hx]
  rfl

theorem follow_of_error {e : Thrown} (hx : x world.memory = .done w (.error e)) :
    h.follow l requester (alone x world) = .done (world.withMemory w) (.error e) := by
  unfold alone Act.ofEval
  rw [Eval.bind_apply, hx]
  rfl

/-- Where a statement asks for exports, the loader replies at once. -/
theorem follow_of_ask {path : String}
    {next : Memory → Response Value Thrown → Course Memory Value Thrown Flow}
    (hfailing : h.failing = World.fail)
    (hx : x world.memory = .ask m (.exports config path) next) :
    h.follow l requester (alone x world) = match (l.registry config).exports path with
      | .ok v => h.follow l requester
        (alone (fun w => next w (.ok (some v))) (world.withMemory m))
      | .error f => h.follow l requester
        (alone (fun w => next w (.error (m.fail f).2)) (world.withMemory (m.fail f).1)) := by
  have hask : alone x world = .ask (world.withMemory m) (.exports config path) fun w response =>
      alone (fun w' => next w' response) w := by
    unfold alone Act.ofEval
    rw [Eval.bind_apply, hx]
    rfl
  rw [hask, Host.follow]
  cases (l.registry config).exports path with
  | ok v => rfl
  | error f =>
      rw [hfailing]
      rfl

/-- A statement that fetches a specifier fails if there are no exports of it, and else goes on with
them. -/
theorem follow_fetching (l : Loading Value) (requester : Option String)
    (hfailing : h.failing = World.fail) {resolver : ConfigId → Resolver}
    {E : Engine} (hE : E.resolver config = resolver config) {file specifier : String}
    {k : Value → Eval Flow}
    (hx : (x world.memory).Resembles
      ((Call.tool E .require config file [.text specifier] [] >>= k) m)) :
    match fetched resolver l config file specifier with
    | .error _ => ∃ w e, h.follow l requester (alone x world) = .done (world.withMemory w) (.error e)
      ∧ Keeps [] m w
    | .ok v => ∀ {good bad : Memory → Prop}, (k v).Ends m (fun _ w => good w) bad →
      ∃ w result, h.follow l requester (alone x world) = .done (world.withMemory w) result
        ∧ (result = .ok .none ∧ good w ∨ (∃ e, result = .error e) ∧ bad w) := by
  unfold fetched
  rw [Eval.bind_apply] at hx
  cases hpath : (resolver config).apply file specifier with
  | error f =>
      have hresolve : Call.resolve E config file (.text specifier) m
          = .done (m.fail f).1 (.error (m.fail f).2) := by
        have hmemory : Eval.memory m = .done m (.ok m) := rfl
        unfold Call.resolve
        rw [Eval.bind_apply, hmemory, hE]
        change Eval.ofExcept ((resolver config).apply file specifier) m = _
        rw [hpath]
        rfl
      rw [Machine.tool_require_eq, hresolve] at hx
      obtain ⟨e, he, -⟩ := hx.eq_error
      exact ⟨_, e, follow_of_error he, .fail m f⟩
  | ok path =>
      obtain ⟨reply, htool, hreply, hfails⟩ := Machine.tool_require hE hpath m
      rw [htool] at hx
      obtain ⟨next, hnext, hresembles⟩ := hx.eq_ask
      rw [follow_of_ask hfailing hnext]
      change match (l.registry config).exports path with
        | .error _ => _
        | .ok _ => _
      cases hexports : (l.registry config).exports path with
      | error f =>
          have hgoes := hresembles (m.fail f).1 (.error (m.fail f).2)
          obtain ⟨e, he⟩ := hfails (m.fail f).1 (m.fail f).2
          change (next _ _).Resembles ((reply _ _).bind k) at hgoes
          rw [he] at hgoes
          obtain ⟨e', he', -⟩ := hgoes.eq_error
          exact ⟨_, e', follow_of_error he', .fail m f⟩
      | ok v =>
          dsimp only
          intro good bad hends
          have hgoes := hresembles m (.ok (some v))
          change (next _ _).Resembles ((reply _ _).bind k) at hgoes
          rw [hreply] at hgoes
          change (next _ _).Resembles (k v m) at hgoes
          rcases hends with ⟨w, flow, hk, hgood⟩ | ⟨w, e, hk, hbad⟩
          · rw [hk] at hgoes
            exact ⟨w, _, follow_of_ok hgoes.eq_ok, .inl ⟨rfl, hgood⟩⟩
          · rw [hk] at hgoes
            obtain ⟨e', he', -⟩ := hgoes.eq_error
            exact ⟨w, _, follow_of_error he', .inr ⟨⟨e', rfl⟩, hbad⟩⟩

/-- A statement runs by itself to an end, without a break, and something holds of the memory then and
of what it has come to. -/
def Ends (h : Host World Value Thrown) (l : Loading Value) (requester : Option String)
    (x : Eval Flow) (world : World) (outcome : Memory → Except Thrown Value → Prop) : Prop :=
  ∃ w result, h.follow l requester (alone x world) = .done (world.withMemory w) result
    ∧ outcome w result

end Follow

/-- A statement has failed, and all objects are as they were, the names of the module among them. -/
def Undone (m w : Memory) (result : Except Thrown Value) : Prop :=
  (∃ e, result = .error e) ∧ Keeps [] m w

/-- A statement has ended well. The names of a module have the values of a module for some names, and
all other objects are as they were. -/
def Updated (m : Memory) (globals : Nat) (entries : List (Value × Value)) (v : Value)
    (ns : List String) (w : Memory) (result : Except Thrown Value) : Prop :=
  result = .ok .none ∧ Keeps [globals] m w
    ∧ ∃ pairs, Values m v ns pairs
      ∧ w.get? globals = some (.dict (Memory.setEntries pairs entries))

/-- The statement that a star import becomes. -/
theorem eraseSpans_star {origin : Origin} {module : String} {level : Nat} {span s : Option Span}
    {fs : List (List Tree)} {statement : Tree}
    (h : lowerNode? origin (.node (.importFrom (some module) level) span
      [[.node (.alias "*" none) s fs]]) = .ok (some [statement])) :
    statement.eraseSpans = bindAll (Dependencies.dots level ++ module) := by
  have hbindAll := Form.eraseSpans_statement (.all (Dependencies.dots level ++ module))
  unfold lowerNode? at h
  dsimp only at h
  by_cases hfuture : some module = some Dependencies.futureModule
  · rw [if_pos hfuture] at h
    cases h
  · rw [if_neg hfuture] at h
    cases h
    rw [Tree.eraseSpans_relocate]
    exact hbindAll

/-- Two modules with the same `__all__`, of which the second one has a key that is no name. -/
def twoModules : Memory where
  objects := #[.list [.text "x"],
    .dict [(.text "__all__", .ref 0), (.text "x", .int 1)], .module 1,
    .dict [(.text "__all__", .ref 0), (.text "x", .int 1), (.int 2, .int 3)], .module 3]

/-- Both are registered. -/
def twoRegistered : Loading Value where
  registries := [⟨[⟨"/a.py", .ref 2⟩, ⟨"/b.py", .ref 4⟩]⟩]

/-- The star import of a sibling. -/
def starOf (module : String) : Tree :=
  .node (.importFrom (some module) 1) none [[.node (.alias "*" none) none []]]

end Lowering

end SourceLoader
