import SourceLoader.Proofs.Replaced

/-!
# Imports that stay

After lowering the only imports left are those from `__future__`, which are meant for the compiler
(`Lowering.lower_retains`). They are exactly the ones that the source had, in the same order.

Which imports these are goes by the name of the module, so `from .__future__ import x` stays as
well. It names a module beside the importing one, though, and is not meant for the compiler. The
theorem therefore counts such imports among those that stay: what is left is absolute exactly if
the source has none of them.
-/

namespace SourceLoader.Lowering

open Tree (Is AllAre SomeAre nodesOfAll nodesOfFields)
open Dependencies (futureModule)

/-! ## Imports from `__future__` -/

/-- Is a node an import from `__future__`, with or without points in front? -/
def isFutureImport (t : Tree) : Bool :=
  match t.kind with
  | .importFrom module _ => module = some futureModule
  | _ => false

/-- Is a node an import with points in front? -/
def isRelative (t : Tree) : Bool :=
  match t.kind with
  | .importFrom _ level => level ≠ 0
  | _ => false

theorem isImport_of_isFutureImport {t : Tree} (h : isFutureImport t = true) :
    isImport t = true := by
  unfold isFutureImport at h
  split at h
  · next heq => rw [isImport, heq]
  · cases h

/-- Among the nodes of well-formed trees, the imports that stay are those from `__future__`. -/
theorem isImport_eq {t : Tree} (hformed : t.isWellFormed = true) (hother : isLowered t = false) :
    isImport t = isFutureImport t := by
  obtain ⟨k, s, fs⟩ := t
  have hslots := ((Tree.isWellFormed_iff k s fs).mp hformed).2
  cases k with
  | importNames =>
      obtain ⟨aliases, rfl, -⟩ := Slot.AllFilled.one hslots
      cases hother
  | importFrom m l =>
      obtain ⟨aliases, rfl, -⟩ := Slot.AllFilled.one hslots
      have hfuture : m = some futureModule := by
        by_contra hm
        exact absurd (decide_eq_true hm) (ne_true_of_eq_false hother)
      rw [hfuture]
      rfl
  | _ => rfl

theorem not_isFutureImport_of_isLowered {t : Tree} (h : isLowered t = true) :
    isFutureImport t = false := by
  unfold isLowered at h
  split at h
  · rfl
  · exact decide_eq_false (of_decide_eq_true h)
  · cases h

/-! ## Below an import -/

/-- Listed names are no imports themselves. -/
theorem filter_importNames {p : Tree → Bool} {ts : List Tree} (h : AllAre .importName ts)
    (hp : ∀ n, p n = true → isImport n = true) : (nodesOfAll ts).filter p = [] := by
  rw [List.filter_eq_nil_iff]
  intro n hn hpn
  obtain ⟨a, ha, hna⟩ := Tree.mem_nodesOfAll.mp hn
  obtain ⟨name, asName, s, rfl⟩ := importName_eq (h a ha)
  rcases Tree.mem_nodes_node.mp hna with rfl | ⟨f, hf, -⟩
  · cases hp _ hpn
  · cases hf

theorem importNames_of_isImport {k : Kind} {s : Option Span} {fs : List (List Tree)}
    (hformed : (Tree.node k s fs).isWellFormed = true) (h : isImport (.node k s fs) = true) :
    ∃ aliases, fs = [aliases] ∧ SomeAre .importName aliases := by
  have hslots := ((Tree.isWellFormed_iff k s fs).mp hformed).2
  have hone : k.slots = [.some .importName] := by
    unfold isImport at h
    split at h
    · next heq => rw [show k = .importNames from heq]; rfl
    · next m l heq => rw [show k = .importFrom m l from heq]; rfl
    · cases h
  rw [hone] at hslots
  exact Slot.AllFilled.one hslots

/-- What lists names is the only import among its nodes. -/
theorem filter_nodes_of_isImport {p : Tree → Bool} {t : Tree} (hformed : t.isWellFormed = true)
    (h : isImport t = true) (hp : ∀ n, p n = true → isImport n = true) :
    t.nodes.filter p = if p t then [t] else [] := by
  obtain ⟨k, s, fs⟩ := t
  obtain ⟨aliases, rfl, hall⟩ := importNames_of_isImport hformed h
  rw [Tree.nodes, nodesOfFields, nodesOfFields, List.append_nil, List.filter_cons,
    filter_importNames hall.all hp]

/-- Listed names stay as they are. -/
theorem ReplacingAll.names {ts us : List Tree} (h : ReplacingAll ts us)
    (hall : AllAre .importName ts) : us = ts := by
  induction ts generalizing us with
  | nil => cases h; rfl
  | cons a rest ih =>
      obtain ⟨name, asName, s, rfl⟩ := importName_eq (hall a List.mem_cons_self)
      cases h with
      | put himport => cases himport
      | kept _ hhead htail =>
          obtain ⟨⟨⟩⟩ := hhead
          rw [ih htail fun u hu => hall u (List.mem_cons_of_mem _ hu)]

/-! ## The imports of the result -/

mutual

/-- The imports of the result are those from `__future__`. -/
theorem Replacing.imports : {t u : Tree} → Replacing t u → t.isWellFormed = true →
    isLowered t = false → u.nodes.filter isImport = t.nodes.filter isFutureImport
  | .node k s fs, .node _ _ gs, .node h, hformed, hother => by
    have hkind := isImport_eq hformed hother
    cases himport : isImport (.node k s fs) with
    | true =>
        -- an import that stays keeps its names, so it stays altogether
        obtain ⟨aliases, rfl, hall⟩ := importNames_of_isImport hformed himport
        cases h with
        | cons hnames hnil =>
        cases hnil
        rw [hnames.names hall.all, filter_nodes_of_isImport hformed himport fun _ h => h,
          filter_nodes_of_isImport hformed himport fun _ => isImport_of_isFutureImport, hkind]
    | false =>
        simp only [Tree.isWellFormed, Bool.and_eq_true] at hformed
        have himport' : isImport (.node k s gs) = false := himport
        rw [himport] at hkind
        rw [Tree.nodes, Tree.nodes, List.filter_cons, List.filter_cons, himport', ← hkind,
          h.imports hformed.2]
        rfl

theorem ReplacingFields.imports : {fs gs : List (List Tree)} → ReplacingFields fs gs →
    Tree.areFieldsWellFormed fs = true →
    (nodesOfFields gs).filter isImport = (nodesOfFields fs).filter isFutureImport
  | _, _, .nil, _ => rfl
  | _, _, .cons hhead htail, hformed => by
    simp only [Tree.areFieldsWellFormed, Bool.and_eq_true] at hformed
    rw [nodesOfFields, nodesOfFields, List.filter_append, List.filter_append,
      hhead.imports hformed.1, htail.imports hformed.2]

theorem ReplacingAll.imports : {ts us : List Tree} → ReplacingAll ts us →
    Tree.areWellFormed ts = true →
    (nodesOfAll us).filter isImport = (nodesOfAll ts).filter isFutureImport
  | _, _, .nil, _ => rfl
  | _, _, @ReplacingAll.put t statements ts us himport hhead htail, hformed => by
    simp only [Tree.areWellFormed, Bool.and_eq_true] at hformed
    have hnone : (nodesOfAll statements).filter isImport = [] := by
      rw [List.filter_eq_nil_iff]
      intro n hn hkind
      obtain ⟨u, hu, hnu⟩ := Tree.mem_nodesOfAll.mp hn
      rw [isImport_of_standFor hhead hu hnu] at hkind
      cases hkind
    rw [nodesOfAll, Tree.nodesOfAll_append, List.filter_append, List.filter_append, hnone,
      htail.imports hformed.2, filter_nodes_of_isImport hformed.1 (isImport_of_isLowered himport)
        fun _ => isImport_of_isFutureImport, not_isFutureImport_of_isLowered himport]
    rfl
  | _, _, .kept hother hhead htail, hformed => by
    simp only [Tree.areWellFormed, Bool.and_eq_true] at hformed
    rw [nodesOfAll, nodesOfAll, List.filter_append, List.filter_append,
      hhead.imports hformed.1 hother, htail.imports hformed.2]

end

mutual

/-- The statements for an import stand in the result. -/
theorem Replacing.put_mem : {t u : Tree} → Replacing t u → t.isWellFormed = true →
    isLowered t = false → ∀ n ∈ t.nodes, isLowered n = true →
      ∃ statements, StandFor n statements ∧ ∀ s ∈ statements, s ∈ u.nodes
  | .node k s fs, .node _ _ gs, .node h, hformed, hother => by
    simp only [Tree.isWellFormed, Bool.and_eq_true] at hformed
    intro n hn hlowered
    rw [Tree.nodes] at hn
    rcases List.mem_cons.mp hn with rfl | hn
    · rw [hother] at hlowered
      cases hlowered
    · obtain ⟨statements, hstand, hmem⟩ := h.put_mem hformed.2 n hn hlowered
      exact ⟨statements, hstand, fun u hu => List.mem_cons_of_mem _ (hmem u hu)⟩

theorem ReplacingFields.put_mem : {fs gs : List (List Tree)} → ReplacingFields fs gs →
    Tree.areFieldsWellFormed fs = true → ∀ n ∈ nodesOfFields fs, isLowered n = true →
      ∃ statements, StandFor n statements ∧ ∀ s ∈ statements, s ∈ nodesOfFields gs
  | _, _, .nil, _ => fun _ hn => absurd hn List.not_mem_nil
  | _, _, .cons hhead htail, hformed => by
    simp only [Tree.areFieldsWellFormed, Bool.and_eq_true] at hformed
    intro n hn hlowered
    rcases List.mem_append.mp hn with hn | hn
    · obtain ⟨statements, hstand, hmem⟩ := hhead.put_mem hformed.1 n hn hlowered
      exact ⟨statements, hstand, fun u hu => List.mem_append_left _ (hmem u hu)⟩
    · obtain ⟨statements, hstand, hmem⟩ := htail.put_mem hformed.2 n hn hlowered
      exact ⟨statements, hstand, fun u hu => List.mem_append_right _ (hmem u hu)⟩

theorem ReplacingAll.put_mem : {ts us : List Tree} → ReplacingAll ts us →
    Tree.areWellFormed ts = true → ∀ n ∈ nodesOfAll ts, isLowered n = true →
      ∃ statements, StandFor n statements ∧ ∀ s ∈ statements, s ∈ nodesOfAll us
  | _, _, .nil, _ => fun _ hn => absurd hn List.not_mem_nil
  | _, _, @ReplacingAll.put t statements ts us himport hhead htail, hformed => by
    simp only [Tree.areWellFormed, Bool.and_eq_true] at hformed
    intro n hn hlowered
    rw [Tree.nodesOfAll_append]
    rcases List.mem_append.mp hn with hn | hn
    · -- the import is the only one among its own nodes
      have hself : n ∈ t.nodes.filter isLowered := List.mem_filter.mpr ⟨hn, hlowered⟩
      rw [filter_nodes_of_isImport hformed.1 (isImport_of_isLowered himport)
        fun _ => isImport_of_isLowered, if_pos himport, List.mem_singleton] at hself
      subst hself
      refine ⟨statements, hhead, fun u hu => List.mem_append_left _ ?_⟩
      exact Tree.mem_nodesOfAll.mpr ⟨u, hu, Tree.self_mem_nodes u⟩
    · obtain ⟨found, hstand, hmem⟩ := htail.put_mem hformed.2 n hn hlowered
      exact ⟨found, hstand, fun u hu => List.mem_append_right _ (hmem u hu)⟩
  | _, _, .kept hother hhead htail, hformed => by
    simp only [Tree.areWellFormed, Bool.and_eq_true] at hformed
    intro n hn hlowered
    rcases List.mem_append.mp hn with hn | hn
    · obtain ⟨found, hstand, hmem⟩ := hhead.put_mem hformed.1 hother n hn hlowered
      exact ⟨found, hstand, fun u hu => List.mem_append_left _ (hmem u hu)⟩
    · obtain ⟨found, hstand, hmem⟩ := htail.put_mem hformed.2 n hn hlowered
      exact ⟨found, hstand, fun u hu => List.mem_append_right _ (hmem u hu)⟩

end

/-- **The imports that stay are those from `__future__`.** When the module of a source is lowered,
the imports of the result, at any depth, are the `from` imports of the source whose module is
`__future__`, unchanged and in the same order. The statements that stand for each other import are
in the result. So what stays is absolute exactly if no import from `__future__` is relative. -/
theorem lower_retains {source : String} {t t' : Tree} {warnings : List Warning} {origin : Origin}
    (hparse : Source.parse source = .ok (t, warnings)) (hlower : lower origin t = .ok t') :
    t'.nodes.filter isImport = t.nodes.filter isFutureImport
    ∧ (∀ n ∈ t.nodes, isImport n = true → isFutureImport n = false →
      ∃ statements, StandFor n statements ∧ ∀ s ∈ statements, s ∈ t'.nodes)
    ∧ ((∀ n ∈ t'.nodes, isImport n = true → isFutureImport n = true ∧ isRelative n = false)
      ↔ ∀ n ∈ t.nodes, isFutureImport n = true → isRelative n = false) := by
  have his := Source.parse_is hparse
  have hroot := isLowered_of_module his
  have hreplacing := replacing_of_lower his hlower
  have himports := hreplacing.imports his.2 hroot
  refine ⟨himports, ?_, ?_⟩
  · intro n hn himport hfuture
    refine hreplacing.put_mem his.2 hroot n hn (eq_true_of_ne_false fun hother => ?_)
    rw [isImport_eq (Tree.isWellFormed_of_mem_nodes t his.2 n hn) hother, hfuture] at himport
    cases himport
  · have hmem (n : Tree) : n ∈ t'.nodes ∧ isImport n = true
        ↔ n ∈ t.nodes ∧ isFutureImport n = true := by
      rw [← List.mem_filter, himports, List.mem_filter]
    constructor
    · intro h n hn hfuture
      obtain ⟨hn', himport⟩ := (hmem n).mpr ⟨hn, hfuture⟩
      exact (h n hn' himport).2
    · intro h n hn himport
      obtain ⟨hn', hfuture⟩ := (hmem n).mp ⟨hn, himport⟩
      exact ⟨hfuture, h n hn' hfuture⟩

/-- An import from a module beside this one that is called `__future__` stays, and is left to the
interpreter. -/
theorem relative_future_stays :
    ∃ t t', lowered? "from .__future__ import a\nfrom .m import b\n" = some (t, t')
      ∧ t'.nodes.filter isImport = t.nodes.filter isFutureImport
      ∧ ∃ n ∈ t'.nodes, isImport n = true ∧ isRelative n = true := by
  have hstays : (lowered? "from .__future__ import a\nfrom .m import b\n").map
      (fun trees => trees.2.nodes.any fun n => isImport n && isRelative n) = some true := by
    decide +kernel
  obtain ⟨⟨t, t'⟩, hlowered, hany⟩ := Option.map_eq_some_iff.mp hstays
  obtain ⟨warnings, hparse, hlower⟩ := lowered?_eq_some hlowered
  obtain ⟨n, hn, hkind⟩ := List.any_eq_true.mp hany
  exact ⟨t, t', hlowered, (lower_retains hparse hlower).1, n, hn, by simpa using hkind⟩

end SourceLoader.Lowering
