import SourceLoader.Proofs.Marks.Order

/-!
# Trees side by side

Two trees have the same shape if their nodes agree in what they are called, one by one
(`Tree.sameShape`). Their lists of nodes then pair each node of one tree with its counterpart in the
other, and so do their walks, level by level (`Tree.levels_sameShape`).

A walk comes to a node before it comes to anything below. So if all nodes that begin on a line are
part of one of them, that one is the first which the walk finds on the line (`Tree.find?_walk`).
-/

namespace SourceLoader

namespace Tree

mutual

/-- Do two trees have the same shape, with nodes of the same sort and with the same marks? -/
def sameShape : Tree → Tree → Bool
  | .node k _ fs, .node k' _ gs =>
    k.title = k'.title && k.marks = k'.marks && sameShapeFields fs gs

/-- Do some fields have the same shape? -/
def sameShapeFields : List (List Tree) → List (List Tree) → Bool
  | [], [] => true
  | f :: fs, g :: gs => sameShapeAll f g && sameShapeFields fs gs
  | _, _ => false

/-- Do some trees have the same shape? -/
def sameShapeAll : List Tree → List Tree → Bool
  | [], [] => true
  | t :: ts, u :: us => sameShape t u && sameShapeAll ts us
  | _, _ => false

end

/-- A missing tree is known by its name. -/
theorem eq_absent_of_title {k : Kind} (h : k.title = Kind.title .absent) : k = .absent := by
  cases k
  case absent => rfl
  case functionDef isAsync _ | forLoop isAsync | withStmt isAsync | tryStmt isAsync =>
    cases isAsync <;> simp [Kind.title] at h
  all_goals simp [Kind.title] at h

/-- Whether nodes have a place is known by their name. -/
theorem hasSpan_eq_of_title {k k' : Kind} (h : k.title = k'.title) : k.hasSpan = k'.hasSpan := by
  have hknown (k : Kind) : k.hasSpan = !(["Module", "comprehension", "arguments", "withitem",
      "match_case", "absent"].contains k.title) := by
    cases k
    case functionDef isAsync _ | forLoop isAsync | withStmt isAsync | tryStmt isAsync =>
      cases isAsync <;> rfl
    all_goals rfl
  rw [hknown k, hknown k', h]

/-! ## Counterparts -/

mutual

theorem length_nodes_of_sameShape : (t u : Tree) → sameShape t u = true →
    t.nodes.length = u.nodes.length
  | .node k s fs, .node k' s' gs, h => by
    rw [sameShape, Bool.and_eq_true] at h
    rw [nodes, nodes, List.length_cons, List.length_cons,
      length_nodesOfFields_of_sameShape fs gs h.2]

theorem length_nodesOfFields_of_sameShape : (fs gs : List (List Tree)) →
    sameShapeFields fs gs = true → (nodesOfFields fs).length = (nodesOfFields gs).length
  | [], [], _ => rfl
  | f :: fs, g :: gs, h => by
    rw [sameShapeFields, Bool.and_eq_true] at h
    rw [nodesOfFields, nodesOfFields, List.length_append, List.length_append,
      length_nodesOfAll_of_sameShape f g h.1, length_nodesOfFields_of_sameShape fs gs h.2]

theorem length_nodesOfAll_of_sameShape : (ts us : List Tree) → sameShapeAll ts us = true →
    (nodesOfAll ts).length = (nodesOfAll us).length
  | [], [], _ => rfl
  | t :: ts, u :: us, h => by
    rw [sameShapeAll, Bool.and_eq_true] at h
    rw [nodesOfAll, nodesOfAll, List.length_append, List.length_append,
      length_nodes_of_sameShape t u h.1, length_nodesOfAll_of_sameShape ts us h.2]

end

theorem zip_nodesOfFields {f g : List Tree} {fs gs : List (List Tree)}
    (h : sameShapeFields (f :: fs) (g :: gs) = true) :
    (nodesOfFields (f :: fs)).zip (nodesOfFields (g :: gs))
      = (nodesOfAll f).zip (nodesOfAll g) ++ (nodesOfFields fs).zip (nodesOfFields gs) := by
  rw [sameShapeFields, Bool.and_eq_true] at h
  rw [nodesOfFields, nodesOfFields, List.zip_append (length_nodesOfAll_of_sameShape f g h.1)]

theorem zip_nodesOfAll {t u : Tree} {ts us : List Tree}
    (h : sameShapeAll (t :: ts) (u :: us) = true) :
    (nodesOfAll (t :: ts)).zip (nodesOfAll (u :: us))
      = t.nodes.zip u.nodes ++ (nodesOfAll ts).zip (nodesOfAll us) := by
  rw [sameShapeAll, Bool.and_eq_true] at h
  rw [nodesOfAll, nodesOfAll, List.zip_append (length_nodes_of_sameShape t u h.1)]

mutual

/-- Counterparts have the same shape. -/
theorem sameShape_of_mem_zip : (t u : Tree) → sameShape t u = true →
    ∀ p ∈ t.nodes.zip u.nodes, sameShape p.1 p.2 = true
  | .node k s fs, .node k' s' gs, h => by
    rw [nodes, nodes, List.zip_cons_cons, List.forall_mem_cons]
    rw [sameShape, Bool.and_eq_true] at h
    exact ⟨by rw [sameShape, Bool.and_eq_true]; exact h, sameShape_of_mem_zipFields fs gs h.2⟩

theorem sameShape_of_mem_zipFields : (fs gs : List (List Tree)) → sameShapeFields fs gs = true →
    ∀ p ∈ (nodesOfFields fs).zip (nodesOfFields gs), sameShape p.1 p.2 = true
  | [], [], _ => by simp [nodesOfFields]
  | f :: fs, g :: gs, h => by
    rw [zip_nodesOfFields h, List.forall_mem_append]
    rw [sameShapeFields, Bool.and_eq_true] at h
    exact ⟨sameShape_of_mem_zipAll f g h.1, sameShape_of_mem_zipFields fs gs h.2⟩

theorem sameShape_of_mem_zipAll : (ts us : List Tree) → sameShapeAll ts us = true →
    ∀ p ∈ (nodesOfAll ts).zip (nodesOfAll us), sameShape p.1 p.2 = true
  | [], [], _ => by simp [nodesOfAll]
  | t :: ts, u :: us, h => by
    rw [zip_nodesOfAll h, List.forall_mem_append]
    rw [sameShapeAll, Bool.and_eq_true] at h
    exact ⟨sameShape_of_mem_zip t u h.1, sameShape_of_mem_zipAll ts us h.2⟩

end

/-- Counterparts are called the same. -/
theorem title_eq_of_mem_zip {t u : Tree} (h : sameShape t u = true) {p : Tree × Tree}
    (hp : p ∈ t.nodes.zip u.nodes) : p.1.kind.title = p.2.kind.title := by
  have hshape := sameShape_of_mem_zip t u h p hp
  obtain ⟨⟨k, s, fs⟩, ⟨k', s', gs⟩⟩ := p
  simp only [sameShape, Bool.and_eq_true, decide_eq_true_eq] at hshape
  exact hshape.1.1

mutual

/-- What is below two counterparts is paired in the same way. -/
theorem zip_nodes_sublist : (t u : Tree) → sameShape t u = true →
    ∀ p ∈ t.nodes.zip u.nodes, (p.1.nodes.zip p.2.nodes).Sublist (t.nodes.zip u.nodes)
  | .node k s fs, .node k' s' gs, h => by
    rw [sameShape, Bool.and_eq_true] at h
    intro p hp
    rw [nodes, nodes, List.zip_cons_cons, List.mem_cons] at hp
    rcases hp with rfl | hp
    · exact .refl _
    · rw [nodes.eq_def (.node k s fs), nodes.eq_def (.node k' s' gs)]
      exact .cons _ (zip_nodes_sublistFields fs gs h.2 p hp)

theorem zip_nodes_sublistFields : (fs gs : List (List Tree)) → sameShapeFields fs gs = true →
    ∀ p ∈ (nodesOfFields fs).zip (nodesOfFields gs),
      (p.1.nodes.zip p.2.nodes).Sublist ((nodesOfFields fs).zip (nodesOfFields gs))
  | [], [], _ => by simp [nodesOfFields]
  | f :: fs, g :: gs, h => by
    rw [zip_nodesOfFields h, List.forall_mem_append]
    rw [sameShapeFields, Bool.and_eq_true] at h
    exact ⟨fun p hp => (zip_nodes_sublistAll f g h.1 p hp).trans (List.sublist_append_left _ _),
      fun p hp => (zip_nodes_sublistFields fs gs h.2 p hp).trans (List.sublist_append_right _ _)⟩

theorem zip_nodes_sublistAll : (ts us : List Tree) → sameShapeAll ts us = true →
    ∀ p ∈ (nodesOfAll ts).zip (nodesOfAll us),
      (p.1.nodes.zip p.2.nodes).Sublist ((nodesOfAll ts).zip (nodesOfAll us))
  | [], [], _ => by simp [nodesOfAll]
  | t :: ts, u :: us, h => by
    rw [zip_nodesOfAll h, List.forall_mem_append]
    rw [sameShapeAll, Bool.and_eq_true] at h
    exact ⟨fun p hp => (zip_nodes_sublist t u h.1 p hp).trans (List.sublist_append_left _ _),
      fun p hp => (zip_nodes_sublistAll ts us h.2 p hp).trans (List.sublist_append_right _ _)⟩

end

/-! ## Walks -/

/-- Two stops of walks belong together: they are the same mark, or nodes that are paired. -/
def StopsPaired (pairs : List (Tree × Tree)) (o e : WalkStop) : Prop :=
  (∃ title, o = .mark title ∧ e = .mark title) ∨ ∃ n m, (n, m) ∈ pairs ∧ o = .node n ∧ e = .node m

theorem StopsPaired.mono {ps qs : List (Tree × Tree)} (hsub : ps ⊆ qs) {o e : WalkStop}
    (h : StopsPaired ps o e) : StopsPaired qs o e :=
  h.imp id fun ⟨n, m, hmem, hnodes⟩ => ⟨n, m, hsub hmem, hnodes⟩

theorem besides_forall₂ {α β : Type} {R : α → β → Prop} {ls ms : List (List α)}
    {ls' ms' : List (List β)} (hl : List.Forall₂ (List.Forall₂ R) ls ls')
    (hm : List.Forall₂ (List.Forall₂ R) ms ms') :
    List.Forall₂ (List.Forall₂ R) (besides ls ms) (besides ls' ms') := by
  induction hl generalizing ms ms' with
  | nil => simpa only [besides] using hm
  | cons h hl ih =>
      cases hm with
      | nil => exact .cons h hl
      | cons h' hm => exact .cons (List.rel_append h h') (ih hm)

/-- Levels whose stops belong together. -/
abbrev LevelsPaired (pairs : List (Tree × Tree)) :
    List (List WalkStop) → List (List WalkStop) → Prop :=
  List.Forall₂ (List.Forall₂ (StopsPaired pairs))

theorem LevelsPaired.mono {ps qs : List (Tree × Tree)} (hsub : ps ⊆ qs)
    {ls ms : List (List WalkStop)} (h : LevelsPaired ps ls ms) : LevelsPaired qs ls ms :=
  h.imp fun _ _ hrow => hrow.imp fun _ _ hstop => hstop.mono hsub

theorem LevelsPaired.besides {ps qs : List (Tree × Tree)} {ls ls' ms ms' : List (List WalkStop)}
    (hl : LevelsPaired ps ls ls') (hm : LevelsPaired qs ms ms') :
    LevelsPaired (ps ++ qs) (besides ls ms) (besides ls' ms') :=
  besides_forall₂ (hl.mono (List.subset_append_left ps qs))
    (hm.mono (List.subset_append_right ps qs))

theorem levelsPaired_marks (pairs : List (Tree × Tree)) (titles : List String) :
    LevelsPaired pairs
      (if (titles.map WalkStop.mark).isEmpty then [] else [titles.map .mark])
      (if (titles.map WalkStop.mark).isEmpty then [] else [titles.map .mark]) := by
  have hrow : List.Forall₂ (StopsPaired pairs) (titles.map .mark) (titles.map .mark) := by
    induction titles with
    | nil => exact .nil
    | cons title titles ih => exact .cons (.inl ⟨title, rfl, rfl⟩) ih
  split
  · exact .nil
  · exact .cons hrow .nil

mutual

/-- **The levels of trees of the same shape consist of counterparts.** -/
theorem levels_sameShape : (t u : Tree) → sameShape t u = true →
    LevelsPaired (t.nodes.zip u.nodes) t.levels u.levels
  | .node k s fs, .node k' s' gs, h => by
    simp only [sameShape, Bool.and_eq_true, decide_eq_true_eq] at h
    obtain ⟨⟨htitle, hmarks⟩, hfields⟩ := h
    have hbelow : LevelsPaired _ _ _ := levelsOfFields_sameShape k.marks.1 k.marks.2 fs gs hfields
    by_cases hk : k = .absent
    · subst hk
      rw [eq_absent_of_title htitle.symm]
      exact .nil
    · have hk' : k' ≠ .absent := fun heq => hk (eq_absent_of_title (htitle.trans (heq ▸ rfl)))
      rw [levels_of_present hk, levels_of_present hk', ← hmarks]
      refine .cons (.cons (.inr ⟨_, _, ?_, rfl, rfl⟩) .nil) (hbelow.mono ?_)
      · exact List.mem_cons_self
      · exact List.subset_cons_self _ _

theorem levelsOfFields_sameShape (position : Nat) (titles : List String) :
    (fs gs : List (List Tree)) → sameShapeFields fs gs = true →
    LevelsPaired ((nodesOfFields fs).zip (nodesOfFields gs))
      (levelsOfFields position (titles.map .mark) fs)
      (levelsOfFields position (titles.map .mark) gs)
  | [], [], _ => levelsPaired_marks _ titles
  | f :: fs, g :: gs, h => by
    rw [zip_nodesOfFields h]
    rw [sameShapeFields, Bool.and_eq_true] at h
    have hparts (position : Nat) (titles : List String) :=
      (levelsOfAll_sameShape f g h.1).besides (levelsOfFields_sameShape position titles fs gs h.2)
    cases position with
    | zero => exact (levelsPaired_marks [] titles).besides (hparts 0 [])
    | succ position => exact hparts position titles

theorem levelsOfAll_sameShape : (ts us : List Tree) → sameShapeAll ts us = true →
    LevelsPaired ((nodesOfAll ts).zip (nodesOfAll us)) (levelsOfAll ts) (levelsOfAll us)
  | [], [], _ => .nil
  | t :: ts, u :: us, h => by
    rw [zip_nodesOfAll h]
    rw [sameShapeAll, Bool.and_eq_true] at h
    exact (levels_sameShape t u h.1).besides (levelsOfAll_sameShape ts us h.2)

end

/-- The walks of trees of the same shape consist of counterparts. -/
theorem walk_sameShape {t u : Tree} (h : sameShape t u = true) :
    List.Forall₂ (StopsPaired (t.nodes.zip u.nodes)) t.walk u.walk :=
  List.rel_flatten (levels_sameShape t u h)

/-! ## Lines -/

/-- Does the tree begin on a line? -/
def beginsOn (line : Nat) (t : Tree) : Bool := t.span?.any (·.line = line)

/-- Does the second stop of a pair begin on a line? -/
def lands (line : Nat) (p : WalkStop × WalkStop) : Bool := p.2.line? = some line

theorem lands_node {line : Nat} {n m : Tree} :
    lands line (.node n, .node m) = m.beginsOn line := by
  rw [lands, beginsOn, WalkStop.line?]
  cases m.span? <;> simp

/-- Levels side by side. -/
def zipLevels (ls ms : List (List WalkStop)) : List (List (WalkStop × WalkStop)) :=
  List.zipWith List.zip ls ms

section ZipLevels

variable {ps qs : List (Tree × Tree)} {ls ls' ms ms' : List (List WalkStop)}

theorem flatten_zipLevels (h : LevelsPaired ps ls ls') :
    (zipLevels ls ls').flatten = ls.flatten.zip ls'.flatten := by
  induction h with
  | nil => rfl
  | cons hrow _ ih =>
      rw [zipLevels, List.zipWith_cons_cons, List.flatten_cons, ← zipLevels, ih, List.flatten_cons,
        List.flatten_cons, List.zip_append hrow.length_eq]

theorem zipLevels_besides (hl : LevelsPaired ps ls ls') (hm : LevelsPaired qs ms ms') :
    zipLevels (besides ls ms) (besides ls' ms')
      = besides (zipLevels ls ls') (zipLevels ms ms') := by
  induction hl generalizing ms ms' with
  | nil => simp [besides, zipLevels]
  | cons hrow hl ih =>
      cases hm with
      | nil => rfl
      | cons hrow' hm =>
          have hrest := ih hm
          simp only [zipLevels, besides, List.zipWith_cons_cons] at hrest ⊢
          rw [hrest, List.zip_append hrow.length_eq]

/-- Where no counterpart begins on a line, no pair of stops does. -/
theorem not_lands_of_levelsPaired {line : Nat} (h : LevelsPaired ps ls ls')
    (hquiet : ∀ p ∈ ps, p.2.beginsOn line = false) :
    ∀ p ∈ (zipLevels ls ls').flatten, lands line p = false := by
  rw [flatten_zipLevels h]
  rintro ⟨o, e⟩ hp
  have hstops : List.Forall₂ (StopsPaired ps) ls.flatten ls'.flatten := List.rel_flatten h
  rcases List.forall₂_zip hstops hp with ⟨title, rfl, rfl⟩ | ⟨n, m, hmem, rfl, rfl⟩
  · rfl
  · rw [lands_node]
    exact hquiet _ hmem

end ZipLevels

section Find

variable {α : Type} {q : α → Bool} {ls ms : List (List α)}

theorem find?_none {as : List α} (h : ∀ a ∈ as, q a = false) : as.find? q = none :=
  List.find?_eq_none.mpr fun a ha => by simp [h a ha]

theorem find?_besides_left (h : ∀ a ∈ ms.flatten, q a = false) :
    (besides ls ms).flatten.find? q = ls.flatten.find? q := by
  fun_induction besides ls ms with
  | case1 ms => exact find?_none h
  | case2 => rfl
  | case3 l ls m ms ih =>
      rw [List.flatten_cons, List.forall_mem_append] at h
      rw [List.flatten_cons, List.flatten_cons, List.find?_append, List.find?_append,
        List.find?_append, find?_none h.1, Option.or_none, ih h.2]

theorem find?_besides_right (h : ∀ a ∈ ls.flatten, q a = false) :
    (besides ls ms).flatten.find? q = ms.flatten.find? q := by
  fun_induction besides ls ms with
  | case1 => rfl
  | case2 => exact find?_none h
  | case3 l ls m ms ih =>
      rw [List.flatten_cons, List.forall_mem_append] at h
      rw [List.flatten_cons, List.flatten_cons, List.find?_append, List.find?_append,
        List.find?_append, find?_none h.1, Option.none_or, ih h.2]

end Find

/-! ## The first on its line -/

theorem nodes_sublist_nodesOfAll {n : Tree} {ts : List Tree}
    (hbelow : ∀ t ∈ ts, n ∈ t.nodes → n.nodes.Sublist t.nodes) (h : n ∈ nodesOfAll ts) :
    n.nodes.Sublist (nodesOfAll ts) := by
  obtain ⟨t, ht, hn⟩ := mem_nodesOfAll.mp h
  rw [nodesOfAll_eq_flatMap, List.flatMap_def]
  exact (hbelow t ht hn).trans (List.sublist_flatten_of_mem (List.mem_map_of_mem ht))

theorem nodes_sublist {n t : Tree} (h : n ∈ t.nodes) : n.nodes.Sublist t.nodes := by
  induction t using Tree.induction with
  | h t ih =>
  rcases mem_nodes_iff.mp h with rfl | ⟨c, hc, hn⟩
  · exact .refl _
  · rw [nodes_eq_flatMap t, ← nodesOfAll_eq_flatMap]
    exact .cons _ (nodes_sublist_nodesOfAll ih (mem_nodesOfAll.mpr ⟨c, hc, hn⟩))

/-- The number of nodes that begin on a line. -/
def countOn (line : Nat) (ns : List Tree) : Nat := ns.countP (beginsOn line)

theorem countOn_append (line : Nat) (ns ms : List Tree) :
    countOn line (ns ++ ms) = countOn line ns + countOn line ms := List.countP_append

theorem not_beginsOn_of_countOn {line : Nat} {ns ms : List Tree} (h : countOn line ms = 0) :
    ∀ p ∈ ns.zip ms, p.2.beginsOn line = false := by
  rintro ⟨n, m⟩ hp
  have hnone := List.countP_eq_zero.mp h m (List.of_mem_zip hp).2
  simpa using hnone

section First

variable {S S' : Tree} {line : Nat}

theorem sublist_of_mem_zipAll {ts us : List Tree}
    (h : (S, S') ∈ (nodesOfAll ts).zip (nodesOfAll us)) : S'.nodes.Sublist (nodesOfAll us) :=
  nodes_sublist_nodesOfAll (fun _ _ => nodes_sublist) (List.of_mem_zip h).2

theorem sublist_of_mem_zipFields {fs gs : List (List Tree)}
    (h : (S, S') ∈ (nodesOfFields fs).zip (nodesOfFields gs)) :
    S'.nodes.Sublist (nodesOfFields gs) := by
  have hflat (gs : List (List Tree)) : nodesOfFields gs = nodesOfAll gs.flatten := by
    induction gs with
    | nil => rfl
    | cons g gs ih => rw [nodesOfFields, ih, List.flatten_cons, nodesOfAll_append]
  rw [hflat]
  exact nodes_sublist_nodesOfAll (fun _ _ => nodes_sublist) (hflat gs ▸ (List.of_mem_zip h).2)

/-- Where all nodes on the line are part of `S'`, none is in what stands beside it. -/
theorem countOn_beside {ns ms : List Tree} (hsub : S'.nodes.Sublist ns)
    (hcount : countOn line ns + countOn line ms = countOn line S'.nodes) :
    countOn line ns = countOn line S'.nodes ∧ countOn line ms = 0 := by
  have hle : countOn line S'.nodes ≤ countOn line ns := hsub.countP_le
  omega

mutual

/-- The levels come to a node before they come to anything below it. -/
theorem find?_levels (hland : S'.beginsOn line = true) : (t u : Tree) → sameShape t u = true →
    u.isWellFormed = true → (S, S') ∈ t.nodes.zip u.nodes →
    countOn line u.nodes = countOn line S'.nodes →
    (zipLevels t.levels u.levels).flatten.find? (lands line) = some (.node S, .node S')
  | .node k s fs, .node k' s' gs, h, hformed, hmem, hcount => by
    simp only [sameShape, Bool.and_eq_true, decide_eq_true_eq] at h
    obtain ⟨⟨htitle, hmarks⟩, hfields⟩ := h
    rw [nodes, nodes, List.zip_cons_cons, List.mem_cons] at hmem
    by_cases hk' : k' = .absent
    · -- A missing tree has no place, and nothing stands below it.
      subst hk'
      have hmissing := eq_missing_of_isWellFormed hformed
      cases hmissing
      rcases hmem with hroot | hbelow
      · cases hroot
        cases hland
      · simp [nodesOfFields] at hbelow
    have hk : k ≠ .absent := fun heq => hk' (eq_absent_of_title (htitle.symm.trans (heq ▸ rfl)))
    rw [levels_of_present hk, levels_of_present hk', ← hmarks, zipLevels, List.zipWith_cons_cons,
      ← zipLevels, List.flatten_cons, List.zip_cons_cons, List.zip_nil_left, List.singleton_append]
    rcases hmem with hroot | hbelow
    · cases hroot
      exact List.find?_cons_of_pos (by rwa [lands_node])
    · simp only [isWellFormed, Bool.and_eq_true] at hformed
      have hle : countOn line S'.nodes ≤ countOn line (nodesOfFields gs) :=
        (sublist_of_mem_zipFields hbelow).countP_le
      have hsplit := countOn_append line [.node k' s' gs] (nodesOfFields gs)
      rw [List.singleton_append, ← nodes, hcount] at hsplit
      have hquiet : (Tree.node k' s' gs).beginsOn line = false := by
        have hnone : countOn line [.node k' s' gs] = 0 := by omega
        simpa [countOn] using hnone
      rw [List.find?_cons_of_neg (by simpa [lands_node] using hquiet)]
      exact find?_levelsOfFields hland k.marks.1 k.marks.2 fs gs hfields hformed.2 hbelow
        (by omega)

theorem find?_levelsOfFields (hland : S'.beginsOn line = true) (position : Nat)
    (titles : List String) : (fs gs : List (List Tree)) →
    sameShapeFields fs gs = true → areFieldsWellFormed gs = true →
    (S, S') ∈ (nodesOfFields fs).zip (nodesOfFields gs) →
    countOn line (nodesOfFields gs) = countOn line S'.nodes →
    (zipLevels (levelsOfFields position (titles.map .mark) fs)
      (levelsOfFields position (titles.map .mark) gs)).flatten.find? (lands line)
        = some (.node S, .node S')
  | [], [], _, _, hmem, _ => by simp [nodesOfFields] at hmem
  | f :: fs, g :: gs, h, hformed, hmem, hcount => by
    rw [zip_nodesOfFields h, List.mem_append] at hmem
    rw [nodesOfFields, countOn_append] at hcount
    rw [sameShapeFields, Bool.and_eq_true] at h
    rw [areFieldsWellFormed, Bool.and_eq_true] at hformed
    have hmarks := levelsPaired_marks [] titles
    have hfirst := levelsOfAll_sameShape f g h.1
    have hrest (position : Nat) (titles : List String) :=
      levelsOfFields_sameShape position titles fs gs h.2
    -- Two parts side by side: one of them holds `S'`, and no node of the other begins on its line.
    have hparts (position : Nat) (titles : List String) :
        (besides (zipLevels (levelsOfAll f) (levelsOfAll g))
          (zipLevels (levelsOfFields position (titles.map .mark) fs)
            (levelsOfFields position (titles.map .mark) gs))).flatten.find? (lands line)
          = some (.node S, .node S') := by
      rcases hmem with hhere | hlater
      · obtain ⟨heq, hquiet⟩ := countOn_beside (sublist_of_mem_zipAll hhere) hcount
        rw [find?_besides_left (not_lands_of_levelsPaired (hrest position titles)
          (not_beginsOn_of_countOn hquiet))]
        exact find?_levelsOfAll hland f g h.1 hformed.1 hhere heq
      · obtain ⟨heq, hquiet⟩ := countOn_beside (sublist_of_mem_zipFields hlater)
          ((Nat.add_comm _ _).trans hcount)
        rw [find?_besides_right (not_lands_of_levelsPaired hfirst
          (not_beginsOn_of_countOn hquiet))]
        exact find?_levelsOfFields hland position titles fs gs h.2 hformed.2 hlater heq
    cases position with
    | succ position =>
        simp only [levelsOfFields]
        rw [zipLevels_besides hfirst (hrest position titles)]
        exact hparts position titles
    | zero =>
        simp only [levelsOfFields]
        have hbehind : LevelsPaired _ (levelsOfFields 0 [] fs) (levelsOfFields 0 [] gs) :=
          hrest 0 []
        rw [zipLevels_besides hmarks (hfirst.besides hbehind), zipLevels_besides hfirst hbehind,
          find?_besides_right (not_lands_of_levelsPaired hmarks (by simp))]
        exact hparts 0 []

theorem find?_levelsOfAll (hland : S'.beginsOn line = true) : (ts us : List Tree) →
    sameShapeAll ts us = true → areWellFormed us = true →
    (S, S') ∈ (nodesOfAll ts).zip (nodesOfAll us) →
    countOn line (nodesOfAll us) = countOn line S'.nodes →
    (zipLevels (levelsOfAll ts) (levelsOfAll us)).flatten.find? (lands line)
      = some (.node S, .node S')
  | [], [], _, _, hmem, _ => by simp [nodesOfAll] at hmem
  | t :: ts, u :: us, h, hformed, hmem, hcount => by
    rw [zip_nodesOfAll h, List.mem_append] at hmem
    rw [nodesOfAll, countOn_append] at hcount
    rw [sameShapeAll, Bool.and_eq_true] at h
    rw [areWellFormed, Bool.and_eq_true] at hformed
    have hfirst := levels_sameShape t u h.1
    have hrest := levelsOfAll_sameShape ts us h.2
    rw [levelsOfAll, levelsOfAll, zipLevels_besides hfirst hrest]
    rcases hmem with hhere | hlater
    · obtain ⟨heq, hquiet⟩ := countOn_beside (nodes_sublist (List.of_mem_zip hhere).2) hcount
      rw [find?_besides_left (not_lands_of_levelsPaired hrest (not_beginsOn_of_countOn hquiet))]
      exact find?_levels hland t u h.1 hformed.1 hhere heq
    · obtain ⟨heq, hquiet⟩ := countOn_beside (sublist_of_mem_zipAll hlater)
        ((Nat.add_comm _ _).trans hcount)
      rw [find?_besides_right (not_lands_of_levelsPaired hfirst (not_beginsOn_of_countOn hquiet))]
      exact find?_levelsOfAll hland ts us h.2 hformed.2 hlater heq

end

/-- **The walk comes to a node before it comes to anything below it**: where all nodes that begin on
a line are part of one that begins there, that one is the first of them. -/
theorem find?_walk {t u : Tree} (h : sameShape t u = true) (hformed : u.isWellFormed = true)
    (hmem : (S, S') ∈ t.nodes.zip u.nodes) (hland : S'.beginsOn line = true)
    (hcount : countOn line u.nodes = countOn line S'.nodes) :
    (t.walk.zip u.walk).find? (lands line) = some (.node S, .node S') := by
  rw [walk, walk, ← flatten_zipLevels (levels_sameShape t u h)]
  exact find?_levels hland t u h hformed hmem hcount

end First

end Tree

end SourceLoader
