import SourceLoader.Compile.Lowering
import SourceLoader.Proofs.Grammar.Rules

/-!
# Lowered code requires what the source declares

The dependencies of a source are collected before its imports are lowered, by a walk of its own. So
two walks name each import: the one that declares it, and the one that puts a call of `require` in
its place. They agree: the lowered code requires exactly the specifiers that were declared, and
meets them in the same order (`lower_requires`).

The proof goes by induction over the tree. At an import both lists are worked out
(`ofAll_lowerNames`, `ofAll_lowerSiblings`, `ofAll_lowerMembers`). Everywhere else a node declares
something by itself only if it is a call, and what a call declares can be read off the kinds of its
parts, which lowering keeps since no statement stands in a call.
-/

namespace SourceLoader

open Tree (Is AllAre SomeAre)

namespace Dependencies

/-! ## What a node declares by itself -/

/-- The specifiers that a node declares itself can be read off its kind and those of the trees right
below it. -/
def ofKinds (includeImports : Bool) : Kind → List (List Kind) → List String
  | .importNames, [aliases] =>
    if includeImports then aliases.filterMap fun | .alias name _ => some name | _ => none else []
  | .importFrom module level, [aliases] =>
    if includeImports && module ≠ some futureModule then
      ofImportFrom module level
        (aliases.filterMap fun | .alias name _ => some name | _ => none)
    else []
  | .call, [[.name id _], [.constant (.text t _)], []] =>
    if id = requireName then [Text.toString t] else []
  | _, _ => []

theorem aliasNames_eq (ts : List Tree) :
    aliasNames ts = (ts.map Tree.kind).filterMap fun | .alias name _ => some name | _ => none := by
  rw [aliasNames, List.filterMap_map]
  rfl

theorem ofNode_eq (includeImports : Bool) (k : Kind) (s : Option Span) (fs : List (List Tree)) :
    ofNode includeImports (.node k s fs) = ofKinds includeImports k (fs.map (·.map Tree.kind)) := by
  cases k with
  | importNames => rcases fs with _ | ⟨f, _ | ⟨g, fs⟩⟩ <;> simp [ofNode, ofKinds, aliasNames_eq]
  | importFrom m l =>
      rcases fs with _ | ⟨f, _ | ⟨g, fs⟩⟩ <;> simp [ofNode, ofKinds, aliasNames_eq]
  | call =>
      unfold ofNode
      split
      · next heq => cases heq
      · next heq => cases heq
      · next heq => cases heq; rfl
      · next hcall =>
          symm
          unfold ofKinds
          split
          · next heq _ => cases heq
          · next heq _ => cases heq
          · next hfields =>
            simp only [List.map_eq_cons_iff, List.map_eq_nil_iff] at hfields
            obtain ⟨_, _, rfl, ⟨⟨_, _, _⟩, _, rfl, rfl, rfl⟩, _, _, rfl,
              ⟨⟨_, _, _⟩, _, rfl, rfl, rfl⟩, _, _, rfl, rfl, rfl⟩ := hfields
            exact absurd rfl (hcall _ _ _ _ _ _ _ _ _)
          · rfl
  | _ => rfl

/-- What a call declares does not depend on whether imports count. -/
theorem ofKinds_call (b b' : Bool) (kss : List (List Kind)) :
    ofKinds b .call kss = ofKinds b' .call kss := by
  unfold ofKinds
  split
  · contradiction
  · contradiction
  · rfl
  · rfl

/-! ## Places do not matter -/

/-- A change of trees that moves a node at most. -/
def MovesOnly (f : Tree → Tree) : Prop := ∀ k s fs, ∃ s', f (.node k s fs) = .node k s' fs

theorem kind_mapUp {f : Tree → Tree} (hf : MovesOnly f) (t : Tree) :
    (t.mapUp f).kind = t.kind := by
  obtain ⟨k, s, fs⟩ := t
  obtain ⟨s', hnode⟩ := hf k s (Tree.mapUpFields f fs)
  rw [Tree.mapUp, hnode]
  rfl

theorem kinds_mapUpAll {f : Tree → Tree} (hf : MovesOnly f) (ts : List Tree) :
    (Tree.mapUpAll f ts).map Tree.kind = ts.map Tree.kind := by
  induction ts with
  | nil => rfl
  | cons t ts ih => simp only [Tree.mapUpAll, List.map_cons, kind_mapUp hf, ih]

theorem kinds_mapUpFields {f : Tree → Tree} (hf : MovesOnly f) (fs : List (List Tree)) :
    (Tree.mapUpFields f fs).map (·.map Tree.kind) = fs.map (·.map Tree.kind) := by
  induction fs with
  | nil => rfl
  | cons g gs ih => simp only [Tree.mapUpFields, List.map_cons, kinds_mapUpAll hf, ih]

mutual

/-- Moving the nodes of a tree keeps what it declares. -/
theorem ofTree_mapUp {f : Tree → Tree} (hf : MovesOnly f) (b : Bool) :
    (t : Tree) → ofTree b (t.mapUp f) = ofTree b t
  | .node k s fs => by
    obtain ⟨s', hnode⟩ := hf k s (Tree.mapUpFields f fs)
    rw [Tree.mapUp, hnode, ofTree, ofTree, ofNode_eq, ofNode_eq, kinds_mapUpFields hf,
      ofFields_mapUp hf b fs]

theorem ofFields_mapUp {f : Tree → Tree} (hf : MovesOnly f) (b : Bool) :
    (fs : List (List Tree)) → ofFields b (Tree.mapUpFields f fs) = ofFields b fs
  | [] => rfl
  | g :: gs => by
    rw [Tree.mapUpFields, ofFields, ofFields, ofAll_mapUp hf b g, ofFields_mapUp hf b gs]

theorem ofAll_mapUp {f : Tree → Tree} (hf : MovesOnly f) (b : Bool) :
    (ts : List Tree) → ofAll b (Tree.mapUpAll f ts) = ofAll b ts
  | [] => rfl
  | t :: ts => by rw [Tree.mapUpAll, ofAll, ofAll, ofTree_mapUp hf b t, ofAll_mapUp hf b ts]

end

theorem ofAll_append (b : Bool) (ts us : List Tree) :
    ofAll b (ts ++ us) = ofAll b ts ++ ofAll b us := by
  induction ts with
  | nil => rfl
  | cons t ts ih => rw [List.cons_append, ofAll, ofAll, ih, List.append_assoc]

theorem ofTree_relocate (b : Bool) (span : Option Span) (t : Tree) :
    ofTree b (t.relocate span) = ofTree b t :=
  ofTree_mapUp (fun _ _ _ => ⟨_, rfl⟩) b t

theorem ofAll_relocate (b : Bool) (span : Option Span) (ts : List Tree) :
    ofAll b (ts.map (Tree.relocate span)) = ofAll b ts := by
  induction ts with
  | nil => rfl
  | cons t ts ih => rw [List.map_cons, ofAll, ofAll, ofTree_relocate, ih]

end Dependencies

namespace Lowering

open Dependencies

/-! ## What the statements require that are put in -/

theorem ofTree_requireCall (specifier : String) :
    ofTree false (requireCall specifier) = [specifier] := by
  simp [requireCall, callOf, readName, textLiteral, ofTree, ofFields, ofAll, ofNode, requireName]

theorem ofTree_bind (name : String) (value : Tree) :
    ofTree false (bind name value) = ofTree false value := by
  simp [bind, ofTree, ofFields, ofAll, ofNode]

theorem ofTree_memberOf (value : Tree) (name : String) :
    ofTree false (memberOf value name) = ofTree false value := by
  simp [memberOf, ofTree, ofFields, ofAll, ofNode]

/-- Among the calls of the update for `*` only one fetches a dependency. -/
theorem ofTree_bindAll (specifier : String) : ofTree false (bindAll specifier) = [specifier] := by
  simp [bindAll, clauseOf, memberOf, callOf, readName, textLiteral, ofTree, ofFields, ofAll, ofNode,
    ofTree_requireCall]

/-- The names that an import lists have no parts. -/
theorem importName_eq {t : Tree} (h : Is .importName t) :
    ∃ name asName s, t = .node (.alias name asName) s [] := by
  obtain ⟨k, s, fs⟩ := t
  have hcategory : k.category = .importName := h.1
  cases k with
  | «alias» name asName =>
      cases fs with
      | nil => exact ⟨name, asName, s, rfl⟩
      | cons f fs => exact h.fields.elim
  | _ => cases hcategory

theorem ofAll_importNames (b : Bool) {ts : List Tree} (h : AllAre .importName ts) :
    ofAll b ts = [] := by
  induction ts with
  | nil => rfl
  | cons t ts ih =>
      obtain ⟨name, asName, s, rfl⟩ := importName_eq (h t List.mem_cons_self)
      rw [ofAll, ih fun u hu => h u (List.mem_cons_of_mem _ hu)]
      rfl

section

variable {origin : Origin} {span : Option Span}

theorem ofAll_lowerNames {aliases statements : List Tree} (h : AllAre .importName aliases)
    (hlower : lowerNames origin span aliases = .ok statements) :
    ofAll false statements = aliasNames aliases := by
  induction aliases generalizing statements with
  | nil => cases hlower; rfl
  | cons t rest ih =>
      obtain ⟨name, asName, s, rfl⟩ := importName_eq (h t List.mem_cons_self)
      rw [lowerNames] at hlower
      split at hlower
      · cases hlower
      · cases hrest : lowerNames origin span rest with
        | error e => rw [hrest] at hlower; cases hlower
        | ok others =>
            rw [hrest] at hlower
            cases hlower
            rw [ofAll, ofTree_bind, ofTree_requireCall,
              ih (fun u hu => h u (List.mem_cons_of_mem _ hu)) hrest]
            rfl

theorem ofAll_lowerSiblings {level : Nat} {aliases statements : List Tree}
    (h : AllAre .importName aliases)
    (hlower : lowerSiblings origin span level aliases = .ok statements) :
    ofAll false statements = ofImportFrom none level (aliasNames aliases) := by
  induction aliases generalizing statements with
  | nil => cases hlower; rfl
  | cons t rest ih =>
      obtain ⟨name, asName, s, rfl⟩ := importName_eq (h t List.mem_cons_self)
      rw [lowerSiblings] at hlower
      split at hlower
      · cases hlower
      · cases hrest : lowerSiblings origin span level rest with
        | error e => rw [hrest] at hlower; cases hlower
        | ok others =>
            rw [hrest] at hlower
            cases hlower
            rw [ofAll, ofTree_bind, ofTree_requireCall,
              ih (fun u hu => h u (List.mem_cons_of_mem _ hu)) hrest]
            rfl

theorem ofAll_lowerMembers {aliases : List Tree} (h : AllAre .importName aliases)
    (specifier : String) :
    ofAll false (lowerMembers specifier aliases) = List.replicate aliases.length specifier := by
  induction aliases with
  | nil => rfl
  | cons t rest ih =>
      obtain ⟨name, asName, s, rfl⟩ := importName_eq (h t List.mem_cons_self)
      have hrest := ih fun u hu => h u (List.mem_cons_of_mem _ hu)
      have hcons : lowerMembers specifier (.node (.alias name asName) s [] :: rest) =
          (if name = "*" then bindAll specifier
            else bind (asName.getD name) (memberOf (requireCall specifier) name)) ::
          lowerMembers specifier rest := rfl
      rw [hcons, ofAll, hrest]
      split
      · rw [ofTree_bindAll]; rfl
      · rw [ofTree_bind, ofTree_memberOf, ofTree_requireCall]; rfl

end

/-! ## Lists with the same first occurrences -/

theorem eraseDups_filter (p : String → Bool) (xs : List String) :
    (xs.filter p).eraseDups = xs.eraseDups.filter p := by
  induction h : xs.length using Nat.strongRecOn generalizing xs with
  | ind n ih =>
    cases xs with
    | nil => rfl
    | cons x xs =>
        have hlt : (xs.filter fun y => !y == x).length < n := by
          rw [← h, List.length_cons]
          exact Nat.lt_succ_of_le (List.length_filter_le _ _)
        rw [List.eraseDups_cons]
        by_cases hx : p x = true
        · rw [List.filter_cons_of_pos hx, List.filter_cons_of_pos hx, List.eraseDups_cons,
            ← ih _ hlt _ rfl, List.filter_filter, List.filter_filter]
          simp only [Bool.and_comm]
        · rw [List.filter_cons_of_neg hx, List.filter_cons_of_neg hx, ← ih _ hlt _ rfl,
            List.filter_filter]
          congr 1
          refine List.filter_congr fun y _ => ?_
          cases hy : p y with
          | false => rfl
          | true =>
              have hne : y ≠ x := fun heq => hx (heq ▸ hy)
              simp [hne]

/-- Whether something is new behind a list depends on what first occurs there only. -/
theorem eraseDups_append_congr {xs xs' ys ys' : List String}
    (hx : xs.eraseDups = xs'.eraseDups) (hy : ys.eraseDups = ys'.eraseDups) :
    (xs ++ ys).eraseDups = (xs' ++ ys').eraseDups := by
  have hmem (a : String) : xs.elem a = xs'.elem a := by
    rw [Bool.eq_iff_iff, List.elem_iff, List.elem_iff, ← List.mem_eraseDups, hx,
      List.mem_eraseDups]
  rw [List.eraseDups_append, List.eraseDups_append, hx]
  simp only [List.removeAll, eraseDups_filter, hy, hmem]

theorem eraseDups_replicate {n : Nat} (h : n ≠ 0) (x : String) :
    (List.replicate n x).eraseDups = [x] := by
  obtain ⟨m, rfl⟩ := Nat.exists_eq_succ_of_ne_zero h
  rw [List.replicate_succ, List.eraseDups_cons, List.filter_replicate]
  simp

/-! ## Walks side by side -/

variable {origin : Origin}

theorem lowerNode?_of_category {t : Tree} (h : t.category ≠ .statement) :
    lowerNode? origin t = .ok none := by
  obtain ⟨k, s, fs⟩ := t
  cases k with
  | importNames => exact absurd rfl h
  | importFrom m l => exact absurd rfl h
  | _ => rfl

theorem kind_lowerTree {t t' : Tree} (h : lowerTree origin t = .ok t') : t'.kind = t.kind := by
  obtain ⟨k, s, fs⟩ := t
  rw [lowerTree] at h
  cases hfields : lowerFields origin fs with
  | error e => rw [hfields] at h; cases h
  | ok fs' => rw [hfields] at h; cases h; rfl

/-- What is left of some trees: for each one, the statements it turns into, or itself with what is
below it lowered. -/
theorem lowerAll_cons {t : Tree} {ts us : List Tree} (h : lowerAll origin (t :: ts) = .ok us) :
    (∃ statements rest, lowerNode? origin t = .ok (some statements) ∧
      lowerAll origin ts = .ok rest ∧ us = statements ++ rest) ∨
    ∃ t' rest, lowerNode? origin t = .ok none ∧ lowerTree origin t = .ok t' ∧
      lowerAll origin ts = .ok rest ∧ us = t' :: rest := by
  rw [lowerAll] at h
  cases hnode : lowerNode? origin t with
  | error e => rw [hnode] at h; cases h
  | ok found =>
      rw [hnode] at h
      cases found with
      | some statements =>
          cases hrest : lowerAll origin ts with
          | error e => simp only [hrest] at h; cases h
          | ok rest => simp only [hrest] at h; cases h; exact .inl ⟨_, _, rfl, rfl, rfl⟩
      | none =>
          cases htree : lowerTree origin t with
          | error e => simp only [htree] at h; cases h
          | ok t' =>
              cases hrest : lowerAll origin ts with
              | error e => simp only [htree, hrest] at h; cases h
              | ok rest =>
                  simp only [htree, hrest] at h
                  cases h
                  exact .inr ⟨_, _, rfl, rfl, rfl, rfl⟩

theorem lowerFields_cons {f : List Tree} {fs gs : List (List Tree)}
    (h : lowerFields origin (f :: fs) = .ok gs) :
    ∃ g rest, lowerAll origin f = .ok g ∧ lowerFields origin fs = .ok rest ∧ gs = g :: rest := by
  rw [lowerFields] at h
  cases hall : lowerAll origin f with
  | error e => rw [hall] at h; cases h
  | ok g =>
      cases hrest : lowerFields origin fs with
      | error e => simp only [hall, hrest] at h; cases h
      | ok rest => simp only [hall, hrest] at h; cases h; exact ⟨_, _, rfl, rfl, rfl⟩

/-- Among trees that are no statements, lowering keeps the kinds. -/
theorem kinds_lowerAll {ts us : List Tree} (h : ∀ t ∈ ts, t.category ≠ .statement)
    (hlower : lowerAll origin ts = .ok us) : us.map Tree.kind = ts.map Tree.kind := by
  induction ts generalizing us with
  | nil => cases hlower; rfl
  | cons t ts ih =>
      have hnode : lowerNode? origin t = .ok none :=
        lowerNode?_of_category (h t List.mem_cons_self)
      rcases lowerAll_cons hlower with ⟨_, _, hsome, -⟩ | ⟨t', rest, -, htree, hrest, rfl⟩
      · rw [hnode] at hsome; cases hsome
      · rw [List.map_cons, List.map_cons, kind_lowerTree htree,
          ih (fun u hu => h u (List.mem_cons_of_mem _ hu)) hrest]

theorem kinds_lowerFields {fs gs : List (List Tree)}
    (h : ∀ f ∈ fs, ∀ t ∈ f, t.category ≠ .statement) (hlower : lowerFields origin fs = .ok gs) :
    gs.map (·.map Tree.kind) = fs.map (·.map Tree.kind) := by
  induction fs generalizing gs with
  | nil => cases hlower; rfl
  | cons f fs ih =>
      obtain ⟨g, rest, hall, hrest, rfl⟩ := lowerFields_cons hlower
      rw [List.map_cons, List.map_cons, kinds_lowerAll (h f List.mem_cons_self) hall,
        ih (fun f' hf => h f' (List.mem_cons_of_mem _ hf)) hrest]

/-- **A node that is no import to lower declares by itself what it requires when lowered.** -/
theorem ofNode_lower {k : Kind} {s : Option Span} {fs gs : List (List Tree)}
    (hformed : (Tree.node k s fs).isWellFormed = true)
    (hnode : lowerNode? origin (.node k s fs) = .ok none)
    (hfields : lowerFields origin fs = .ok gs) :
    ofNode true (.node k s fs) = ofNode false (.node k s gs) := by
  have hshape := ((Tree.isWellFormed_iff k s fs).mp hformed).2
  rw [ofNode_eq, ofNode_eq]
  cases k with
  | importNames =>
      obtain ⟨aliases, rfl, -⟩ := Slot.AllFilled.one hshape
      rw [lowerNode?] at hnode
      cases hnames : lowerNames origin s aliases with
      | error e => rw [hnames] at hnode; cases hnode
      | ok statements => rw [hnames] at hnode; cases hnode
  | importFrom m l =>
      obtain ⟨aliases, rfl, -⟩ := Slot.AllFilled.one hshape
      obtain ⟨aliases', rest, -, hrest, rfl⟩ := lowerFields_cons hfields
      cases hrest
      have hfuture : m = some futureModule := by
        refine Decidable.byContradiction fun hne => ?_
        unfold lowerNode? at hnode
        dsimp only at hnode
        rw [if_neg hne] at hnode
        cases m with
        | some m => cases hnode
        | none =>
            cases hsiblings : lowerSiblings origin s l aliases with
            | error e => simp only [hsiblings] at hnode; cases hnode
            | ok statements => simp only [hsiblings] at hnode; cases hnode
      simp [ofKinds, hfuture]
  | call =>
      have hparts : ∀ f ∈ fs, ∀ t ∈ f, t.category ≠ .statement := by
        intro f hf t ht hstatement
        obtain ⟨slot, hslot, hfilled⟩ := hshape.mem f hf
        have hcategory := (hfilled.is t ht).imp And.left And.left
        rw [hstatement] at hcategory
        simp only [Kind.slots, List.mem_cons, List.not_mem_nil, or_false] at hslot
        rcases hslot with rfl | rfl | rfl <;> simp [Slot.category] at hcategory
      rw [kinds_lowerFields hparts hfields]
      exact ofKinds_call true false _
  | _ => rfl

theorem lowerNode?_requires {t : Tree} {statements : List Tree} (hformed : t.isWellFormed = true)
    (hnode : lowerNode? origin t = .ok (some statements)) :
    (ofTree true t).eraseDups = (ofAll false statements).eraseDups := by
  obtain ⟨k, s, fs⟩ := t
  have hshape := ((Tree.isWellFormed_iff k s fs).mp hformed).2
  cases k with
  | importNames =>
      obtain ⟨aliases, rfl, hsome⟩ := Slot.AllFilled.one hshape
      rw [lowerNode?] at hnode
      cases hnames : lowerNames origin s aliases with
      | error e => rw [hnames] at hnode; cases hnode
      | ok names =>
          rw [hnames] at hnode
          cases hnode
          rw [ofAll_relocate, ofAll_lowerNames hsome.all hnames, ofTree, ofFields, ofFields,
            ofAll_importNames true hsome.all, List.append_nil, List.append_nil]
          rfl
  | importFrom m l =>
      obtain ⟨aliases, rfl, hsome⟩ := Slot.AllFilled.one hshape
      unfold lowerNode? at hnode
      dsimp only at hnode
      split at hnode
      · cases hnode
      · next hfuture =>
        have hdeclared : ofTree true (.node (.importFrom m l) s [aliases]) =
            ofImportFrom m l (aliasNames aliases) := by
          rw [ofTree, ofFields, ofFields, ofAll_importNames true hsome.all, List.append_nil,
            List.append_nil, ofNode, if_pos (by simpa using hfuture)]
        rw [hdeclared]
        cases m with
        | some m =>
            cases hnode
            rw [ofAll_relocate, ofAll_lowerMembers hsome.all,
              eraseDups_replicate (Nat.ne_of_gt (List.length_pos_iff.mpr hsome.1))]
            rfl
        | none =>
            cases hsiblings : lowerSiblings origin s l aliases with
            | error e => simp only [hsiblings] at hnode; cases hnode
            | ok siblings =>
                simp only [hsiblings] at hnode
                cases hnode
                rw [ofAll_relocate, ofAll_lowerSiblings hsome.all hsiblings]
  | _ => cases hnode

mutual

theorem lowerTree_requires :
    (t : Tree) → (t' : Tree) → t.isWellFormed = true → lowerNode? origin t = .ok none →
      lowerTree origin t = .ok t' → (ofTree true t).eraseDups = (ofTree false t').eraseDups
  | .node k s fs, t', hformed, hnode, hlower => by
    rw [lowerTree] at hlower
    cases hfields : lowerFields origin fs with
    | error e => rw [hfields] at hlower; cases hlower
    | ok gs =>
        rw [hfields] at hlower
        cases hlower
        rw [ofTree, ofTree, ofNode_lower hformed hnode hfields]
        refine eraseDups_append_congr rfl (lowerFields_requires fs gs ?_ hfields)
        simp only [Tree.isWellFormed, Bool.and_eq_true] at hformed
        exact hformed.2

theorem lowerFields_requires :
    (fs gs : List (List Tree)) → Tree.areFieldsWellFormed fs = true →
      lowerFields origin fs = .ok gs → (ofFields true fs).eraseDups = (ofFields false gs).eraseDups
  | [], gs, _, hlower => by cases hlower; rfl
  | f :: fs, gs, hformed, hlower => by
    obtain ⟨g, rest, hall, hrest, rfl⟩ := lowerFields_cons hlower
    simp only [Tree.areFieldsWellFormed, Bool.and_eq_true] at hformed
    rw [ofFields, ofFields]
    exact eraseDups_append_congr (lowerAll_requires f g hformed.1 hall)
      (lowerFields_requires fs rest hformed.2 hrest)

theorem lowerAll_requires :
    (ts us : List Tree) → Tree.areWellFormed ts = true → lowerAll origin ts = .ok us →
      (ofAll true ts).eraseDups = (ofAll false us).eraseDups
  | [], us, _, hlower => by cases hlower; rfl
  | t :: ts, us, hformed, hlower => by
    simp only [Tree.areWellFormed, Bool.and_eq_true] at hformed
    rcases lowerAll_cons hlower with
      ⟨statements, rest, hnode, hrest, rfl⟩ | ⟨t', rest, hnode, htree, hrest, rfl⟩
    · rw [ofAll, ofAll_append]
      exact eraseDups_append_congr (lowerNode?_requires hformed.1 hnode)
        (lowerAll_requires ts rest hformed.2 hrest)
    · rw [ofAll, ofAll]
      exact eraseDups_append_congr (lowerTree_requires t t' hformed.1 hnode htree)
        (lowerAll_requires ts rest hformed.2 hrest)

end

/-- **Lowered code requires what the source declares.** The distinct specifiers that a source
declares, in the order in which they first occur, are those that the lowered module requires. So a
call that was put in names a declared dependency, and each declared dependency is required. -/
theorem lower_requires {source : String} {t t' : Tree} {warnings : List Warning} {origin : Origin}
    (hparse : Source.parse source = .ok (t, warnings)) (hlower : lower origin t = .ok t') :
    (ofTree true t).eraseDups = (ofTree false t').eraseDups ∧
      ∀ specifier, specifier ∈ ofTree false t' ↔ specifier ∈ ofTree true t := by
  have his := Source.parse_is hparse
  have heq : (ofTree true t).eraseDups = (ofTree false t').eraseDups := by
    refine lowerTree_requires t t' his.2 (lowerNode?_of_category ?_) hlower
    rw [his.1]
    decide
  refine ⟨heq, fun specifier => ?_⟩
  rw [← List.mem_eraseDups, ← heq, List.mem_eraseDups]

/-! ## A module with imports of all forms -/

/-- The tree of a source and the lowered one, if there are such. -/
def lowered? (source : String) : Option (Tree × Tree) :=
  match Source.parse source with
  | .ok (t, _) => (lower {} t).toOption.map (t, ·)
  | .error _ => none

theorem lowered?_eq_some {source : String} {t t' : Tree} (h : lowered? source = some (t, t')) :
    ∃ warnings, Source.parse source = .ok (t, warnings) ∧ lower {} t = .ok t' := by
  unfold lowered? at h
  split at h
  · next u warnings hparse =>
      cases hlower : lower {} u with
      | error e => rw [hlower] at h; cases h
      | ok u' =>
          rw [hlower] at h
          cases h
          exact ⟨warnings, hparse, hlower⟩
  · cases h

/-- Imports of all forms, one of them in a function and one of several names. -/
def importing : String :=
  "import a, b.c as d\ndef f():\n    from . import x, y\n    return require('e')\n" ++
    "from .m import *\nfrom m import p as q, r\n"

theorem lowered?_importing :
    (lowered? importing).map (fun trees => (ofTree true trees.1).eraseDups)
      = some ["a", "b.c", ".x", ".y", "e", ".m", "m"] := by
  have hchars : importing.toList = _ :=
    Source.toList_append_eq String.toList_ofList String.toList_ofList
  rw [lowered?, Source.parse_eq_parseChars hchars]
  decide +kernel

theorem required_in_importing :
    ∃ t t', lowered? importing = some (t, t') ∧
      (ofTree true t).eraseDups = ["a", "b.c", ".x", ".y", "e", ".m", "m"] ∧
      (ofTree true t).eraseDups = (ofTree false t').eraseDups ∧
      ∀ specifier, specifier ∈ ofTree false t' ↔ specifier ∈ ofTree true t := by
  obtain ⟨⟨t, t'⟩, hlowered, hlist⟩ := Option.map_eq_some_iff.mp lowered?_importing
  obtain ⟨warnings, hparse, hlower⟩ := lowered?_eq_some hlowered
  exact ⟨t, t', hlowered, hlist, lower_requires hparse hlower⟩

end Lowering

end SourceLoader
