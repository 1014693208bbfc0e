import SourceLoader.Proofs.Acceptance
import SourceLoader.Proofs.Lowered

/-!
# What imports become

Each statement that lowering puts in for an import is of one of three forms: it binds a module to a
name, or a member of a module, or all public members (`Lowering.form_of_mem_lowerNode?`). It stands
in the lowered tree at the place of the import (`Lowering.part_of_lowerTree`), and so in any tree
that differs from the lowered one in places only, such as the tree that the compiled text reads as.
-/

namespace SourceLoader

/-! ## Parts of trees -/

namespace Tree

/-- The tree `t` stands in another one, and nothing that holds it is where a search stops. -/
inductive Within (stops : Tree → Bool) (t : Tree) : Tree → Prop
  | self : Within stops t t
  | inside {k : Kind} {s : Option Span} {fs : List (List Tree)} {f : List Tree} {u : Tree}
      (hgoes : stops (.node k s fs) = false) (hf : f ∈ fs) (hu : u ∈ f)
      (h : Within stops t u) : Within stops t (.node k s fs)

/-- The tree `t` is a part of another one. -/
abbrev Part (t u : Tree) : Prop := Within (fun _ => false) t u

theorem part_node_iff {t : Tree} {k : Kind} {s : Option Span} {fs : List (List Tree)} :
    Part t (.node k s fs) ↔ t = .node k s fs ∨ ∃ f ∈ fs, ∃ u ∈ f, Part t u := by
  constructor
  · intro h
    cases h with
    | self => exact .inl rfl
    | inside _ hf hu h => exact .inr ⟨_, hf, _, hu, h⟩
  · rintro (rfl | ⟨f, hf, u, hu, h⟩)
    · exact .self
    · exact .inside rfl hf hu h

/-- Each part of a tree is a part of it without places. -/
theorem Part.eraseSpans {t u : Tree} (h : Part t u) : Part t.eraseSpans u.eraseSpans := by
  induction h with
  | self => exact .self
  | inside _ hf hu _ ih =>
      rw [eraseSpans_node]
      exact part_node_iff.mpr
        (.inr ⟨_, List.mem_map_of_mem hf, _, List.mem_map_of_mem hu, ih⟩)

/-- Each part of a tree without places comes from a part of the tree. -/
theorem part_of_eraseSpans {t u : Tree} (h : Part t u.eraseSpans) :
    ∃ t', Part t' u ∧ t'.eraseSpans = t := by
  generalize hu : u.eraseSpans = v at h
  induction h generalizing u with
  | self => exact ⟨u, .self, hu⟩
  | inside _ hg hv _ ih =>
      obtain ⟨s, fs, rfl, -, rfl⟩ := eraseSpans_eq_node_iff.mp hu
      obtain ⟨f, hf, rfl⟩ := List.mem_map.mp hg
      obtain ⟨w, hw, rfl⟩ := List.mem_map.mp hv
      obtain ⟨t', ht', heq⟩ := ih rfl
      exact ⟨t', .inside rfl hf hw ht', heq⟩

mutual

theorem eraseSpans_moved (p : Kind → Option Span → Option Span) :
    (t : Tree) → (t.moved p).eraseSpans = t.eraseSpans
  | .node k s fs => by
    rw [moved_node, eraseSpans_node, eraseSpans_node, eraseSpans_moved_fields p fs]

theorem eraseSpans_moved_fields (p : Kind → Option Span → Option Span) :
    (fs : List (List Tree)) →
      (fs.map (List.map (moved p))).map (List.map eraseSpans) = fs.map (List.map eraseSpans)
  | [] => rfl
  | f :: fs => by
    rw [List.map_cons, List.map_cons, List.map_cons, eraseSpans_moved_all p f,
      eraseSpans_moved_fields p fs]

theorem eraseSpans_moved_all (p : Kind → Option Span → Option Span) :
    (ts : List Tree) → (ts.map (moved p)).map eraseSpans = ts.map eraseSpans
  | [] => rfl
  | t :: ts => by
    rw [List.map_cons, List.map_cons, List.map_cons, eraseSpans_moved p t,
      eraseSpans_moved_all p ts]

end

theorem eraseSpans_relocate (span : Option Span) (t : Tree) :
    (t.relocate span).eraseSpans = t.eraseSpans :=
  eraseSpans_moved (fun k _ => if k.hasSpan then span else none) t

mutual

theorem eraseSpans_fillSpansFrom (outer : Span) :
    (t : Tree) → (fillSpansFrom outer t).eraseSpans = t.eraseSpans
  | .node k s fs => by
    rw [fillSpansFrom, eraseSpans_node, eraseSpans_node, eraseSpans_fillSpansOfFields]

theorem eraseSpans_fillSpansOfFields (outer : Span) :
    (fs : List (List Tree)) →
      (fillSpansOfFields outer fs).map (List.map eraseSpans) = fs.map (List.map eraseSpans)
  | [] => rfl
  | f :: fs => by
    rw [fillSpansOfFields, List.map_cons, List.map_cons, eraseSpans_fillSpansOfAll,
      eraseSpans_fillSpansOfFields]

theorem eraseSpans_fillSpansOfAll (outer : Span) :
    (ts : List Tree) → (fillSpansOfAll outer ts).map eraseSpans = ts.map eraseSpans
  | [] => rfl
  | t :: ts => by
    rw [fillSpansOfAll, List.map_cons, List.map_cons, eraseSpans_fillSpansFrom,
      eraseSpans_fillSpansOfAll]

end

theorem eraseSpans_fillSpans (t : Tree) : t.fillSpans.eraseSpans = t.eraseSpans :=
  eraseSpans_fillSpansFrom _ t

end Tree

open Tree (Within Part)

namespace Lowering

open Dependencies (aliasNames ofNode ofImportFrom futureModule dots)

variable {origin : Origin} {span : Option Span} {t s : Tree} {ts us statements : List Tree}

/-! ## What imports become -/

/-- Is a node an import that is lowered? -/
def isLowered : Tree → Bool
  | .node .importNames _ [_] => true
  | .node (.importFrom module _) _ [_] => module ≠ some futureModule
  | _ => false

theorem lowerNode?_eq (t : Tree) (h : isLowered t = false) : lowerNode? origin t = .ok none := by
  unfold isLowered at h
  split at h
  · cases h
  · next m l _ _ =>
    rw [decide_eq_false_iff_not, not_not] at h
    unfold lowerNode?
    dsimp only
    rw [if_pos h]
    rfl
  · next hnames hfrom =>
    unfold lowerNode?
    split
    · exact absurd rfl (hnames _ _)
    · exact absurd rfl (hfrom _ _ _ _)
    · rfl

/-- What a statement is that stands for an import. -/
inductive Form where
  /-- A module is bound to a name. -/
  | whole (name specifier : String)
  /-- A member of a module is bound to a name. -/
  | member (name specifier part : String)
  /-- All public members of a module are bound to their names. -/
  | all (specifier : String)

namespace Form

/-- The specifier of the module. -/
def specifier : Form → String
  | .whole _ s | .member _ s _ | .all s => s

/-- The statement, at no place. -/
def statement : Form → Tree
  | .whole name s => bind name (requireCall s)
  | .member name s part => bind name (memberOf (requireCall s) part)
  | .all s => bindAll s

theorem eraseSpans_statement (form : Form) : form.statement.eraseSpans = form.statement := by
  cases form <;>
    simp [statement, bind, requireCall, callOf, readName, textLiteral, memberOf, bindAll, clauseOf]

end Form

/-! A star import is one statement, made of these parts. -/

/-- The condition on a public name. -/
def publicTest : Tree :=
  .node (.unaryOp .not) none
    [[callOf (memberOf (readName "_public") "startswith") [textLiteral "_"]]]

/-- The list of the public names of the module. -/
def publicNames : Tree :=
  .node .listComp none
    [[readName "_public"],
      [clauseOf "_public" (callOf (readName "dir") [readName "_star_module"]) [publicTest]]]

/-- The names that the module hands out. -/
def listedNames : Tree :=
  callOf (readName "getattr") [readName "_star_module", textLiteral "__all__", publicNames]

/-- The value under one of them. -/
def listedValue : Tree :=
  callOf (readName "getattr") [readName "_star_module", readName "_star_name"]

/-- The clauses for the module and for its names. -/
def listedClauses (specifier : String) : List Tree :=
  [clauseOf "_star_module" (.node (.list .load) none [[requireCall specifier]]) [],
    clauseOf "_star_name" listedNames []]

theorem bindAll_eq (specifier : String) :
    bindAll specifier = .node .exprStmt none
      [[callOf (memberOf (callOf (readName "globals") []) "update")
        [.node .dictComp none [[readName "_star_name"], [listedValue],
          listedClauses specifier]]]] := rfl

theorem mem_aliasNames_cons {name : String} {t : Tree} {ts : List Tree}
    (h : name ∈ aliasNames ts) : name ∈ aliasNames (t :: ts) := by
  rw [aliasNames, List.mem_filterMap] at h ⊢
  obtain ⟨u, hu, hname⟩ := h
  exact ⟨u, List.mem_cons_of_mem _ hu, hname⟩

theorem form_of_mem_lowerNames {aliases : List Tree}
    (h : lowerNames origin span aliases = .ok statements) (hs : s ∈ statements) :
    ∃ form : Form, s = form.statement ∧ form.specifier ∈ aliasNames aliases := by
  fun_induction lowerNames origin span aliases generalizing statements with
  | case1 => cases h; cases hs
  | case2 => cases h
  | case3 name asName _ _ rest =>
      rename_i ih
      change (lowerNames origin span rest).bind _ = _ at h
      cases hrest : lowerNames origin span rest with
      | error e => rw [hrest] at h; cases h
      | ok others =>
          rw [hrest] at h
          cases h
          rcases List.mem_cons.mp hs with rfl | hs
          · exact ⟨.whole (asName.getD name) name, rfl, List.mem_cons_self⟩
          · obtain ⟨form, hform, hmem⟩ := ih hrest hs
            exact ⟨form, hform, mem_aliasNames_cons hmem⟩
  | case4 t rest _ ih =>
      obtain ⟨form, hform, hmem⟩ := ih h hs
      exact ⟨form, hform, mem_aliasNames_cons hmem⟩

theorem form_of_mem_lowerSiblings {level : Nat} {aliases : List Tree}
    (h : lowerSiblings origin span level aliases = .ok statements) (hs : s ∈ statements) :
    ∃ form : Form, s = form.statement
      ∧ form.specifier ∈ ofImportFrom none level (aliasNames aliases) := by
  fun_induction lowerSiblings origin span level aliases generalizing statements with
  | case1 => cases h; cases hs
  | case2 => cases h
  | case3 name asName _ _ rest =>
      rename_i ih
      change (lowerSiblings origin span level rest).bind _ = _ at h
      cases hrest : lowerSiblings origin span level rest with
      | error e => rw [hrest] at h; cases h
      | ok others =>
          rw [hrest] at h
          cases h
          rcases List.mem_cons.mp hs with rfl | hs
          · exact ⟨.whole (asName.getD name) (dots level ++ name), rfl, List.mem_cons_self⟩
          · obtain ⟨form, hform, hmem⟩ := ih hrest hs
            obtain ⟨name', hname', heq⟩ := List.mem_map.mp hmem
            exact ⟨form, hform, List.mem_map.mpr ⟨name', mem_aliasNames_cons hname', heq⟩⟩
  | case4 t rest _ ih =>
      obtain ⟨form, hform, hmem⟩ := ih h hs
      obtain ⟨name', hname', heq⟩ := List.mem_map.mp hmem
      exact ⟨form, hform, List.mem_map.mpr ⟨name', mem_aliasNames_cons hname', heq⟩⟩

theorem form_of_mem_lowerMembers {specifier : String} {aliases : List Tree}
    (hs : s ∈ lowerMembers specifier aliases) :
    ∃ form : Form, s = form.statement ∧ form.specifier = specifier := by
  obtain ⟨t, -, ht⟩ := List.mem_filterMap.mp hs
  split at ht
  · next name asName _ =>
    cases ht
    split
    · exact ⟨.all specifier, rfl, rfl⟩
    · exact ⟨.member (asName.getD name) specifier name, rfl, rfl⟩
  · cases ht

/-- **What an import becomes.** Each statement is of one of three forms, and its specifier is one
that the import declares. -/
theorem form_of_mem_lowerNode? (h : lowerNode? origin t = .ok (some statements))
    (hs : s ∈ statements) :
    ∃ form : Form, s.eraseSpans = form.statement ∧ form.specifier ∈ ofNode true t := by
  have hmoved : ∀ {u : Tree} {form : Form} {span : Option Span}, u = form.statement →
      (u.relocate span).eraseSpans = form.statement := by
    rintro u form span rfl
    rw [Tree.eraseSpans_relocate, form.eraseSpans_statement]
  unfold lowerNode? at h
  split at h
  · next span aliases =>
    cases hnames : lowerNames origin span aliases with
    | error e => rw [hnames] at h; cases h
    | ok names =>
        rw [hnames] at h
        cases h
        obtain ⟨u, hu, rfl⟩ := List.mem_map.mp hs
        obtain ⟨form, hform, hmem⟩ := form_of_mem_lowerNames hnames hu
        exact ⟨form, hmoved hform, hmem⟩
  · next m level span aliases =>
    split at h
    · cases h
    · next hfuture =>
      have hdeclared : ofNode true (.node (.importFrom m level) span [aliases])
          = ofImportFrom m level (aliasNames aliases) := by
        rw [ofNode, if_pos (by simpa using hfuture)]
      rw [hdeclared]
      cases m with
      | none =>
          cases hsiblings : lowerSiblings origin span level aliases with
          | error e => simp only [hsiblings] at h; cases h
          | ok siblings =>
              simp only [hsiblings] at h
              cases h
              obtain ⟨u, hu, rfl⟩ := List.mem_map.mp hs
              obtain ⟨form, hform, hmem⟩ := form_of_mem_lowerSiblings hsiblings hu
              exact ⟨form, hmoved hform, hmem⟩
      | some m =>
          cases h
          obtain ⟨u, hu, rfl⟩ := List.mem_map.mp hs
          obtain ⟨form, hform, hspecifier⟩ := form_of_mem_lowerMembers hu
          exact ⟨form, hmoved hform, by rw [hspecifier]; exact List.mem_cons_self⟩
  · cases h

/-! ## Where the statements stand -/

theorem lowerNode?_of_isLowered {found : Option (List Tree)} (h : isLowered t = true)
    (hnode : lowerNode? origin t = .ok found) : ∃ statements, found = some statements := by
  unfold isLowered at h
  split at h
  · next span aliases =>
    unfold lowerNode? at hnode
    cases hnames : lowerNames origin span aliases with
    | error e => simp only [hnames] at hnode; cases hnode
    | ok names => simp only [hnames] at hnode; cases hnode; exact ⟨_, rfl⟩
  · next m level span aliases =>
    unfold lowerNode? at hnode
    dsimp only at hnode
    rw [if_neg (of_decide_eq_true h)] at hnode
    cases m with
    | none =>
        cases hsiblings : lowerSiblings origin span level aliases with
        | error e => simp only [hsiblings] at hnode; cases hnode
        | ok siblings => simp only [hsiblings] at hnode; cases hnode; exact ⟨_, rfl⟩
    | some m => cases hnode; exact ⟨_, rfl⟩
  · cases h

/-- What becomes of one of some trees stands among what becomes of all. -/
theorem mem_of_lowerAll (hlower : lowerAll origin ts = .ok us) (ht : t ∈ ts) :
    (∃ statements, lowerNode? origin t = .ok (some statements) ∧ statements ⊆ us)
    ∨ lowerNode? origin t = .ok none ∧ ∃ t', lowerTree origin t = .ok t' ∧ t' ∈ us := by
  induction ts generalizing us with
  | nil => cases ht
  | cons t₀ ts ih =>
      rcases lowerAll_cons hlower with
        ⟨statements, rest, hnode, hrest, rfl⟩ | ⟨t', rest, hnode, htree, hrest, rfl⟩
      · rcases List.mem_cons.mp ht with rfl | ht
        · exact .inl ⟨statements, hnode, List.subset_append_left _ _⟩
        · rcases ih hrest ht with ⟨found, hfound, hsub⟩ | ⟨hnone, u, hu, hmem⟩
          · exact .inl ⟨found, hfound, fun x hx => List.mem_append_right _ (hsub hx)⟩
          · exact .inr ⟨hnone, u, hu, List.mem_append_right _ hmem⟩
      · rcases List.mem_cons.mp ht with rfl | ht
        · exact .inr ⟨hnode, t', htree, List.mem_cons_self⟩
        · rcases ih hrest ht with ⟨found, hfound, hsub⟩ | ⟨hnone, u, hu, hmem⟩
          · exact .inl ⟨found, hfound, fun x hx => List.mem_cons_of_mem _ (hsub hx)⟩
          · exact .inr ⟨hnone, u, hu, List.mem_cons_of_mem _ hmem⟩

theorem mem_of_lowerFields {fs gs : List (List Tree)} {f : List Tree}
    (hlower : lowerFields origin fs = .ok gs) (hf : f ∈ fs) :
    ∃ g ∈ gs, lowerAll origin f = .ok g := by
  induction fs generalizing gs with
  | nil => cases hf
  | cons f₀ fs ih =>
      obtain ⟨g, rest, hall, hrest, rfl⟩ := lowerFields_cons hlower
      rcases List.mem_cons.mp hf with rfl | hf
      · exact ⟨g, List.mem_cons_self, hall⟩
      · obtain ⟨g', hg', hlowered⟩ := ih hrest hf
        exact ⟨g', List.mem_cons_of_mem _ hg', hlowered⟩

/-- **The statements stand in the lowered tree.** -/
theorem part_of_lowerTree {t₀ t₁ : Tree} (hlower : lowerTree origin t₀ = .ok t₁)
    (hroot : isLowered t₀ = false) (ht : Within isLowered t t₀) (himport : isLowered t = true) :
    ∃ statements, lowerNode? origin t = .ok (some statements)
      ∧ ∀ s ∈ statements, Part s t₁ := by
  induction ht generalizing t₁ with
  | self => rw [hroot] at himport; cases himport
  | @inside k span fs f u _ hf hu h ih =>
      rw [lowerTree] at hlower
      cases hfields : lowerFields origin fs with
      | error e => rw [hfields] at hlower; cases hlower
      | ok gs =>
          rw [hfields] at hlower
          cases hlower
          obtain ⟨g, hg, hall⟩ := mem_of_lowerFields hfields hf
          rcases mem_of_lowerAll hall hu with ⟨statements, hnode, hsub⟩ | ⟨hnone, u', hu', hmem⟩
          · -- what stands here is the import itself
            have hself : t = u := by
              cases h with
              | self => rfl
              | inside hgoes =>
                  rw [lowerNode?_eq _ hgoes] at hnode
                  cases hnode
            subst hself
            exact ⟨statements, hnode, fun s hs =>
              Tree.part_node_iff.mpr (.inr ⟨g, hg, s, hsub hs, .self⟩)⟩
          · have hroot' : isLowered u = false := by
              by_contra hlowered
              obtain ⟨_, hsome⟩ :=
                lowerNode?_of_isLowered (eq_true_of_ne_false hlowered) hnone
              cases hsome
            obtain ⟨statements, hnode, hparts⟩ := ih hu' hroot'
            exact ⟨statements, hnode, fun s hs =>
              Tree.part_node_iff.mpr (.inr ⟨g, hg, u', hmem, hparts s hs⟩)⟩

end Lowering

/-! ## From the source to the text -/

namespace Compile

open Lowering (isLowered lowerTree lowerNode?)

variable {req : CompileRequest} {compiled : Compiled}

theorem isLowered_rename {t : Tree} (h : t.category = .module) :
    isLowered (DynamicImport.rename t) = false := by
  obtain ⟨k, s, fs⟩ := t
  change k.category = .module at h
  cases k with
  | module => rfl
  | _ => cases h

/-- In module mode and without passes, what is checked is the lowered source. -/
theorem lowered_of_checked {t₀ t : Tree} {warnings remarks : List Warning}
    (hmode : req.moduleMode = true) (hpasses : req.passes = [])
    (hparse : Source.parse req.source = .ok (t₀, warnings)) (h : checked req = .ok (t, remarks)) :
    ∃ t₁, lowerTree ⟨req.file, req.source⟩ (DynamicImport.rename t₀) = .ok t₁
      ∧ t.eraseSpans = t₁.eraseSpans := by
  have hread : parse req = .ok (t₀, warnings) := by rw [parse, hparse]
  unfold checked at h
  rw [hread] at h
  change (change req (DynamicImport.rename t₀)).outcome.bind _ = _ at h
  cases hchange : (change req (DynamicImport.rename t₀)).outcome with
  | error f => rw [hchange] at h; cases h
  | ok r =>
      rw [hchange] at h
      cases h
      obtain ⟨t₁, hpassed, hrest⟩ := Script.outcome_bind hchange
      obtain ⟨_, -, hpair⟩ := Script.outcome_bind hrest
      cases hpair
      refine ⟨t₁, ?_, Tree.eraseSpans_fillSpans t₁⟩
      rw [allPasses, if_pos hmode, hpasses] at hpassed
      obtain ⟨u, happly, hdone⟩ := Script.outcome_bind hpassed
      cases hdone
      cases hlower : lowerTree ⟨req.file, req.source⟩ (DynamicImport.rename t₀) with
      | ok t' =>
          simp only [lowering, Lowering.lower, hlower] at happly
          cases happly
          rfl
      | error e =>
          simp only [lowering, Lowering.lower, hlower] at happly
          cases happly

end Compile

end SourceLoader
