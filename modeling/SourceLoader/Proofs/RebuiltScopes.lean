import SourceLoader.Proofs.PutScopes

/-!
# Scopes of a lowered module

The scopes of a module are read beside those of the module with its imports replaced. As long as all
stars stand outside of functions and classes (`starsFit`), the two are read alike, and the names of
the module are sound if those of the other one are (`checkModule_rebuilt`). A star that stands
inside stops the reading, so nothing weaker will do (`starsFit_of_checkModule`).
-/

namespace SourceLoader

/-- Does a node of the kind have a scope of its own for its statements? -/
def Kind.isDefinition : Kind → Bool
  | .functionDef _ _ | .classDef _ => true
  | _ => false

namespace Tree

mutual

/-- Do all stars that imports list stand outside of functions and classes? `inside` holds in one. -/
def starsFit (inside : Bool) : Tree → Bool
  | .node k _ fs =>
    !(inside && k = .alias "*" none) && starsFitFields (inside || k.isDefinition) fs

/-- The same for some fields. -/
def starsFitFields (inside : Bool) : List (List Tree) → Bool
  | [] => true
  | f :: fs => starsFitAll inside f && starsFitFields inside fs

/-- The same for some trees. -/
def starsFitAll (inside : Bool) : List Tree → Bool
  | [] => true
  | t :: ts => starsFit inside t && starsFitAll inside ts

end

theorem starsFit_of_mem {inside : Bool} {ts : List Tree} (h : starsFitAll inside ts = true)
    {t : Tree} (ht : t ∈ ts) : starsFit inside t = true := by
  induction ts with
  | nil => cases ht
  | cons u ts ih =>
      rw [starsFitAll, Bool.and_eq_true] at h
      rcases List.mem_cons.mp ht with rfl | ht
      · exact h.1
      · exact ih h.2 ht

end Tree

/-! ## What lists no names -/

/-- Can a tree of the category list names of imports, or hold what does? -/
def Category.listsNames (c : Category) : Bool := c.holdsStatements || c = .importName

/-- Does no node of the kind hold what lists names? -/
def Kind.isPlain (k : Kind) : Bool := k.slots.all fun slot => !slot.category.listsNames

theorem Kind.isPlain_of_category {k : Kind} (h : k.category.listsNames = false) :
    k.isPlain = true := by
  cases k <;> first | rfl | cases h

namespace Tree

open Slot (AllFilled)

mutual

theorem starsFit_of_isPlain : (t : Tree) → t.isWellFormed = true → t.kind.isPlain = true →
    (∀ name asName, t.kind ≠ .alias name asName) → ∀ inside, starsFit inside t = true
  | .node k s fs, hformed, hplain, hname, inside => by
    have hfilled := ((isWellFormed_iff k s fs).mp hformed).2
    have hslots : ∀ slot ∈ k.slots, slot.category.listsNames = false := fun slot hslot => by
      simpa using List.all_eq_true.mp hplain slot hslot
    rw [starsFit, starsFitFields_of_isPlain fs hfilled hslots]
    have hself : k ≠ .alias "*" none := hname "*" none
    simp [hself]

theorem starsFitFields_of_isPlain : (fs : List (List Tree)) → ∀ {slots : List Slot},
    AllFilled slots fs → (∀ slot ∈ slots, slot.category.listsNames = false) →
      ∀ {inside}, starsFitFields inside fs = true
  | [], _, _, _, _ => rfl
  | f :: fs, slot :: slots, hfilled, hplain, inside => by
    have hslot := hplain slot List.mem_cons_self
    rw [starsFitFields, starsFitAll_of_isPlain f, starsFitFields_of_isPlain fs hfilled.2
      fun slot' h => hplain slot' (List.mem_cons_of_mem _ h)]
    · rfl
    intro t ht
    rcases hfilled.1.is t ht with his | his
    · exact ⟨his.2, by rw [his.1]; exact hslot⟩
    · exact ⟨his.2, by rw [his.1]; rfl⟩

theorem starsFitAll_of_isPlain : (ts : List Tree) →
    (∀ t ∈ ts, t.isWellFormed = true ∧ t.category.listsNames = false) →
      ∀ {inside}, starsFitAll inside ts = true
  | [], _, _ => rfl
  | t :: ts, hplain, inside => by
    obtain ⟨hformed, hcategory⟩ := hplain t List.mem_cons_self
    rw [starsFitAll, starsFit_of_isPlain t hformed (Kind.isPlain_of_category hcategory),
      starsFitAll_of_isPlain ts fun u hu => hplain u (List.mem_cons_of_mem _ hu)]
    · rfl
    intro name asName heq
    rw [category, heq] at hcategory
    cases hcategory

end

theorem starsFit_of_is {c : Category} {t : Tree} (h : Is c t) (hc : c.listsNames = false)
    (inside : Bool) : starsFit inside t = true := by
  have hall : starsFitAll inside [t] = true := starsFitAll_of_isPlain [t] fun u hu => by
    rw [List.mem_singleton.mp hu]
    exact ⟨h.2, by rw [h.1]; exact hc⟩
  simpa [starsFitAll] using hall

theorem starsFitAll_of_filled {slot : Slot} {ts : List Tree} (h : slot.Filled ts)
    (hslot : slot.category.listsNames = false) (inside : Bool) : starsFitAll inside ts = true := by
  refine starsFitAll_of_isPlain ts fun t ht => ?_
  rcases h.is t ht with his | his
  · exact ⟨his.2, by rw [his.1]; exact hslot⟩
  · exact ⟨his.2, by rw [his.1]; rfl⟩

end Tree

namespace Lowering

theorem isDefinition_of_isLowered {k : Kind} {span : Option Span} {fs : List (List Tree)}
    (h : isLowered (.node k span fs) = true) : k.isDefinition = false := by
  cases k <;> first | rfl | cases h

end Lowering

namespace Scope

open Tree (Is AllAre SomeAre moved starsFit starsFitAll starsFitFields starsFit_of_mem)
open Lowering

variable {future : Bool} {φ : List BlockKind} {k : BlockKind}

/-! ## What stays -/

theorem tree_refl (t : Tree) : Alike True (k :: φ) (k :: φ) (tree future t) (tree future t) := by
  have hself : Alike True (k :: φ) (k :: φ) (tree future t)
      (tree future (t.moved fun _ s => s)) := (tree_alike_all future).1 t k φ
  rwa [Tree.moved_id] at hself

theorem trees_refl (ts : List Tree) :
    Alike True (k :: φ) (k :: φ) (trees future ts) (trees future ts) := by
  have hself : Alike True (k :: φ) (k :: φ) (trees future ts)
      (trees future (ts.map (moved fun _ s => s))) := (tree_alike_all future).2.2.1 ts k φ
  rwa [Tree.map_moved_id] at hself

theorem optionalHint_refl (ts : List Tree) :
    Alike True (k :: φ) (k :: φ) (optionalHint future ts) (optionalHint future ts) := by
  have hself : Alike True (k :: φ) (k :: φ) (optionalHint future ts)
      (optionalHint future (ts.map (moved fun _ s => s))) :=
    (tree_alike_all future).2.2.2.2.1 ts k φ
  rwa [Tree.map_moved_id] at hself

theorem hints_refl (ts : List Tree) :
    Alike True (k :: φ) (k :: φ) (hints future ts) (hints future ts) := by
  have hself : Alike True (k :: φ) (k :: φ) (hints future ts)
      (hints future (ts.map (moved fun _ s => s))) := (tree_alike_all future).2.2.2.2.2 ts k φ
  rwa [Tree.map_moved_id] at hself

theorem parameters_refl (ts : List Tree) :
    Alike True φ φ (parameters ts) (parameters ts) := by
  have hself : Alike True φ φ (parameters ts) (parameters (ts.map (moved fun _ s => s))) :=
    alike_parameters ts
  rwa [Tree.map_moved_id] at hself

theorem alike_trees_nil : Alike True φ φ (trees future []) (trees future []) := by
  rw [trees]
  exact alike_done

theorem fields_one (ts : List Tree) : fields future [ts] = trees future ts := by
  rw [fields, fields]
  exact bind_pure _

/-- An import is read name by name. -/
theorem tree_import {kind : Kind} {span : Option Span} {aliases : List Tree}
    (h : isImport (.node kind span [aliases]) = true) :
    tree future (.node kind span [aliases]) = trees future aliases := by
  cases kind <;> cases h
  all_goals
    rw [tree, fields_one]
    all_goals (intros; contradiction)

/-- A module is read statement by statement. -/
theorem tree_module (s : Option Span) (body : List Tree) :
    tree future (.node .module s [body]) = trees future body := by
  rw [tree, fields_one]
  all_goals (intros; contradiction)

theorem alike_fields_nil :
    Alike True φ φ (fields future []) (fields future []) := by
  rw [fields]
  exact alike_done

theorem alike_fields_cons {f f' : List Tree} {fs fs' : List (List Tree)}
    (hhead : Alike True φ φ (trees future f) (trees future f'))
    (htail : Alike True φ φ (fields future fs) (fields future fs')) :
    Alike True φ φ (fields future (f :: fs)) (fields future (f' :: fs')) := by
  rw [fields, fields]
  exact hhead.seq htail

/-! ## What is rebuilt -/

/-- What is read for the names of an import is what they stand for. -/
theorem alike_put {span : Option Span} {aliases : List Tree} {kind : Kind}
    (haliases : SomeAre .importName aliases)
    (hbinds : ∀ name asName s fs, .node (.alias name asName) s fs ∈ aliases →
      StarOrWord kind name asName)
    {inside : Bool} (hstars : starsFitAll inside aliases = true)
    (hinside : inside = false → k = .module) :
    Alike True (k :: φ) (k :: φ)
      (trees future ((aliases.map (statementFor kind)).map (Tree.relocate span)))
      (trees future aliases) := by
  rw [List.map_map]
  refine alike_trees_map fun a ha => ?_
  obtain ⟨name, asName, s, rfl⟩ := importName_eq (haliases.all a ha)
  refine alike_statementFor (hbinds name asName s [] ha) (fun hname hasName => hinside ?_) φ
  subst hname hasName
  have hstar := starsFit_of_mem hstars ha
  cases inside with
  | false => rfl
  | true => simp [starsFit] at hstar

mutual

theorem alike_rebuilt : {t u : Tree} → Rebuilt t u → ∀ {inside : Bool} {k : BlockKind}
    {φ : List BlockKind}, starsFit inside t = true → (inside = false → k = .module) →
      Alike True (k :: φ) (k :: φ) (tree future u) (tree future t)
  | _, _, .same _, _, _, _, _, _ => tree_refl _
  | _, _, .functionDef hbody, inside, k, φ, hstars, hinside => by
    simp only [starsFit, starsFitFields, Kind.isDefinition, Bool.or_true, Bool.and_eq_true]
      at hstars
    rw [tree, tree]
    refine (alike_note _ (.refl _) _ _).seq ((trees_refl _).seq ((trees_refl _).seq (Alike.seq
      (Alike.hint (fun _ _ => ?_) _) ((optionalHint_refl _).seq ((trees_refl _).seq
        ((alike_openBlock _).seq ?_))))))
    · exact (hints_refl _).seq ((hints_refl _).seq ((hints_refl _).seq ((hints_refl _).seq
        (hints_refl _))))
    · exact (parameters_refl _).seq ((parameters_refl _).seq ((parameters_refl _).seq
        ((parameters_refl _).seq ((parameters_refl _).seq
          ((alike_rebuiltAll hbody hstars.2.2.1 nofun).seq (alike_closeBlock _))))))
  | _, _, .classDef hbody, inside, k, φ, hstars, hinside => by
    simp only [starsFit, starsFitFields, Kind.isDefinition, Bool.or_true, Bool.and_eq_true]
      at hstars
    rw [tree, tree]
    refine (alike_note _ (.refl _) _ _).seq ((trees_refl _).seq ((trees_refl _).seq
      ((trees_refl _).seq ((alike_openBlock _).seq (alike_get fun s s' h => ?_)))))
    exact (alike_inClass _ _ rfl).seq ((alike_rebuiltAll hbody hstars.2.2.2.1 nofun).seq
      ((alike_inClass _ _ h.className_eq).seq (alike_closeBlock _)))
  | _, _, .forLoop hbody hotherwise, inside, k, φ, hstars, hinside => by
    simp only [starsFit, starsFitFields, Kind.isDefinition, Bool.or_false, Bool.and_eq_true]
      at hstars
    rw [tree, tree]
    · exact alike_fields_cons (trees_refl _) (alike_fields_cons (trees_refl _)
        (alike_fields_cons (alike_rebuiltAll hbody hstars.2.2.2.1 hinside)
          (alike_fields_cons (alike_rebuiltAll hotherwise hstars.2.2.2.2.1 hinside)
            alike_fields_nil)))
    all_goals (intros; contradiction)
  | _, _, .whileLoop hbody hotherwise, inside, k, φ, hstars, hinside => by
    simp only [starsFit, starsFitFields, Kind.isDefinition, Bool.or_false, Bool.and_eq_true]
      at hstars
    rw [tree, tree]
    · exact alike_fields_cons (trees_refl _)
        (alike_fields_cons (alike_rebuiltAll hbody hstars.2.2.1 hinside)
          (alike_fields_cons (alike_rebuiltAll hotherwise hstars.2.2.2.1 hinside)
            alike_fields_nil))
    all_goals (intros; contradiction)
  | _, _, .ifStmt hbody hotherwise, inside, k, φ, hstars, hinside => by
    simp only [starsFit, starsFitFields, Kind.isDefinition, Bool.or_false, Bool.and_eq_true]
      at hstars
    rw [tree, tree]
    · exact alike_fields_cons (trees_refl _)
        (alike_fields_cons (alike_rebuiltAll hbody hstars.2.2.1 hinside)
          (alike_fields_cons (alike_rebuiltAll hotherwise hstars.2.2.2.1 hinside)
            alike_fields_nil))
    all_goals (intros; contradiction)
  | _, _, .withStmt hbody, inside, k, φ, hstars, hinside => by
    simp only [starsFit, starsFitFields, Kind.isDefinition, Bool.or_false, Bool.and_eq_true]
      at hstars
    rw [tree, tree]
    · exact alike_fields_cons (trees_refl _)
        (alike_fields_cons (alike_rebuiltAll hbody hstars.2.2.1 hinside) alike_fields_nil)
    all_goals (intros; contradiction)
  | _, _, .matchStmt hcases, inside, k, φ, hstars, hinside => by
    simp only [starsFit, starsFitFields, Kind.isDefinition, Bool.or_false, Bool.and_eq_true]
      at hstars
    rw [tree, tree]
    · exact alike_fields_cons (trees_refl _)
        (alike_fields_cons (alike_rebuiltCases hcases hstars.2.2.1 hinside) alike_fields_nil)
    all_goals (intros; contradiction)
  | _, _, .tryStmt hbody hhandlers hotherwise hfinal, inside, k, φ, hstars, hinside => by
    simp only [starsFit, starsFitFields, Kind.isDefinition, Bool.or_false, Bool.and_eq_true]
      at hstars
    rw [tree, tree]
    exact (alike_rebuiltAll hbody hstars.2.1 hinside).seq
      ((alike_rebuiltAll hotherwise hstars.2.2.2.1 hinside).seq
        ((alike_rebuiltHandlers hhandlers hstars.2.2.1 hinside).seq
          (alike_rebuiltAll hfinal hstars.2.2.2.2.1 hinside)))

theorem alike_rebuiltAll : {ts us : List Tree} → RebuiltAll ts us → ∀ {inside : Bool}
    {k : BlockKind} {φ : List BlockKind}, starsFitAll inside ts = true →
      (inside = false → k = .module) →
        Alike True (k :: φ) (k :: φ) (trees future us) (trees future ts)
  | _, _, .nil, _, _, _, _, _ => alike_trees_nil
  | _, _, .put himport haliases hbinds htail, inside, k, φ, hstars, hinside => by
    rw [starsFitAll, Bool.and_eq_true] at hstars
    rw [trees_append, trees, tree_import (isImport_of_isLowered himport)]
    have hhead := hstars.1
    rw [starsFit, isDefinition_of_isLowered himport] at hhead
    simp only [starsFitFields, Bool.or_false, Bool.and_eq_true] at hhead
    exact (alike_put haliases hbinds hhead.2.1 hinside).seq
      (alike_rebuiltAll htail hstars.2 hinside)
  | _, _, .kept _ hhead htail, inside, k, φ, hstars, hinside => by
    rw [starsFitAll, Bool.and_eq_true] at hstars
    rw [trees, trees]
    exact (alike_rebuilt hhead hstars.1 hinside).seq (alike_rebuiltAll htail hstars.2 hinside)

theorem alike_rebuiltHandlers : {ts us : List Tree} → RebuiltHandlers ts us → ∀ {inside : Bool}
    {k : BlockKind} {φ : List BlockKind}, starsFitAll inside ts = true →
      (inside = false → k = .module) →
        Alike True (k :: φ) (k :: φ) (trees future us) (trees future ts)
  | _, _, .nil, _, _, _, _, _ => alike_trees_nil
  | _, _, .cons hbody htail, inside, k, φ, hstars, hinside => by
    simp only [starsFitAll, starsFit, starsFitFields, Kind.isDefinition, Bool.or_false,
      Bool.and_eq_true] at hstars
    rw [trees, trees, tree, tree]
    exact ((trees_refl _).seq ((alike_bindOptional _ _ _).seq
      (alike_rebuiltAll hbody hstars.1.2.2.1 hinside))).seq
        (alike_rebuiltHandlers htail hstars.2 hinside)

theorem alike_rebuiltCases : {ts us : List Tree} → RebuiltCases ts us → ∀ {inside : Bool}
    {k : BlockKind} {φ : List BlockKind}, starsFitAll inside ts = true →
      (inside = false → k = .module) →
        Alike True (k :: φ) (k :: φ) (trees future us) (trees future ts)
  | _, _, .nil, _, _, _, _, _ => alike_trees_nil
  | _, _, .cons hbody htail, inside, k, φ, hstars, hinside => by
    simp only [starsFitAll, starsFit, starsFitFields, Kind.isDefinition, Bool.or_false,
      Bool.and_eq_true] at hstars
    rw [trees, trees, tree, tree]
    · exact (alike_fields_cons (trees_refl _) (alike_fields_cons (trees_refl _)
        (alike_fields_cons (alike_rebuiltAll hbody hstars.1.2.2.2.1 hinside)
          alike_fields_nil))).seq (alike_rebuiltCases htail hstars.2 hinside)
    all_goals (intros; contradiction)

end

/-- **The names of a module are sound if they are with its imports replaced**, as long as its stars
stand outside of functions and classes. -/
theorem checkModule_rebuilt {future : Future} {s : Option Span} {body body' : List Tree}
    (h : RebuiltAll body body') (hstars : starsFit false (.node .module s [body]) = true)
    (hcheck : checkModule future (.node .module s [body']) = .ok ()) :
    checkModule future (.node .module s [body]) = .ok () := by
  have hbody : starsFitAll false body = true := by
    simpa [starsFit, starsFitFields, Kind.isDefinition] using hstars
  have hread : Alike True [.module] [.module]
      (tree future.postponesHints (.node .module s [body']))
      (tree future.postponesHints (.node .module s [body])) := by
    rw [tree_module, tree_module]
    exact alike_rebuiltAll h hbody fun _ => rfl
  exact checkModule_ok hread hcheck

/-! ## Stars inside are refused -/

/-- Reading from a state that covers itself leads to such a state, and only if `P` holds. -/
def Ensures (φ χ : List BlockKind) (x : Reader Unit) (P : Prop) : Prop :=
  ∀ s s₂, Beside True φ s s → x s = .ok ((), s₂) → Beside True χ s₂ s₂ ∧ P

namespace Ensures

variable {χ ψ : List BlockKind} {x y : Reader Unit} {P Q : Prop}

theorem of_alike (h : Alike True φ χ x x) : Ensures φ χ x True := by
  intro s s₂ hs hx
  have houtcomes := h s s hs
  rw [hx] at houtcomes
  exact ⟨houtcomes.2, trivial⟩

theorem imp (h : Ensures φ χ x P) (hPQ : P → Q) : Ensures φ χ x Q := fun s s₂ hs hx =>
  (h s s₂ hs hx).imp_right hPQ

theorem seq (hx : Ensures φ χ x P) (hy : Ensures χ ψ y Q) : Ensures φ ψ (do x; y) (P ∧ Q) := by
  intro s s₂ hs h
  change (x s).bind (fun r => y r.2) = _ at h
  cases hr : x s with
  | error e => rw [hr] at h; cases h
  | ok r =>
      rw [hr] at h
      obtain ⟨hr₂, hP⟩ := hx s r.2 hs hr
      obtain ⟨hs₂, hQ⟩ := hy r.2 s₂ hr₂ h
      exact ⟨hs₂, hP, hQ⟩

theorem after (hx : Alike True φ χ x x) (hy : Ensures χ ψ y P) : Ensures φ ψ (do x; y) P :=
  ((of_alike hx).seq hy).imp And.right

theorem before (hx : Ensures φ χ x P) (hy : Alike True χ ψ y y) : Ensures φ ψ (do x; y) P :=
  (hx.seq (of_alike hy)).imp And.left

theorem get {f : State → Reader Unit} (h : ∀ s, Ensures φ χ (f s) P) :
    Ensures φ χ (do let s ← get; f s) P := fun s s₂ hs hx => h s s s₂ hs hx

end Ensures

/-- Names that an import lists are read only if no star stands inside. -/
theorem ensures_aliases {inside : Bool} (hinside : inside = true → k ≠ .module)
    {aliases : List Tree} (haliases : AllAre .importName aliases) :
    Ensures (k :: φ) (k :: φ) (trees future aliases) (starsFitAll inside aliases = true) := by
  induction aliases with
  | nil => exact (Ensures.of_alike alike_trees_nil).imp fun _ => rfl
  | cons a aliases ih =>
      have htail := ih fun b hb => haliases b (List.mem_cons_of_mem _ hb)
      obtain ⟨name, asName, s, rfl⟩ := importName_eq (haliases a List.mem_cons_self)
      have hhead : Ensures (k :: φ) (k :: φ) (tree future (.node (.alias name asName) s []))
          (starsFit inside (.node (.alias name asName) s []) = true) := by
        intro s₁ s₂ hs hread
        refine ⟨((Ensures.of_alike (tree_refl _)) s₁ s₂ hs hread).1, ?_⟩
        by_contra hstar
        have hboth : inside = true ∧ name = "*" ∧ asName = none := by
          simpa [starsFit, starsFitFields] using hstar
        obtain ⟨hin, rfl, rfl⟩ := hboth
        have hkind : s₁.current.kind ≠ .module := fun heq =>
          hinside hin ((hs.head_eq rfl).symm.trans heq)
        rw [tree] at hread
        change (if s₁.current.kind ≠ .module then _ else _ : Reader Unit) s₁ = _ at hread
        rw [if_pos hkind] at hread
        cases hread
      rw [trees]
      refine (hhead.seq htail).imp fun ⟨hfirst, hrest⟩ => ?_
      rw [starsFitAll, hfirst, hrest]
      rfl

theorem ensures_fields_cons {P Q : Prop} {f : List Tree} {fs : List (List Tree)}
    (hhead : Ensures φ φ (trees future f) P) (htail : Ensures φ φ (fields future fs) Q) :
    Ensures φ φ (fields future (f :: fs)) (P ∧ Q) := by
  rw [fields]
  exact hhead.seq htail

theorem ensures_fields_nil : Ensures φ φ (fields future []) True := .of_alike alike_fields_nil

theorem isFlat_of_isLowered {kind : Kind} {s : Option Span} {fs : List (List Tree)}
    (h : isLowered (.node kind s fs) = true) : kind.isFlat = true := by
  cases kind <;> first | rfl | cases h

/-- A statement without others inside is read only if no star stands inside. -/
theorem ensures_flat {t : Tree} (his : Is .statement t) (hflat : t.kind.isFlat = true)
    {inside : Bool} (hinside : inside = true → k ≠ .module) :
    Ensures (k :: φ) (k :: φ) (tree future t) (starsFit inside t = true) := by
  obtain ⟨kind, s, fs⟩ := t
  cases himport : isImport (.node kind s fs) with
  | true =>
      obtain ⟨aliases, rfl, haliases⟩ := importNames_of_isImport his.2 himport
      have hnames : tree future (.node kind s [aliases]) = trees future aliases :=
        tree_import himport
      rw [hnames]
      refine (ensures_aliases hinside haliases.all).imp fun hall => ?_
      cases kind <;> cases himport
      all_goals simp [starsFit, starsFitFields, Kind.isDefinition, hall]
  | false =>
      refine (Ensures.of_alike (tree_refl _)).imp fun _ => ?_
      refine Tree.starsFit_of_isPlain _ his.2 ?_ ?_ inside
      · cases kind <;> first | rfl | (cases himport; done) | cases hflat
      · intro name asName heq
        have hcategory := his.1
        rw [Tree.category, heq] at hcategory
        cases hcategory

mutual

theorem ensures_rebuilt : {t u : Tree} → Rebuilt t u → Is .statement t → ∀ {inside : Bool}
    {k : BlockKind} {φ : List BlockKind}, (inside = true → k ≠ .module) →
      Ensures (k :: φ) (k :: φ) (tree future t) (starsFit inside t = true)
  | _, _, .same hflat, his, _, _, _, hinside => ensures_flat his hflat hinside
  | _, _, .functionDef hbody, his, inside, k, φ, hinside => by
    obtain ⟨harguments, hstatements, hdecorators, hresult, -⟩ := his.fields
    have hparts : Ensures (.function :: k :: φ) (.function :: k :: φ) (trees future _)
        (starsFitAll true _ = true) := ensures_rebuiltAll hbody hstatements.all nofun
    rw [tree]
    refine Ensures.imp (.after (alike_note _ (.refl _) _ _) (.after (trees_refl _)
      (.after (trees_refl _) (.after (Alike.hint (fun _ _ => ?_) _) (.after (optionalHint_refl _)
        (.after (trees_refl _) (.after (alike_openBlock _) (.after (parameters_refl _)
          (.after (parameters_refl _) (.after (parameters_refl _) (.after (parameters_refl _)
            (.after (parameters_refl _) (.before hparts (alike_closeBlock _))))))))))))))
      fun hstars => ?_
    · exact (hints_refl _).seq ((hints_refl _).seq ((hints_refl _).seq ((hints_refl _).seq
        (hints_refl _))))
    · simp [starsFit, starsFitFields, Kind.isDefinition, hstars,
        Tree.starsFitAll_of_filled harguments rfl, Tree.starsFitAll_of_filled hdecorators rfl,
        Tree.starsFitAll_of_filled hresult rfl]
  | _, _, .classDef hbody, his, inside, k, φ, hinside => by
    obtain ⟨hbases, hkeywords, hstatements, hdecorators, -⟩ := his.fields
    have hparts : Ensures (.classBody :: k :: φ) (.classBody :: k :: φ) (trees future _)
        (starsFitAll true _ = true) := ensures_rebuiltAll hbody hstatements.all nofun
    rw [tree]
    refine Ensures.imp (.after (alike_note _ (.refl _) _ _) (.after (trees_refl _)
      (.after (trees_refl _) (.after (trees_refl _) (.after (alike_openBlock _) (.get fun s =>
        .after (alike_inClass _ _ rfl) (.before hparts
          ((alike_inClass _ _ rfl).seq (alike_closeBlock _))))))))) fun hstars => ?_
    simp [starsFit, starsFitFields, Kind.isDefinition, hstars,
      Tree.starsFitAll_of_filled hbases rfl, Tree.starsFitAll_of_filled hkeywords rfl,
      Tree.starsFitAll_of_filled hdecorators rfl]
  | _, _, .forLoop hbody hotherwise, his, inside, k, φ, hinside => by
    obtain ⟨htarget, hsource, hstatements, hothers, -⟩ := his.fields
    rw [tree]
    · refine (ensures_fields_cons (.of_alike (trees_refl _)) (ensures_fields_cons
        (.of_alike (trees_refl _)) (ensures_fields_cons
          (ensures_rebuiltAll hbody hstatements.all hinside) (ensures_fields_cons
            (ensures_rebuiltAll hotherwise hothers hinside) ensures_fields_nil)))).imp ?_
      rintro ⟨-, -, hfirst, hsecond, -⟩
      simp [starsFit, starsFitFields, Kind.isDefinition, hfirst, hsecond,
        Tree.starsFitAll_of_filled htarget rfl, Tree.starsFitAll_of_filled hsource rfl]
    all_goals (intros; contradiction)
  | _, _, .whileLoop hbody hotherwise, his, inside, k, φ, hinside => by
    obtain ⟨htest, hstatements, hothers, -⟩ := his.fields
    rw [tree]
    · refine (ensures_fields_cons (.of_alike (trees_refl _)) (ensures_fields_cons
          (ensures_rebuiltAll hbody hstatements.all hinside) (ensures_fields_cons
            (ensures_rebuiltAll hotherwise hothers hinside) ensures_fields_nil))).imp ?_
      rintro ⟨-, hfirst, hsecond, -⟩
      simp [starsFit, starsFitFields, Kind.isDefinition, hfirst, hsecond,
        Tree.starsFitAll_of_filled htest rfl]
    all_goals (intros; contradiction)
  | _, _, .ifStmt hbody hotherwise, his, inside, k, φ, hinside => by
    obtain ⟨htest, hstatements, hothers, -⟩ := his.fields
    rw [tree]
    · refine (ensures_fields_cons (.of_alike (trees_refl _)) (ensures_fields_cons
          (ensures_rebuiltAll hbody hstatements.all hinside) (ensures_fields_cons
            (ensures_rebuiltAll hotherwise hothers hinside) ensures_fields_nil))).imp ?_
      rintro ⟨-, hfirst, hsecond, -⟩
      simp [starsFit, starsFitFields, Kind.isDefinition, hfirst, hsecond,
        Tree.starsFitAll_of_filled htest rfl]
    all_goals (intros; contradiction)
  | _, _, .withStmt hbody, his, inside, k, φ, hinside => by
    obtain ⟨hitems, hstatements, -⟩ := his.fields
    rw [tree]
    · refine (ensures_fields_cons (.of_alike (trees_refl _)) (ensures_fields_cons
          (ensures_rebuiltAll hbody hstatements.all hinside) ensures_fields_nil)).imp ?_
      rintro ⟨-, hfirst, -⟩
      simp [starsFit, starsFitFields, Kind.isDefinition, hfirst,
        Tree.starsFitAll_of_filled hitems rfl]
    all_goals (intros; contradiction)
  | _, _, .matchStmt hcases, his, inside, k, φ, hinside => by
    obtain ⟨hsubject, hall, -⟩ := his.fields
    rw [tree]
    · refine (ensures_fields_cons (.of_alike (trees_refl _)) (ensures_fields_cons
          (ensures_rebuiltCases hcases hall.all hinside) ensures_fields_nil)).imp ?_
      rintro ⟨-, hfirst, -⟩
      simp [starsFit, starsFitFields, Kind.isDefinition, hfirst,
        Tree.starsFitAll_of_filled hsubject rfl]
    all_goals (intros; contradiction)
  | _, _, .tryStmt hbody hhandlers hotherwise hfinal, his, inside, k, φ, hinside => by
    obtain ⟨hstatements, hall, hothers, hlast, -⟩ := his.fields
    rw [tree]
    refine ((ensures_rebuiltAll hbody hstatements.all hinside).seq
      ((ensures_rebuiltAll hotherwise hothers hinside).seq
        ((ensures_rebuiltHandlers hhandlers hall hinside).seq
          (ensures_rebuiltAll hfinal hlast hinside)))).imp ?_
    rintro ⟨hfirst, hsecond, hthird, hfourth⟩
    simp [starsFit, starsFitFields, Kind.isDefinition, hfirst, hsecond, hthird, hfourth]

theorem ensures_rebuiltAll : {ts us : List Tree} → RebuiltAll ts us → AllAre .statement ts →
    ∀ {inside : Bool} {k : BlockKind} {φ : List BlockKind}, (inside = true → k ≠ .module) →
      Ensures (k :: φ) (k :: φ) (trees future ts) (starsFitAll inside ts = true)
  | _, _, .nil, _, _, _, _, _ => (Ensures.of_alike alike_trees_nil).imp fun _ => rfl
  | _, _, .put himport _ _ htail, hall, inside, k, φ, hinside => by
    rw [trees]
    have hhead := hall _ List.mem_cons_self
    refine ((ensures_flat hhead (isFlat_of_isLowered himport) hinside).seq (ensures_rebuiltAll htail
      (fun t ht => hall t (List.mem_cons_of_mem _ ht)) hinside)).imp ?_
    rintro ⟨hfirst, hrest⟩
    rw [starsFitAll, hfirst, hrest]
    rfl
  | _, _, .kept _ hhead htail, hall, inside, k, φ, hinside => by
    rw [trees]
    refine ((ensures_rebuilt hhead (hall _ List.mem_cons_self) hinside).seq
      (ensures_rebuiltAll htail (fun t ht => hall t (List.mem_cons_of_mem _ ht)) hinside)).imp ?_
    rintro ⟨hfirst, hrest⟩
    rw [starsFitAll, hfirst, hrest]
    rfl

theorem ensures_rebuiltHandlers : {ts us : List Tree} → RebuiltHandlers ts us →
    AllAre .handler ts → ∀ {inside : Bool} {k : BlockKind} {φ : List BlockKind},
      (inside = true → k ≠ .module) →
        Ensures (k :: φ) (k :: φ) (trees future ts) (starsFitAll inside ts = true)
  | _, _, .nil, _, _, _, _, _ => (Ensures.of_alike alike_trees_nil).imp fun _ => rfl
  | _, _, .cons hbody htail, hall, inside, k, φ, hinside => by
    obtain ⟨htype, hstatements, -⟩ := (hall _ List.mem_cons_self).fields
    rw [trees, tree]
    refine (Ensures.seq (.after (trees_refl _) (.after (alike_bindOptional _ _ _)
      (ensures_rebuiltAll hbody hstatements.all hinside))) (ensures_rebuiltHandlers htail
        (fun t ht => hall t (List.mem_cons_of_mem _ ht)) hinside)).imp ?_
    rintro ⟨hfirst, hrest⟩
    simp [starsFitAll, starsFit, starsFitFields, Kind.isDefinition, hfirst, hrest,
      Tree.starsFitAll_of_filled htype rfl]

theorem ensures_rebuiltCases : {ts us : List Tree} → RebuiltCases ts us →
    AllAre .matchCase ts → ∀ {inside : Bool} {k : BlockKind} {φ : List BlockKind},
      (inside = true → k ≠ .module) →
        Ensures (k :: φ) (k :: φ) (trees future ts) (starsFitAll inside ts = true)
  | _, _, .nil, _, _, _, _, _ => (Ensures.of_alike alike_trees_nil).imp fun _ => rfl
  | _, _, .cons hbody htail, hall, inside, k, φ, hinside => by
    obtain ⟨hpattern, hcondition, hstatements, -⟩ := (hall _ List.mem_cons_self).fields
    rw [trees, tree]
    · refine ((ensures_fields_cons (.of_alike (trees_refl _)) (ensures_fields_cons
        (.of_alike (trees_refl _)) (ensures_fields_cons
          (ensures_rebuiltAll hbody hstatements.all hinside) ensures_fields_nil))).seq
        (ensures_rebuiltCases htail (fun t ht => hall t (List.mem_cons_of_mem _ ht))
          hinside)).imp ?_
      rintro ⟨⟨-, -, hfirst, -⟩, hrest⟩
      simp [starsFitAll, starsFit, starsFitFields, Kind.isDefinition, hfirst, hrest,
        Tree.starsFit_of_is hpattern rfl, Tree.starsFitAll_of_filled hcondition rfl]
    all_goals (intros; contradiction)

end

/-- **A module whose names are sound lists no star inside of a function or a class.** -/
theorem starsFit_of_checkModule {future : Future} {s : Option Span} {body body' : List Tree}
    (h : RebuiltAll body body') (hall : AllAre .statement body)
    (hcheck : checkModule future (.node .module s [body]) = .ok ()) :
    starsFit false (.node .module s [body]) = true := by
  obtain ⟨s₂, hread, -⟩ := checkModule_ok_iff.mp hcheck
  rw [tree_module] at hread
  have hensures : Ensures [.module] [.module] (trees future.postponesHints body)
      (starsFitAll false body = true) := ensures_rebuiltAll h hall nofun
  have hstars := (hensures _ _ (beside_init True) hread).2
  simp [starsFit, starsFitFields, Kind.isDefinition, hstars]

end Scope

end SourceLoader
