import SourceLoader.Proofs.Retained

/-!
# Statements with their imports replaced

Lowering changes lists of statements, so it changes only what holds such lists: compound
statements, handlers and cases. Everything else, expressions above all, stays the same tree.
`Rebuilt` says so by the kinds of statements: it names the parts that stay and relates the lists
that change. Whatever goes over statements by their kinds can go over the two trees together.

A replaced import comes with what is known of the names that it lists: either it lists a star, which
then stands alone and behind a module, or it binds a name without points.
-/

namespace SourceLoader

/-- Can a tree of the category hold statements? -/
def Category.holdsStatements : Category → Bool
  | .module | .statement | .handler | .matchCase => true
  | _ => false

/-- Does no node of the kind hold statements, handlers or cases? -/
def Kind.isFlat (k : Kind) : Bool := k.slots.all fun slot => !slot.category.holdsStatements

theorem Kind.isFlat_of_category {k : Kind} (h : k.category.holdsStatements = false) :
    k.isFlat = true := by
  cases k <;> first | rfl | cases h

namespace Lowering

open Tree (Is AllAre SomeAre)
open Slot (AllFilled)

/-! ## What stays the same -/

mutual

/-- A tree that holds no statements stays as it is. -/
theorem Replacing.eq_of_isFlat : {t u : Tree} → Replacing t u → t.isWellFormed = true →
    t.kind.isFlat = true → u = t
  | .node k s fs, .node _ _ gs, .node h, hformed, hflat => by
    rw [h.eq_of_isFlat ((Tree.isWellFormed_iff k s fs).mp hformed).2
      (fun slot hslot => by simpa using List.all_eq_true.mp hflat slot hslot)]

theorem ReplacingFields.eq_of_isFlat : {fs gs : List (List Tree)} → ReplacingFields fs gs →
    ∀ {slots : List Slot}, AllFilled slots fs →
      (∀ slot ∈ slots, slot.category.holdsStatements = false) → gs = fs
  | _, _, .nil, _, _, _ => rfl
  | _, _, .cons hhead htail, slot :: slots, hfilled, hflat => by
    have hslot := hflat slot List.mem_cons_self
    rw [hhead.eq_of_isFlat fun t ht => ?_,
      htail.eq_of_isFlat hfilled.2 fun slot' h => hflat slot' (List.mem_cons_of_mem _ h)]
    rcases hfilled.1.is t ht with his | his
    · exact ⟨his.2, by rw [his.1]; exact hslot⟩
    · exact ⟨his.2, by rw [his.1]; rfl⟩

theorem ReplacingAll.eq_of_isFlat : {ts us : List Tree} → ReplacingAll ts us →
    (∀ t ∈ ts, t.isWellFormed = true ∧ t.category.holdsStatements = false) → us = ts
  | _, _, .nil, _ => rfl
  | t :: ts, _, .put himport _ _, hflat => by
    have hholds := (hflat t List.mem_cons_self).2
    rw [isLowered_of_category (t := t) fun heq => by rw [heq] at hholds; cases hholds] at himport
    cases himport
  | t :: ts, _, .kept _ hhead htail, hflat => by
    obtain ⟨hformed, hholds⟩ := hflat t List.mem_cons_self
    rw [hhead.eq_of_isFlat hformed (Kind.isFlat_of_category hholds),
      htail.eq_of_isFlat fun u hu => hflat u (List.mem_cons_of_mem _ hu)]

end

/-! ## Listed names -/

/-- What an import binds of a name that it lists: all of a module, or a word. -/
def StarOrWord (k : Kind) (name : String) (asName : Option String) : Prop :=
  (name = "*" ∧ asName = none ∧ ∃ m level, k = .importFrom (some m) level)
  ∨ name ≠ "*" ∧ Text.isWord (asName.getD name) = true

/-- A name other than a star is bound to a module or to a member of one. -/
theorem formOf_word (k : Kind) {name : String} (asName : Option String) (hname : name ≠ "*") :
    (∃ specifier, formOf k name asName = .whole (asName.getD name) specifier)
      ∨ ∃ specifier part, formOf k name asName = .member (asName.getD name) specifier part := by
  cases k with
  | importFrom module level =>
      cases module with
      | none => exact .inl ⟨_, rfl⟩
      | some m => exact .inr ⟨_, name, if_neg hname⟩
  | _ => exact .inl ⟨_, rfl⟩

theorem mayList_of_isLowered {k : Kind} {span : Option Span} {aliases : List Tree}
    (himport : isLowered (.node k span [aliases]) = true)
    (hwritten : k.listsAsWritten [aliases] = true) : ∀ a ∈ aliases, k.mayList a.kind = true := by
  have hall (p : Tree → Bool) (hp : [aliases].flatten.all p = true) : ∀ a ∈ aliases, p a = true :=
    fun a ha => List.all_eq_true.mp hp a (by simpa using ha)
  cases k
  case importNames | importFrom => exact hall _ hwritten
  all_goals cases himport

/-- What can be lowered and is listed as the grammar has it is a star or a word. -/
theorem starOrWord_of_mayList {k : Kind} {span : Option Span} {aliases : List Tree}
    (himport : isLowered (.node k span [aliases]) = true)
    (hfault : fault? (.node k span [aliases]) = none)
    (hwritten : ∀ a ∈ aliases, k.mayList a.kind = true) {name : String} {asName : Option String}
    {s : Option Span} {fs : List (List Tree)} (ha : .node (.alias name asName) s fs ∈ aliases) :
    StarOrWord k name asName := by
  have hlisted := hwritten _ ha
  simp only [Kind.mayList, Tree.kind, Bool.and_eq_true] at hlisted
  obtain ⟨hword, hlisted⟩ := hlisted
  cases k with
  | importNames =>
      have hname : nameFault? (.node (.alias name asName) s fs) = none :=
        List.findSome?_eq_none_iff.mp hfault _ ha
      refine .inr ⟨of_decide_eq_true hlisted, ?_⟩
      cases asName with
      | none => simpa [nameFault?, Tree.kind, Text.isWord] using hname
      | some other => simpa using hword
  | importFrom module level =>
      by_cases hstar : name = "*"
      · subst hstar
        cases module with
        | none =>
            have hname : siblingFault? level (.node (.alias "*" asName) s fs) = none :=
              List.findSome?_eq_none_iff.mp hfault _ ha
            simp [siblingFault?, Tree.kind] at hname
        | some m => exact .inl ⟨rfl, by simpa using hlisted, m, level, rfl⟩
      · refine .inr ⟨hstar, ?_⟩
        cases asName with
        | none => simpa [hstar] using hlisted
        | some other => simpa using hword
  | _ => cases himport

/-! ## Compound statements -/

mutual

/-- A statement other than an import that is lowered, and the same one with its imports replaced. -/
inductive Rebuilt : Tree → Tree → Prop
  | same {t : Tree} (hflat : t.kind.isFlat = true) : Rebuilt t t
  | functionDef {isAsync : Bool} {name : String} {s as : Option Span}
      {only ps rest named kds mapping ds body body' decorators result : List Tree}
      (hbody : RebuiltAll body body') :
      Rebuilt (.node (.functionDef isAsync name) s
          [[.node .arguments as [only, ps, rest, named, kds, mapping, ds]], body, decorators,
            result])
        (.node (.functionDef isAsync name) s
          [[.node .arguments as [only, ps, rest, named, kds, mapping, ds]], body', decorators,
            result])
  | classDef {name : String} {s : Option Span} {bases keywords body body' decorators : List Tree}
      (hbody : RebuiltAll body body') :
      Rebuilt (.node (.classDef name) s [bases, keywords, body, decorators])
        (.node (.classDef name) s [bases, keywords, body', decorators])
  | forLoop {isAsync : Bool} {s : Option Span} {target source : Tree}
      {body body' otherwise otherwise' : List Tree} (hbody : RebuiltAll body body')
      (hotherwise : RebuiltAll otherwise otherwise') :
      Rebuilt (.node (.forLoop isAsync) s [[target], [source], body, otherwise])
        (.node (.forLoop isAsync) s [[target], [source], body', otherwise'])
  | whileLoop {s : Option Span} {test : Tree} {body body' otherwise otherwise' : List Tree}
      (hbody : RebuiltAll body body') (hotherwise : RebuiltAll otherwise otherwise') :
      Rebuilt (.node .whileLoop s [[test], body, otherwise])
        (.node .whileLoop s [[test], body', otherwise'])
  | ifStmt {s : Option Span} {test : Tree} {body body' otherwise otherwise' : List Tree}
      (hbody : RebuiltAll body body') (hotherwise : RebuiltAll otherwise otherwise') :
      Rebuilt (.node .ifStmt s [[test], body, otherwise])
        (.node .ifStmt s [[test], body', otherwise'])
  | withStmt {isAsync : Bool} {s : Option Span} {items body body' : List Tree}
      (hbody : RebuiltAll body body') :
      Rebuilt (.node (.withStmt isAsync) s [items, body])
        (.node (.withStmt isAsync) s [items, body'])
  | matchStmt {s : Option Span} {subject : Tree} {cases cases' : List Tree}
      (hcases : RebuiltCases cases cases') :
      Rebuilt (.node .matchStmt s [[subject], cases]) (.node .matchStmt s [[subject], cases'])
  | tryStmt {star : Bool} {s : Option Span}
      {body body' handlers handlers' otherwise otherwise' final final' : List Tree}
      (hbody : RebuiltAll body body') (hhandlers : RebuiltHandlers handlers handlers')
      (hotherwise : RebuiltAll otherwise otherwise') (hfinal : RebuiltAll final final') :
      Rebuilt (.node (.tryStmt star) s [body, handlers, otherwise, final])
        (.node (.tryStmt star) s [body', handlers', otherwise', final'])

/-- Statements, and the same ones with the imports among them and in them replaced. -/
inductive RebuiltAll : List Tree → List Tree → Prop
  | nil : RebuiltAll [] []
  | put {k : Kind} {span : Option Span} {aliases ts us : List Tree}
      (himport : isLowered (.node k span [aliases]) = true)
      (haliases : SomeAre .importName aliases)
      (hbinds : ∀ name asName s fs, .node (.alias name asName) s fs ∈ aliases →
        StarOrWord k name asName)
      (htail : RebuiltAll ts us) :
      RebuiltAll (.node k span [aliases] :: ts)
        ((aliases.map (statementFor k)).map (Tree.relocate span) ++ us)
  | kept {t u : Tree} {ts us : List Tree} (hother : isLowered t = false) (hhead : Rebuilt t u)
      (htail : RebuiltAll ts us) : RebuiltAll (t :: ts) (u :: us)

/-- The same for the handlers of a `try`. -/
inductive RebuiltHandlers : List Tree → List Tree → Prop
  | nil : RebuiltHandlers [] []
  | cons {name : Option String} {s : Option Span} {type body body' ts us : List Tree}
      (hbody : RebuiltAll body body') (htail : RebuiltHandlers ts us) :
      RebuiltHandlers (.node (.exceptHandler name) s [type, body] :: ts)
        (.node (.exceptHandler name) s [type, body'] :: us)

/-- The same for the cases of a `match`. -/
inductive RebuiltCases : List Tree → List Tree → Prop
  | nil : RebuiltCases [] []
  | cons {s : Option Span} {pattern : Tree} {condition body body' ts us : List Tree}
      (hbody : RebuiltAll body body') (htail : RebuiltCases ts us) :
      RebuiltCases (.node .matchCase s [[pattern], condition, body] :: ts)
        (.node .matchCase s [[pattern], condition, body'] :: us)

end

section

variable {t u : Tree}

/-- A statement that is rebuilt to another one holds statements. -/
theorem Rebuilt.eq_or (h : Rebuilt t u) :
    u = t ∨ t.kind.isFlat = false ∧ u.kind = t.kind ∧ u.span? = t.span? := by
  cases h with
  | same => exact .inl rfl
  | _ => exact .inr ⟨rfl, rfl, rfl⟩

theorem isFutureImport_of_not_isFlat (h : t.kind.isFlat = false) : isFutureImport t = false := by
  unfold isFutureImport
  split
  · next heq => rw [heq] at h; cases h
  · rfl

theorem isDocumentation_of_not_isFlat (h : t.kind.isFlat = false) :
    Future.isDocumentation t = false := by
  unfold Future.isDocumentation
  split
  · cases h
  · rfl

theorem isDocumentation_of_isLowered (h : isLowered t = true) :
    Future.isDocumentation t = false := by
  unfold Future.isDocumentation
  split
  · cases h
  · rfl

end

section

variable {ts us : List Tree}

theorem RebuiltHandlers.isEmpty_eq (h : RebuiltHandlers ts us) : us.isEmpty = ts.isEmpty := by
  cases h <;> rfl

theorem RebuiltCases.isEmpty_eq (h : RebuiltCases ts us) : us.isEmpty = ts.isEmpty := by
  cases h <;> rfl

theorem RebuiltAll.isEmpty_eq (h : RebuiltAll ts us) : us.isEmpty = ts.isEmpty := by
  cases h with
  | nil => rfl
  | kept => rfl
  | @put _ _ aliases _ _ _ haliases =>
      cases aliases with
      | nil => exact absurd rfl haliases.1
      | cons => rfl

end

/-! ## Replacing rebuilds -/

/-- All imports in a tree can be lowered and list names as the grammar has them. -/
def Lowerable (t : Tree) : Prop :=
  ∀ n ∈ t.nodes, fault? n = none ∧ n.kind.listsAsWritten n.fields = true

theorem Lowerable.of_child {t c : Tree} (h : Lowerable t) (hc : c ∈ t.children) : Lowerable c :=
  fun n hn => h n (Tree.mem_nodes_iff.mpr (.inr ⟨c, hc, hn⟩))

/-- What replacing comes to for a node that can stand in a list. -/
structure Rebuilds (t : Tree) : Prop where
  statement : ∀ {u}, Replacing t u → isLowered t = false → Is .statement t → Lowerable t →
    Rebuilt t u
  handler : ∀ {u}, Replacing t u → Is .handler t → Lowerable t → ∃ name s type body body',
    t = .node (.exceptHandler name) s [type, body] ∧ u = .node (.exceptHandler name) s [type, body']
      ∧ RebuiltAll body body'
  matchCase : ∀ {u}, Replacing t u → Is .matchCase t → Lowerable t →
    ∃ s pattern condition body body', t = .node .matchCase s [[pattern], condition, body]
      ∧ u = .node .matchCase s [[pattern], condition, body'] ∧ RebuiltAll body body'

section

variable {ts us : List Tree}

theorem rebuiltAll_of_replacing (ih : ∀ t ∈ ts, Rebuilds t) (h : ReplacingAll ts us)
    (hall : AllAre .statement ts) (hlowerable : ∀ t ∈ ts, Lowerable t) : RebuiltAll ts us := by
  induction ts generalizing us with
  | nil => cases h; exact .nil
  | cons t ts ihts =>
      obtain ⟨k, s, fs⟩ := t
      have htail := fun {us} h => @ihts us (fun u hu => ih u (List.mem_cons_of_mem _ hu)) h
        (fun u hu => hall u (List.mem_cons_of_mem _ hu))
        (fun u hu => hlowerable u (List.mem_cons_of_mem _ hu))
      have his := hall _ List.mem_cons_self
      have hhead := hlowerable _ List.mem_cons_self
      cases h with
      | put himport hstand hrest =>
          obtain ⟨aliases, rfl, haliases⟩ :=
            importNames_of_isImport his.2 (isImport_of_isLowered himport)
          have hself := hhead _ (Tree.self_mem_nodes _)
          have hwritten : ∀ a ∈ aliases, k.mayList a.kind = true :=
            mayList_of_isLowered himport hself.2
          rw [(standFor_iff haliases.all).mp hstand]
          exact .put himport haliases
            (fun _ _ _ _ ha => starOrWord_of_mayList himport hself.1 hwritten ha)
            (htail hrest)
      | kept hother hkept hrest =>
          exact .kept hother ((ih _ List.mem_cons_self).statement hkept hother his hhead)
            (htail hrest)

theorem allFilled_cons {slot : Slot} {slots : List Slot} {fs : List (List Tree)} :
    AllFilled (slot :: slots) fs ↔ ∃ f rest, fs = f :: rest ∧ slot.Filled f
      ∧ AllFilled slots rest := by
  cases fs <;> simp [AllFilled]

theorem allFilled_nil {fs : List (List Tree)} : AllFilled [] fs ↔ fs = [] := by
  cases fs <;> simp [AllFilled]

/-- A field of a node and what replacing makes of it. -/
def FieldReplaced (slot : Slot) (f g : List Tree) : Prop := slot.Filled f ∧ ReplacingAll f g

/-- Fields of a node and what replacing makes of them. -/
def FieldsReplaced (slots : List Slot) (fs gs : List (List Tree)) : Prop :=
  AllFilled slots fs ∧ ReplacingFields fs gs

theorem fieldsReplaced_cons {slot : Slot} {slots : List Slot} {fs gs : List (List Tree)} :
    FieldsReplaced (slot :: slots) fs gs ↔ ∃ f rest g rest', fs = f :: rest ∧ gs = g :: rest'
      ∧ FieldReplaced slot f g ∧ FieldsReplaced slots rest rest' := by
  constructor
  · rintro ⟨hfilled, h⟩
    cases h with
    | nil => exact hfilled.elim
    | cons hhead htail => exact ⟨_, _, _, _, rfl, rfl, ⟨hfilled.1, hhead⟩, hfilled.2, htail⟩
  · rintro ⟨f, rest, g, rest', rfl, rfl, ⟨hfilled, h⟩, hrest⟩
    exact ⟨⟨hfilled, hrest.1⟩, .cons h hrest.2⟩

theorem fieldsReplaced_nil {fs gs : List (List Tree)} :
    FieldsReplaced [] fs gs ↔ fs = [] ∧ gs = [] := by
  constructor
  · rintro ⟨hfilled, h⟩
    cases h with
    | nil => exact ⟨rfl, rfl⟩
    | cons => exact hfilled.elim
  · rintro ⟨rfl, rfl⟩
    exact ⟨trivial, .nil⟩

namespace FieldReplaced

variable {slot : Slot} {c : Category} {f g : List Tree}

/-- A field that cannot hold statements stays as it is. -/
theorem eq (h : FieldReplaced slot f g) (hslot : slot.category.holdsStatements = false) :
    g = f := by
  refine h.2.eq_of_isFlat fun t ht => ?_
  rcases h.1.is t ht with his | his
  · exact ⟨his.2, by rw [his.1]; exact hslot⟩
  · exact ⟨his.2, by rw [his.1]; rfl⟩

theorem one (h : FieldReplaced (.one c) f g) (hc : c.holdsStatements = false) :
    ∃ t, f = [t] ∧ g = [t] ∧ Is c t := by
  rw [h.eq hc]
  rcases f with _ | ⟨t, _ | ⟨t', ts⟩⟩
  · exact h.1.elim
  · exact ⟨t, rfl, rfl, h.1⟩
  · exact h.1.elim

end FieldReplaced

theorem arguments_eq {t : Tree} (h : Is .arguments t) : ∃ s only ps rest named kds mapping ds,
    t = .node .arguments s [only, ps, rest, named, kds, mapping, ds] := by
  obtain ⟨k, s, fs⟩ := t
  obtain ⟨hcategory, hformed⟩ := h
  have hfilled := ((Tree.isWellFormed_iff k s fs).mp hformed).2
  cases k
  case arguments =>
    simp only [Kind.slots, allFilled_cons, allFilled_nil] at hfilled
    obtain ⟨only, _, rfl, -, ps, _, rfl, -, rest, _, rfl, -, named, _, rfl, -, kds, _, rfl, -,
      mapping, _, rfl, -, ds, _, rfl, -, rfl⟩ := hfilled
    exact ⟨s, only, ps, rest, named, kds, mapping, ds, rfl⟩
  all_goals cases hcategory

theorem rebuildsHandlers (ih : ∀ t ∈ ts, Rebuilds t) (h : ReplacingAll ts us)
    (hall : AllAre .handler ts) (hlowerable : ∀ t ∈ ts, Lowerable t) : RebuiltHandlers ts us := by
  induction ts generalizing us with
  | nil => cases h; exact .nil
  | cons t ts ihts =>
      have his := hall _ List.mem_cons_self
      cases h with
      | put himport =>
          rw [isLowered_of_category (by rw [his.1]; decide)] at himport
          cases himport
      | kept hother hkept hrest =>
          obtain ⟨_, _, _, _, _, rfl, rfl, hbody⟩ :=
            (ih _ List.mem_cons_self).handler hkept his (hlowerable _ List.mem_cons_self)
          exact .cons hbody (ihts (fun u hu => ih u (List.mem_cons_of_mem _ hu)) hrest
            (fun u hu => hall u (List.mem_cons_of_mem _ hu))
            (fun u hu => hlowerable u (List.mem_cons_of_mem _ hu)))

theorem rebuildsCases (ih : ∀ t ∈ ts, Rebuilds t) (h : ReplacingAll ts us)
    (hall : AllAre .matchCase ts) (hlowerable : ∀ t ∈ ts, Lowerable t) : RebuiltCases ts us := by
  induction ts generalizing us with
  | nil => cases h; exact .nil
  | cons t ts ihts =>
      have his := hall _ List.mem_cons_self
      cases h with
      | put himport =>
          rw [isLowered_of_category (by rw [his.1]; decide)] at himport
          cases himport
      | kept hother hkept hrest =>
          obtain ⟨_, _, _, _, _, rfl, rfl, hbody⟩ :=
            (ih _ List.mem_cons_self).matchCase hkept his (hlowerable _ List.mem_cons_self)
          exact .cons hbody (ihts (fun u hu => ih u (List.mem_cons_of_mem _ hu)) hrest
            (fun u hu => hall u (List.mem_cons_of_mem _ hu))
            (fun u hu => hlowerable u (List.mem_cons_of_mem _ hu)))

theorem rebuilds (t : Tree) : Rebuilds t := by
  induction t using Tree.induction with
  | h t ih =>
  obtain ⟨k, s, fs⟩ := t
  have hbelow : ∀ {f : List Tree}, f ∈ fs → ∀ b ∈ f, Rebuilds b := fun hf b hb =>
    ih b (List.mem_flatten.mpr ⟨_, hf, hb⟩)
  have hchild : ∀ {f : List Tree}, Lowerable (.node k s fs) → f ∈ fs → ∀ b ∈ f, Lowerable b :=
    fun hlowerable hf b hb => hlowerable.of_child (List.mem_flatten.mpr ⟨_, hf, hb⟩)
  have hbodies : ∀ {f g : List Tree}, Lowerable (.node k s fs) → f ∈ fs → ReplacingAll f g →
      AllAre .statement f → RebuiltAll f g := fun hlowerable hf h hall =>
    rebuiltAll_of_replacing (hbelow hf) h hall (hchild hlowerable hf)
  constructor
  · rintro _ ⟨h⟩ hother his hlowerable
    have hfields : FieldsReplaced k.slots fs _ := ⟨his.fields, h⟩
    by_cases hflat : k.isFlat = true
    · rw [(Replacing.node (k := k) (s := s) h).eq_of_isFlat his.2 hflat]
      exact .same hflat
    cases k <;> simp only [Kind.slots, fieldsReplaced_cons, fieldsReplaced_nil] at hfields
    case functionDef =>
      obtain ⟨_, _, _, _, rfl, rfl, harguments, body, _, body', _, rfl, rfl, hbody, _, _, _, _, rfl,
        rfl, hdecorators, _, _, _, _, rfl, rfl, hresult, rfl, rfl⟩ := hfields
      obtain ⟨_, rfl, rfl, his⟩ := harguments.one rfl
      obtain ⟨as, only, ps, rest, named, kds, mapping, ds, rfl⟩ := arguments_eq his
      rw [hdecorators.eq rfl, hresult.eq rfl]
      exact .functionDef (hbodies hlowerable (by simp) hbody.2 hbody.1.all)
    case classDef =>
      obtain ⟨_, _, _, _, rfl, rfl, hbases, _, _, _, _, rfl, rfl, hkeywords, body, _, body', _, rfl,
        rfl, hbody, _, _, _, _, rfl, rfl, hdecorators, rfl, rfl⟩ := hfields
      rw [hbases.eq rfl, hkeywords.eq rfl, hdecorators.eq rfl]
      exact .classDef (hbodies hlowerable (by simp) hbody.2 hbody.1.all)
    case forLoop =>
      obtain ⟨_, _, _, _, rfl, rfl, htarget, _, _, _, _, rfl, rfl, hsource, body, _, body', _, rfl,
        rfl, hbody, otherwise, _, otherwise', _, rfl, rfl, hotherwise, rfl, rfl⟩ := hfields
      obtain ⟨target, rfl, rfl, -⟩ := htarget.one rfl
      obtain ⟨source, rfl, rfl, -⟩ := hsource.one rfl
      exact .forLoop (hbodies hlowerable (by simp) hbody.2 hbody.1.all)
        (hbodies hlowerable (by simp) hotherwise.2 hotherwise.1)
    case whileLoop =>
      obtain ⟨_, _, _, _, rfl, rfl, htest, body, _, body', _, rfl, rfl, hbody, otherwise, _,
        otherwise', _, rfl, rfl, hotherwise, rfl, rfl⟩ := hfields
      obtain ⟨test, rfl, rfl, -⟩ := htest.one rfl
      exact .whileLoop (hbodies hlowerable (by simp) hbody.2 hbody.1.all)
        (hbodies hlowerable (by simp) hotherwise.2 hotherwise.1)
    case ifStmt =>
      obtain ⟨_, _, _, _, rfl, rfl, htest, body, _, body', _, rfl, rfl, hbody, otherwise, _,
        otherwise', _, rfl, rfl, hotherwise, rfl, rfl⟩ := hfields
      obtain ⟨test, rfl, rfl, -⟩ := htest.one rfl
      exact .ifStmt (hbodies hlowerable (by simp) hbody.2 hbody.1.all)
        (hbodies hlowerable (by simp) hotherwise.2 hotherwise.1)
    case withStmt =>
      obtain ⟨_, _, _, _, rfl, rfl, hitems, body, _, body', _, rfl, rfl, hbody, rfl, rfl⟩ := hfields
      rw [hitems.eq rfl]
      exact .withStmt (hbodies hlowerable (by simp) hbody.2 hbody.1.all)
    case matchStmt =>
      obtain ⟨_, _, _, _, rfl, rfl, hsubject, cases, _, cases', _, rfl, rfl, hcases, rfl, rfl⟩ :=
        hfields
      obtain ⟨subject, rfl, rfl, -⟩ := hsubject.one rfl
      exact .matchStmt (rebuildsCases (hbelow (by simp)) hcases.2 hcases.1.all
        (hchild hlowerable (by simp)))
    case tryStmt =>
      obtain ⟨body, _, body', _, rfl, rfl, hbody, handlers, _, handlers', _, rfl, rfl, hhandlers,
        otherwise, _, otherwise', _, rfl, rfl, hotherwise, final, _, final', _, rfl, rfl, hfinal,
        rfl, rfl⟩ := hfields
      exact .tryStmt (hbodies hlowerable (by simp) hbody.2 hbody.1.all)
        (rebuildsHandlers (hbelow (by simp)) hhandlers.2 hhandlers.1 (hchild hlowerable (by simp)))
        (hbodies hlowerable (by simp) hotherwise.2 hotherwise.1)
        (hbodies hlowerable (by simp) hfinal.2 hfinal.1)
    case module | exceptHandler | matchCase => cases his.1
    all_goals exact (hflat rfl).elim
  · rintro _ ⟨h⟩ his hlowerable
    have hfields : FieldsReplaced k.slots fs _ := ⟨his.fields, h⟩
    cases k <;> try cases his.1
    simp only [Kind.slots, fieldsReplaced_cons, fieldsReplaced_nil] at hfields
    obtain ⟨type, _, _, _, rfl, rfl, htype, body, _, body', _, rfl, rfl, hbody, rfl, rfl⟩ := hfields
    rw [htype.eq rfl]
    exact ⟨_, s, type, body, body', rfl, rfl, hbodies hlowerable (by simp) hbody.2 hbody.1.all⟩
  · rintro _ ⟨h⟩ his hlowerable
    have hfields : FieldsReplaced k.slots fs _ := ⟨his.fields, h⟩
    cases k <;> try cases his.1
    simp only [Kind.slots, fieldsReplaced_cons, fieldsReplaced_nil] at hfields
    obtain ⟨_, _, _, _, rfl, rfl, hpattern, condition, _, _, _, rfl, rfl, hcondition, body, _, body',
      _, rfl, rfl, hbody, rfl, rfl⟩ := hfields
    obtain ⟨pattern, rfl, rfl, -⟩ := hpattern.one rfl
    rw [hcondition.eq rfl]
    exact ⟨s, pattern, condition, body, body', rfl, rfl,
      hbodies hlowerable (by simp) hbody.2 hbody.1.all⟩

/-- **A module that is lowered is rebuilt.** -/
theorem rebuiltAll_of_lower {origin : Origin} {t t' : Tree} (h : Is .module t)
    (hlower : lower origin t = .ok t')
    (hwritten : ∀ n ∈ t.nodes, n.kind.listsAsWritten n.fields = true) :
    ∃ s body body', t = .node .module s [body] ∧ t' = .node .module s [body']
      ∧ RebuiltAll body body' := by
  have hfaults : ∀ n ∈ t.nodes, fault? n = none := by
    rw [← firstRefusal?_eq_none_iff origin]
    have hanswers := lower_answers origin h
    cases hfirst : firstRefusal? origin t.nodes with
    | none => rfl
    | some e =>
        rw [hfirst] at hanswers
        have hfails : lower origin t = .error e := hanswers
        rw [hfails] at hlower
        cases hlower
  have hlowerable : Lowerable t := fun n hn => ⟨hfaults n hn, hwritten n hn⟩
  have hreplacing := replacing_of_lower h hlower
  obtain ⟨k, s, fs⟩ := t
  obtain ⟨hfields⟩ := hreplacing
  have hboth : FieldsReplaced k.slots fs _ := ⟨h.fields, hfields⟩
  cases k <;> try cases h.1
  simp only [Kind.slots, fieldsReplaced_cons, fieldsReplaced_nil] at hboth
  obtain ⟨body, _, body', _, rfl, rfl, hbody, rfl, rfl⟩ := hboth
  have hchild : ∀ b ∈ body, b ∈ (Tree.node .module s [body]).children := fun b hb => by
    simpa [Tree.children, Tree.fields] using hb
  exact ⟨s, body, body', rfl, rfl, rebuiltAll_of_replacing (fun b _ => rebuilds b) hbody.2 hbody.1
    fun b hb => hlowerable.of_child (hchild b hb)⟩

end

end Lowering

end SourceLoader
