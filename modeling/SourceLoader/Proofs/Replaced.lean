import SourceLoader.Proofs.Nodes

/-!
# Imports are replaced in place

Lowering changes statement lists and nothing else: each import makes way for statements of its own,
one per name, and every other node stays what and where it was. `Replacing` says so as a relation
between trees, without errors and without a walk. `fault?` says which imports bind no single name.
The two together are all that lowering does (`lower_iff`): it succeeds exactly if no statement has
a fault, it reports the fault that comes first in the source otherwise, and what it answers is the
one tree that `Replacing` allows.

All of this comes from one walk. `Answers` is what the walk owes its caller: the first error if
there is one, and a related result if there is none. Each function of the walk keeps that up, since
the nodes of a list are those of its head followed by those of its tail, which is the order in
which the walk meets them. Lowering twice is lowering once because no statement that is put in is
lowered again.

What counts as an import of `__future__`, which stays, goes by the name of the module alone.
-/

namespace SourceLoader.Lowering

open Tree (Is AllAre SomeAre StandsAt Placed nodesOfAll nodesOfFields)
open Dependencies (dots futureModule)

/-! ## Imports that cannot be lowered -/

/-- What is wrong with a name that an `import` lists. -/
def nameFault? (a : Tree) : Option Fault :=
  match a.kind with
  | .alias name none => if name.toList.contains '.' then some (.dottedImport name) else none
  | _ => none

/-- What is wrong with a name that a `from` import without a module lists. -/
def siblingFault? (level : Nat) (a : Tree) : Option Fault :=
  match a.kind with
  | .alias name _ => if name = "*" then some (.relativeStar (dots level)) else none
  | _ => none

/-- What is wrong with a statement: an import lists a name with points and no other name for it, or
all names of no module in particular. -/
def fault? : Tree → Option Fault
  | .node .importNames _ [aliases] => aliases.findSome? nameFault?
  | .node (.importFrom none level) _ [aliases] => aliases.findSome? (siblingFault? level)
  | _ => none

/-- The error of a statement. -/
def refusal? (origin : Origin) (t : Tree) : Option SyntaxError :=
  (fault? t).map (refuse origin t.span?)

/-! ## What stands for an import -/

/-- What a name becomes that an import lists. -/
def formOf : Kind → String → Option String → Form
  | .importFrom none level, name, asName => .whole (asName.getD name) (dots level ++ name)
  | .importFrom (some m) level, name, asName =>
    if name = "*" then .all (dots level ++ m)
    else .member (asName.getD name) (dots level ++ m) name
  | _, name, asName => .whole (asName.getD name) name

/-- A statement stands for a listed name: it has the form that the import asks for, and all of it
is at the place of the import. -/
def StandsFor (k : Kind) (span : Option Span) (a u : Tree) : Prop :=
  ∃ name asName, a.kind = .alias name asName
    ∧ u.eraseSpans = (formOf k name asName).statement ∧ u.StandsAt span

/-- The statements stand for an import, one for each name it lists, in that order. -/
inductive StandFor : Tree → List Tree → Prop
  | intro {k : Kind} {span : Option Span} {aliases statements : List Tree}
      (h : List.Forall₂ (StandsFor k span) aliases statements) :
      StandFor (.node k span [aliases]) statements

mutual

/-- The second tree is the first with its imports replaced: the root has the same kind and place. -/
inductive Replacing : Tree → Tree → Prop
  | node {k : Kind} {s : Option Span} {fs gs : List (List Tree)} (h : ReplacingFields fs gs) :
      Replacing (.node k s fs) (.node k s gs)

/-- The same for fields: there are as many, in the same order. -/
inductive ReplacingFields : List (List Tree) → List (List Tree) → Prop
  | nil : ReplacingFields [] []
  | cons {f g : List Tree} {fs gs : List (List Tree)} (hhead : ReplacingAll f g)
      (htail : ReplacingFields fs gs) : ReplacingFields (f :: fs) (g :: gs)

/-- The same for lists: an import makes way for its statements, and all else stays in order. -/
inductive ReplacingAll : List Tree → List Tree → Prop
  | nil : ReplacingAll [] []
  | put {t : Tree} {statements ts us : List Tree} (himport : isLowered t = true)
      (hhead : StandFor t statements) (htail : ReplacingAll ts us) :
      ReplacingAll (t :: ts) (statements ++ us)
  | kept {t u : Tree} {ts us : List Tree} (hother : isLowered t = false)
      (hhead : Replacing t u) (htail : ReplacingAll ts us) : ReplacingAll (t :: ts) (u :: us)

end

/-! ## One statement -/

variable {origin : Origin} {span : Option Span}

/-- The result of a walk: the first error, if there is one, and a related result otherwise. -/
def Answers {α : Type} (first : Option SyntaxError) (R : α → Prop) (x : Except SyntaxError α) :
    Prop :=
  match first with
  | some e => x = .error e
  | none => ∃ a, x = .ok a ∧ R a

/-- The statement for a listed name, at no place. Nothing but names is listed. -/
def statementFor (k : Kind) (a : Tree) : Tree :=
  match a.kind with
  | .alias name asName => (formOf k name asName).statement
  | _ => a

theorem standsFor_iff {k : Kind} {a u : Tree} (h : Is .importName a) :
    StandsFor k span a u ↔ u = (statementFor k a).relocate span := by
  obtain ⟨name, asName, s, rfl⟩ := importName_eq h
  have hform : u.eraseSpans = (formOf k name asName).statement ∧ u.StandsAt span
      ↔ u = (formOf k name asName).statement.relocate span :=
    Tree.standsAt_iff (Form.eraseSpans_statement _)
  constructor
  · rintro ⟨_, _, hkind, hstands⟩
    cases hkind
    exact hform.mp hstands
  · intro heq
    exact ⟨name, asName, rfl, hform.mpr heq⟩

/-- There is one choice of statements that stand for the names of an import. -/
theorem standFor_iff {k : Kind} {aliases statements : List Tree} (h : AllAre .importName aliases) :
    StandFor (.node k span [aliases]) statements
      ↔ statements = (aliases.map (statementFor k)).map (Tree.relocate span) := by
  have heach : List.Forall₂ (StandsFor k span) aliases statements
      ↔ List.Forall₂ (fun a u => u = (statementFor k a).relocate span) aliases statements := by
    induction aliases generalizing statements with
    | nil => simp only [List.forall₂_nil_left_iff]
    | cons a rest ih =>
        have hrest := fun us => @ih us fun u hu => h u (List.mem_cons_of_mem _ hu)
        simp only [List.forall₂_cons_left_iff, hrest, standsFor_iff (h a List.mem_cons_self)]
  rw [List.map_map, eq_comm, ← List.forall₂_eq_eq_eq, List.forall₂_map_left_iff]
  constructor
  · rintro ⟨hall⟩
    exact (heach.mp hall).imp fun _ _ heq => heq.symm
  · intro hall
    exact ⟨heach.mpr (hall.imp fun _ _ heq => heq.symm)⟩

/-- A walk over the listed names that stops at the first fault. -/
theorem answers_of_step (walk : List Tree → Except SyntaxError (List Tree))
    {wrong? : Tree → Option Fault} {put : Tree → Tree} (hnil : walk [] = .ok [])
    (hcons : ∀ a rest, Is .importName a → walk (a :: rest) =
      match wrong? a with
      | some fault => .error (refuse origin span fault)
      | none => (walk rest).map (put a :: ·))
    {aliases : List Tree} (h : AllAre .importName aliases) :
    Answers ((aliases.findSome? wrong?).map (refuse origin span)) (· = aliases.map put)
      (walk aliases) := by
  induction aliases with
  | nil => exact ⟨[], hnil, rfl⟩
  | cons a rest ih =>
      have hrest := ih fun u hu => h u (List.mem_cons_of_mem _ hu)
      rw [hcons a rest (h a List.mem_cons_self), List.findSome?_cons]
      cases wrong? a with
      | some fault => exact rfl
      | none =>
          dsimp only
          cases hfault : rest.findSome? wrong? with
          | some fault =>
              rw [hfault] at hrest
              have hfails : walk rest = .error (refuse origin span fault) := hrest
              rw [hfails]
              exact rfl
          | none =>
              rw [hfault] at hrest
              obtain ⟨others, hothers, rfl⟩ := hrest
              rw [hothers]
              exact ⟨_, rfl, rfl⟩

theorem lowerNames_answers {aliases : List Tree} (h : AllAre .importName aliases) :
    Answers ((aliases.findSome? nameFault?).map (refuse origin span))
      (· = aliases.map (statementFor .importNames)) (lowerNames origin span aliases) := by
  refine answers_of_step (lowerNames origin span) rfl (fun a rest ha => ?_) h
  obtain ⟨name, asName, s, rfl⟩ := importName_eq ha
  rw [lowerNames]
  cases asName with
  | some n => rfl
  | none =>
      have hfault : nameFault? (.node (.alias name none) s []) =
          if name.toList.contains '.' then some (.dottedImport name) else none := rfl
      rw [hfault]
      by_cases hdotted : name.toList.contains '.' = true
      · simp only [hdotted]
        rfl
      · simp only [hdotted]
        rfl

theorem lowerSiblings_answers {level : Nat} {aliases : List Tree} (h : AllAre .importName aliases) :
    Answers ((aliases.findSome? (siblingFault? level)).map (refuse origin span))
      (· = aliases.map (statementFor (.importFrom none level)))
      (lowerSiblings origin span level aliases) := by
  refine answers_of_step (lowerSiblings origin span level) rfl (fun a rest ha => ?_) h
  obtain ⟨name, asName, s, rfl⟩ := importName_eq ha
  have hfault : siblingFault? level (.node (.alias name asName) s []) =
      if name = "*" then some (.relativeStar (dots level)) else none := rfl
  rw [lowerSiblings, hfault]
  by_cases hstar : name = "*"
  · rw [if_pos hstar, if_pos hstar]
    rfl
  · rw [if_neg hstar, if_neg hstar]
    rfl

theorem lowerMembers_eq {m : String} {level : Nat} {aliases : List Tree}
    (h : AllAre .importName aliases) :
    lowerMembers (dots level ++ m) aliases
      = aliases.map (statementFor (.importFrom (some m) level)) := by
  rw [lowerMembers, ← List.filterMap_eq_map]
  refine List.filterMap_congr fun a ha => ?_
  obtain ⟨name, asName, s, rfl⟩ := importName_eq (h a ha)
  change some _ = some (formOf (.importFrom (some m) level) name asName).statement
  rw [formOf]
  by_cases hstar : name = "*"
  · rw [if_pos hstar, if_pos hstar]
    rfl
  · rw [if_neg hstar, if_neg hstar]
    rfl

theorem Answers.map {α β : Type} {first : Option SyntaxError} {R : α → Prop} {S : β → Prop}
    {x : Except SyntaxError α} (h : Answers first R x) (f : α → β) (hRS : ∀ a, R a → S (f a)) :
    Answers first S (x.map f) := by
  cases first with
  | some e =>
      have hfails : x = .error e := h
      rw [hfails]
      exact rfl
  | none =>
      obtain ⟨a, rfl, ha⟩ := h
      exact ⟨f a, rfl, hRS a ha⟩

/-- **What becomes of an import**: its error, or the statements that stand for it. -/
theorem lowerNode?_answers (origin : Origin) {t : Tree} (hformed : t.isWellFormed = true)
    (himport : isLowered t = true) :
    Answers (refusal? origin t)
      (fun found => ∃ statements, found = some statements ∧ ∀ us, StandFor t us ↔ us = statements)
      (lowerNode? origin t) := by
  unfold isLowered at himport
  split at himport
  · next s aliases =>
    have hall : AllAre .importName aliases := ((Tree.isWellFormed_iff _ _ _).mp hformed).2.1.2
    refine (lowerNames_answers hall).map (fun us => some (us.map (Tree.relocate s))) ?_
    rintro us rfl
    exact ⟨_, rfl, fun vs => standFor_iff hall⟩
  · next m level s aliases =>
    have hall : AllAre .importName aliases := ((Tree.isWellFormed_iff _ _ _).mp hformed).2.1.2
    unfold lowerNode?
    dsimp only
    rw [if_neg (of_decide_eq_true himport)]
    cases m with
    | none =>
        refine (lowerSiblings_answers hall).map (fun us => some (us.map (Tree.relocate s))) ?_
        rintro us rfl
        exact ⟨_, rfl, fun vs => standFor_iff hall⟩
    | some m =>
        refine ⟨_, rfl, _, rfl, fun vs => ?_⟩
        rw [lowerMembers_eq hall]
        exact standFor_iff hall
  · cases himport

/-! ## The whole walk -/

/-- The first error among some nodes. -/
def firstRefusal? (origin : Origin) (ns : List Tree) : Option SyntaxError :=
  ns.findSome? (refusal? origin)

theorem refusal?_eq_none {t : Tree} (h : isLowered t = false) : refusal? origin t = none := by
  have hfault : fault? t = none := by
    unfold fault?
    split
    · cases h
    · cases h
    · rfl
  rw [refusal?, hfault]
  rfl

/-- Below an import there are only the names that it lists. -/
theorem firstRefusal?_importNames {aliases : List Tree} (h : AllAre .importName aliases) :
    firstRefusal? origin (nodesOfAll aliases) = none := by
  induction aliases with
  | nil => rfl
  | cons a rest ih =>
      obtain ⟨name, asName, s, rfl⟩ := importName_eq (h a List.mem_cons_self)
      exact ih fun u hu => h u (List.mem_cons_of_mem _ hu)

theorem firstRefusal?_of_isLowered {t : Tree} (hformed : t.isWellFormed = true)
    (himport : isLowered t = true) : firstRefusal? origin t.nodes = refusal? origin t := by
  have hnone : ∀ {k : Kind} {s : Option Span} {aliases : List Tree},
      AllAre .importName aliases → firstRefusal? origin (Tree.node k s [aliases]).nodes
        = refusal? origin (.node k s [aliases]) := by
    intro k s aliases hall
    have hbelow : (nodesOfAll aliases ++ []).findSome? (refusal? origin) = none := by
      rw [List.append_nil]
      exact firstRefusal?_importNames hall
    rw [firstRefusal?, Tree.nodes, nodesOfFields, nodesOfFields, List.findSome?_cons, hbelow]
    cases refusal? origin (.node k s [aliases]) <;> rfl
  unfold isLowered at himport
  split at himport
  · exact hnone ((Tree.isWellFormed_iff _ _ _).mp hformed).2.1.2
  · exact hnone ((Tree.isWellFormed_iff _ _ _).mp hformed).2.1.2
  · cases himport

/-- What two walks one after the other owe. -/
theorem Answers.bind {α β γ : Type} {first second : Option SyntaxError} {R : α → Prop}
    {S : β → Prop} {T : γ → Prop} {x : Except SyntaxError α} {y : Except SyntaxError β}
    (hx : Answers first R x) (hy : Answers second S y) (join : α → β → γ)
    (hjoin : ∀ a b, R a → S b → T (join a b)) :
    Answers (first.or second) T (x.bind fun a => y.map (join a)) := by
  cases first with
  | some e =>
      have hfails : x = .error e := hx
      rw [hfails]
      exact rfl
  | none =>
      obtain ⟨a, rfl, ha⟩ := hx
      exact hy.map (join a) fun b hb => hjoin a b ha hb

mutual

/-- The walk over a tree that is no import. -/
theorem lowerTree_answers : (t : Tree) → t.isWellFormed = true → isLowered t = false →
    Answers (firstRefusal? origin t.nodes)
      (fun t' => ∀ u, Replacing t u ↔ u = t') (lowerTree origin t)
  | .node k s fs, hformed, hother => by
    simp only [Tree.isWellFormed, Bool.and_eq_true] at hformed
    have hfields := lowerFields_answers fs hformed.2
    rw [Tree.nodes, firstRefusal?, List.findSome?_cons, refusal?_eq_none hother]
    refine hfields.map (Tree.node k s) ?_
    intro gs hgs u
    constructor
    · rintro ⟨h⟩
      rw [(hgs _).mp h]
    · rintro rfl
      exact .node ((hgs gs).mpr rfl)

theorem lowerFields_answers :
    (fs : List (List Tree)) → Tree.areFieldsWellFormed fs = true →
      Answers (firstRefusal? origin (nodesOfFields fs))
        (fun gs => ∀ us, ReplacingFields fs us ↔ us = gs) (lowerFields origin fs)
  | [], _ => by
    refine ⟨[], rfl, fun us => ⟨?_, ?_⟩⟩
    · rintro ⟨⟩
      rfl
    · rintro rfl
      exact .nil
  | f :: fs, hformed => by
    simp only [Tree.areFieldsWellFormed, Bool.and_eq_true] at hformed
    have hhead := lowerAll_answers f hformed.1
    have htail := lowerFields_answers fs hformed.2
    rw [nodesOfFields, firstRefusal?, List.findSome?_append]
    refine hhead.bind htail List.cons ?_
    intro g gs hg hgs us
    constructor
    · rintro ⟨_, _⟩
      next hf hfs => rw [(hg _).mp hf, (hgs _).mp hfs]
    · rintro rfl
      exact .cons ((hg g).mpr rfl) ((hgs gs).mpr rfl)

theorem lowerAll_answers : (ts : List Tree) → Tree.areWellFormed ts = true →
    Answers (firstRefusal? origin (nodesOfAll ts))
      (fun us => ∀ vs, ReplacingAll ts vs ↔ vs = us) (lowerAll origin ts)
  | [], _ => by
    refine ⟨[], rfl, fun us => ⟨?_, ?_⟩⟩
    · rintro ⟨⟩
      rfl
    · rintro rfl
      exact .nil
  | t :: ts, hformed => by
    simp only [Tree.areWellFormed, Bool.and_eq_true] at hformed
    have htail := lowerAll_answers ts hformed.2
    rw [nodesOfAll, firstRefusal?, List.findSome?_append]
    cases himport : isLowered t with
    | true =>
        have hnode := lowerNode?_answers origin hformed.1 himport
        rw [← firstRefusal?_of_isLowered hformed.1 himport] at hnode
        have hwalk : lowerAll origin (t :: ts) = (lowerNode? origin t).bind fun found =>
            (lowerAll origin ts).map (found.getD [] ++ ·) := by
          rw [lowerAll]
          cases hnone : lowerNode? origin t with
          | error e => rfl
          | ok found =>
              obtain ⟨statements, rfl⟩ := lowerNode?_of_isLowered himport hnone
              rfl
        rw [hwalk]
        refine hnode.bind htail (fun found us => found.getD [] ++ us) ?_
        rintro _ us ⟨statements, rfl, hput⟩ hus vs
        constructor
        · intro h
          cases h with
          | put _ hhead htail => rw [(hput _).mp hhead, (hus _).mp htail]; rfl
          | kept hother => rw [himport] at hother; cases hother
        · rintro rfl
          exact .put himport ((hput _).mpr rfl) ((hus us).mpr rfl)
    | false =>
        have hwalk : lowerAll origin (t :: ts) = (lowerTree origin t).bind fun t' =>
            (lowerAll origin ts).map (t' :: ·) := by
          rw [lowerAll, lowerNode?_eq t himport]
          rfl
        rw [hwalk]
        refine (lowerTree_answers t hformed.1 himport).bind htail List.cons ?_
        intro t' us ht' hus vs
        constructor
        · intro h
          cases h with
          | put hlowered => rw [himport] at hlowered; cases hlowered
          | kept _ hhead htail => rw [(ht' _).mp hhead, (hus _).mp htail]
        · rintro rfl
          exact .kept himport ((ht' t').mpr rfl) ((hus us).mpr rfl)

end

/-! ## What the result is made of -/

/-- Is a node an import of whatever form? -/
def isImport (t : Tree) : Bool :=
  match t.kind with
  | .importNames | .importFrom _ _ => true
  | _ => false

theorem isImport_of_isLowered {t : Tree} (h : isLowered t = true) : isImport t = true := by
  unfold isLowered at h
  split at h
  · rfl
  · rfl
  · cases h

/-- Imports have places. -/
theorem hasSpan_of_isLowered {t : Tree} (h : isLowered t = true) : t.kind.hasSpan = true := by
  have hkind := isImport_of_isLowered h
  unfold isImport at hkind
  split at hkind
  · next heq => rw [heq]; rfl
  · next heq => rw [heq]; rfl
  · cases hkind

theorem isImport_of_mem_statement (form : Form) : ∀ n ∈ form.statement.nodes, isImport n = false := by
  cases form <;>
    simp [Form.statement, bind, requireCall, callOf, readName, textLiteral, memberOf, bindAll,
      clauseOf, Tree.nodes, nodesOfFields, nodesOfAll, isImport, Tree.kind]

/-- A statement that stands for an import has one of the three forms, at one place. -/
theorem form_of_standFor {t u : Tree} {statements : List Tree} (h : StandFor t statements)
    (hu : u ∈ statements) :
    ∃ form : Form, u.eraseSpans = form.statement ∧ u.StandsAt t.span? := by
  obtain ⟨hall⟩ := h
  induction hall with
  | nil => cases hu
  | cons hhead _ ih =>
      rcases List.mem_cons.mp hu with rfl | hu
      · obtain ⟨name, asName, -, hform, hplace⟩ := hhead
        exact ⟨formOf _ name asName, hform, hplace⟩
      · exact ih hu

/-- The nodes of such a statement are no imports. -/
theorem isImport_of_standFor {t u n : Tree} {statements : List Tree}
    (h : StandFor t statements) (hu : u ∈ statements) (hn : n ∈ u.nodes) :
    isImport n = false := by
  obtain ⟨form, hform, -⟩ := form_of_standFor h hu
  have hmem : n.eraseSpans ∈ form.statement.nodes := by
    rw [← hform, ← Tree.moved_none, Tree.nodes_moved]
    exact List.mem_map_of_mem hn
  have herased := isImport_of_mem_statement form _ hmem
  rwa [isImport, Tree.kind_eraseSpans] at herased

/-- They have places if the import has one. -/
theorem placed_of_standFor {t u : Tree} {statements : List Tree} (h : StandFor t statements)
    (hu : u ∈ statements) (hplace : t.span?.isSome = true) : u.Placed := by
  obtain ⟨form, -, hstands⟩ := form_of_standFor h hu
  intro n hn
  rw [hstands n hn]
  cases n.kind.hasSpan with
  | true => exact hplace
  | false => rfl

/-- What holds of all nodes of a tree (`Q`) makes something hold of each node that stays and of each
one that is put in (`P`). -/
structure Inherits (Q P : Tree → Prop) : Prop where
  kept : ∀ {k s fs gs}, isLowered (.node k s fs) = false → Q (.node k s fs) →
    ReplacingFields fs gs → P (.node k s gs)
  put : ∀ {t statements}, isLowered t = true → Q t → StandFor t statements →
    ∀ u ∈ statements, ∀ n ∈ u.nodes, P n

section

variable {P Q : Tree → Prop}

mutual

/-- Then it holds of all nodes of the result. -/
theorem Inherits.replacing (hP : Inherits Q P) : {t u : Tree} → Replacing t u →
    isLowered t = false → (∀ n ∈ t.nodes, Q n) → ∀ n ∈ u.nodes, P n
  | _, _, .node h, hother, hQ => by
    intro n hn
    rw [Tree.nodes] at hn
    rcases List.mem_cons.mp hn with rfl | hn
    · exact hP.kept hother (hQ _ (Tree.self_mem_nodes _)) h
    · exact hP.fields h (fun m hm => hQ m (List.mem_cons_of_mem _ hm)) n hn

theorem Inherits.fields (hP : Inherits Q P) : {fs gs : List (List Tree)} → ReplacingFields fs gs →
    (∀ n ∈ nodesOfFields fs, Q n) → ∀ n ∈ nodesOfFields gs, P n
  | _, _, .nil, _ => fun _ hn => absurd hn List.not_mem_nil
  | _, _, .cons hhead htail, hQ => by
    intro n hn
    rcases List.mem_append.mp hn with hn | hn
    · exact hP.all hhead (fun m hm => hQ m (List.mem_append_left _ hm)) n hn
    · exact hP.fields htail (fun m hm => hQ m (List.mem_append_right _ hm)) n hn

theorem Inherits.all (hP : Inherits Q P) : {ts us : List Tree} → ReplacingAll ts us →
    (∀ n ∈ nodesOfAll ts, Q n) → ∀ n ∈ nodesOfAll us, P n
  | _, _, .nil, _ => fun _ hn => absurd hn List.not_mem_nil
  | _, _, .put himport hhead htail, hQ => by
    intro n hn
    rw [Tree.nodesOfAll_append] at hn
    rcases List.mem_append.mp hn with hn | hn
    · obtain ⟨u, hu, hn⟩ := Tree.mem_nodesOfAll.mp hn
      exact hP.put himport (hQ _ (List.mem_append_left _ (Tree.self_mem_nodes _))) hhead u hu n hn
    · exact hP.all htail (fun m hm => hQ m (List.mem_append_right _ hm)) n hn
  | _, _, .kept hother hhead htail, hQ => by
    intro n hn
    rcases List.mem_append.mp hn with hn | hn
    · exact hP.replacing hhead hother (fun m hm => hQ m (List.mem_append_left _ hm)) n hn
    · exact hP.all htail (fun m hm => hQ m (List.mem_append_right _ hm)) n hn

end

end

theorem isLowered_of_replacingFields {k : Kind} {s : Option Span} {fs gs : List (List Tree)}
    (h : ReplacingFields fs gs) :
    isLowered (.node k s gs) = isLowered (.node k s fs) := by
  rcases h with _ | ⟨_, _ | ⟨_, _⟩⟩ <;> cases k <;> rfl

/-- **Nothing is left to lower.** -/
theorem Replacing.done {t u : Tree} (h : Replacing t u) (hroot : isLowered t = false) :
    ∀ n ∈ u.nodes, isLowered n = false := by
  have hinherits : Inherits (fun _ => True) fun n => isLowered n = false := by
    constructor
    · intro k s fs gs hother _ hfields
      rw [isLowered_of_replacingFields hfields, hother]
    · intro t statements _ _ hstand u hu n hn
      refine eq_false_of_ne_true fun hlowered => ?_
      have himport := isImport_of_isLowered hlowered
      rw [isImport_of_standFor hstand hu hn] at himport
      cases himport
  exact hinherits.replacing h hroot fun _ _ => trivial

/-- **All nodes have their places.** -/
theorem Replacing.placed {t u : Tree} (h : Replacing t u) (hroot : isLowered t = false)
    (hplaced : t.Placed) : u.Placed := by
  have hinherits : Inherits (fun n => n.span?.isSome = n.kind.hasSpan)
      fun n => n.span?.isSome = n.kind.hasSpan := by
    constructor
    · intro k s fs gs _ hplace _
      exact hplace
    · intro t statements himport hplace hstand u hu
      exact placed_of_standFor hstand hu (hplace.trans (hasSpan_of_isLowered himport))
  exact hinherits.replacing h hroot hplaced

mutual

theorem lowerTree_eq_self : (t : Tree) → (∀ n ∈ t.nodes, isLowered n = false) →
    lowerTree origin t = .ok t
  | .node k s fs, h => by
    rw [lowerTree, lowerFields_eq_self fs fun n hn => h n (List.mem_cons_of_mem _ hn)]
    rfl

theorem lowerFields_eq_self : (fs : List (List Tree)) →
    (∀ n ∈ nodesOfFields fs, isLowered n = false) → lowerFields origin fs = .ok fs
  | [], _ => rfl
  | f :: fs, h => by
    rw [lowerFields, lowerAll_eq_self f fun n hn => h n (List.mem_append_left _ hn),
      lowerFields_eq_self fs fun n hn => h n (List.mem_append_right _ hn)]
    rfl

theorem lowerAll_eq_self : (ts : List Tree) → (∀ n ∈ nodesOfAll ts, isLowered n = false) →
    lowerAll origin ts = .ok ts
  | [], _ => rfl
  | t :: ts, h => by
    have hroot : isLowered t = false := h t (List.mem_append_left _ (Tree.self_mem_nodes t))
    rw [lowerAll, lowerNode?_eq t hroot,
      lowerTree_eq_self t fun n hn => h n (List.mem_append_left _ hn),
      lowerAll_eq_self ts fun n hn => h n (List.mem_append_right _ hn)]
    rfl

end

/-! ## Lowering a module -/

theorem isLowered_of_category {t : Tree} (h : t.category ≠ .statement) : isLowered t = false := by
  unfold isLowered
  split
  · exact absurd rfl h
  · exact absurd rfl h
  · rfl

theorem isLowered_of_module {t : Tree} (h : Is .module t) : isLowered t = false := by
  refine isLowered_of_category ?_
  rw [h.1]
  decide

/-- Lowering a well-formed module answers with the first error of its statements, or else with the
one tree in which its imports are replaced. -/
theorem lower_answers (origin : Origin) {t : Tree} (h : Is .module t) :
    Answers (firstRefusal? origin t.nodes) (fun t' => ∀ u, Replacing t u ↔ u = t')
      (lower origin t) :=
  lowerTree_answers t h.2 (isLowered_of_module h)

/-- A module that is lowered has its imports replaced. -/
theorem replacing_of_lower {origin : Origin} {t t' : Tree} (h : Is .module t)
    (hlower : lower origin t = .ok t') : Replacing t t' := by
  have hanswers := lower_answers origin h
  cases hfirst : firstRefusal? origin t.nodes with
  | some e =>
      rw [hfirst] at hanswers
      have hfails : lower origin t = .error e := hanswers
      rw [hfails] at hlower
      cases hlower
  | none =>
      rw [hfirst] at hanswers
      obtain ⟨u, hu, hunique⟩ := hanswers
      rw [hu] at hlower
      cases hlower
      exact (hunique _).mpr rfl

theorem firstRefusal?_eq_none_iff (origin : Origin) (ns : List Tree) :
    firstRefusal? origin ns = none ↔ ∀ n ∈ ns, fault? n = none := by
  rw [firstRefusal?, List.findSome?_eq_none_iff]
  refine forall₂_congr fun n _ => ?_
  rw [refusal?, Option.map_eq_none_iff]

theorem firstRefusal?_eq_some_iff (ns : List Tree) (e : SyntaxError) :
    firstRefusal? origin ns = some e
      ↔ ∃ before n after fault, ns = before ++ n :: after ∧ (∀ m ∈ before, fault? m = none)
        ∧ fault? n = some fault ∧ e = refuse origin n.span? fault := by
  rw [firstRefusal?, List.findSome?_eq_some_iff]
  constructor
  · rintro ⟨before, n, after, rfl, hn, hbefore⟩
    obtain ⟨fault, hfault, rfl⟩ := Option.map_eq_some_iff.mp hn
    exact ⟨before, n, after, fault, rfl, fun m hm => Option.map_eq_none_iff.mp (hbefore m hm),
      hfault, rfl⟩
  · rintro ⟨before, n, after, fault, rfl, hbefore, hfault, rfl⟩
    exact ⟨before, n, after, rfl, Option.map_eq_some_iff.mpr ⟨fault, hfault, rfl⟩,
      fun m hm => Option.map_eq_none_iff.mpr (hbefore m hm)⟩

/-- **Lowering replaces imports in place and does nothing else.** For a module that was read from
a source:

* lowering succeeds exactly if no statement, at any depth, has a fault;
* it fails with the error of the first statement in the order of the source that has one;
* it answers exactly with the tree in which each import is replaced by its statements, at its
  place, and all else is as it was;
* all nodes of the answer have places, and lowering it again changes nothing. -/
theorem lower_iff {source : String} {t : Tree} {warnings : List Warning} (origin : Origin)
    (hparse : Source.parse source = .ok (t, warnings)) :
    ((∃ t', lower origin t = .ok t') ↔ ∀ n ∈ t.nodes, fault? n = none)
    ∧ (∀ e, lower origin t = .error e ↔
      ∃ before n after fault, t.nodes = before ++ n :: after ∧ (∀ m ∈ before, fault? m = none)
        ∧ fault? n = some fault ∧ e = refuse origin n.span? fault)
    ∧ (∀ t', lower origin t = .ok t' ↔ (∀ n ∈ t.nodes, fault? n = none) ∧ Replacing t t')
    ∧ ∀ t', lower origin t = .ok t' →
      t'.fillSpans = t' ∧ ∀ origin', lower origin' t' = .ok t' := by
  have his := Source.parse_is hparse
  have hroot := isLowered_of_module his
  have hanswers := lower_answers origin his
  rw [← firstRefusal?_eq_none_iff origin t.nodes]
  simp only [← firstRefusal?_eq_some_iff t.nodes]
  cases hfirst : firstRefusal? origin t.nodes with
  | some e =>
      rw [hfirst] at hanswers
      have hfails : lower origin t = .error e := hanswers
      simp [hfails]
  | none =>
      rw [hfirst] at hanswers
      obtain ⟨t', hlower, hunique⟩ := hanswers
      have hreplacing := replacing_of_lower his hlower
      have hplaced := hreplacing.placed hroot (Tree.placed_of_isWellFormed his.2)
      have hdone (origin' : Origin) : lower origin' t' = .ok t' :=
        lowerTree_eq_self t' (hreplacing.done hroot)
      refine ⟨⟨fun _ => rfl, fun _ => ⟨t', hlower⟩⟩, ?_, ?_, ?_⟩
      · intro e
        simp [hlower]
      · intro u
        rw [hunique u, hlower]
        simp [eq_comm]
      · intro u hu
        rw [hlower] at hu
        cases hu
        exact ⟨hplaced.fillSpans, hdone⟩

/-- Two statements that cannot be lowered, the first of them in a function. -/
def refusing : String := "import m\ndef f():\n    from .. import *\nimport a.b as c, a.b\n"

/-- The tree of a source and the error with which it is refused. -/
def refused? (source : String) : Option (Tree × SyntaxError) :=
  match Source.parse source with
  | .ok (t, _) =>
    match lower {} t with
    | .ok _ => none
    | .error e => some (t, e)
  | .error _ => none

theorem refused?_eq_some {source : String} {t : Tree} {e : SyntaxError}
    (h : refused? source = some (t, e)) :
    ∃ warnings, Source.parse source = .ok (t, warnings) ∧ lower {} t = .error e := by
  unfold refused? at h
  split at h
  · next u warnings hparse =>
      split at h
      · cases h
      · next hlower =>
          cases h
          exact ⟨warnings, hparse, hlower⟩
  · cases h

/-- Imports of all forms are replaced, and of two faults the first is reported. -/
theorem replaced_or_refused :
    (∃ t t', lowered? importing = some (t, t') ∧ Replacing t t' ∧ t'.fillSpans = t'
      ∧ ∀ origin, lower origin t' = .ok t')
    ∧ ∃ t e, refused? refusing = some (t, e) ∧ e.fault = .relativeStar ".." ∧ e.line = some 3
      ∧ ∃ before n after, t.nodes = before ++ n :: after ∧ (∀ m ∈ before, fault? m = none)
        ∧ e = refuse {} n.span? (.relativeStar "..") := by
  constructor
  · obtain ⟨⟨t, t'⟩, hlowered, -⟩ := Option.map_eq_some_iff.mp lowered?_importing
    obtain ⟨warnings, hparse, hlower⟩ := lowered?_eq_some hlowered
    obtain ⟨-, -, hreplaces, hplaced⟩ := lower_iff {} hparse
    exact ⟨t, t', hlowered, ((hreplaces t').mp hlower).2, hplaced t' hlower⟩
  · have hreport : (refused? refusing).map (fun found => (found.2.fault, found.2.line))
        = some (.relativeStar "..", some 3) := by decide +kernel
    obtain ⟨⟨t, e⟩, hrefused, hshow⟩ := Option.map_eq_some_iff.mp hreport
    obtain ⟨hfault, hline⟩ := Prod.mk.inj hshow
    obtain ⟨warnings, hparse, hlower⟩ := refused?_eq_some hrefused
    obtain ⟨-, herror, -, -⟩ := lower_iff {} hparse
    obtain ⟨before, n, after, fault, hnodes, hbefore, -, rfl⟩ := (herror e).mp hlower
    have hstar : fault = .relativeStar ".." := hfault
    rw [hstar] at hrefused
    exact ⟨t, _, hrefused, rfl, hstar ▸ hline, before, n, after, hnodes, hbefore, rfl⟩

end SourceLoader.Lowering
