import SourceLoader.Syntax.Tree

/-!
# The shape of trees

What the fields of a node hold is fixed by its kind: how many trees, and what these stand for. A
tree whose nodes all keep to that is well formed. The trees that are read from a source are
(`Proofs/Grammar.lean`), so whoever walks over a tree may rely on it: an import, for example, lists
one name or more, and no import stands below an expression.
-/

namespace SourceLoader

/-- What a node stands for. -/
inductive Category where
  | module
  | statement
  | expression
  /-- A `for` of a comprehension. -/
  | clause
  | arguments
  | parameter
  | keyword
  | importName
  | withItem
  | matchCase
  | pattern
  | handler
  | missing
deriving DecidableEq, Repr

/-- What a field may hold. -/
inductive Slot where
  | one (c : Category)
  | optional (c : Category)
  | many (c : Category)
  /-- One tree or more. -/
  | some (c : Category)
  /-- Any number of trees, some of which may be missing. -/
  | padded (c : Category)
deriving DecidableEq, Repr

/-- What the trees of a field stand for, unless they are missing. -/
def Slot.category : Slot → Category
  | .one c | .optional c | .many c | .some c | .padded c => c

namespace Kind

/-- What nodes of a kind stand for. -/
def category : Kind → Category
  | .module => .module
  | .comprehension _ => .clause
  | .arguments => .arguments
  | .arg _ => .parameter
  | .keyword _ => .keyword
  | .alias _ _ => .importName
  | .withItem => .withItem
  | .matchCase => .matchCase
  | .exceptHandler _ => .handler
  | .matchValue | .matchSingleton _ | .matchSequence | .matchMapping _ | .matchClass _
  | .matchStar _ | .matchAs _ | .matchOr => .pattern
  | .absent => .missing
  | k => if k.isStatement then .statement else .expression

/-- The fields of a kind. -/
def slots : Kind → List Slot
  | .module => [.many .statement]
  | .functionDef _ _ =>
    [.one .arguments, .some .statement, .many .expression, .optional .expression]
  | .classDef _ => [.many .expression, .many .keyword, .some .statement, .many .expression]
  | .returnStmt | .yield => [.optional .expression]
  | .delete | .set | .boolOp _ => [.some .expression]
  | .assign => [.some .expression, .one .expression]
  | .augAssign _ | .namedExpr | .binOp _ | .subscript _ => [.one .expression, .one .expression]
  | .annAssign _ => [.one .expression, .one .expression, .optional .expression]
  | .forLoop _ => [.one .expression, .one .expression, .some .statement, .many .statement]
  | .whileLoop | .ifStmt => [.one .expression, .some .statement, .many .statement]
  | .withStmt _ => [.some .withItem, .some .statement]
  | .matchStmt => [.one .expression, .some .matchCase]
  | .raise => [.optional .expression, .optional .expression]
  | .tryStmt _ => [.some .statement, .many .handler, .many .statement, .many .statement]
  | .assert | .withItem | .formattedValue _ => [.one .expression, .optional .expression]
  | .importNames | .importFrom _ _ => [.some .importName]
  | .exprStmt | .unaryOp _ | .await | .yieldFrom | .attribute _ _ | .starred _ | .keyword _
  | .matchValue => [.one .expression]
  | .lambda => [.one .arguments, .one .expression]
  | .ifExp => [.one .expression, .one .expression, .one .expression]
  | .dict => [.padded .expression, .many .expression]
  | .listComp | .setComp | .generatorExp => [.one .expression, .some .clause]
  | .dictComp => [.one .expression, .one .expression, .some .clause]
  | .compare _ => [.one .expression, .some .expression]
  | .call => [.one .expression, .many .expression, .many .keyword]
  | .joinedStr | .list _ | .tuple _ => [.many .expression]
  | .slice => [.optional .expression, .optional .expression, .optional .expression]
  | .comprehension _ => [.one .expression, .one .expression, .many .expression]
  | .exceptHandler _ => [.optional .expression, .some .statement]
  | .arguments =>
    [.many .parameter, .many .parameter, .optional .parameter, .many .parameter,
      .padded .expression, .optional .parameter, .many .expression]
  | .arg _ => [.optional .expression]
  | .matchCase => [.one .pattern, .optional .expression, .some .statement]
  | .matchSequence => [.many .pattern]
  | .matchMapping _ => [.many .expression, .many .pattern]
  | .matchClass _ => [.one .expression, .many .pattern, .many .pattern]
  | .matchAs _ => [.optional .pattern]
  | .matchOr => [.some .pattern]
  | .globalNames _ | .nonlocalNames _ | .pass | .breakStmt | .continueStmt | .constant _
  | .name _ _ | .alias _ _ | .matchSingleton _ | .matchStar _ | .absent => []

end Kind

namespace Tree

/-- What the tree stands for. -/
def category (t : Tree) : Category := t.kind.category

end Tree

namespace Slot

/-- Do some trees belong into a field? -/
def fits : Slot → List Tree → Bool
  | .one c, [t] => t.category = c
  | .one _, _ => false
  | .optional _, [] => true
  | .optional c, [t] => t.category = c
  | .optional _, _ => false
  | .many c, ts => ts.all (·.category = c)
  | .some c, ts => !ts.isEmpty && ts.all (·.category = c)
  | .padded c, ts => ts.all fun t => t.category = c || t.category = .missing

/-- Do some fields hold what they may hold? -/
def fitAll : List Slot → List (List Tree) → Bool
  | [], [] => true
  | slot :: slots, f :: fs => slot.fits f && fitAll slots fs
  | _, _ => false

end Slot

namespace Tree

mutual

/-- Do all nodes of a tree keep to the shape of their kinds, and do they have a place exactly if
nodes of their kinds have one? -/
def isWellFormed : Tree → Bool
  | .node k s fs => s.isSome = k.hasSpan && Slot.fitAll k.slots fs && areFieldsWellFormed fs

/-- Are all trees of some fields well formed? -/
def areFieldsWellFormed : List (List Tree) → Bool
  | [] => true
  | f :: fs => areWellFormed f && areFieldsWellFormed fs

/-- Are some trees well formed? -/
def areWellFormed : List Tree → Bool
  | [] => true
  | t :: ts => t.isWellFormed && areWellFormed ts

end

/-- The tree is well formed and stands for something of category `c`. -/
def Is (c : Category) (t : Tree) : Prop := t.category = c ∧ t.isWellFormed = true

/-- All the trees are well formed and of category `c`. -/
def AllAre (c : Category) (ts : List Tree) : Prop := ∀ t ∈ ts, t.Is c

/-- The same, and there is at least one. -/
def SomeAre (c : Category) (ts : List Tree) : Prop := ts ≠ [] ∧ AllAre c ts

theorem areWellFormed_iff (ts : List Tree) :
    areWellFormed ts = true ↔ ∀ t ∈ ts, t.isWellFormed = true := by
  induction ts with
  | nil => simp [areWellFormed]
  | cons t ts ih => simp [areWellFormed, ih]

section

variable {c : Category} {t : Tree} {ts us : List Tree}

theorem AllAre.cons (ht : t.Is c) (hts : AllAre c ts) : AllAre c (t :: ts) := by
  intro u hu
  rcases List.mem_cons.mp hu with rfl | hu
  · exact ht
  · exact hts u hu

theorem AllAre.append (hts : AllAre c ts) (hus : AllAre c us) : AllAre c (ts ++ us) := by
  intro u hu
  exact (List.mem_append.mp hu).elim (hts u) (hus u)

theorem SomeAre.all (h : SomeAre c ts) : AllAre c ts := h.2

end

end Tree

/-! ## Filling fields -/

open Tree (Is AllAre SomeAre)

/-- A field holds well-formed trees that belong there. -/
def Slot.Filled : Slot → List Tree → Prop
  | .one c, [t] => Is c t
  | .one _, _ => False
  | .optional _, [] => True
  | .optional c, [t] => Is c t
  | .optional _, _ => False
  | .many c, ts => AllAre c ts
  | .some c, ts => SomeAre c ts
  | .padded c, ts => ∀ t ∈ ts, Is c t ∨ Is .missing t

/-- Each field holds well-formed trees that belong there. -/
def Slot.AllFilled : List Slot → List (List Tree) → Prop
  | [], [] => True
  | slot :: slots, f :: fs => slot.Filled f ∧ AllFilled slots fs
  | _, _ => False

namespace Slot

theorem filled_iff (slot : Slot) (ts : List Tree) :
    slot.Filled ts ↔ slot.fits ts = true ∧ Tree.areWellFormed ts = true := by
  rw [Tree.areWellFormed_iff]
  cases slot with
  | one c => rcases ts with _ | ⟨t, _ | ⟨u, us⟩⟩ <;> simp [Filled, fits, Is]
  | optional c => rcases ts with _ | ⟨t, _ | ⟨u, us⟩⟩ <;> simp [Filled, fits, Is]
  | many c => simp [Filled, fits, AllAre, Is, forall_and]
  | some c => simp [Filled, fits, SomeAre, AllAre, Is, forall_and, and_assoc]
  | padded c =>
      simp only [Filled, fits, Is, List.all_eq_true, Bool.or_eq_true, decide_eq_true_eq]
      constructor
      · intro h
        exact ⟨fun t ht => (h t ht).imp And.left And.left,
          fun t ht => (h t ht).elim And.right And.right⟩
      · intro ⟨hfits, hformed⟩ t ht
        exact (hfits t ht).imp (⟨·, hformed t ht⟩) (⟨·, hformed t ht⟩)

theorem allFilled_iff (slots : List Slot) (fs : List (List Tree)) :
    AllFilled slots fs ↔ fitAll slots fs = true ∧ Tree.areFieldsWellFormed fs = true := by
  induction slots generalizing fs with
  | nil => cases fs <;> simp [AllFilled, fitAll, Tree.areFieldsWellFormed]
  | cons slot slots ih =>
      cases fs with
      | nil => simp [AllFilled, fitAll]
      | cons f fs =>
          simp only [AllFilled, fitAll, Tree.areFieldsWellFormed, filled_iff, ih,
            Bool.and_eq_true]
          exact and_and_and_comm

theorem Filled.is {slot : Slot} {ts : List Tree} (h : slot.Filled ts) :
    ∀ t ∈ ts, Is slot.category t ∨ Is .missing t := by
  intro t ht
  cases slot with
  | one c =>
      rcases ts with _ | ⟨u, _ | ⟨v, us⟩⟩
      · exact h.elim
      · cases List.mem_singleton.mp ht; exact .inl h
      · exact h.elim
  | optional c =>
      rcases ts with _ | ⟨u, _ | ⟨v, us⟩⟩
      · cases ht
      · cases List.mem_singleton.mp ht; exact .inl h
      · exact h.elim
  | many c => exact .inl (h t ht)
  | some c => exact .inl (h.2 t ht)
  | padded c => exact h t ht

theorem AllFilled.mem {slots : List Slot} {fs : List (List Tree)} (h : AllFilled slots fs) :
    ∀ f ∈ fs, ∃ slot ∈ slots, slot.Filled f := by
  induction slots generalizing fs with
  | nil => cases fs with
    | nil => simp
    | cons f fs => exact h.elim
  | cons slot slots ih =>
      cases fs with
      | nil => simp
      | cons f fs =>
          intro g hg
          rcases List.mem_cons.mp hg with rfl | hg
          · exact ⟨slot, List.mem_cons_self, h.1⟩
          · obtain ⟨slot', hmem, hfilled⟩ := ih h.2 g hg
            exact ⟨slot', List.mem_cons_of_mem _ hmem, hfilled⟩

section

variable {g : Tree → Tree}

theorem Filled.map {slot : Slot} {ts : List Tree} (h : slot.Filled ts)
    (hg : ∀ t ∈ ts, ∀ c, Is c t → Is c (g t)) : slot.Filled (ts.map g) := by
  have hall : ∀ {c : Category}, AllAre c ts → AllAre c (ts.map g) := by
    intro c hts u hu
    obtain ⟨t, ht, rfl⟩ := List.mem_map.mp hu
    exact hg t ht c (hts t ht)
  cases slot with
  | one c =>
      rcases ts with _ | ⟨t, _ | ⟨u, us⟩⟩
      · exact h.elim
      · exact hg t List.mem_cons_self c h
      · exact h.elim
  | optional c =>
      rcases ts with _ | ⟨t, _ | ⟨u, us⟩⟩
      · trivial
      · exact hg t List.mem_cons_self c h
      · exact h.elim
  | many c => exact hall h
  | some c => exact ⟨by simpa using h.1, hall h.2⟩
  | padded c =>
      intro u hu
      obtain ⟨t, ht, rfl⟩ := List.mem_map.mp hu
      exact (h t ht).imp (hg t ht c) (hg t ht .missing)

/-- Fields stay filled if each tree in them is changed to one of the same category. -/
theorem AllFilled.map {slots : List Slot} {fs : List (List Tree)} (h : AllFilled slots fs)
    (hg : ∀ t ∈ fs.flatten, ∀ c, Is c t → Is c (g t)) : AllFilled slots (fs.map (List.map g)) := by
  induction slots generalizing fs with
  | nil => cases fs with
    | nil => trivial
    | cons f fs => exact h.elim
  | cons slot slots ih =>
      cases fs with
      | nil => exact h.elim
      | cons f fs =>
          rw [List.flatten_cons] at hg
          exact ⟨h.1.map fun t ht => hg t (List.mem_append_left _ ht),
            ih h.2 fun t ht => hg t (List.mem_append_right _ ht)⟩

end

theorem AllFilled.one {slot : Slot} {fs : List (List Tree)} (h : AllFilled [slot] fs) :
    ∃ f, fs = [f] ∧ slot.Filled f := by
  rcases fs with _ | ⟨f, _ | ⟨g, gs⟩⟩
  · exact h.elim
  · exact ⟨f, rfl, h.1⟩
  · exact h.2.elim

end Slot

namespace Tree

/-- **A tree is well formed exactly if its root has a place when it should, and its fields hold
well-formed trees that belong there.** -/
theorem isWellFormed_iff (k : Kind) (s : Option Span) (fs : List (List Tree)) :
    (Tree.node k s fs).isWellFormed = true ↔
      s.isSome = k.hasSpan ∧ Slot.AllFilled k.slots fs := by
  simp [isWellFormed, Slot.allFilled_iff, and_assoc]

theorem Is.node {c : Category} {k : Kind} {s : Option Span} {fs : List (List Tree)}
    (hcategory : k.category = c) (hspan : s.isSome = k.hasSpan)
    (hfields : Slot.AllFilled k.slots fs) : Is c (.node k s fs) :=
  ⟨hcategory, (isWellFormed_iff k s fs).mpr ⟨hspan, hfields⟩⟩

theorem Is.fields {c : Category} {k : Kind} {s : Option Span} {fs : List (List Tree)}
    (h : Is c (.node k s fs)) : Slot.AllFilled k.slots fs :=
  ((isWellFormed_iff k s fs).mp h.2).2

/-- A tree whose fields are filled in another way is of the same category. -/
theorem Is.refill {c : Category} {k : Kind} {s : Option Span} {fs gs : List (List Tree)}
    (h : Is c (.node k s fs)) (hfields : Slot.AllFilled k.slots gs) : Is c (.node k s gs) :=
  .node h.1 ((isWellFormed_iff k s fs).mp h.2).1 hfields

theorem missing_is : Is .missing Tree.missing := ⟨rfl, rfl⟩

end Tree

/-!
## Trees that are read from a source

What a parser reads from some lines keeps to more than the shape of its kinds: all nodes that have a
place begin on these lines, and imports list names as the grammar has them (`Tree.isOn`). Both are
said together with being well formed (`Tree.On`), of a tree and of the fields of a node at once
(`Slot.FilledOn`).
-/

/-- Is it a single word? -/
def Text.isWord (name : String) : Bool := !name.toList.contains '.'

namespace Kind

/-- May an import list a name? A star stands behind `from` and has no other name. Only the modules
that `import` lists have points in their names. -/
def mayList (k : Kind) : Kind → Bool
  | .alias listed asName =>
    asName.all Text.isWord
      && match k with
        | .importNames => listed ≠ "*"
        | _ => if listed = "*" then asName.isNone else Text.isWord listed
  | _ => true

/-- Does a node list names as the grammar has them? Only imports list any. -/
def listsAsWritten (k : Kind) (fs : List (List Tree)) : Bool :=
  match k with
  | .importNames | .importFrom _ _ => fs.flatten.all fun a => k.mayList a.kind
  | _ => true

theorem listsAsWritten_nil (k : Kind) : k.listsAsWritten [] = true := by
  unfold listsAsWritten
  split <;> rfl

/-- Only statements list names. -/
theorem listsAsWritten_of_category {k : Kind} (h : k.category ≠ .statement)
    (fs : List (List Tree)) : k.listsAsWritten fs = true := by
  unfold listsAsWritten
  split
  · exact absurd rfl h
  · exact absurd rfl h
  · rfl

/-- Only the kinds of what a node lists matter. -/
theorem listsAsWritten_congr (k : Kind) {fs gs : List (List Tree)}
    (h : fs.map (·.map Tree.kind) = gs.map (·.map Tree.kind)) :
    k.listsAsWritten fs = k.listsAsWritten gs := by
  have hkinds : fs.flatten.map Tree.kind = gs.flatten.map Tree.kind := by
    rw [List.map_flatten, List.map_flatten, h]
  have hall (p : Kind → Bool) :
      (fs.flatten.all fun a => p a.kind) = gs.flatten.all fun a => p a.kind := by
    have := congrArg (List.all · p) hkinds
    rwa [List.all_map, List.all_map] at this
  unfold listsAsWritten
  split
  · exact hall _
  · exact hall _
  · rfl

end Kind

/-- Does a place begin on one of the first `n` lines? -/
def Span.isOn (n : Nat) (s : Span) : Bool := 1 ≤ s.line && s.line ≤ n

namespace Tree

mutual

/-- Do all nodes of a tree that have a place begin on one of the first `n` lines, and do its imports
list names as the grammar has them? -/
def isOn (n : Nat) : Tree → Bool
  | .node k s fs => s.all (Span.isOn n) && k.listsAsWritten fs && areFieldsOn n fs

/-- Do the trees in some fields? -/
def areFieldsOn (n : Nat) : List (List Tree) → Bool
  | [] => true
  | f :: fs => areOn n f && areFieldsOn n fs

/-- Do some trees? -/
def areOn (n : Nat) : List Tree → Bool
  | [] => true
  | t :: ts => t.isOn n && areOn n ts

end

theorem areOn_iff (n : Nat) (ts : List Tree) : areOn n ts = true ↔ ∀ t ∈ ts, t.isOn n = true := by
  induction ts with
  | nil => simp [areOn]
  | cons t ts ih => simp [areOn, ih]

/-- The tree is well formed, stands for something of category `c`, and stands on the first `n`
lines, with the names that are imported listed as the grammar has them. -/
def On (n : Nat) (c : Category) (t : Tree) : Prop := Is c t ∧ t.isOn n = true

/-- All the trees are well formed, of category `c` and on the first `n` lines. -/
def AllOn (n : Nat) (c : Category) (ts : List Tree) : Prop := ∀ t ∈ ts, On n c t

/-- The same, and there is at least one. -/
def SomeOn (n : Nat) (c : Category) (ts : List Tree) : Prop := ts ≠ [] ∧ AllOn n c ts

section

variable {n : Nat} {c : Category} {t : Tree} {ts us : List Tree}

theorem AllOn.nil : AllOn n c [] := fun _ h => absurd h List.not_mem_nil

theorem AllOn.cons (ht : On n c t) (hts : AllOn n c ts) : AllOn n c (t :: ts) :=
  List.forall_mem_cons.mpr ⟨ht, hts⟩

theorem AllOn.one (ht : On n c t) : AllOn n c [t] := .cons ht .nil

theorem AllOn.append (hts : AllOn n c ts) (hus : AllOn n c us) : AllOn n c (ts ++ us) :=
  List.forall_mem_append.mpr ⟨hts, hus⟩

theorem SomeOn.cons (ht : On n c t) (hts : AllOn n c ts) : SomeOn n c (t :: ts) :=
  ⟨List.cons_ne_nil _ _, .cons ht hts⟩

theorem SomeOn.all (h : SomeOn n c ts) : AllOn n c ts := h.2

theorem allOn_iff : AllOn n c ts ↔ AllAre c ts ∧ areOn n ts = true := by
  simp only [AllOn, On, AllAre, areOn_iff, forall_and]

end

end Tree

/-! ## Filling fields -/

open Tree (Is On AllOn SomeOn)

/-- A field holds well-formed trees that belong there and stand on the first `n` lines. -/
def Slot.FilledOn (n : Nat) : Slot → List Tree → Prop
  | .one c, [t] => On n c t
  | .one _, _ => False
  | .optional _, [] => True
  | .optional c, [t] => On n c t
  | .optional _, _ => False
  | .many c, ts => AllOn n c ts
  | .some c, ts => SomeOn n c ts
  | .padded c, ts => ∀ t ∈ ts, On n c t ∨ On n .missing t

/-- Each field holds well-formed trees that belong there and stand on the first `n` lines. -/
def Slot.AllFilledOn (n : Nat) : List Slot → List (List Tree) → Prop
  | [], [] => True
  | slot :: slots, f :: fs => slot.FilledOn n f ∧ AllFilledOn n slots fs
  | _, _ => False

namespace Slot

variable {n : Nat}

theorem filledOn_toList {c : Category} {o : Option Tree} (h : ∀ t ∈ o, On n c t) :
    (Slot.optional c).FilledOn n o.toList := by
  cases o with
  | none => trivial
  | some t => exact h t rfl

theorem filledOn_iff (slot : Slot) (ts : List Tree) :
    slot.FilledOn n ts ↔ slot.Filled ts ∧ Tree.areOn n ts = true := by
  cases slot with
  | one c => rcases ts with _ | ⟨t, _ | ⟨u, us⟩⟩ <;> simp [FilledOn, Filled, On, Tree.areOn]
  | optional c => rcases ts with _ | ⟨t, _ | ⟨u, us⟩⟩ <;> simp [FilledOn, Filled, On, Tree.areOn]
  | many c => exact Tree.allOn_iff
  | some c => simp only [FilledOn, Filled, SomeOn, Tree.SomeAre, Tree.allOn_iff, and_assoc]
  | padded c =>
      simp only [FilledOn, Filled, On, Tree.areOn_iff, ← or_and_right]
      exact ⟨fun h => ⟨fun t ht => (h t ht).1, fun t ht => (h t ht).2⟩,
        fun h t ht => ⟨h.1 t ht, h.2 t ht⟩⟩

theorem allFilledOn_iff (slots : List Slot) (fs : List (List Tree)) :
    AllFilledOn n slots fs ↔ AllFilled slots fs ∧ Tree.areFieldsOn n fs = true := by
  induction slots generalizing fs with
  | nil => cases fs <;> simp [AllFilledOn, AllFilled, Tree.areFieldsOn]
  | cons slot slots ih =>
      cases fs with
      | nil => simp [AllFilledOn, AllFilled]
      | cons f fs =>
          simp only [AllFilledOn, AllFilled, Tree.areFieldsOn, filledOn_iff, ih, Bool.and_eq_true]
          exact and_and_and_comm

end Slot

namespace Tree

variable {n : Nat} {c : Category} {k : Kind} {s : Option Span} {fs : List (List Tree)}

theorem On.node (hcategory : k.category = c) (hspan : s.isSome = k.hasSpan)
    (hplace : s.all (Span.isOn n) = true) (hlists : k.listsAsWritten fs = true)
    (hfields : Slot.AllFilledOn n k.slots fs) : On n c (.node k s fs) := by
  obtain ⟨hfilled, hon⟩ := (Slot.allFilledOn_iff _ _).mp hfields
  exact ⟨.node hcategory hspan hfilled, by rw [isOn, hplace, hlists, hon]; rfl⟩

theorem isOn_node : (Tree.node k s fs).isOn n = true
    ↔ s.all (Span.isOn n) = true ∧ k.listsAsWritten fs = true ∧ areFieldsOn n fs = true := by
  rw [isOn, Bool.and_eq_true, Bool.and_eq_true, and_assoc]

theorem On.fields (h : On n c (.node k s fs)) : Slot.AllFilledOn n k.slots fs :=
  (Slot.allFilledOn_iff _ _).mpr ⟨h.1.fields, (isOn_node.mp h.2).2.2⟩

theorem On.place (h : On n c (.node k s fs)) : s.all (Span.isOn n) = true := (isOn_node.mp h.2).1

theorem missing_on : On n .missing Tree.missing := ⟨missing_is, rfl⟩

end Tree

end SourceLoader
