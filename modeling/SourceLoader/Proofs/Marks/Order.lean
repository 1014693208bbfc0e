import SourceLoader.Proofs.Declared
import SourceLoader.Proofs.Marks.Tokens

/-!
# Declarations and their order

What a tree declares is collected from the front of its fields to their end. Whether the places of
the declarations go up along the list is a matter of each node by itself: the parts of a node have to
come in the order of the source (`inOrder_iff`).

For most kinds of nodes the order of the fields is the order in which they are read. The kinds for
which it is not are told by `Kind.reorders`. An f-string is read as a source of its own, so nothing
is said of where its declarations stand beside others.
-/

namespace SourceLoader

/-- Where a node begins. -/
def Tree.start (t : Tree) : Place := toLex (t.span.line, t.span.column)

/-- Does the order of the fields differ from the order in which they are written? The result of a
choice comes before its condition, keys and values of a mapping alternate, starred arguments may
stand among keywords, and so do the bases of a class. A decorator stands in front of what it
decorates and a default behind its parameter. -/
def Kind.reorders : Kind → Bool
  | .functionDef _ _ | .classDef _ | .arguments | .call | .dict | .ifExp => true
  | _ => false

/-- Can a node of the kind declare something by itself? -/
def Kind.declares : Kind → Bool
  | .call | .importNames | .importFrom _ _ => true
  | _ => false

/-- Is it the kind of an import? -/
def Kind.isImport : Kind → Bool
  | .importNames | .importFrom _ _ => true
  | _ => false

theorem Kind.isImport_of_declares {k : Kind} (h : k.declares = false) : k.isImport = false := by
  cases k <;> first | rfl | cases h

namespace Tree

/-- The imports in a tree. -/
def imports (t : Tree) : List Tree := t.nodes.filter fun n => n.kind.isImport

theorem imports_eq (t : Tree) :
    t.imports = (if t.kind.isImport then [t] else []) ++ t.children.flatMap imports := by
  rw [imports, nodes_eq_flatMap, List.filter_cons, List.filter_flatMap]
  split <;> rfl

theorem isWellFormed_of_mem_children {t c : Tree} (h : t.isWellFormed = true)
    (hc : c ∈ t.children) : c.isWellFormed = true :=
  isWellFormed_of_mem_nodes t h c (mem_nodes_iff.mpr (.inr ⟨c, hc, self_mem_nodes c⟩))

end Tree

namespace Dependencies

variable {b : Bool}

/-! ## Declarations -/

/-- What a tree declares, each specifier with the place of the statement or call it comes from. -/
def declarations (b : Bool) (t : Tree) : List (String × Place) :=
  t.nodes.flatMap fun n => (ofNode b n).map fun specifier => (specifier, n.start)

/-- Everything declared at the first place stands no later than anything at the second. -/
def NoLater (ds es : List (String × Place)) : Prop := ∀ d ∈ ds, ∀ e ∈ es, d.2 ≤ e.2

/-- The places of the declarations go up along the list. -/
def InOrder (b : Bool) (t : Tree) : Prop :=
  (declarations b t).Pairwise fun d e => d.2 ≤ e.2

/-- The declarations in one part of a node stand no later than those in the parts behind it. -/
def PartsInOrder (b : Bool) (t : Tree) : Prop :=
  t.children.Pairwise fun c d => NoLater (declarations b c) (declarations b d)

theorem map_fst_declarations (b : Bool) (t : Tree) :
    (declarations b t).map Prod.fst = ofTree b t := by
  rw [ofTree_eq_flatMap, declarations, List.map_flatMap]
  congr 1
  funext n
  rw [List.map_map]
  exact List.map_id _

theorem declarations_eq (b : Bool) (t : Tree) : declarations b t
    = (ofNode b t).map (fun specifier => (specifier, t.start))
      ++ t.children.flatMap (declarations b) := by
  rw [declarations, Tree.nodes_eq_flatMap, List.flatMap_cons, List.flatMap_assoc]
  rfl

theorem mem_declarations_of_child {t c : Tree} (hc : c ∈ t.children) {d : String × Place}
    (hd : d ∈ declarations b c) : d ∈ declarations b t := by
  rw [declarations_eq]
  exact List.mem_append_right _ (List.mem_flatMap.mpr ⟨c, hc, hd⟩)

theorem declarations_child_eq_nil {t c : Tree} (h : declarations b t = []) (hc : c ∈ t.children) :
    declarations b c = [] := by
  rw [List.eq_nil_iff_forall_not_mem] at h ⊢
  exact fun d hd => h d (mem_declarations_of_child hc hd)

theorem partsInOrder_of_nil {t : Tree} (h : declarations b t = []) : PartsInOrder b t :=
  List.Pairwise.imp_of_mem (fun {c _} hc _ _ d hd => by
    rw [declarations_child_eq_nil h hc] at hd
    cases hd) (List.pairwise_of_forall (R := fun _ _ => True) fun _ _ => trivial)

theorem ofNode_eq_nil {k : Kind} (hk : k.declares = false) (b : Bool) (s : Option Span)
    (fs : List (List Tree)) : ofNode b (.node k s fs) = [] := by
  unfold ofNode
  split
  · next heq => cases heq; cases hk
  · next heq => cases heq; cases hk
  · next heq => cases heq; cases hk
  · rfl

theorem declarations_leaf {k : Kind} (hk : k.declares = false) (hslots : k.slots = [])
    {s : Option Span} {fs : List (List Tree)} (hformed : (Tree.node k s fs).isWellFormed = true)
    (b : Bool) : declarations b (.node k s fs) = [] := by
  have hfs : fs = [] := by
    have hfilled := ((Tree.isWellFormed_iff _ _ _).mp hformed).2
    rw [hslots] at hfilled
    cases fs with
    | nil => rfl
    | cons f fs => exact hfilled.elim
  subst hfs
  rw [declarations_eq, ofNode_eq_nil hk]
  rfl

/-- Where something is declared, nothing is declared below. -/
theorem ofNode_eq_nil_or {t : Tree} (hformed : t.isWellFormed = true) (b : Bool) :
    ofNode b t = [] ∨ ∀ c ∈ t.children, declarations b c = [] := by
  have hnames : ∀ {s : Option Span} {k : Kind} {aliases : List Tree}, k.slots = [.some .importName] →
      (Tree.node k s [aliases]).isWellFormed = true →
      ∀ c ∈ (Tree.node k s [aliases]).children, declarations b c = [] := by
    intro s k aliases hk hformed c hc
    have hslots := ((Tree.isWellFormed_iff _ _ _).mp hformed).2
    rw [hk] at hslots
    have hname := hslots.1.2 c (by simpa [Tree.children, Tree.fields] using hc)
    obtain ⟨name, asName, s, rfl⟩ := Lowering.importName_eq hname
    exact declarations_leaf rfl rfl hname.2 b
  unfold ofNode
  split
  · exact .inr (hnames rfl hformed)
  · exact .inr (hnames rfl hformed)
  · refine .inr fun c hc => ?_
    have hc' := Tree.isWellFormed_of_mem_children hformed hc
    simp only [Tree.children, Tree.fields, List.flatten_cons, List.flatten_nil, List.append_nil,
      List.mem_append, List.mem_singleton] at hc
    rcases hc with rfl | rfl
    · exact declarations_leaf rfl rfl hc' b
    · exact declarations_leaf rfl rfl hc' b
  · exact .inl rfl

/-! ## Order is a matter of each node -/

/-- **The declarations of a tree are in order exactly if the parts of each of its nodes are.** -/
theorem inOrder_iff (b : Bool) (t : Tree) (hformed : t.isWellFormed = true) :
    InOrder b t ↔ ∀ n ∈ t.nodes, PartsInOrder b n := by
  induction t using Tree.induction with
  | h t ih =>
  have hchildren : ∀ c ∈ t.children, (InOrder b c ↔ ∀ n ∈ c.nodes, PartsInOrder b n) :=
    fun c hc => ih c hc (Tree.isWellFormed_of_mem_children hformed hc)
  have hparts : (t.children.flatMap (declarations b)).Pairwise (fun d e => d.2 ≤ e.2)
      ↔ (∀ c ∈ t.children, InOrder b c) ∧ PartsInOrder b t := by
    rw [List.pairwise_flatMap]
    rfl
  have hown : InOrder b t ↔ (t.children.flatMap (declarations b)).Pairwise fun d e => d.2 ≤ e.2 := by
    rw [InOrder, declarations_eq]
    rcases ofNode_eq_nil_or hformed b with hnone | hbelow
    · rw [hnone]
      rfl
    · -- All that is declared here is declared at one place.
      rw [List.flatMap_eq_nil_iff.mpr hbelow, List.append_nil]
      refine iff_of_true ?_ .nil
      rw [List.pairwise_map]
      exact List.pairwise_of_forall fun _ _ => le_rfl
  rw [hown, hparts]
  constructor
  · rintro ⟨hbelow, hhere⟩ n hn
    rcases Tree.mem_nodes_iff.mp hn with rfl | ⟨c, hc, hn⟩
    · exact hhere
    · exact (hchildren c hc).mp (hbelow c hc) n hn
  · intro hall
    refine ⟨fun c hc => (hchildren c hc).mpr fun n hn => ?_, hall t (Tree.self_mem_nodes t)⟩
    exact hall n (Tree.mem_nodes_iff.mpr (.inr ⟨c, hc, hn⟩))

end Dependencies

end SourceLoader
