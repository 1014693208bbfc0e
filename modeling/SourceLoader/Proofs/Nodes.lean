import SourceLoader.Proofs.Forms

/-!
# The nodes of a tree, in order

`Tree.nodes` lists what a tree is made of, each node before those below it. What is said of all
nodes of a tree, such as where they stand, can then be read off a list: moving a tree moves the
nodes of its list (`Tree.nodes_moved`), a tree all of whose nodes are at one place is known by its
shape (`Tree.standsAt_iff`), and a tree whose nodes have their places is given no others
(`Tree.Placed.fillSpans`).
-/

namespace SourceLoader.Tree

/-! ## The list of nodes -/

mutual

/-- The nodes of a tree, each one before those below it. Statements come in the order of the
source, since the fields that hold statements do. -/
def nodes : Tree → List Tree
  | .node k s fs => .node k s fs :: nodesOfFields fs

/-- The nodes of some fields. -/
def nodesOfFields : List (List Tree) → List Tree
  | [] => []
  | f :: fs => nodesOfAll f ++ nodesOfFields fs

/-- The nodes of some trees. -/
def nodesOfAll : List Tree → List Tree
  | [] => []
  | t :: ts => t.nodes ++ nodesOfAll ts

end

theorem mem_nodesOfAll {n : Tree} {ts : List Tree} :
    n ∈ nodesOfAll ts ↔ ∃ t ∈ ts, n ∈ t.nodes := by
  induction ts with
  | nil => simp [nodesOfAll]
  | cons t ts ih => simp [nodesOfAll, ih]

theorem mem_nodesOfFields {n : Tree} {fs : List (List Tree)} :
    n ∈ nodesOfFields fs ↔ ∃ f ∈ fs, ∃ t ∈ f, n ∈ t.nodes := by
  induction fs with
  | nil => simp [nodesOfFields]
  | cons f fs ih => simp [nodesOfFields, ih, mem_nodesOfAll]

theorem nodesOfAll_append (ts us : List Tree) :
    nodesOfAll (ts ++ us) = nodesOfAll ts ++ nodesOfAll us := by
  induction ts with
  | nil => rfl
  | cons t ts ih => rw [List.cons_append, nodesOfAll, nodesOfAll, ih, List.append_assoc]

theorem mem_nodes_node {n : Tree} {k : Kind} {s : Option Span} {fs : List (List Tree)} :
    n ∈ (Tree.node k s fs).nodes ↔ n = .node k s fs ∨ ∃ f ∈ fs, ∃ t ∈ f, n ∈ t.nodes := by
  rw [nodes, List.mem_cons, mem_nodesOfFields]

theorem self_mem_nodes (t : Tree) : t ∈ t.nodes := by
  obtain ⟨k, s, fs⟩ := t
  rw [nodes]
  exact List.mem_cons_self

mutual

/-- A change of places meets each node once. -/
theorem nodes_moved (p : Kind → Option Span → Option Span) :
    (t : Tree) → (t.moved p).nodes = t.nodes.map (moved p)
  | .node k s fs => by
    rw [moved_node, nodes, nodes, List.map_cons, moved_node, nodesOfFields_moved p fs]

theorem nodesOfFields_moved (p : Kind → Option Span → Option Span) :
    (fs : List (List Tree)) →
      nodesOfFields (fs.map (List.map (moved p))) = (nodesOfFields fs).map (moved p)
  | [] => rfl
  | f :: fs => by
    rw [List.map_cons, nodesOfFields, nodesOfFields, nodesOfAll_moved p f,
      nodesOfFields_moved p fs, List.map_append]

theorem nodesOfAll_moved (p : Kind → Option Span → Option Span) :
    (ts : List Tree) → nodesOfAll (ts.map (moved p)) = (nodesOfAll ts).map (moved p)
  | [] => rfl
  | t :: ts => by
    rw [List.map_cons, nodesOfAll, nodesOfAll, nodes_moved p t, nodesOfAll_moved p ts,
      List.map_append]

end

mutual

/-- Moving the nodes twice is moving them once. -/
theorem moved_moved (p q : Kind → Option Span → Option Span) :
    (t : Tree) → (t.moved p).moved q = t.moved fun k s => q k (p k s)
  | .node k s fs => by
    rw [moved_node, moved_node, moved_node, moved_moved_fields p q fs]

theorem moved_moved_fields (p q : Kind → Option Span → Option Span) :
    (fs : List (List Tree)) → (fs.map (List.map (moved p))).map (List.map (moved q)) =
      fs.map (List.map (moved fun k s => q k (p k s)))
  | [] => rfl
  | f :: fs => by
    rw [List.map_cons, List.map_cons, List.map_cons, moved_moved_all p q f,
      moved_moved_fields p q fs]

theorem moved_moved_all (p q : Kind → Option Span → Option Span) :
    (ts : List Tree) →
      (ts.map (moved p)).map (moved q) = ts.map (moved fun k s => q k (p k s))
  | [] => rfl
  | t :: ts => by
    rw [List.map_cons, List.map_cons, List.map_cons, moved_moved p q t, moved_moved_all p q ts]

end

section

variable {p : Kind → Option Span → Option Span}

mutual

/-- Where every node has its place already, moving changes nothing. -/
theorem moved_eq_self :
    (t : Tree) → (∀ n ∈ t.nodes, p n.kind n.span? = n.span?) → t.moved p = t
  | .node k s fs, h => by
    have hroot : p k s = s := h _ (self_mem_nodes _)
    have hfields : fs.map (List.map (moved p)) = fs := by
      refine moved_fields_eq_self fs fun n hn => h n ?_
      rw [nodes]
      exact List.mem_cons_of_mem _ hn
    rw [moved_node, hroot, hfields]

theorem moved_fields_eq_self :
    (fs : List (List Tree)) → (∀ n ∈ nodesOfFields fs, p n.kind n.span? = n.span?) →
      fs.map (List.map (moved p)) = fs
  | [], _ => rfl
  | f :: fs, h => by
    rw [List.map_cons, moved_all_eq_self f fun n hn => h n (List.mem_append_left _ hn),
      moved_fields_eq_self fs fun n hn => h n (List.mem_append_right _ hn)]

theorem moved_all_eq_self :
    (ts : List Tree) → (∀ n ∈ nodesOfAll ts, p n.kind n.span? = n.span?) →
      ts.map (moved p) = ts
  | [], _ => rfl
  | t :: ts, h => by
    rw [List.map_cons, moved_eq_self t fun n hn => h n (List.mem_append_left _ hn),
      moved_all_eq_self ts fun n hn => h n (List.mem_append_right _ hn)]

end

end

@[simp] theorem moved_id (t : Tree) : t.moved (fun _ s => s) = t := moved_eq_self t fun _ _ => rfl

@[simp] theorem map_moved_id (ts : List Tree) : ts.map (moved fun _ s => s) = ts :=
  moved_all_eq_self ts fun _ _ => rfl

/-! ## Trees by those right below them -/

theorem nodesOfAll_eq_flatMap (ts : List Tree) : nodesOfAll ts = ts.flatMap nodes := by
  induction ts with
  | nil => rfl
  | cons t ts ih => rw [nodesOfAll, ih, List.flatMap_cons]

theorem nodes_eq_flatMap (t : Tree) : t.nodes = t :: t.children.flatMap nodes := by
  obtain ⟨k, s, fs⟩ := t
  rw [nodes, children, fields]
  congr 1
  induction fs with
  | nil => rfl
  | cons f fs ih =>
      rw [nodesOfFields, List.flatten_cons, List.flatMap_append, ih, nodesOfAll_eq_flatMap]

mutual

/-- What holds of a tree as soon as it holds of all trees right below it holds of all trees. -/
theorem induction {P : Tree → Prop} (h : ∀ t : Tree, (∀ c ∈ t.children, P c) → P t) :
    (t : Tree) → P t
  | .node k s fs => h (.node k s fs) (inductionFields h fs)

theorem inductionFields {P : Tree → Prop} (h : ∀ t : Tree, (∀ c ∈ t.children, P c) → P t) :
    (fs : List (List Tree)) → ∀ c ∈ fs.flatten, P c
  | [] => fun _ hc => nomatch hc
  | f :: fs => fun c hc =>
    (List.mem_append.mp hc).elim (inductionAll h f c) (inductionFields h fs c)

theorem inductionAll {P : Tree → Prop} (h : ∀ t : Tree, (∀ c ∈ t.children, P c) → P t) :
    (ts : List Tree) → ∀ c ∈ ts, P c
  | [] => fun _ hc => nomatch hc
  | t :: ts => fun c hc =>
    (List.mem_cons.mp hc).elim (fun heq => heq ▸ induction h t) (inductionAll h ts c)

end

theorem mem_nodes_iff {n t : Tree} : n ∈ t.nodes ↔ n = t ∨ ∃ c ∈ t.children, n ∈ c.nodes := by
  rw [nodes_eq_flatMap, List.mem_cons, List.mem_flatMap]

/-! ## Nodes of trees that are read -/

/-- What could have been read from some lines has only such nodes. -/
theorem isOn_of_mem_nodes {lines : Nat} {t n : Tree} (h : t.isOn lines = true) (hn : n ∈ t.nodes) :
    n.isOn lines = true := by
  induction t using Tree.induction with
  | h t ih =>
  rcases mem_nodes_iff.mp hn with rfl | ⟨c, hc, hbelow⟩
  · exact h
  · have hfields (gs : List (List Tree)) (hgs : areFieldsOn lines gs = true) :
        ∀ c ∈ gs.flatten, c.isOn lines = true := by
      induction gs with
      | nil => simp
      | cons g gs ihg =>
          rw [areFieldsOn, Bool.and_eq_true] at hgs
          rw [List.flatten_cons, List.forall_mem_append]
          exact ⟨(areOn_iff lines g).mp hgs.1, ihg hgs.2⟩
    obtain ⟨k, s, fs⟩ := t
    exact ih c hc (hfields fs (isOn_node.mp h).2.2 c hc) hbelow

theorem place_of_mem_nodes {lines : Nat} {t n : Tree} (h : t.isOn lines = true)
    (hn : n ∈ t.nodes) : n.span?.all (Span.isOn lines) = true := by
  obtain ⟨k, s, fs⟩ := n
  exact (isOn_node.mp (isOn_of_mem_nodes h hn)).1

theorem listsAsWritten_of_mem_nodes {lines : Nat} {t n : Tree} (h : t.isOn lines = true)
    (hn : n ∈ t.nodes) : n.kind.listsAsWritten n.fields = true := by
  obtain ⟨k, s, fs⟩ := n
  exact (isOn_node.mp (isOn_of_mem_nodes h hn)).2.1

/-! ## Trees with all nodes at one place -/

/-- All nodes that can have a place are at the given one. -/
def StandsAt (span : Option Span) (t : Tree) : Prop :=
  ∀ n ∈ t.nodes, n.span? = if n.kind.hasSpan then span else none

theorem relocate_eq_moved (span : Option Span) (t : Tree) :
    t.relocate span = t.moved fun k _ => if k.hasSpan then span else none := rfl

theorem standsAt_relocate (span : Option Span) (t : Tree) : (t.relocate span).StandsAt span := by
  intro n hn
  rw [relocate_eq_moved, nodes_moved] at hn
  obtain ⟨⟨k, s, fs⟩, -, rfl⟩ := List.mem_map.mp hn
  rw [moved_node]
  rfl

/-- A tree at one place is known by its shape. -/
theorem standsAt_iff {span : Option Span} {t u : Tree} (hu : u.eraseSpans = u) :
    t.eraseSpans = u ∧ t.StandsAt span ↔ t = u.relocate span := by
  constructor
  · rintro ⟨rfl, hplace⟩
    have hself : t.moved (fun k _ => if k.hasSpan then span else none) = t :=
      moved_eq_self t fun n hn => (hplace n hn).symm
    rw [← moved_none, relocate_eq_moved, moved_moved, hself]
  · rintro rfl
    exact ⟨(eraseSpans_relocate span u).trans hu, standsAt_relocate span u⟩

/-! ## Places that are given already -/

/-- A node has a place exactly if nodes of its kind have one. -/
def Placed (t : Tree) : Prop := ∀ n ∈ t.nodes, n.span?.isSome = n.kind.hasSpan

mutual

theorem fillSpansFrom_eq_self (outer : Span) :
    (t : Tree) → t.Placed → fillSpansFrom outer t = t
  | .node k s fs, h => by
    have hroot : s.isSome = k.hasSpan := h _ (self_mem_nodes _)
    have hown : (if k.hasSpan then some (s.getD outer) else s) = s := by
      cases s with
      | none => rw [← hroot]; rfl
      | some s => rw [← hroot]; rfl
    have hfields : fillSpansOfFields (s.getD outer) fs = fs := by
      refine fillSpansOfFields_eq_self _ fs fun n hn => h n ?_
      rw [nodes]
      exact List.mem_cons_of_mem _ hn
    rw [fillSpansFrom, hown, hfields]

theorem fillSpansOfFields_eq_self (outer : Span) :
    (fs : List (List Tree)) → (∀ n ∈ nodesOfFields fs, n.span?.isSome = n.kind.hasSpan) →
      fillSpansOfFields outer fs = fs
  | [], _ => rfl
  | f :: fs, h => by
    rw [fillSpansOfFields,
      fillSpansOfAll_eq_self outer f fun n hn => h n (List.mem_append_left _ hn),
      fillSpansOfFields_eq_self outer fs fun n hn => h n (List.mem_append_right _ hn)]

theorem fillSpansOfAll_eq_self (outer : Span) :
    (ts : List Tree) → (∀ n ∈ nodesOfAll ts, n.span?.isSome = n.kind.hasSpan) →
      fillSpansOfAll outer ts = ts
  | [], _ => rfl
  | t :: ts, h => by
    rw [fillSpansOfAll, fillSpansFrom_eq_self outer t fun n hn => h n (List.mem_append_left _ hn),
      fillSpansOfAll_eq_self outer ts fun n hn => h n (List.mem_append_right _ hn)]

end

/-- A tree whose nodes have their places needs no others. -/
theorem Placed.fillSpans {t : Tree} (h : t.Placed) : t.fillSpans = t :=
  fillSpansFrom_eq_self _ t h

mutual

/-- The nodes of a well-formed tree are well formed. -/
theorem isWellFormed_of_mem_nodes :
    (t : Tree) → t.isWellFormed = true → ∀ n ∈ t.nodes, n.isWellFormed = true
  | .node k s fs, h => by
    intro n hn
    rw [nodes] at hn
    rcases List.mem_cons.mp hn with rfl | hn
    · exact h
    · simp only [isWellFormed, Bool.and_eq_true] at h
      exact isWellFormed_of_mem_nodesOfFields fs h.2 n hn

theorem isWellFormed_of_mem_nodesOfFields : (fs : List (List Tree)) →
    areFieldsWellFormed fs = true → ∀ n ∈ nodesOfFields fs, n.isWellFormed = true
  | [], _ => fun _ hn => absurd hn List.not_mem_nil
  | f :: fs, h => by
    simp only [areFieldsWellFormed, Bool.and_eq_true] at h
    intro n hn
    rcases List.mem_append.mp hn with hn | hn
    · exact isWellFormed_of_mem_nodesOfAll f h.1 n hn
    · exact isWellFormed_of_mem_nodesOfFields fs h.2 n hn

theorem isWellFormed_of_mem_nodesOfAll : (ts : List Tree) →
    areWellFormed ts = true → ∀ n ∈ nodesOfAll ts, n.isWellFormed = true
  | [], _ => fun _ hn => absurd hn List.not_mem_nil
  | t :: ts, h => by
    simp only [areWellFormed, Bool.and_eq_true] at h
    intro n hn
    rcases List.mem_append.mp hn with hn | hn
    · exact isWellFormed_of_mem_nodes t h.1 n hn
    · exact isWellFormed_of_mem_nodesOfAll ts h.2 n hn

end

theorem placed_of_isWellFormed {t : Tree} (h : t.isWellFormed = true) : t.Placed := by
  intro n hn
  have hn' := isWellFormed_of_mem_nodes t h n hn
  obtain ⟨k, s, fs⟩ := n
  exact ((isWellFormed_iff k s fs).mp hn').1

end SourceLoader.Tree
