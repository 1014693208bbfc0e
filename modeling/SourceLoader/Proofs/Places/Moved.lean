import Mathlib.Tactic.Simproc.ExistsAndEq
import SourceLoader.Compile.Check

/-!
# Moved trees

`Tree.moved` puts the nodes of a tree at other places and leaves all else. What a checker asks of a
tree before it goes on, such as a value that is known or whether a block waits, does not go by
places.

A checker goes down a tree by its kinds and the shape of its fields. So a moved tree takes the same
branch as the tree itself: a branch for a certain shape because moving keeps the shape, and the
branch for all others because a moved tree has no shape that the tree itself has not
(`moved_eq_node_iff`).
-/

namespace SourceLoader

namespace Tree

/-- The same tree with each node at the place that `p` gives it. -/
def moved (p : Kind → Option Span → Option Span) : Tree → Tree :=
  mapUp fun t => t.withSpan (p t.kind t.span?)

theorem mapUpAll_eq_map (f : Tree → Tree) (ts : List Tree) : mapUpAll f ts = ts.map (mapUp f) := by
  induction ts with
  | nil => rfl
  | cons t ts ih => rw [mapUpAll, ih, List.map_cons]

theorem mapUpFields_eq_map (f : Tree → Tree) (fs : List (List Tree)) :
    mapUpFields f fs = fs.map (List.map (mapUp f)) := by
  induction fs with
  | nil => rfl
  | cons g gs ih => rw [mapUpFields, ih, mapUpAll_eq_map, List.map_cons]

variable {p : Kind → Option Span → Option Span}

@[simp] theorem moved_node (k : Kind) (s : Option Span) (fs : List (List Tree)) :
    (node k s fs).moved p = .node k (p k s) (fs.map (List.map (moved p))) := by
  rw [moved, mapUp, mapUpFields_eq_map]
  rfl

@[simp] theorem kind_moved (t : Tree) : (t.moved p).kind = t.kind := by
  obtain ⟨k, s, fs⟩ := t
  rw [moved_node]
  rfl

theorem children_moved (t : Tree) : (t.moved p).children = t.children.map (moved p) := by
  obtain ⟨k, s, fs⟩ := t
  rw [moved_node, children, children, fields, fields, List.map_flatten]

@[simp] theorem moved_eq_node_iff {t : Tree} {k : Kind} {s : Option Span} {fs : List (List Tree)} :
    t.moved p = .node k s fs
      ↔ ∃ s' fs', t = .node k s' fs' ∧ p k s' = s ∧ fs'.map (List.map (moved p)) = fs := by
  obtain ⟨k', s', fs'⟩ := t
  simp only [moved_node, node.injEq]
  constructor
  · rintro ⟨rfl, rfl, rfl⟩
    exact ⟨s', fs', ⟨rfl, rfl, rfl⟩, rfl, rfl⟩
  · rintro ⟨_, _, ⟨rfl, rfl, rfl⟩, rfl, rfl⟩
    exact ⟨rfl, rfl, rfl⟩

/-! ## Erased places -/

theorem moved_none (t : Tree) : t.moved (fun _ _ => none) = t.eraseSpans := rfl

@[simp] theorem eraseSpans_node (k : Kind) (s : Option Span) (fs : List (List Tree)) :
    (node k s fs).eraseSpans = .node k none (fs.map (List.map eraseSpans)) :=
  moved_node (p := fun _ _ => none) k s fs

@[simp] theorem kind_eraseSpans (t : Tree) : t.eraseSpans.kind = t.kind :=
  kind_moved (p := fun _ _ => none) t

@[simp] theorem eraseSpans_eq_node_iff {t : Tree} {k : Kind} {s : Option Span}
    {fs : List (List Tree)} : t.eraseSpans = .node k s fs
      ↔ ∃ s' fs', t = .node k s' fs' ∧ none = s ∧ fs'.map (List.map eraseSpans) = fs :=
  moved_eq_node_iff (p := fun _ _ => none)

/-! ## Known values -/

theorem staticValue?_moved_all : (∀ t : Tree, (t.moved p).staticValue? = t.staticValue?)
    ∧ ∀ ts : List Tree, staticValues? (ts.map (moved p)) = staticValues? ts := by
  apply staticValue?.mutual_induct (fun t => (t.moved p).staticValue? = t.staticValue?)
    (fun ts => staticValues? (ts.map (moved p)) = staticValues? ts)
  case case8 =>
    intros
    rw [staticValue?, staticValue?]
    all_goals first
      | assumption
      | (intros
         rename_i h
         obtain ⟨_, _, rfl, -, hfs⟩ := moved_eq_node_iff.mp h
         simp_all [List.map_eq_cons_iff])
  all_goals
    intros
    simp only [moved_node, List.map_cons, List.map_nil, staticValue?, staticValues?, *]

@[simp] theorem staticValue?_moved (t : Tree) : (t.moved p).staticValue? = t.staticValue? :=
  staticValue?_moved_all.1 t

end Tree

namespace Check

variable {p : Kind → Option Span → Option Span}

open Tree (moved moved_node)

/-! ## What waits or yields -/

theorem reaches_moved_all (waits : Bool) : (∀ t : Tree, reaches waits (t.moved p) = reaches waits t)
    ∧ (∀ ts, reachesClauses waits (ts.map (moved p)) = reachesClauses waits ts)
    ∧ (∀ ts, reachesAny waits (ts.map (moved p)) = reachesAny waits ts)
    ∧ ∀ fs, reachesFields waits (fs.map (List.map (moved p))) = reachesFields waits fs := by
  apply reaches.mutual_induct (fun t => reaches waits (t.moved p) = reaches waits t)
    (fun ts => reachesClauses waits (ts.map (moved p)) = reachesClauses waits ts)
    (fun ts => reachesAny waits (ts.map (moved p)) = reachesAny waits ts)
    (fun fs => reachesFields waits (fs.map (List.map (moved p))) = reachesFields waits fs)
  case case11 =>
    intros
    rw [moved_node, reaches, reaches]
    · assumption
    all_goals first
      | assumption
      | (intros
         simp_all [List.map_eq_cons_iff, -Bool.forall_bool])
  case case15 =>
    intros
    rw [reachesClauses, reachesClauses]
    all_goals first
      | assumption
      | (intros
         simp_all [List.map_eq_cons_iff, -Bool.forall_bool])
  all_goals
    intros
    simp only [moved_node, List.map_cons, List.map_nil, reaches, reachesFields, reachesAny,
      reachesClauses, *]

@[simp] theorem reachesAny_moved (waits : Bool) (ts : List Tree) :
    reachesAny waits (ts.map (moved p)) = reachesAny waits ts := (reaches_moved_all waits).2.2.1 ts

@[simp] theorem comprehensionWaits_moved (elements generators : List Tree) :
    comprehensionWaits (elements.map (moved p)) (generators.map (moved p))
      = comprehensionWaits elements generators := by
  have hclauses := (reaches_moved_all (p := p) true).2.1
  fun_cases comprehensionWaits elements generators
  case case1 => simp [comprehensionWaits, hclauses]
  case case2 h =>
    rw [comprehensionWaits]
    intros
    simp_all [List.map_eq_cons_iff, -Bool.forall_bool]

/-- A negated comparison is the opposite of the same comparison. -/
theorem comparison?_moved (t : Tree) :
    (comparison? (t.moved p)).map Prod.fst = (comparison? t).map Prod.fst := by
  fun_induction comparison? t
  case case1 => simp [comparison?]
  case case2 s operand ih =>
    have hopposite : ∀ r : Option (List CmpOp × Span), (do
        let found ← r
        let ops ← opposite? found.1
        return (ops, found.2)).map Prod.fst = (r.map Prod.fst).bind opposite? := by
      rintro (_ | ⟨ops, span⟩)
      · rfl
      · cases h : opposite? ops <;> simp [h]
    simp only [moved_node, List.map_cons, List.map_nil, comparison?]
    exact (hopposite _).trans ((congrArg (·.bind opposite?) ih).trans (hopposite _).symm)
  case case3 h1 h2 =>
    rw [comparison?]
    all_goals
      intros
      simp_all [List.map_eq_cons_iff, -Bool.forall_bool]

theorem comparison?_moved_of_some {t : Tree} {ops : List CmpOp} {span : Span}
    (h : comparison? t = some (ops, span)) :
    ∃ span', comparison? (t.moved p) = some (ops, span') := by
  have hsame := comparison?_moved (p := p) t
  rw [h] at hsame
  cases hmoved : comparison? (t.moved p) with
  | none => simp [hmoved] at hsame
  | some r =>
      rw [hmoved] at hsame
      cases hsame
      exact ⟨r.2, rfl⟩

theorem comparison?_of_moved_some {t : Tree} {ops : List CmpOp} {span : Span}
    (h : comparison? (t.moved p) = some (ops, span)) :
    ∃ span', comparison? t = some (ops, span') := by
  have hsame := comparison?_moved (p := p) t
  rw [h] at hsame
  cases ht : comparison? t with
  | none => simp [ht] at hsame
  | some r =>
      rw [ht] at hsame
      cases hsame
      exact ⟨r.2, rfl⟩

end Check

end SourceLoader
