import Mathlib.Data.List.TakeWhile
import SourceLoader.Proofs.Places.Scopes
import SourceLoader.Proofs.Rebuilt

/-!
# Scopes of what is put in

What lowering puts in binds the imported name as the import does, to a value that is more to read:
a call, and for a star a whole comprehension. Reading the value only adds to what is noted (`Adds`):
no other name is bound or declared, and the blocks that are opened are closed again. So a name that
is listed and the statement in its place are read alike, the latter loosely (`alike_statementFor`).
The one exception is a star in a function or a class, which by itself is refused.
-/

namespace SourceLoader

namespace Scope

open Tree (moved moved_node)

section

variable {φ : List BlockKind} {n m l : Nat} {x y : Reader Unit}

/-! ## Readings that only add -/

/-- The first reading stands `n` blocks deeper. The blocks of the second one are covered. -/
structure Deep (n : Nat) (kinds : List BlockKind) (s s' : State) : Prop where
  className_eq : s'.className = s.className
  blocks : List.Forall₂ (OpenBlock.Covers True) ((blocks s).drop n) (blocks s')
  kinds_eq : ((Scope.blocks s).drop n).map OpenBlock.kind = kinds

theorem deep_zero (φ : List BlockKind) : Deep 0 φ = Beside True φ := by
  ext s s'
  exact ⟨fun ⟨h, h', h''⟩ => ⟨h, h', h''⟩, fun ⟨h, h', h''⟩ => ⟨h, h', h''⟩⟩

/-- A reading that goes from depth `n` to depth `m` and only adds to what was noted. -/
def Adds (n m : Nat) (x : Reader Unit) : Prop :=
  ∀ φ, Agree True (Deep n φ) (Deep m φ) (fun _ _ => True) x (return ())

theorem adds_zero_iff : Adds 0 0 x ↔ ∀ φ, Alike True φ φ x (return ()) := by
  simp only [Adds, deep_zero]

theorem adds_done : Adds n n (return ()) := fun _ => agree_pure trivial

theorem Adds.seq {x' : Reader Unit} (hx : Adds n m x) (hx' : Adds m l x') :
    Adds n l (do x; x') := fun φ => Agree.seq (hx φ) (hx' φ)

theorem adds_modify {f : State → State} (h : ∀ φ s s', Deep n φ s s' → Deep m φ (f s) s') :
    Adds n m (modify f) := fun φ s s' hs => ⟨trivial, h φ s s' hs⟩

theorem Deep.set_succ {s s' : State} (h : Deep (n + 1) φ s s') (b : OpenBlock) :
    Deep (n + 1) φ { s with current := b } s' := ⟨h.className_eq, h.blocks, h.kinds_eq⟩

theorem atMost_read (u : Uses) : u.AtMost (u.union { isRead := true }) where
  isGlobal := by simp [Uses.union]
  isNonlocal := by simp [Uses.union]
  isParameter := by simp [Uses.union]
  isLocal := by rw [Uses.isLocal_union]; simp [Uses.isLocal]
  isBound h := by simp [Uses.union, h]
  isRead h := by simp [Uses.union]
  isAnnotated h := by simp [Uses.union, h]
  isIterated h := by simp [Uses.union, h]

theorem atMost_iterated (u : Uses) : u.AtMost { u with isIterated := true } :=
  { Uses.AtMost.refl u with isIterated := fun _ => rfl }

/-- A name is noted in the first reading alone. -/
theorem covers_put_left {b c : OpenBlock} (h : OpenBlock.Covers True b c) {name : String} {u : Uses}
    (hu : (b.uses name).AtMost u) : OpenBlock.Covers True (b.put name u) c where
  kind := by rw [OpenBlock.kind_put, h.kind]
  inTarget := by rw [OpenBlock.inTarget_put, h.inTarget]
  iterables := by rw [OpenBlock.iterables_put, h.iterables]
  names := by
    refine ⟨fun other => ?_, OpenBlock.nodup_put h.names.nodup, h.names.nodup'⟩
    rw [OpenBlock.uses_put]
    split
    · next heq =>
      rw [heq]
      exact ⟨(h.names.uses name).1.trans hu, .inr trivial⟩
    · exact h.names.uses other
  inner := by rw [OpenBlock.inner_put]; exact h.inner

/-- A name that is not global is noted in the innermost block. -/
theorem note_ok {name : String} {uses : Uses} (hglobal : uses.isGlobal = false) {span : Span}
    {s s₂ : State} (h : note name uses span s = .ok ((), s₂)) :
    ∃ u, ((s.current.uses (privateName s.className name)).union uses).AtMost u
      ∧ s₂ = { s with current := s.current.put (privateName s.className name) u } := by
  have hfirst : (blocks s)[0]? = some s.current := rfl
  unfold note noteIn at h
  simp only [hfirst, hglobal, bind, StateT.bind, get, getThe, MonadStateOf.get, StateT.get, pure,
    Except.pure, Except.bind] at h
  split at h
  · cases h
  split at h
  · cases h
  rw [if_neg Bool.false_ne_true] at h
  cases h
  refine ⟨_, ?_, rfl⟩
  split
  · exact atMost_iterated _
  · exact .refl _

theorem adds_of_ok (h : ∀ φ s s' s₂, Deep n φ s s' → x s = .ok ((), s₂) → Deep m φ s₂ s') :
    Adds n m x := by
  intro φ s s' hs
  cases hx : x s with
  | ok r => exact ⟨trivial, h φ s s' r.2 hs hx⟩
  | error e => trivial

theorem adds_read (name : String) (span : Span) : Adds n n (note name { isRead := true } span) := by
  refine adds_of_ok fun φ s s' s₂ hs h => ?_
  obtain ⟨u, hu, rfl⟩ := note_ok rfl h
  cases n with
  | succ n => exact hs.set_succ _
  | zero =>
      have hbeside : Beside True φ s s' := deep_zero φ ▸ hs
      rw [deep_zero]
      refine ⟨hbeside.className_eq, .cons ?_ hbeside.outer, ?_⟩
      · exact covers_put_left hbeside.current ((atMost_read _).trans hu)
      · rw [← hbeside.kinds_eq]
        simp [blocks]

/-- Inside an added block any name may be noted. -/
theorem adds_note {name : String} {uses : Uses} (hglobal : uses.isGlobal = false) (span : Span) :
    Adds (n + 1) (n + 1) (note name uses span) := by
  refine adds_of_ok fun φ s s' s₂ hs h => ?_
  obtain ⟨u, -, rfl⟩ := note_ok hglobal h
  exact hs.set_succ _

theorem adds_openBlock (kind : BlockKind) : Adds n (n + 1) (openBlock kind) :=
  adds_modify fun _ _ _ h => ⟨h.className_eq, h.blocks, h.kinds_eq⟩

theorem adds_closeBlock : Adds (n + 1) n closeBlock := by
  refine adds_modify fun φ s s' h => ?_
  cases hs : s.outer with
  | nil =>
      have hblocks := h.blocks
      rw [blocks, List.drop_succ_cons, hs, List.drop_nil] at hblocks
      cases hblocks
  | cons around outer =>
      have hdrop : (blocks s).drop (n + 1) = (around :: outer).drop n := by
        rw [blocks, List.drop_succ_cons, hs]
      have hblocks := h.blocks
      have hkinds := h.kinds_eq
      rw [hdrop] at hblocks hkinds
      cases n with
      | succ n => exact ⟨h.className_eq, hblocks, hkinds⟩
      | zero =>
          have hclosed : List.Forall₂ (OpenBlock.Covers True)
              ((if s.current.kind = .hint then around
                else { around with inner := around.inner ++ [s.current.close] }) :: outer)
              (blocks s') := by
            cases hs' : blocks s' with
            | nil => cases hs'
            | cons b' bs' =>
                rw [hs'] at hblocks
                cases hblocks with
                | cons hhead htail =>
                    refine .cons ?_ htail
                    split
                    · exact hhead
                    · exact { hhead with inner := List.append_nil b'.inner ▸
                        hhead.inner.append (.extra trivial .nil) }
          refine ⟨h.className_eq, hclosed, ?_⟩
          rw [← hkinds]
          simp only [blocks, List.drop_zero, List.map_cons]
          split <;> rfl

theorem adds_target (hx : Adds (n + 1) (n + 1) x) : Adds (n + 1) (n + 1) (target x) :=
  (adds_modify fun _ _ _ h => h.set_succ _).seq (hx.seq (adds_modify fun _ _ _ h => h.set_succ _))

theorem adds_iterable (hx : Adds n n x) : Adds n n (iterable x) := by
  cases n with
  | succ n =>
      exact (adds_modify fun _ _ _ h => h.set_succ _).seq
        (hx.seq (adds_modify fun _ _ _ h => h.set_succ _))
  | zero =>
      -- the count of iterables ends as it began
      have hnone : iterable (return ()) = return () := rfl
      refine adds_zero_iff.mpr fun φ => ?_
      rw [← hnone]
      exact (adds_zero_iff.mp hx φ).iterable

/-! ## Trees that only add -/

variable {future : Bool} {span : Option Span} {t : Tree} {ts : List Tree}

/-- Reading the tree, once it is at its place, only adds to what was noted. -/
abbrev TreeAdds (future : Bool) (span : Option Span) (n : Nat) (t : Tree) : Prop :=
  Adds n n (tree future (t.relocate span))

theorem adds_trees (h : ∀ t ∈ ts, TreeAdds future span n t) :
    Adds n n (trees future (ts.map (Tree.relocate span))) := by
  induction ts with
  | nil => exact adds_done
  | cons t ts ih =>
      rw [List.map_cons, trees]
      exact (h t List.mem_cons_self).seq (ih fun u hu => h u (List.mem_cons_of_mem _ hu))

theorem adds_fields {fs : List (List Tree)} (h : ∀ f ∈ fs, ∀ t ∈ f, TreeAdds future span n t) :
    Adds n n (fields future (fs.map (List.map (Tree.relocate span)))) := by
  induction fs with
  | nil => exact adds_done
  | cons f fs ih =>
      rw [List.map_cons, fields]
      exact (adds_trees (h f List.mem_cons_self)).seq
        (ih fun g hg => h g (List.mem_cons_of_mem _ hg))

theorem relocate_node (span : Option Span) (k : Kind) (s : Option Span) (fs : List (List Tree)) :
    (Tree.node k s fs).relocate span
      = .node k (if k.hasSpan then span else none) (fs.map (List.map (Tree.relocate span))) := by
  rw [Tree.relocate_eq_moved, moved_node]
  rfl

open Lowering

/-- A node that is read field by field. -/
theorem adds_node {k : Kind} {s : Option Span} {fs : List (List Tree)}
    (hk : ∀ s fs, tree future (.node k s fs) = fields future fs)
    (h : ∀ f ∈ fs, ∀ t ∈ f, TreeAdds future span n t) : TreeAdds future span n (.node k s fs) := by
  rw [TreeAdds, relocate_node, hk]
  exact adds_fields h

theorem adds_readName (id : String) : TreeAdds future span n (readName id) := by
  rw [TreeAdds, readName, relocate_node, tree, if_pos rfl]
  exact adds_read id _

theorem adds_textLiteral (text : String) : TreeAdds future span n (textLiteral text) :=
  adds_node (fun _ _ => by rw [tree] <;> (intros; contradiction)) (by simp)

theorem adds_callOf (ht : TreeAdds future span n t) (hts : ∀ a ∈ ts, TreeAdds future span n a) :
    TreeAdds future span n (callOf t ts) :=
  adds_node (fun _ _ => by rw [tree] <;> (intros; contradiction)) (by simpa using ⟨ht, hts⟩)

theorem adds_memberOf (ht : TreeAdds future span n t) (name : String) :
    TreeAdds future span n (memberOf t name) :=
  adds_node (fun _ _ => by rw [tree] <;> (intros; contradiction)) (by simpa using ht)

theorem adds_requireCall (specifier : String) : TreeAdds future span n (requireCall specifier) :=
  adds_callOf (adds_readName _) (by simpa using adds_textLiteral _)

theorem adds_publicTest : TreeAdds future span n publicTest :=
  adds_node (fun _ _ => by rw [tree] <;> (intros; contradiction)) (by
    simpa using adds_callOf (adds_memberOf (adds_readName _) _) (by simpa using adds_textLiteral _))

theorem adds_publicNames : TreeAdds future span n publicNames := by
  rw [TreeAdds, publicNames, clauseOf, relocate_node]
  simp only [List.map_cons, List.map_nil, relocate_node, tree, trees, clauses]
  refine (adds_iterable (adds_callOf (adds_readName _) (by simpa using adds_readName _))).seq
    ((adds_openBlock _).seq ((adds_target ?_).seq ?_))
  · rw [if_neg (by simp)]
    exact adds_note rfl _
  · exact (adds_publicTest.seq adds_done).seq
      (adds_done.seq ((adds_readName _).seq adds_closeBlock))

theorem adds_listedNames : TreeAdds future span n listedNames := by
  refine adds_callOf (adds_readName _) ?_
  simpa using ⟨adds_readName _, adds_textLiteral _, adds_publicNames⟩

theorem adds_listedValue : TreeAdds future span n listedValue :=
  adds_callOf (adds_readName _) (by simpa using ⟨adds_readName _, adds_readName _⟩)

theorem adds_listed (specifier : String) : TreeAdds future span n
    (.node .dictComp none [[readName "_star_name"], [listedValue], listedClauses specifier]) := by
  rw [TreeAdds, listedClauses, clauseOf, clauseOf, relocate_node]
  simp only [List.map_cons, List.map_nil, relocate_node, tree, trees, clauses, fields]
  refine (adds_iterable ?_).seq ((adds_openBlock _).seq ((adds_target ?_).seq (adds_done.seq
    (Adds.seq ?_ (adds_listedValue.seq ((adds_readName _).seq adds_closeBlock))))))
  · exact ((adds_requireCall specifier).seq adds_done).seq adds_done
  · rw [if_neg (by simp)]
    exact adds_note rfl _
  · refine (adds_target ?_).seq ((adds_iterable adds_listedNames).seq (adds_done.seq adds_done))
    rw [if_neg (by simp)]
    exact adds_note rfl _

/-- Binding all public names of a module only adds to what was noted. -/
theorem adds_bindAll (specifier : String) : TreeAdds future span n (bindAll specifier) := by
  have hupdate : TreeAdds future span n (callOf (memberOf (callOf (readName "globals") [])
      "update") [.node .dictComp none
        [[readName "_star_name"], [listedValue], listedClauses specifier]]) :=
    adds_callOf (adds_memberOf (adds_callOf (adds_readName _) (by simp)) _)
      (by simpa using adds_listed specifier)
  rw [bindAll_eq]
  exact adds_node (fun _ _ => by rw [tree] <;> (intros; contradiction)) (by simpa using hupdate)

/-! ## Imports -/

theorem covers_bound_imported :
    Uses.Covers True { isBound := true } { isImported := true } :=
  ⟨⟨rfl, rfl, rfl, rfl, nofun, nofun, nofun, nofun⟩, .inr trivial⟩

theorem boundPart_of_isWord {name : String} (h : Text.isWord name = true) : boundPart name = name := by
  have hall : ∀ c ∈ name.toList, (decide (c ≠ '.')) = true := by
    intro c hc
    rw [decide_eq_true_eq]
    rintro rfl
    simp [Text.isWord, hc] at h
  rw [boundPart, List.takeWhile_eq_self_iff.mpr hall, String.ofList_toList]

/-- Only the first step notes anything that the other side does not. -/
theorem Alike.adds {x' : Reader Unit} (hx : Alike True φ φ x y) (hx' : Adds 0 0 x') :
    Alike True φ φ (do x; x') y := by
  have hy : y = (do y; return ()) := by
    funext s
    show y s = (y s).bind fun r => .ok ((), r.2)
    cases y s <;> rfl
  rw [hy]
  exact hx.seq (adds_zero_iff.mp hx' φ)

/-- A word is bound to what `require` returns, or to a member of it. -/
theorem statementFor_word (k : Kind) {name : String} (asName : Option String) (s : Option Span)
    (hname : name ≠ "*") : ∃ value, (∀ {n future span}, TreeAdds future span n value)
      ∧ statementFor k (.node (.alias name asName) s [])
        = Lowering.bind (asName.getD name) value := by
  change ∃ value, _ ∧ (formOf k name asName).statement = _
  rcases formOf_word k asName hname with
    ⟨specifier, heq⟩ | ⟨specifier, part, heq⟩
  · rw [heq]
    exact ⟨requireCall specifier, adds_requireCall specifier, rfl⟩
  · rw [heq]
    exact ⟨memberOf (requireCall specifier) part, adds_memberOf (adds_requireCall _) _, rfl⟩

/-- What binds a name that an import lists notes at least what the import does. -/
theorem alike_statementFor {k : Kind} {name : String} {asName : Option String} {s : Option Span}
    (h : StarOrWord k name asName) {b : BlockKind}
    (hstar : name = "*" → asName = none → b = .module) (φ : List BlockKind) :
    Alike True (b :: φ) (b :: φ)
      (tree future ((statementFor k (.node (.alias name asName) s [])).relocate span))
      (tree future (.node (.alias name asName) s [])) := by
  rcases h with ⟨rfl, rfl, m, level, rfl⟩ | ⟨hname, hword⟩
  · -- outside of functions and classes a star is let pass
    obtain rfl := hstar rfl rfl
    intro s₁ s₂ hs
    have hpass : tree future (.node (.alias "*" none) s []) s₂ = .ok ((), s₂) := by
      have hkind : s₂.current.kind = .module := hs.current.kind.trans (hs.head_eq rfl)
      rw [tree]
      change (if s₂.current.kind ≠ .module then _ else _ : Reader Unit) s₂ = _
      rw [if_neg (not_not_intro hkind)]
      rfl
    rw [hpass]
    exact adds_zero_iff.mp (adds_bindAll _) _ s₁ s₂ hs
  · obtain ⟨value, hvalue, heq⟩ := statementFor_word k asName s hname
    rw [heq, Lowering.bind, relocate_node, tree, tree, if_neg (by simp [hname]),
      boundPart_of_isWord hword]
    · simp only [List.map_cons, List.map_nil, fields, trees, relocate_node, tree]
      rw [if_neg (by simp)]
      exact ((alike_note _ covers_bound_imported _ _).adds adds_done).adds
        ((hvalue.seq adds_done).seq adds_done)
    all_goals (intros; contradiction)

theorem alike_trees_map {f : Tree → Tree}
    (h : ∀ t ∈ ts, Alike True φ φ (tree future (f t)) (tree future t)) :
    Alike True φ φ (trees future (ts.map f)) (trees future ts) := by
  induction ts with
  | nil => exact alike_done
  | cons t ts ih =>
      rw [List.map_cons, trees, trees]
      exact (h t List.mem_cons_self).seq (ih fun u hu => h u (List.mem_cons_of_mem _ hu))

theorem trees_append (ts us : List Tree) :
    trees future (ts ++ us) = (do trees future ts; trees future us) := by
  induction ts with
  | nil => rfl
  | cons t ts ih =>
      rw [List.cons_append, trees, trees, ih]
      exact (bind_assoc _ _ _).symm

end

end Scope

end SourceLoader
