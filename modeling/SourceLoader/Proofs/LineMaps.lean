import Mathlib.Data.List.TakeWhile
import SourceLoader.Module.Instantiate
import SourceLoader.Proofs.Acceptance
import SourceLoader.Proofs.SideBySide

/-!
# What a line map says

A line map is made by entering one pair of stops after the other, and the first one that begins on a
line keeps it. So each entry can be read off the two walks at once: it is the line of the first stop
whose partner begins there (`LineMap.build_eq`).

The tree that is walked was given places before. A node that a pass put in without one has the
place of what it was put into (`Tree.around_of_mem_zip`), and nothing tells it from a node of the
source any more. So a line with nothing but such nodes is mapped to a line of the source all the
same (`Compile.inserted_lines`).
-/

namespace SourceLoader

namespace LineMap

/-! ## Entries -/

/-- Two walks side by side, as far as they agree. -/
def sides (os es : List WalkStop) : List (WalkStop × WalkStop) :=
  (os.zip es).takeWhile fun p => p.1.title = p.2.title

/-- The line of a stop that is none of line zero. -/
def lineOf? (o : WalkStop) : Option Nat := o.line?.filter (· ≠ 0)

/-- The line that a pair of stops enters for a line. -/
def entered? (line : Nat) (p : WalkStop × WalkStop) : Option Nat :=
  if p.2.line? = some line then lineOf? p.1 else none

/-- The line that the first of some pairs enters for a line, and zero if none does. -/
def entry (pairs : List (WalkStop × WalkStop)) (line : Nat) : Nat :=
  (pairs.findSome? (entered? line)).getD 0

theorem entered?_of_line {o e : WalkStop} {line : Nat} (h : e.line?.getD 0 ≠ line + 1) :
    entered? (line + 1) (o, e) = none := by
  refine if_neg fun hline => h ?_
  simp only at hline
  rw [hline, Option.getD_some]

theorem entered?_of_no_origin {o : WalkStop} (e : WalkStop) (line : Nat)
    (h : o.line?.getD 0 = 0) : entered? line (o, e) = none := by
  have hnone : lineOf? o = none := by
    rw [lineOf?, Option.filter_eq_none_iff]
    intro n hn
    rw [hn, Option.getD_some] at h
    simp [h]
  unfold entered?
  split
  · exact hnone
  · rfl

theorem eq_some_of_getD {x : Option Nat} {n : Nat} (h : x.getD 0 = n + 1) : x = some (n + 1) := by
  cases x with
  | none => cases h
  | some m => exact congrArg some h

theorem entered?_of_lines {o e : WalkStop} {line origin : Nat} (he : e.line?.getD 0 = line + 1)
    (ho : o.line?.getD 0 = origin + 1) : entered? (line + 1) (o, e) = some (origin + 1) := by
  rw [entered?, if_pos (eq_some_of_getD he), lineOf?, eq_some_of_getD ho]
  rfl

theorem entry_cons (p : WalkStop × WalkStop) (pairs : List (WalkStop × WalkStop)) (line : Nat) :
    entry (p :: pairs) line = (entered? line p).getD (entry pairs line) := by
  rw [entry, List.findSome?_cons]
  cases entered? line p <;> rfl

theorem entry_cons_of_none {p : WalkStop × WalkStop} {line : Nat} (h : entered? line p = none)
    (pairs : List (WalkStop × WalkStop)) : entry (p :: pairs) line = entry pairs line := by
  rw [entry_cons, h, Option.getD_none]

/-- **Entering two walks fills the lines that are empty, each with the line of the first pair.** -/
theorem enter_eq {os es : List WalkStop} {map map' : List Nat} (h : enter os es map = .ok map') :
    ∀ i, map'[i]? = map[i]?.map fun n => if n = 0 then entry (sides os es) (i + 1) else n := by
  have hend (map : List Nat) (i : Nat) :
      map[i]? = map[i]?.map fun n => if n = 0 then entry [] (i + 1) else n := by
    cases map[i]? with
    | none => rfl
    | some n => by_cases hn : n = 0 <;> simp [hn, entry]
  induction os generalizing es map with
  | nil => cases h; exact hend _
  | cons o os ih =>
      cases es with
      | nil => cases h; exact hend _
      | cons e es =>
          unfold enter at h
          split at h
          · next htitle =>
            cases h
            have hnone : sides (o :: os) (e :: es) = [] := by simp [sides, htitle]
            rw [hnone]
            exact hend _
          · next htitle =>
            have hpair : sides (o :: os) (e :: es) = (o, e) :: sides os es := by
              simp [sides, not_not.mp htitle]
            rw [hpair]
            split at h
            · next he =>
              intro i
              rw [ih h i, entry_cons_of_none (entered?_of_line (by omega))]
            · next ho _ =>
              intro i
              rw [ih h i, entry_cons_of_none (entered?_of_no_origin _ _ ho)]
            · next line origin he ho =>
              split at h
              · cases h
              · next hempty =>
                intro i
                rw [ih h i]
                rcases eq_or_ne line i with rfl | hi
                · rw [entry_cons, entered?_of_lines he ho, hempty]
                  simp [(List.getElem?_eq_some_iff.mp hempty).1]
                · rw [entry_cons_of_none (entered?_of_line (by omega)),
                    List.getElem?_set_ne hi]
              · next n hfull hn =>
                intro i
                rw [ih h i]
                rcases eq_or_ne line i with rfl | hi
                · rw [hn]
                  simp [show n ≠ 0 from hfull]
                · rw [entry_cons_of_none (entered?_of_line (by omega))]

/-- **A line map read off the two walks.** -/
theorem build_eq {t : Tree} {text : String} {map : List Nat} (h : build t text = .ok map) :
    ∃ e remarks, Source.parse text = .ok (e, remarks)
      ∧ map = (List.range (text.toList.count '\n' + 1)).map fun i =>
          entry (sides t.walk e.walk) (i + 1) := by
  unfold build at h
  split at h
  · cases h
  · next e remarks hparse =>
    refine ⟨e, remarks, hparse, List.ext_getElem? fun i => ?_⟩
    rw [enter_eq h i, List.getElem?_map, List.getElem?_replicate]
    by_cases hi : i < text.toList.count '\n' + 1
    · rw [if_pos hi, List.getElem?_range hi]
      rfl
    · rw [if_neg hi, List.getElem?_eq_none (by simpa using Nat.le_of_not_lt hi)]
      rfl

/-- What an entry that is not zero comes from. -/
theorem exists_of_entry {pairs : List (WalkStop × WalkStop)} {line : Nat}
    (h : entry pairs line ≠ 0) : ∃ p ∈ pairs, p.2.line? = some line
      ∧ p.1.line? = some (entry pairs line) := by
  cases hfound : pairs.findSome? (entered? line) with
  | none =>
      rw [entry, hfound] at h
      exact absurd rfl h
  | some n =>
      obtain ⟨p, hp, hn⟩ := List.exists_of_findSome?_eq_some hfound
      rw [entry, hfound]
      unfold entered? at hn
      split at hn
      · next hline => exact ⟨p, hp, hline, (Option.filter_eq_some_iff.mp hn).1⟩
      · cases hn

/-- Where the entry is zero, all that begins on the line comes from line zero or has no place. -/
theorem line_of_entry_eq_zero {pairs : List (WalkStop × WalkStop)} {line : Nat}
    (h : entry pairs line = 0) {p : WalkStop × WalkStop} (hp : p ∈ pairs)
    (hline : p.2.line? = some line) : p.1.line?.getD 0 = 0 := by
  cases hfound : pairs.findSome? (entered? line) with
  | none =>
      have hnone := List.findSome?_eq_none_iff.mp hfound p hp
      rw [entered?, if_pos hline, lineOf?, Option.filter_eq_none_iff] at hnone
      cases horigin : p.1.line? with
      | none => rfl
      | some n => simpa using hnone n horigin
  | some n =>
      rw [entry, hfound, Option.getD_some] at h
      obtain ⟨q, -, hn⟩ := List.exists_of_findSome?_eq_some hfound
      unfold entered? at hn
      split at hn
      · have hpositive := (Option.filter_eq_some_iff.mp hn).2
        simp [h] at hpositive
      · cases hn

/-- Walks that are called the same agree with a third one to the same point. -/
theorem sides_forall₂ {R : WalkStop → WalkStop → Prop}
    (htitle : ∀ o o', R o o' → o.title = o'.title) {os os' : List WalkStop}
    (h : List.Forall₂ R os os') (es : List WalkStop) :
    List.Forall₂ (fun p p' => R p.1 p'.1 ∧ p.2 = p'.2) (sides os es) (sides os' es) := by
  induction h generalizing es with
  | nil => exact .nil
  | @cons o o' os os' ho _ ih =>
      cases es with
      | nil => simp [sides]
      | cons e es =>
          have hsame := htitle o o' ho
          by_cases heq : o.title = e.title
          · have hmore := List.Forall₂.cons (R := fun p p' => R p.1 p'.1 ∧ p.2 = p'.2)
              (a := (o, e)) (b := (o', e)) ⟨ho, rfl⟩ (ih es)
            simpa [sides, List.zip_cons_cons, heq, hsame ▸ heq] using hmore
          · simp [sides, List.zip_cons_cons, heq, hsame ▸ heq]

theorem exists_of_mem_right {α β : Type} {R : α → β → Prop} {as : List α} {bs : List β}
    (h : List.Forall₂ R as bs) {b : β} (hb : b ∈ bs) : ∃ a ∈ as, R a b := by
  induction h with
  | nil => cases hb
  | @cons a b' as bs hab _ ih =>
      rcases List.mem_cons.mp hb with rfl | hb
      · exact ⟨a, List.mem_cons_self, hab⟩
      · obtain ⟨a', ha', hab'⟩ := ih hb
        exact ⟨a', List.mem_cons_of_mem a ha', hab'⟩

/-- A node of the first walk stands opposite a stop that begins on a line. -/
def Opposite (pairs : List (WalkStop × WalkStop)) (line : Nat) (o : Tree) : Prop :=
  ∃ e, (WalkStop.node o, e) ∈ pairs ∧ e.line? = some line

end LineMap

/-! ## Places of nodes without one -/

namespace Tree

/-- The start of a source, where nodes are put that nothing with a place is around. -/
def outermost : Span := ⟨1, 0, 1, 0⟩

/-- A node stands in a tree, and `s` is the place of the nearest node around it that has one; around
the tree itself it is `outer`. -/
inductive Around : Span → Tree → Tree → Span → Prop
  | here (outer : Span) (t : Tree) : Around outer t t outer
  | under {outer s : Span} {k : Kind} {own : Option Span} {fs : List (List Tree)} {f : List Tree}
      {c n : Tree} (hf : f ∈ fs) (hc : c ∈ f) (h : Around (own.getD outer) c n s) :
      Around outer (.node k own fs) n s

/-- What is around a node is a node of the tree, unless nothing with a place is. -/
theorem Around.place {outer s : Span} {t n : Tree} (h : Around outer t n s) :
    s = outer ∨ ∃ m ∈ t.nodes, m.span? = some s := by
  induction h with
  | here outer t => exact .inl rfl
  | @under outer s k own fs f c n hf hc _ ih =>
      rcases ih with hs | ⟨m, hm, hs⟩
      · cases own with
        | none => exact .inl hs
        | some p => exact .inr ⟨_, self_mem_nodes _, congrArg some hs.symm⟩
      · exact .inr ⟨m, mem_nodes_node.mpr (.inr ⟨f, hf, c, hc, hm⟩), hs⟩

mutual

/-- Giving places to nodes leaves the shape of a tree as it is. -/
theorem sameShape_fillSpans (outer : Span) : (t : Tree) →
    sameShape t (t.fillSpansFrom outer) = true
  | .node k own fs => by
    simp [fillSpansFrom, sameShape, sameShapeFields_fillSpans (own.getD outer) fs]

theorem sameShapeFields_fillSpans (outer : Span) : (fs : List (List Tree)) →
    sameShapeFields fs (fillSpansOfFields outer fs) = true
  | [] => rfl
  | f :: fs => by
    simp [fillSpansOfFields, sameShapeFields, sameShapeAll_fillSpans outer f,
      sameShapeFields_fillSpans outer fs]

theorem sameShapeAll_fillSpans (outer : Span) : (ts : List Tree) →
    sameShapeAll ts (fillSpansOfAll outer ts) = true
  | [] => rfl
  | t :: ts => by
    simp [fillSpansOfAll, sameShapeAll, sameShape_fillSpans outer t,
      sameShapeAll_fillSpans outer ts]

end

mutual

/-- **A node without a place is given that of the nearest node around it.** -/
theorem around_of_mem_zip (outer : Span) : (t : Tree) →
    ∀ p ∈ t.nodes.zip (t.fillSpansFrom outer).nodes,
      ∃ s, Around outer t p.1 s ∧ p.2 = p.1.fillSpansFrom s
  | .node k own fs => by
    rw [fillSpansFrom, nodes, nodes, List.zip_cons_cons, List.forall_mem_cons]
    refine ⟨⟨outer, .here _ _, rfl⟩, fun p hp => ?_⟩
    obtain ⟨f, hf, c, hc, s, hs, heq⟩ := around_of_mem_zipFields (own.getD outer) fs p hp
    exact ⟨s, .under hf hc hs, heq⟩

theorem around_of_mem_zipFields (outer : Span) : (fs : List (List Tree)) →
    ∀ p ∈ (nodesOfFields fs).zip (nodesOfFields (fillSpansOfFields outer fs)),
      ∃ f ∈ fs, ∃ c ∈ f, ∃ s, Around outer c p.1 s ∧ p.2 = p.1.fillSpansFrom s
  | [] => by simp [nodesOfFields]
  | f :: fs => by
    have hshape := sameShapeFields_fillSpans outer (f :: fs)
    rw [fillSpansOfFields] at hshape ⊢
    rw [zip_nodesOfFields hshape, List.forall_mem_append]
    refine ⟨fun p hp => ⟨f, List.mem_cons_self, around_of_mem_zipAll outer f p hp⟩,
      fun p hp => ?_⟩
    obtain ⟨g, hg, hrest⟩ := around_of_mem_zipFields outer fs p hp
    exact ⟨g, List.mem_cons_of_mem f hg, hrest⟩

theorem around_of_mem_zipAll (outer : Span) : (ts : List Tree) →
    ∀ p ∈ (nodesOfAll ts).zip (nodesOfAll (fillSpansOfAll outer ts)),
      ∃ c ∈ ts, ∃ s, Around outer c p.1 s ∧ p.2 = p.1.fillSpansFrom s
  | [] => by simp [nodesOfAll]
  | t :: ts => by
    have hshape := sameShapeAll_fillSpans outer (t :: ts)
    rw [fillSpansOfAll] at hshape ⊢
    rw [zip_nodesOfAll hshape, List.forall_mem_append]
    refine ⟨fun p hp => ⟨t, List.mem_cons_self, around_of_mem_zip outer t p hp⟩, fun p hp => ?_⟩
    obtain ⟨c, hc, hrest⟩ := around_of_mem_zipAll outer ts p hp
    exact ⟨c, List.mem_cons_of_mem t hc, hrest⟩

end

/-- The place of a node that had none. -/
theorem span?_fillSpansFrom {n : Tree} (h : n.span? = none) (s : Span) :
    (n.fillSpansFrom s).span? = if n.kind.hasSpan then some s else none := by
  obtain ⟨k, own, fs⟩ := n
  cases h
  rfl

theorem kind_fillSpansFrom (n : Tree) (s : Span) : (n.fillSpansFrom s).kind = n.kind := by
  obtain ⟨k, own, fs⟩ := n
  rfl

/-- The stops of a walk before and after nodes were given places. -/
def Filled (t : Tree) (o o' : WalkStop) : Prop :=
  (∃ title, o = .mark title ∧ o' = .mark title)
    ∨ ∃ n s, Around outermost t n s ∧ o = .node n ∧ o' = .node (n.fillSpansFrom s)

theorem Filled.title_eq {t : Tree} {o o' : WalkStop} (h : Filled t o o') : o.title = o'.title := by
  rcases h with ⟨title, rfl, rfl⟩ | ⟨n, s, -, rfl, rfl⟩
  · rfl
  · simp only [WalkStop.title, kind_fillSpansFrom]

theorem walk_fillSpans (t : Tree) : List.Forall₂ (Filled t) t.walk t.fillSpans.walk := by
  refine (walk_sameShape (sameShape_fillSpans outermost t)).imp fun o o' h => ?_
  refine h.imp id fun ⟨n, m, hmem, ho, ho'⟩ => ?_
  obtain ⟨s, haround, hfilled⟩ := around_of_mem_zip outermost t _ hmem
  exact ⟨n, s, haround, ho, ho'.trans (congrArg _ hfilled)⟩

end Tree

namespace LineMap

open Tree (Around outermost Filled)

variable {t e : Tree} {line : Nat}

/-- A stop with a line is a node. -/
theorem exists_of_line? (hformed : e.isWellFormed = true) {stop : WalkStop} (hstop : stop ∈ e.walk)
    (hline : stop.line? = some line) : ∃ m, stop = .node m ∧ m ∈ e.nodes := by
  cases stop with
  | mark title => cases hline
  | node m =>
      have hwalk : m ∈ e.walkNodes := List.mem_filterMap.mpr ⟨_, hstop, rfl⟩
      exact ⟨m, rfl, (List.mem_filter.mp ((Tree.walkNodes_perm hformed).mem_iff.mp hwalk)).1⟩

/-- A node that begins on a line is of a kind that has places. -/
theorem hasSpan_of_line {m : Tree} (hformed : e.isWellFormed = true) (hm : m ∈ e.nodes)
    (hline : m.span?.map Span.line = some line) : m.kind.hasSpan = true := by
  rw [← Tree.placed_of_isWellFormed hformed m hm, ← Option.isSome_map, hline]
  rfl

theorem mem_walk_of_sides {os es : List WalkStop} {p : WalkStop × WalkStop}
    (hp : p ∈ sides os es) : p.2 ∈ es ∧ p.1.title = p.2.title := by
  refine ⟨(List.of_mem_zip ((List.takeWhile_sublist _).subset hp)).2, ?_⟩
  simpa using List.mem_takeWhile_imp hp

/-- **A line with nothing but nodes that were put in without a place is mapped to the place of what
is around one of them.** -/
theorem entry_of_inserted (hformed : e.isWellFormed = true)
    (hsome : ∃ o, Opposite (sides t.walk e.walk) line o)
    (hnone : ∀ o, Opposite (sides t.walk e.walk) line o → o.span? = none) :
    ∃ o s, Opposite (sides t.walk e.walk) line o ∧ Around outermost t o s
      ∧ entry (sides t.fillSpans.walk e.walk) line = s.line := by
  have hpairs := sides_forall₂ (fun _ _ h => h.title_eq) (Tree.walk_fillSpans t) e.walk
  by_cases hentry : entry (sides t.fillSpans.walk e.walk) line = 0
  · obtain ⟨o, stop, hmem, hline⟩ := hsome
    obtain ⟨⟨o', stop'⟩, hmem', hfilled, rfl⟩ := exists_of_mem_right hpairs.flip hmem
    obtain ⟨s, haround, rfl⟩ : ∃ s, Around outermost t o s ∧ o' = .node (o.fillSpansFrom s) := by
      rcases hfilled with ⟨title, ho, -⟩ | ⟨n, s, haround, ho, ho'⟩
      · cases ho
      · cases ho
        exact ⟨s, haround, ho'⟩
    obtain ⟨hstop, htitle⟩ := mem_walk_of_sides hmem
    obtain ⟨m, rfl, hm⟩ := exists_of_line? hformed hstop hline
    have hspan := hasSpan_of_line hformed hm hline
    have hzero := line_of_entry_eq_zero hentry hmem' hline
    have hplace := Tree.span?_fillSpansFrom (hnone o ⟨_, hmem, hline⟩) s
    rw [Tree.hasSpan_eq_of_title htitle, hspan, if_pos rfl] at hplace
    simp only [WalkStop.line?, hplace, Option.map_some, Option.getD_some] at hzero
    exact ⟨o, s, ⟨_, hmem, hline⟩, haround, hentry.trans hzero.symm⟩
  · obtain ⟨⟨o', stop'⟩, hmem', hline, horigin⟩ := exists_of_entry hentry
    obtain ⟨⟨o, stop⟩, hmem, hfilled, rfl⟩ := exists_of_mem_right hpairs hmem'
    rcases hfilled with ⟨title, -, ho'⟩ | ⟨n, s, haround, ho, ho'⟩
    · simp only at ho'
      rw [ho'] at horigin
      cases horigin
    · simp only at ho ho'
      subst ho ho'
      have hplace := Tree.span?_fillSpansFrom (hnone n ⟨_, hmem, hline⟩) s
      refine ⟨n, s, ⟨_, hmem, hline⟩, haround, ?_⟩
      simp only [WalkStop.line?, hplace] at horigin
      split at horigin
      · exact (Option.some.inj horigin).symm
      · cases horigin

end LineMap

/-! ## Compiled modules -/

namespace Compile

open LineMap Tree Instantiate

variable {req : CompileRequest} {compiled : Compiled}

/-- The tree of a source behind all passes, before its nodes are given places. -/
def passed (req : CompileRequest) : Except Failure Tree := do
  let (t, _) ← parse req
  (applyPasses (allPasses req) (DynamicImport.rename t)).outcome

theorem passed_of_checked {t : Tree} {remarks : List Warning}
    (h : checked req = .ok (t, remarks)) : ∃ t', passed req = .ok t' ∧ t = t'.fillSpans := by
  unfold checked at h
  unfold passed
  cases hparse : parse req with
  | error f => rw [hparse] at h; cases h
  | ok r =>
      rw [hparse] at h
      change (change req (DynamicImport.rename r.1)).outcome.bind _ = _ at h
      cases hchange : (change req (DynamicImport.rename r.1)).outcome with
      | error f => rw [hchange] at h; cases h
      | ok r' =>
          rw [hchange] at h
          cases h
          obtain ⟨t', hpassed, hrest⟩ := Script.outcome_bind hchange
          obtain ⟨warnings, -, hpair⟩ := Script.outcome_bind hrest
          cases hpair
          exact ⟨t', hpassed, rfl⟩

/-- A line map is made if it is wanted. -/
theorem lineMap_of_finish {t : Tree} {text : String} {lineMap : Option (List Nat)}
    (hmaps : req.sourceMaps = true) (h : finish req t = .ok (text, lineMap)) :
    ∃ map, lineMap = some map := by
  have hprint := print_of_finish h
  unfold finish print at h
  rw [hprint] at h
  change (if req.sourceMaps then (mapLines t text).bind _ else _) = _ at h
  rw [if_pos hmaps] at h
  cases hlines : mapLines t text with
  | ok map => rw [hlines] at h; cases h; exact ⟨map, rfl⟩
  | error f => rw [hlines] at h; cases h

/-- What a note says of a line that is mapped to a line of the source. -/
theorem noteOf?_of_entry {file : String} {map : List Nat} {trace : List (String × Nat)}
    {i place : Nat} (htrace : failingLine? trace file = some (i + 1))
    (hplace : map[i]? = some place) (hne : place ≠ 0) : noteOf? file (map.map Int.ofNat) trace
      = some s!"{file}: generated line {i + 1} comes from source line {place}" := by
  have hshown : toString (Int.ofNat place) = toString place := rfl
  simp [noteOf?, htrace, hplace, hne, ← hshown]

/-- **Nodes that a pass puts in without a place are mapped to a line of the source.** Each entry is
the line of the first node that begins there. If all of them were put in without a place, it is the
line of what is around one of them, and unless a node stands on line zero, an error that leaves the
line gets a note with it. -/
theorem inserted_lines (hmaps : req.sourceMaps = true)
    (h : (compile req).outcome = .ok compiled) :
    ∃ t e remarks map, passed req = .ok t ∧ Source.parse compiled.text = .ok (e, remarks)
      ∧ compiled.lineMap = some map
      ∧ map = (List.range (compiled.text.toList.count '\n' + 1)).map (fun i =>
          entry (sides t.fillSpans.walk e.walk) (i + 1))
      ∧ ∀ i < map.length, (∃ o, Opposite (sides t.walk e.walk) (i + 1) o) →
          (∀ o, Opposite (sides t.walk e.walk) (i + 1) o → o.span? = none) →
          ∃ o s, Opposite (sides t.walk e.walk) (i + 1) o ∧ Around outermost t o s
            ∧ map[i]? = some s.line
            ∧ ((∀ n ∈ t.nodes, ∀ place, n.span? = some place → place.line ≠ 0) →
              ∀ trace, failingLine? trace req.file = some (i + 1) →
                noteOf? req.file (map.map Int.ofNat) trace = some
                  s!"{req.file}: generated line {i + 1} comes from source line {s.line}") := by
  obtain ⟨filled, remarks, hchecked, -, hfinish⟩ := written_of_compile h
  obtain ⟨t, hpassed, rfl⟩ := passed_of_checked hchecked
  obtain ⟨map, hmap⟩ := lineMap_of_finish hmaps hfinish
  have hbuild := build_of_finish (hmap ▸ hfinish)
  obtain ⟨e, remarks', hparse, hentries⟩ := build_eq hbuild
  refine ⟨t, e, remarks', map, hpassed, hparse, hmap, hentries, fun i hi hsome hnone => ?_⟩
  obtain ⟨o, s, ho, haround, hentry⟩ :=
    entry_of_inserted (Source.parse_is hparse).2 hsome hnone
  have hplace : map[i]? = some s.line := by
    rw [hentries, List.length_map, List.length_range] at hi
    rw [hentries, List.getElem?_map, List.getElem?_range hi, Option.map_some, hentry]
  refine ⟨o, s, ho, haround, hplace, fun hplaces trace htrace => ?_⟩
  refine noteOf?_of_entry htrace hplace ?_
  rcases haround.place with rfl | ⟨m, hm, hs⟩
  · decide
  · exact hplaces m hm s hs

/-- A request whose pass puts a statement in front, without a place. -/
def prepended : CompileRequest where
  file := "/a.py"
  source := "x = 1"
  moduleMode := true
  passes := [.prepend "y = 2"]
  sourceMaps := true

/-- Do some nodes that begin on a line stand opposite nodes without a place, and no others? -/
def isInserted (pairs : List (WalkStop × WalkStop)) (line : Nat) : Bool :=
  let here := pairs.filter fun p => p.2.line? = some line
  here.any (fun p => p.1 matches .node _) && here.all fun p =>
    match p.1 with
    | .node o => o.span?.isNone
    | .mark _ => true

theorem opposite_of_isInserted {pairs : List (WalkStop × WalkStop)} {line : Nat}
    (h : isInserted pairs line = true) : (∃ o, Opposite pairs line o)
      ∧ ∀ o, Opposite pairs line o → o.span? = none := by
  simp only [isInserted, Bool.and_eq_true, List.any_eq_true, List.all_eq_true,
    List.mem_filter, decide_eq_true_eq, and_assoc] at h
  obtain ⟨⟨⟨stop, m⟩, hmem, hline, hnode⟩, hall⟩ := h
  refine ⟨?_, fun o ho => ?_⟩
  swap
  · obtain ⟨m, hmem, hline⟩ := ho
    simpa using hall _ ⟨hmem, hline⟩
  cases stop with
  | node o => exact ⟨o, m, hmem, hline⟩
  | mark title => simp at hnode

/-- The statement put in front is mapped to the first line, although nothing of it is there. -/
theorem inserted_lines_prepended : prepended.sourceMaps = true
    ∧ ∃ (compiled : Compiled) (t e : Tree) (map : List Nat),
      (compile prepended).outcome = .ok compiled ∧ passed prepended = .ok t
      ∧ compiled.lineMap = some map ∧ map = [1, 1]
      ∧ isInserted (sides t.walk e.walk) 1 = true
      ∧ ∃ o s, Opposite (sides t.walk e.walk) 1 o ∧ Around outermost t o s
        ∧ map[0]? = some s.line := by
  have hresult : (compile prepended).outcome.toOption.map (fun c => (c.text, c.lineMap))
      = some ("y = 2\nx = 1", some [1, 1]) := by decide +kernel
  have hpassed : ((passed prepended).toOption.bind fun t =>
      (Source.tree? "y = 2\nx = 1").map fun e => isInserted (sides t.walk e.walk) 1)
        = some true := by decide +kernel
  cases hcompiled : (compile prepended).outcome with
  | error f => rw [hcompiled] at hresult; cases hresult
  | ok compiled =>
      rw [hcompiled] at hresult
      obtain ⟨htext, hlineMap⟩ := Prod.mk.inj (Option.some.inj hresult)
      obtain ⟨t, e, remarks, map, ht, hparse, hmap, -, hlines⟩ := inserted_lines rfl hcompiled
      obtain rfl : map = [1, 1] := Option.some.inj (hmap.symm.trans hlineMap)
      rw [htext] at hparse
      rw [ht, Source.tree?, hparse] at hpassed
      have hinserted : isInserted (sides t.walk e.walk) 1 = true := Option.some.inj hpassed
      obtain ⟨hsome, hnone⟩ := opposite_of_isInserted hinserted
      obtain ⟨o, s, ho, haround, hplace, -⟩ := hlines 0 (by decide) hsome hnone
      exact ⟨rfl, compiled, t, e, _, rfl, ht, hmap, rfl, hinserted, o, s, ho, haround, hplace⟩

end Compile

end SourceLoader
