import SourceLoader.Proofs.LineMaps
import SourceLoader.Proofs.Retained

/-!
# Lines that belong to a statement

A line map is filled by the first node that is met on a line. If a statement has the line on which
it begins for itself (`Tree.Owns`), the walk meets the statement there before its parts, so the line
is mapped to where the statement comes from (`LineMap.statement_lines`). What stands for an import
is all at the place of the import, so every line that it has for itself is mapped there.

Lines are counted in two ways. The map has an entry for each line feed, but the text is read again
with lines that may end with a carriage return as well. Where the text has none, the nodes of the
tree that is read stand on the lines of the map (`Source.parse_on`), and no entry is missing.
-/

namespace SourceLoader

namespace Tree

/-! ## Places -/

/-- Each node that can have a place has one, behind the start of the first line. -/
def Located (t : Tree) : Prop :=
  ∀ n ∈ t.nodes, n.kind.hasSpan = true → n.span?.any (1 ≤ ·.line) = true

/-- What begins on a line of `t` is part of `S`. -/
def Owns (S t : Tree) (line : Nat) : Prop :=
  t.nodes.filter (beginsOn line) = S.nodes.filter (beginsOn line)

/-- Each statement has the line on which it begins for itself. -/
def OwnLines (t : Tree) : Prop :=
  ∀ S ∈ t.nodes, S.kind.isStatement = true → ∀ s ∈ S.span?, S.Owns t s.line

instance (t : Tree) : Decidable t.Located :=
  inferInstanceAs (Decidable (∀ n ∈ t.nodes, n.kind.hasSpan = true → _))

instance (S t : Tree) (line : Nat) : Decidable (S.Owns t line) :=
  inferInstanceAs (Decidable (_ = _))

instance (t : Tree) : Decidable t.OwnLines :=
  inferInstanceAs (Decidable (∀ S ∈ t.nodes, S.kind.isStatement = true → ∀ s ∈ S.span?, _))

theorem beginsOn_iff {line : Nat} {n : Tree} :
    n.beginsOn line = true ↔ n.span?.map Span.line = some line := by
  rw [beginsOn]
  cases n.span? <;> simp

theorem Located.line {t n : Tree} (h : t.Located) (hn : n ∈ t.nodes)
    (hspan : n.kind.hasSpan = true) :
    ∃ line, n.span?.map Span.line = some line ∧ line ≠ 0 := by
  have hplace := h n hn hspan
  cases hs : n.span? with
  | none => simp [hs] at hplace
  | some s =>
      rw [hs, Option.any_some, decide_eq_true_eq] at hplace
      exact ⟨s.line, rfl, by omega⟩

/-- Whether a node is a statement is known by its name, and statements have places. -/
theorem isStatement_of_title {k k' : Kind} (h : k.title = k'.title) (hk : k.isStatement = true) :
    k'.isStatement = true ∧ k'.hasSpan = true := by
  have hknown (k : Kind) : k.isStatement = ["FunctionDef", "AsyncFunctionDef", "ClassDef", "Return",
      "Delete", "Assign", "AugAssign", "AnnAssign", "For", "AsyncFor", "While", "If", "With",
      "AsyncWith", "Match", "Raise", "Try", "TryStar", "Assert", "Import", "ImportFrom", "Global",
      "Nonlocal", "Expr", "Pass", "Break", "Continue"].contains k.title := by
    cases k
    case functionDef isAsync _ | forLoop isAsync | withStmt isAsync | tryStmt isAsync =>
      cases isAsync <;> rfl
    all_goals rfl
  have hplaced (k : Kind) (hk : k.isStatement = true) : k.hasSpan = true := by
    cases k <;> first | rfl | cases hk
  have hk' : k'.isStatement = true := by rw [hknown k', ← h, ← hknown k, hk]
  exact ⟨hk', hplaced k' hk'⟩

end Tree

namespace LineMap

open Tree (sameShape)

/-! ## Filling the map -/

/-- No entry is missing if all lines are lines of the map. -/
theorem enter_isOk {os es : List WalkStop} {map : List Nat}
    (h : ∀ e ∈ es, ∀ line, e.line? = some line → line ≤ map.length) :
    ∃ map', enter os es map = .ok map' := by
  induction os generalizing es map with
  | nil => exact ⟨map, rfl⟩
  | cons o os ih =>
      cases es with
      | nil => exact ⟨map, rfl⟩
      | cons e es =>
          obtain ⟨hline, hrest⟩ := List.forall_mem_cons.mp h
          unfold enter
          split
          · exact ⟨map, rfl⟩
          · split
            · exact ih hrest
            · exact ih hrest
            · next emitted source he _ =>
              split
              · next hnone =>
                have hlast := hline _ (eq_some_of_getD he)
                have hbehind := List.getElem?_eq_none_iff.mp hnone
                omega
              · exact ih (by simpa using hrest)
              · exact ih hrest

/-- The first pair that begins on a line decides what the line is mapped to. -/
theorem entry_of_find? {pairs : List (WalkStop × WalkStop)} {line origin : Nat}
    {p : WalkStop × WalkStop} (h : pairs.find? (Tree.lands line) = some p)
    (horigin : p.1.line? = some origin) (hne : origin ≠ 0) : entry pairs line = origin := by
  obtain ⟨hp, before, after, rfl, hbefore⟩ := List.find?_eq_some_iff_append.mp h
  have hnone : before.findSome? (entered? line) = none := by
    rw [List.findSome?_eq_none_iff]
    intro q hq
    exact if_neg fun hline => by simpa [Tree.lands, hline] using hbefore q hq
  have hsome : entered? line p = some origin := by
    rw [entered?, if_pos (by simpa [Tree.lands] using hp), lineOf?, horigin]
    simp [hne]
  rw [entry, List.findSome?_append, hnone, Option.none_or, List.findSome?_cons, hsome,
    Option.getD_some]

section SideBySide

variable {t e : Tree} {line : Nat}

/-- Walks over trees of the same shape agree to the end. -/
theorem sides_of_sameShape (h : sameShape t e = true) :
    sides t.walk e.walk = t.walk.zip e.walk := by
  rw [sides, List.takeWhile_eq_self_iff]
  rintro ⟨o, stop⟩ hp
  rcases List.forall₂_zip (Tree.walk_sameShape h) hp with ⟨_, rfl, rfl⟩ | ⟨n, m, hmem, rfl, rfl⟩
  · simp
  · exact decide_eq_true (Tree.title_eq_of_mem_zip h hmem)

/-- A pair of stops that begins on a line is a pair of nodes. -/
theorem nodes_of_lands (h : sameShape t e = true) {p : WalkStop × WalkStop}
    (hp : p ∈ t.walk.zip e.walk) (hland : p.2.line? = some line) :
    ∃ n m, (n, m) ∈ t.nodes.zip e.nodes ∧ p = (.node n, .node m) ∧ m.beginsOn line = true := by
  obtain ⟨o, stop⟩ := p
  rcases List.forall₂_zip (Tree.walk_sameShape h) hp with ⟨_, rfl, rfl⟩ | ⟨n, m, hmem, rfl, rfl⟩
  · cases hland
  · exact ⟨n, m, hmem, rfl, Tree.beginsOn_iff.mpr hland⟩

/-- The walk finds a pair on each line on which a node begins. -/
theorem exists_of_beginsOn (h : sameShape t e = true) (hformed : e.isWellFormed = true) {m : Tree}
    (hm : m ∈ e.nodes) (hland : m.beginsOn line = true) :
    ∃ p, (t.walk.zip e.walk).find? (Tree.lands line) = some p := by
  have hpresent : m.isMissing = false := by
    have hspan := hasSpan_of_line hformed hm (Tree.beginsOn_iff.mp hland)
    obtain ⟨k, s, fs⟩ := m
    cases k
    case absent => cases hspan
    all_goals rfl
  have hwalk : m ∈ e.walkNodes :=
    (Tree.walkNodes_perm hformed).mem_iff.mpr (List.mem_filter.mpr ⟨hm, by simp [hpresent]⟩)
  obtain ⟨stop, hstop, hnode⟩ := List.mem_filterMap.mp hwalk
  have hline : stop.line? = some line := by
    cases stop with
    | mark title => cases hnode
    | node m' => cases hnode; exact Tree.beginsOn_iff.mp hland
  obtain ⟨i, hi, rfl⟩ := List.mem_iff_getElem.mp hstop
  have hi' : i < (t.walk.zip e.walk).length := by
    rwa [List.length_zip, (Tree.walk_sameShape h).length_eq, Nat.min_self]
  refine Option.isSome_iff_exists.mp (List.find?_isSome.mpr ⟨_, List.getElem_mem hi', ?_⟩)
  rw [List.getElem_zip]
  exact decide_eq_true hline

/-- **A line that a node has for itself is mapped to one of the places of its counterpart.** -/
theorem exists_of_owns (h : sameShape t e = true) (hformed : e.isWellFormed = true)
    (hlocated : t.Located) {S S' : Tree} (hmem : (S, S') ∈ t.nodes.zip e.nodes)
    (howns : S'.Owns e line) {m : Tree} (hm : m ∈ S'.nodes) (hland : m.beginsOn line = true) :
    ∃ n ∈ S.nodes, n.kind.hasSpan = true
      ∧ n.span?.map Span.line = some (entry (t.walk.zip e.walk) line) := by
  have hbelow : S'.nodes.Sublist e.nodes := Tree.nodes_sublist (List.of_mem_zip hmem).2
  obtain ⟨p, hp⟩ := exists_of_beginsOn h hformed (hbelow.subset hm) hland
  have hline : p.2.line? = some line := by simpa [Tree.lands] using List.find?_some hp
  obtain ⟨n, m', hpair, rfl, hland'⟩ := nodes_of_lands h (List.mem_of_find?_eq_some hp) hline
  -- All pairs that begin on the line are pairs of nodes of the two.
  have hcount {ns ms : List Tree} (hlength : ns.length = ms.length) :
      (ns.zip ms).countP (fun q => q.2.beginsOn line)
        = (ms.filter (Tree.beginsOn line)).length := by
    conv_rhs => rw [← List.countP_eq_length_filter, ← List.map_snd_zip hlength.ge, List.countP_map]
    rfl
  have hsub := Tree.zip_nodes_sublist t e h _ hmem
  have hsame : (S.nodes.zip S'.nodes).filter (fun q => q.2.beginsOn line)
      = (t.nodes.zip e.nodes).filter fun q => q.2.beginsOn line := by
    refine (hsub.filter _).eq_of_length ?_
    rw [← List.countP_eq_length_filter, ← List.countP_eq_length_filter,
      hcount (Tree.length_nodes_of_sameShape t e h), howns,
      hcount (Tree.length_nodes_of_sameShape S S' (Tree.sameShape_of_mem_zip t e h _ hmem))]
  have hinside : (n, m') ∈ S.nodes.zip S'.nodes :=
    (List.mem_filter.mp (hsame ▸ List.mem_filter.mpr ⟨hpair, hland'⟩)).1
  have htitle := Tree.title_eq_of_mem_zip h hpair
  have hspan : n.kind.hasSpan = true := by
    rw [Tree.hasSpan_eq_of_title htitle]
    exact hasSpan_of_line hformed (List.of_mem_zip hpair).2 (Tree.beginsOn_iff.mp hland')
  obtain ⟨origin, horigin, hne⟩ := hlocated.line (List.of_mem_zip hpair).1 hspan
  exact ⟨n, (List.of_mem_zip hinside).1, hspan,
    horigin.trans (congrArg some (entry_of_find? hp horigin hne).symm)⟩

end SideBySide

/-! ## Statements and imports -/

section

variable {t e : Tree} {text : String} {remarks : List Warning} {map : List Nat}

/-- Without carriage returns the nodes that are read stand on the lines of the map. -/
theorem build_isOk (t : Tree) (hreturns : '\r' ∉ text.toList)
    (hparse : Source.parse text = .ok (e, remarks)) : ∃ map, build t text = .ok map := by
  have hon := Source.parse_on (Lexer.lineCount_le hreturns) hparse
  rw [build, hparse]
  refine enter_isOk fun stop hstop line hline => ?_
  obtain ⟨m, rfl, hm⟩ := exists_of_line? hon.1.2 hstop hline
  obtain ⟨s, hs, rfl⟩ := Option.map_eq_some_iff.mp hline
  have hplace := Tree.place_of_mem_nodes hon.2 hm
  rw [hs, Option.all_some, Span.isOn, Bool.and_eq_true, decide_eq_true_eq, decide_eq_true_eq]
    at hplace
  rw [List.length_replicate]
  exact hplace.2

/-- The entries of a map for a tree of the same shape. -/
theorem entries_of_build (hparse : Source.parse text = .ok (e, remarks))
    (hshape : sameShape t e = true) (hbuild : build t text = .ok map) :
    map = (List.range (text.toList.count '\n' + 1)).map fun i =>
      entry (t.walk.zip e.walk) (i + 1) := by
  obtain ⟨e', remarks', hparse', hmap⟩ := build_eq hbuild
  rw [hparse] at hparse'
  cases hparse'
  rw [hmap, sides_of_sameShape hshape]

/-- A line is mapped to a line of the source. -/
def MapsTo (map : List Nat) (line origin : Nat) : Prop :=
  1 ≤ line ∧ map[line - 1]? = some origin

/-- Each line on which a node begins has an entry. -/
theorem mapsTo_entry (hreturns : '\r' ∉ text.toList)
    (hparse : Source.parse text = .ok (e, remarks)) (hshape : sameShape t e = true)
    (hbuild : build t text = .ok map) {m : Tree} (hm : m ∈ e.nodes) {line : Nat}
    (hland : m.beginsOn line = true) : MapsTo map line (entry (t.walk.zip e.walk) line) := by
  have hon := Source.parse_on (Lexer.lineCount_le hreturns) hparse
  obtain ⟨s, hs, rfl⟩ := Option.map_eq_some_iff.mp (Tree.beginsOn_iff.mp hland)
  have hplace := Tree.place_of_mem_nodes hon.2 hm
  rw [hs, Option.all_some, Span.isOn, Bool.and_eq_true, decide_eq_true_eq, decide_eq_true_eq]
    at hplace
  obtain ⟨hpos, hle⟩ := hplace
  refine ⟨hpos, ?_⟩
  rw [entries_of_build hparse hshape hbuild, List.getElem?_map, List.getElem?_range (by omega),
    Option.map_some, Nat.sub_add_cancel hpos]

/-- A statement that has its line for itself decides what the line is mapped to. -/
theorem entry_of_statement (hshape : sameShape t e = true) (hformed : e.isWellFormed = true)
    (hlocated : t.Located) (hown : e.OwnLines) {S S' : Tree} (hmem : (S, S') ∈ t.nodes.zip e.nodes)
    (hstatement : S.kind.isStatement = true) : ∃ s s', S.span? = some s ∧ S'.span? = some s'
      ∧ entry (t.walk.zip e.walk) s'.line = s.line := by
  obtain ⟨hS, hS'⟩ := List.of_mem_zip hmem
  have htitle := Tree.title_eq_of_mem_zip hshape hmem
  obtain ⟨hstatement', hspan'⟩ := Tree.isStatement_of_title htitle hstatement
  obtain ⟨line, hline, hne⟩ := hlocated.line hS (Tree.isStatement_of_title rfl hstatement).2
  obtain ⟨s, hs, rfl⟩ := Option.map_eq_some_iff.mp hline
  obtain ⟨s', hs'⟩ : ∃ s', S'.span? = some s' := Option.isSome_iff_exists.mp
    ((Tree.placed_of_isWellFormed hformed S' hS').trans hspan')
  have howns : S'.Owns e s'.line := hown S' hS' hstatement' s' hs'
  have hcount : Tree.countOn s'.line e.nodes = Tree.countOn s'.line S'.nodes := by
    rw [Tree.countOn, Tree.countOn, List.countP_eq_length_filter, List.countP_eq_length_filter,
      howns]
  have hland : S'.beginsOn s'.line = true := Tree.beginsOn_iff.mpr (by rw [hs', Option.map_some])
  exact ⟨s, s', hs, hs', entry_of_find? (Tree.find?_walk hshape hformed hmem hland hcount) hline
    hne⟩

end

open Lowering (isLowered StandFor) in
/-- **Each statement is found again on its line.** A tree whose nodes have their places is put
beside the tree that a text is read as. If the two have the same shape and each statement has a line
of the text for itself, and if no line ends with a carriage return, then there is a map, with an entry for
each line, and

* the line on which a statement begins is mapped to the line of its counterpart;
* an entry that is not zero is the line of some node;
* if the first tree is a lowered module, the lines that belong to the statements for an import are
  mapped to the line of the import. -/
theorem statement_lines {t e : Tree} {text : String} {remarks : List Warning}
    (hlocated : t.Located) (hreturns : '\r' ∉ text.toList)
    (hparse : Source.parse text = .ok (e, remarks)) (hshape : sameShape t e = true)
    (hown : e.OwnLines) :
    ∃ map, build t text = .ok map ∧ map.length = text.toList.count '\n' + 1
      ∧ (∀ (i : Nat) (S : Tree), t.nodes[i]? = some S → S.kind.isStatement = true →
        ∃ S' s s', e.nodes[i]? = some S' ∧ S.span? = some s ∧ S'.span? = some s'
          ∧ MapsTo map s'.line s.line)
      ∧ (∀ origin ∈ map, origin ≠ 0 → ∃ n ∈ t.nodes, n.span?.map Span.line = some origin)
      ∧ ∀ origin t₀, Tree.Is .module t₀ → Lowering.lower origin t₀ = .ok t →
        ∀ I ∈ t₀.nodes, isLowered I = true → ∃ s statements, I.span? = some s
          ∧ StandFor I statements ∧ ∀ S ∈ statements, S ∈ t.nodes
            ∧ ∀ S', (S, S') ∈ t.nodes.zip e.nodes → ∀ line, S'.Owns e line →
              (∃ m ∈ S'.nodes, m.beginsOn line = true) → MapsTo map line s.line := by
  have hformed := (Source.parse_is hparse).2
  obtain ⟨map, hbuild⟩ := build_isOk t hreturns hparse
  have hentries := entries_of_build hparse hshape hbuild
  have hentry {m : Tree} (hm : m ∈ e.nodes) {line : Nat} (hland : m.beginsOn line = true) :=
    mapsTo_entry hreturns hparse hshape hbuild hm hland
  refine ⟨map, hbuild, by rw [hentries]; simp, ?_, ?_, ?_⟩
  · intro i S hS hstatement
    obtain ⟨hi, -⟩ := List.getElem?_eq_some_iff.mp hS
    rw [Tree.length_nodes_of_sameShape t e hshape] at hi
    have hS' : e.nodes[i]? = some e.nodes[i] := List.getElem?_eq_getElem hi
    have hmem : (S, e.nodes[i]) ∈ t.nodes.zip e.nodes :=
      List.mem_of_getElem? (List.getElem?_zip_eq_some.mpr ⟨hS, hS'⟩)
    obtain ⟨s, s', hs, hs', hline⟩ :=
      entry_of_statement hshape hformed hlocated hown hmem hstatement
    have hland : (e.nodes[i]).beginsOn s'.line = true :=
      Tree.beginsOn_iff.mpr (by rw [hs', Option.map_some])
    exact ⟨_, s, s', hS', hs, hs', hline ▸ hentry (List.getElem_mem hi) hland⟩
  · intro origin horigin hne
    rw [hentries] at horigin
    obtain ⟨i, -, rfl⟩ := List.mem_map.mp horigin
    obtain ⟨p, hp, hline, hplace⟩ := exists_of_entry hne
    obtain ⟨n, m, hpair, rfl, -⟩ := nodes_of_lands hshape hp hline
    exact ⟨n, (List.of_mem_zip hpair).1, hplace⟩
  · intro origin t₀ his hlower I hI hlowered
    have hreplacing := Lowering.replacing_of_lower his hlower
    obtain ⟨statements, hstand, hput⟩ :=
      hreplacing.put_mem his.2 (Lowering.isLowered_of_module his) I hI hlowered
    obtain ⟨s, hs⟩ : ∃ s, I.span? = some s := Option.isSome_iff_exists.mp
      ((Tree.placed_of_isWellFormed his.2 I hI).trans (Lowering.hasSpan_of_isLowered hlowered))
    refine ⟨s, statements, hs, hstand, fun S hS => ⟨hput S hS, fun S' hmem line howns hm => ?_⟩⟩
    obtain ⟨m, hm, hland⟩ := hm
    obtain ⟨n, hn, hspan, hplace⟩ := exists_of_owns hshape hformed hlocated hmem howns hm hland
    obtain ⟨form, -, hstands⟩ := Lowering.form_of_standFor hstand hS
    rw [hstands n hn, if_pos hspan, hs, Option.map_some, Option.some_inj] at hplace
    rw [hplace]
    exact hentry ((Tree.nodes_sublist (List.of_mem_zip hmem).2).subset hm) hland

/-- A carriage return in a name ends a line that the map has no entry for. -/
example : (build (.node .module none [[.node .exprStmt (some ⟨1, 0, 1, 1⟩)
    [[.node (.name "(\rx)" .load) (some ⟨1, 0, 1, 1⟩) []]]]]) "(\rx)"
      matches .error .lineOutOfRange) = true := by decide +kernel

/-- An import of two names over two lines, and one in a block. -/
def imported : String := "from m import (x,\n  y)\nif x:\n    import z\n"

/-- What the lowered module is written as. -/
def written : String :=
  "x = require('m').x\ny = require('m').y\nif x:\n    z = require('z')"

/-- Both statements for the first import are mapped to its first line. -/
theorem statement_lines_imported : ∃ t e, ((Lowering.lowered? imported).map Prod.snd = some t
      ∧ t.print = .ok written ∧ Source.tree? written = some e)
    ∧ t.Located ∧ sameShape t e = true ∧ e.OwnLines
    ∧ ∃ map, build t written = .ok map ∧ map = [1, 1, 3, 4]
      ∧ ∀ (i : Nat) (S : Tree), t.nodes[i]? = some S → S.kind.isStatement = true →
        ∃ S' s s', e.nodes[i]? = some S' ∧ S.span? = some s ∧ S'.span? = some s'
          ∧ MapsTo map s'.line s.line := by
  have hcheck : ((Lowering.lowered? imported).map Prod.snd).bind (fun t =>
      (Source.tree? written).map fun e =>
        (t.print.toOption, decide (t.Located ∧ sameShape t e = true ∧ e.OwnLines),
          (build t written).toOption))
      = some (some written, true, some [1, 1, 3, 4]) := by decide +kernel
  obtain ⟨t, ht, hcheck⟩ := Option.bind_eq_some_iff.mp hcheck
  obtain ⟨e, he, hcheck⟩ := Option.map_eq_some_iff.mp hcheck
  simp only [Prod.mk.injEq, decide_eq_true_eq] at hcheck
  obtain ⟨hprint, ⟨hlocated, hshape, hown⟩, hmap⟩ := hcheck
  obtain ⟨remarks, hparse⟩ := Source.parse_of_tree? he
  obtain ⟨map, hbuild, -, hstatements, -⟩ :=
    statement_lines hlocated (by decide +kernel) hparse hshape hown
  refine ⟨t, e, ⟨ht, ?_, he⟩, hlocated, hshape, hown, map, hbuild, ?_, hstatements⟩
  · cases hresult : t.print with
    | error fault => rw [hresult] at hprint; cases hprint
    | ok text => rw [hresult] at hprint; exact congrArg _ (Option.some.inj hprint)
  · rw [hbuild] at hmap
    exact Option.some.inj hmap

end LineMap

end SourceLoader
