import SourceLoader.Proofs.Grammar.Rules
import SourceLoader.Proofs.Nodes
import SourceLoader.Syntax.Walk

/-!
# Every node is asked once

The dependencies of a tree are collected by going down into it, and the list of a tree is put
together from the lists of its parts. Here they are compared with what one gets without any
recursion: list the nodes of the tree in some other order, level by level, and ask each by itself
what it declares. The two agree but for the order (`ofTree_perm_walk`), so that no place is missed,
however deep, and none counts twice.

The way there leads over `Tree.nodes`, the list of all nodes: the walk level by level rearranges it
(`Tree.walkNodes_perm`), and the collected list follows it from front to back
(`ofTree_eq_flatMap`).
-/

namespace SourceLoader

namespace Tree

/-! ## Level by level -/

theorem flatten_besides {α : Type} (ls ms : List (List α)) :
    (besides ls ms).flatten.Perm (ls.flatten ++ ms.flatten) := by
  fun_induction besides ls ms with
  | case1 ms => exact .refl _
  | case2 ls hls => simp
  | case3 l ls m ms ih =>
      -- The second list of the first level has to pass what is left of the first tree.
      have hlevel : ((l ++ m) ++ (ls.flatten ++ ms.flatten)).Perm
          ((l ++ ls.flatten) ++ (m ++ ms.flatten)) := by
        simp only [List.append_assoc]
        refine List.Perm.append_left l ?_
        rw [← List.append_assoc, ← List.append_assoc]
        exact List.Perm.append_right _ List.perm_append_comm
      simp only [List.flatten_cons]
      exact (ih.append_left (l ++ m)).trans hlevel

/-- The trees among the stops of a walk. -/
def stopsAt (stops : List WalkStop) : List Tree :=
  stops.filterMap fun stop =>
    match stop with
    | .node t => some t
    | .mark _ => none

theorem stopsAt_append (ss ts : List WalkStop) : stopsAt (ss ++ ts) = stopsAt ss ++ stopsAt ts :=
  List.filterMap_append

theorem stopsAt_besides (ls ms : List (List WalkStop)) :
    (stopsAt (besides ls ms).flatten).Perm (stopsAt ls.flatten ++ stopsAt ms.flatten) := by
  rw [← stopsAt_append]
  exact (flatten_besides ls ms).filterMap _

theorem stopsAt_marks (marks : List WalkStop) (hmarks : stopsAt marks = []) :
    stopsAt (if marks.isEmpty then [] else [marks]).flatten = [] := by
  split
  · rfl
  · rw [List.flatten_singleton]
    exact hmarks

theorem stopsAt_titles (titles : List String) : stopsAt (titles.map .mark) = [] := by
  rw [stopsAt, List.filterMap_map]
  exact List.filterMap_eq_nil_iff.mpr fun _ _ => rfl

/-- The nodes that are there, each one before those below it. -/
def presentNodes (ns : List Tree) : List Tree := ns.filter fun n => !n.isMissing

theorem presentNodes_append (ns ms : List Tree) :
    presentNodes (ns ++ ms) = presentNodes ns ++ presentNodes ms :=
  List.filter_append ..

/-- A missing tree of proper shape has nothing below it. -/
theorem eq_missing_of_isWellFormed {s : Option Span} {fs : List (List Tree)}
    (h : (Tree.node .absent s fs).isWellFormed = true) : Tree.node .absent s fs = missing := by
  obtain ⟨hspan, hslots⟩ := (isWellFormed_iff _ _ _).mp h
  cases fs with
  | cons f fs => exact hslots.elim
  | nil =>
      cases s with
      | none => rfl
      | some span => cases hspan

theorem presentNodes_missing : presentNodes missing.nodes = [] := by
  rw [missing, nodes, nodesOfFields]
  rfl

theorem levels_of_present {k : Kind} (hk : k ≠ .absent) (s : Option Span)
    (fs : List (List Tree)) : levels (.node k s fs)
      = [.node (.node k s fs)] :: levelsOfFields k.marks.1 (k.marks.2.map .mark) fs := by
  cases k with
  | absent => exact absurd rfl hk
  | _ => rfl

mutual

/-- The levels of a tree hold its nodes, each once. -/
theorem stopsAt_levels : (t : Tree) → t.isWellFormed = true →
    (stopsAt t.levels.flatten).Perm (presentNodes t.nodes)
  | .node k s fs, hformed => by
    by_cases hk : k = .absent
    · subst hk
      rw [eq_missing_of_isWellFormed hformed, presentNodes_missing]
      exact .refl _
    · simp only [isWellFormed, Bool.and_eq_true] at hformed
      have hfields := stopsAt_levelsOfFields k.marks.1 (k.marks.2.map .mark)
        (stopsAt_titles k.marks.2) fs hformed.2
      have hpresent : (Tree.node k s fs).isMissing = false := by
        cases k with
        | absent => exact absurd rfl hk
        | _ => rfl
      have hnodes : presentNodes (Tree.node k s fs).nodes
          = .node k s fs :: presentNodes (nodesOfFields fs) := by
        rw [nodes, presentNodes, List.filter_cons, hpresent]
        rfl
      rw [levels_of_present hk, hnodes]
      exact hfields.cons _

/-- Marks are no nodes, in front of whichever field they stand. -/
theorem stopsAt_levelsOfFields (position : Nat) (marks : List WalkStop)
    (hmarks : stopsAt marks = []) : (fs : List (List Tree)) → areFieldsWellFormed fs = true →
    (stopsAt (levelsOfFields position marks fs).flatten).Perm (presentNodes (nodesOfFields fs))
  | [], _ => by
    rw [levelsOfFields, stopsAt_marks marks hmarks]
    exact .refl _
  | f :: fs, hformed => by
    simp only [areFieldsWellFormed, Bool.and_eq_true] at hformed
    have hfirst := stopsAt_levelsOfAll f hformed.1
    rw [nodesOfFields, presentNodes_append]
    cases position with
    | zero =>
        have hrest := stopsAt_levelsOfFields 0 [] rfl fs hformed.2
        have hparts := (stopsAt_besides (levelsOfAll f) (levelsOfFields 0 [] fs)).trans
          (hfirst.append hrest)
        rw [levelsOfFields]
        refine (stopsAt_besides _ _).trans ?_
        rw [stopsAt_marks marks hmarks]
        exact hparts
    | succ n =>
        have hrest := stopsAt_levelsOfFields n marks hmarks fs hformed.2
        rw [levelsOfFields]
        exact (stopsAt_besides _ _).trans (hfirst.append hrest)

theorem stopsAt_levelsOfAll : (ts : List Tree) → areWellFormed ts = true →
    (stopsAt (levelsOfAll ts).flatten).Perm (presentNodes (nodesOfAll ts))
  | [], _ => .refl _
  | t :: ts, hformed => by
    simp only [areWellFormed, Bool.and_eq_true] at hformed
    have hfirst := stopsAt_levels t hformed.1
    have hrest := stopsAt_levelsOfAll ts hformed.2
    rw [levelsOfAll, nodesOfAll, presentNodes_append]
    exact (stopsAt_besides _ _).trans (hfirst.append hrest)

end

/-- **The walk level by level meets every node once.** -/
theorem walkNodes_perm {t : Tree} (hformed : t.isWellFormed = true) :
    t.walkNodes.Perm (presentNodes t.nodes) :=
  stopsAt_levels t hformed

end Tree

namespace Dependencies

open Tree (nodesOfAll nodesOfFields presentNodes)

/-! ## Node by node -/

mutual

/-- What a tree declares is what its nodes declare, from front to back. -/
theorem ofTree_eq_flatMap (b : Bool) : (t : Tree) → ofTree b t = t.nodes.flatMap (ofNode b)
  | .node k s fs => by
    rw [ofTree, Tree.nodes, List.flatMap_cons, ofFields_eq_flatMap b fs]

theorem ofFields_eq_flatMap (b : Bool) :
    (fs : List (List Tree)) → ofFields b fs = (nodesOfFields fs).flatMap (ofNode b)
  | [] => rfl
  | f :: fs => by
    rw [ofFields, nodesOfFields, List.flatMap_append, ofAll_eq_flatMap b f,
      ofFields_eq_flatMap b fs]

theorem ofAll_eq_flatMap (b : Bool) :
    (ts : List Tree) → ofAll b ts = (nodesOfAll ts).flatMap (ofNode b)
  | [] => rfl
  | t :: ts => by
    rw [ofAll, nodesOfAll, List.flatMap_append, ofTree_eq_flatMap b t, ofAll_eq_flatMap b ts]

end

/-- What an import statement names. A `from` import of the switches for the compiler names nothing
that could be loaded. -/
def named : Tree → List String
  | .node .importNames _ [aliases] => aliasNames aliases
  | .node (.importFrom module level) _ [aliases] =>
    if module = some futureModule then [] else ofImportFrom module level (aliasNames aliases)
  | _ => []

/-- The text that a node asks for if it is a call of the bare name `require`, with a text as its
only argument and without keywords. -/
def required? (t : Tree) : Option String :=
  match t.kind, t.fields with
  | .call, [[callee], [argument], []] =>
    match callee.kind, argument.kind with
    | .name id _, .constant (.text text _) =>
      if id = requireName then some (Text.toString text) else none
    | _, _ => none
  | _, _ => none

/-- What a node declares, asked by itself. -/
def declaredAt (includeImports : Bool) (n : Tree) : List String :=
  (if includeImports then named n else []) ++ (required? n).toList

theorem declaredAt_call (b : Bool) (s : Option Span) (fs : List (List Tree)) :
    declaredAt b (.node .call s fs) = (required? (.node .call s fs)).toList := by
  cases b <;> rfl

/-- A call that declares something has the form that is looked for. -/
theorem required?_eq_some_iff {n : Tree} {specifier : String} :
    required? n = some specifier ↔ ∃ s usage ns parts text unicode as rest,
      n = .node .call s [[.node (.name requireName usage) ns parts],
        [.node (.constant (.text text unicode)) as rest], []]
      ∧ Text.toString text = specifier := by
  constructor
  · intro h
    obtain ⟨k, s, fs⟩ := n
    unfold required? at h
    split at h
    · next callee argument hkind hfields =>
      cases hkind
      cases hfields
      obtain ⟨ck, cs, cfs⟩ := callee
      obtain ⟨ak, as, afs⟩ := argument
      dsimp only [Tree.kind] at h
      split at h
      · split at h
        · next hname =>
          cases hname
          exact ⟨_, _, _, _, _, _, _, _, rfl, Option.some.inj h⟩
        · cases h
      · cases h
    · cases h
  · rintro ⟨s, usage, ns, parts, text, unicode, as, rest, rfl, rfl⟩
    simp [required?, Tree.kind, Tree.fields]

theorem ofNode_eq_declaredAt (b : Bool) (n : Tree) : ofNode b n = declaredAt b n := by
  unfold ofNode
  split
  · cases b <;> simp [declaredAt, named, required?, Tree.kind]
  · next module level _ _ =>
    by_cases hfuture : module = some futureModule <;>
      cases b <;> simp [declaredAt, named, required?, Tree.kind, hfuture]
  · rw [declaredAt_call]
    simp only [required?, Tree.kind, Tree.fields]
    split <;> rfl
  · next himport hfrom hcall =>
    have hnamed : named n = [] := by
      unfold named
      split
      · exact absurd rfl (himport _ _)
      · exact absurd rfl (hfrom _ _ _ _)
      · rfl
    have hrequired : required? n = none := by
      refine Option.eq_none_iff_forall_not_mem.mpr fun specifier hsome => ?_
      obtain ⟨_, _, _, _, _, _, _, _, rfl, -⟩ := required?_eq_some_iff.mp hsome
      exact hcall _ _ _ _ _ _ _ _ _ rfl
    simp [declaredAt, hnamed, hrequired]

theorem flatMap_ofNode_presentNodes (b : Bool) (ns : List Tree) :
    (presentNodes ns).flatMap (ofNode b) = ns.flatMap (ofNode b) := by
  induction ns with
  | nil => rfl
  | cons n ns ih =>
      rw [presentNodes, List.filter_cons, ← presentNodes]
      cases hmissing : n.isMissing with
      | false => simp only [Bool.not_false, if_true, List.flatMap_cons, ih]
      | true =>
          -- A missing tree declares nothing, so it can be left out.
          have hnothing : ofNode b n = [] := by
            obtain ⟨k, s, fs⟩ := n
            cases k with
            | absent => rfl
            | _ => cases hmissing
          simp [ih, hnothing]

/-- **Nothing is lost and nothing counts twice.** Take the nodes of a tree that was read from a
source in whatever order, say level by level, where each of them comes up once. Asking each by itself
what it declares yields what is collected for the whole tree, each specifier as often. -/
theorem ofTree_perm_walk {source : String} {t : Tree} {warnings : List Warning}
    (hparse : Source.parse source = .ok (t, warnings)) (includeImports : Bool) :
    t.walkNodes.Perm (presentNodes t.nodes)
    ∧ (ofTree includeImports t).Perm (t.walkNodes.flatMap (declaredAt includeImports)) := by
  have hwalk := Tree.walkNodes_perm (Source.parse_is hparse).2
  have hcollected : (presentNodes t.nodes).flatMap (declaredAt includeImports)
      = ofTree includeImports t := by
    rw [← funext (ofNode_eq_declaredAt includeImports), flatMap_ofNode_presentNodes,
      ofTree_eq_flatMap]
  refine ⟨hwalk, ?_⟩
  rw [← hcollected]
  exact (hwalk.flatMap_right _).symm

/-- Requests inside a request, in front of and within a function, and imports of all forms. -/
def declaringDeep : String :=
  "from __future__ import annotations\nimport a.b, c as d\n@require('e')(require(require('f')))\n" ++
    "def g(x=require('h')):\n    from . import i, j\n    from ..k import l\n" ++
    "    return [require('e') for y in x if require('m', 1)]\n"

theorem ofTree_perm_walk_declaringDeep :
    ∃ t, Source.tree? declaringDeep = some t
      ∧ (ofTree true t).Perm (t.walkNodes.flatMap (declaredAt true))
      ∧ t.walkNodes.flatMap (declaredAt true)
        = ["a.b", "c", ".i", ".j", "..k", "h", "e", "e", "f"]
      ∧ (ofTree false t).Perm (t.walkNodes.flatMap (declaredAt false))
      ∧ ofTree false t = ["h", "e", "e", "f"] := by
  have hchars : declaringDeep.toList = _ := Source.toList_append_eq
    (Source.toList_append_eq String.toList_ofList String.toList_ofList) String.toList_ofList
  have hlists : (Source.tree? declaringDeep).map (fun t =>
      (t.walkNodes.flatMap (declaredAt true), ofTree false t))
      = some (["a.b", "c", ".i", ".j", "..k", "h", "e", "e", "f"], ["h", "e", "e", "f"]) := by
    rw [Source.tree?, Source.parse_eq_parseChars hchars]
    decide +kernel
  obtain ⟨t, htree, hlist⟩ := Option.map_eq_some_iff.mp hlists
  simp only [Prod.mk.injEq] at hlist
  obtain ⟨warnings, hparse⟩ := Source.parse_of_tree? htree
  exact ⟨t, htree, (ofTree_perm_walk hparse true).2, hlist.1, (ofTree_perm_walk hparse false).2,
    hlist.2⟩

end Dependencies

end SourceLoader
