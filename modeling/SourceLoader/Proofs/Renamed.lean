import SourceLoader.Compile.DynamicImport
import SourceLoader.Proofs.Replaced

/-!
# Dynamic imports are renamed in place

Renaming touches the functions of calls and nothing else: where a call has the bare name `__import__`
as its function, there is the name `import_` now, at the place of the call, and every other node is
what and where it was. `Renaming` says so as a relation between trees, with no walk and no places to be
filled in. On a tree that was read from a source it allows exactly one result, the one that renaming
yields (`rename_iff`).

Renaming first puts in names without a place and then fills places in all over the tree. Where all
nodes have their places already, that comes to the same as putting each name in at its place
(`rename_eq_renamed`), and the rest goes by induction over the tree.
-/

namespace SourceLoader.DynamicImport

open Tree (Is Placed mapUp mapUpFields mapUpAll nodesOfAll nodesOfFields)

/-! ## What renaming does -/

/-- Is it a call whose function is just this name? -/
def calls (name : String) : Tree → Bool
  | .node .call _ ([.node (.name id _) _ _] :: _) => id = name
  | _ => false

mutual

/-- The second tree is the first with its dynamic imports renamed. -/
inductive Renaming : Tree → Tree → Prop
  | call {s ns : Option Span} {usage : Usage} {parts rest rest' : List (List Tree)}
      (h : RenamingFields rest rest') :
      Renaming (.node .call s ([.node (.name reserved usage) ns parts] :: rest))
        (.node .call s ([.node (.name substitute .load) s []] :: rest'))
  | other {k : Kind} {s : Option Span} {fs gs : List (List Tree)}
      (hother : calls reserved (.node k s fs) = false) (h : RenamingFields fs gs) :
      Renaming (.node k s fs) (.node k s gs)

/-- The same for fields: there are as many, in the same order. -/
inductive RenamingFields : List (List Tree) → List (List Tree) → Prop
  | nil : RenamingFields [] []
  | cons {f g : List Tree} {fs gs : List (List Tree)} (hhead : RenamingAll f g)
      (htail : RenamingFields fs gs) : RenamingFields (f :: fs) (g :: gs)

/-- The same for lists: there are as many trees, in the same order. -/
inductive RenamingAll : List Tree → List Tree → Prop
  | nil : RenamingAll [] []
  | cons {t u : Tree} {ts us : List Tree} (hhead : Renaming t u) (htail : RenamingAll ts us) :
      RenamingAll (t :: ts) (u :: us)

end

/-! ## Calls -/

section

variable {name : String} {t : Tree}

theorem calls_iff : calls name t = true ↔ ∃ s usage ns parts rest,
    t = .node .call s ([.node (.name name usage) ns parts] :: rest) := by
  constructor
  · intro h
    unfold calls at h
    split at h
    · next id usage ns parts rest =>
        rw [← of_decide_eq_true h]
        exact ⟨_, _, _, _, _, rfl⟩
    · cases h
  · rintro ⟨s, usage, ns, parts, rest, rfl⟩
    exact decide_eq_true rfl

/-- Whom a call calls can be read off the kind of its function. -/
theorem calls_call (s : Option Span) (function : Tree) (rest : List (List Tree)) :
    calls name (.node .call s ([function] :: rest)) =
      match function.kind with
      | .name id _ => id = name
      | _ => false := by
  obtain ⟨k, fs, parts⟩ := function
  cases k <;> rfl

/-- A call has one function. -/
theorem calls_of_two (s : Option Span) (t u : Tree) (ts : List Tree) (rest : List (List Tree)) :
    calls name (.node .call s ((t :: u :: ts) :: rest)) = false := by
  obtain ⟨k, fs, parts⟩ := t
  cases k <;> rfl

end

/-- Whom a node calls does not depend on more than the kinds of the trees right below it. -/
theorem calls_congr (name : String) (k : Kind) (s s' : Option Span) {fs gs : List (List Tree)}
    (h : fs.map (·.map Tree.kind) = gs.map (·.map Tree.kind)) :
    calls name (.node k s fs) = calls name (.node k s' gs) := by
  cases k with
  | call =>
      rcases fs with _ | ⟨_ | ⟨t, _ | ⟨u, ts⟩⟩, rest⟩ <;>
        rcases gs with _ | ⟨_ | ⟨t', _ | ⟨u', ts'⟩⟩, rest'⟩ <;>
        simp only [List.map_cons, List.map_nil, List.cons.injEq, reduceCtorEq, and_false,
          false_and, and_true] at h
      · rfl
      · rfl
      · rw [calls_call, calls_call, h.1]
      · rw [calls_of_two, calls_of_two]
  | _ => rfl

/-! ## Renaming with places -/

/-- `renameCall`, with the new name at the place of the call. -/
def renameHere : Tree → Tree
  | .node .call s ([.node (.name id usage) ns parts] :: rest) =>
    if id = reserved then .node .call s ([.node (.name substitute .load) s []] :: rest)
    else .node .call s ([.node (.name id usage) ns parts] :: rest)
  | t => t

/-- The tree with its dynamic imports renamed, each name at the place of its call. -/
def renamed (t : Tree) : Tree := t.mapUp renameHere

section

variable {t : Tree}

theorem renameCall_of_not_calls (h : calls reserved t = false) : renameCall t = t := by
  unfold renameCall
  split
  · rw [if_neg (of_decide_eq_false h)]
  · rfl

theorem renameHere_of_not_calls (h : calls reserved t = false) : renameHere t = t := by
  unfold renameHere
  split
  · rw [if_neg (of_decide_eq_false h)]
  · rfl

theorem renameHere_call (s ns : Option Span) (usage : Usage) (parts rest : List (List Tree)) :
    renameHere (.node .call s ([.node (.name reserved usage) ns parts] :: rest))
      = .node .call s ([.node (.name substitute .load) s []] :: rest) := by
  rw [renameHere, if_pos rfl]

theorem renameCall_call (s ns : Option Span) (usage : Usage) (parts rest : List (List Tree)) :
    renameCall (.node .call s ([.node (.name reserved usage) ns parts] :: rest))
      = .node .call s ([.node (.name substitute .load) none []] :: rest) := by
  rw [renameCall, if_pos rfl]

/-- A change of trees that keeps the kind of the root. -/
def KeepsKind (f : Tree → Tree) : Prop := ∀ t, (f t).kind = t.kind

theorem keepsKind_renameHere : KeepsKind renameHere := by
  intro t
  cases h : calls reserved t with
  | false => rw [renameHere_of_not_calls h]
  | true =>
      obtain ⟨s, usage, ns, parts, rest, rfl⟩ := calls_iff.mp h
      rw [renameHere_call]
      rfl

theorem keepsKind_renameCall : KeepsKind renameCall := by
  intro t
  cases h : calls reserved t with
  | false => rw [renameCall_of_not_calls h]
  | true =>
      obtain ⟨s, usage, ns, parts, rest, rfl⟩ := calls_iff.mp h
      rw [renameCall_call]
      rfl

end

/-! ## Kinds below a changed node -/

section

variable {f : Tree → Tree} (hf : KeepsKind f)

include hf

theorem KeepsKind.mapUp (t : Tree) : (t.mapUp f).kind = t.kind := by
  obtain ⟨k, s, fs⟩ := t
  rw [Tree.mapUp, hf]
  rfl

theorem KeepsKind.kinds (fs : List (List Tree)) :
    (mapUpFields f fs).map (·.map Tree.kind) = fs.map (·.map Tree.kind) := by
  rw [Tree.mapUpFields_eq_map, List.map_map]
  refine List.map_congr_left fun g _ => ?_
  simp only [Function.comp_apply, List.map_map]
  exact List.map_congr_left fun t _ => hf.mapUp t

/-- A node calls whom it called before the trees below it were changed. -/
theorem KeepsKind.calls (name : String) (k : Kind) (s : Option Span) (fs : List (List Tree)) :
    calls name (.node k s (mapUpFields f fs)) = calls name (.node k s fs) :=
  calls_congr name k s s (hf.kinds fs)

end

/-- The function of a dynamic import is a name, so nothing is renamed inside of it. -/
theorem mapUp_call {f : Tree → Tree} (hname : ∀ id usage ns parts,
      f (.node (.name id usage) ns parts) = .node (.name id usage) ns parts)
    (s ns : Option Span) (usage : Usage) (parts rest : List (List Tree)) :
    Tree.mapUp f (.node .call s ([.node (.name reserved usage) ns parts] :: rest))
      = f (.node .call s ([.node (.name reserved usage) ns (mapUpFields f parts)]
        :: mapUpFields f rest)) := by
  rw [Tree.mapUp, mapUpFields, mapUpAll, mapUpAll, Tree.mapUp, hname]

theorem renamed_call (s ns : Option Span) (usage : Usage) (parts rest : List (List Tree)) :
    renamed (.node .call s ([.node (.name reserved usage) ns parts] :: rest))
      = .node .call s ([.node (.name substitute .load) s []] :: mapUpFields renameHere rest) := by
  rw [renamed, mapUp_call fun _ _ _ _ => rfl, renameHere_call]

theorem renamed_of_not_calls {k : Kind} {s : Option Span} {fs : List (List Tree)}
    (h : calls reserved (.node k s fs) = false) :
    renamed (.node k s fs) = .node k s (mapUpFields renameHere fs) := by
  rw [renamed, Tree.mapUp]
  exact renameHere_of_not_calls ((keepsKind_renameHere.calls _ _ _ _).trans h)

/-! ## Places are filled in where names were put in -/

mutual

theorem fillSpansFrom_renamed (outer : Span) : (t : Tree) → t.Placed →
    (t.mapUp renameCall).fillSpansFrom outer = renamed t
  | .node k s fs, hplaced => by
    have hroot : s.isSome = k.hasSpan := hplaced _ (Tree.self_mem_nodes _)
    have hown : (if k.hasSpan then some (s.getD outer) else s) = s := by
      cases s with
      | none => rw [← hroot]; rfl
      | some s => rw [← hroot]; rfl
    have hfields := fillSpansOfFields_renamed (s.getD outer) fs
      fun n hn => hplaced n (List.mem_cons_of_mem _ hn)
    cases hcalls : calls reserved (.node k s fs) with
    | false =>
        rw [renamed_of_not_calls hcalls, Tree.mapUp, renameCall_of_not_calls
          ((keepsKind_renameCall.calls _ _ _ _).trans hcalls), Tree.fillSpansFrom, hown, hfields]
    | true =>
        obtain ⟨s, usage, ns, parts, rest, hnode⟩ := calls_iff.mp hcalls
        cases hnode
        obtain ⟨span, rfl⟩ := Option.isSome_iff_exists.mp hroot
        rw [mapUpFields, Tree.fillSpansOfFields, mapUpFields, List.cons.injEq] at hfields
        rw [renamed_call, mapUp_call fun _ _ _ _ => rfl, renameCall_call, Tree.fillSpansFrom,
          Tree.fillSpansOfFields, hfields.2]
        rfl

theorem fillSpansOfFields_renamed (outer : Span) : (fs : List (List Tree)) →
    (∀ n ∈ nodesOfFields fs, n.span?.isSome = n.kind.hasSpan) →
    Tree.fillSpansOfFields outer (mapUpFields renameCall fs) = mapUpFields renameHere fs
  | [], _ => rfl
  | f :: fs, hplaced => by
    rw [mapUpFields, Tree.fillSpansOfFields, mapUpFields,
      fillSpansOfAll_renamed outer f fun n hn => hplaced n (List.mem_append_left _ hn),
      fillSpansOfFields_renamed outer fs fun n hn => hplaced n (List.mem_append_right _ hn)]

theorem fillSpansOfAll_renamed (outer : Span) : (ts : List Tree) →
    (∀ n ∈ nodesOfAll ts, n.span?.isSome = n.kind.hasSpan) →
    Tree.fillSpansOfAll outer (mapUpAll renameCall ts) = mapUpAll renameHere ts
  | [], _ => rfl
  | t :: ts, hplaced => by
    rw [mapUpAll, Tree.fillSpansOfAll, mapUpAll,
      fillSpansFrom_renamed outer t fun n hn => hplaced n (List.mem_append_left _ hn),
      fillSpansOfAll_renamed outer ts fun n hn => hplaced n (List.mem_append_right _ hn)]
    rfl

end

/-- **Where all nodes have places, only the new names get one.** -/
theorem rename_eq_renamed {t : Tree} (h : t.Placed) : rename t = renamed t :=
  fillSpansFrom_renamed _ t h

/-! ## The result -/

mutual

theorem renaming_iff : (t : Tree) → ∀ u, Renaming t u ↔ u = renamed t
  | .node k s fs => by
    intro u
    cases hcalls : calls reserved (.node k s fs) with
    | false =>
        rw [renamed_of_not_calls hcalls]
        constructor
        · intro h
          cases h with
          | call => cases hcalls
          | other _ hfields => rw [(renamingFields_iff fs _).mp hfields]
        · rintro rfl
          exact .other hcalls ((renamingFields_iff fs _).mpr rfl)
    | true =>
        obtain ⟨s, usage, ns, parts, rest, hnode⟩ := calls_iff.mp hcalls
        cases hnode
        rw [renamed_call]
        constructor
        · intro h
          cases h with
          | call hrest => rw [(renamingFields_iff rest _).mp hrest]
          | other hother => rw [hcalls] at hother; cases hother
        · rintro rfl
          exact .call ((renamingFields_iff rest _).mpr rfl)

theorem renamingFields_iff :
    (fs : List (List Tree)) → ∀ gs, RenamingFields fs gs ↔ gs = mapUpFields renameHere fs
  | [] => by
    intro gs
    constructor
    · rintro ⟨⟩
      rfl
    · rintro rfl
      exact .nil
  | f :: fs => by
    intro gs
    constructor
    · intro h
      cases h with
      | cons hhead htail =>
          rw [(renamingAll_iff f _).mp hhead, (renamingFields_iff fs _).mp htail, mapUpFields]
    · rintro rfl
      exact .cons ((renamingAll_iff f _).mpr rfl) ((renamingFields_iff fs _).mpr rfl)

theorem renamingAll_iff :
    (ts : List Tree) → ∀ us, RenamingAll ts us ↔ us = mapUpAll renameHere ts
  | [] => by
    intro us
    constructor
    · rintro ⟨⟩
      rfl
    · rintro rfl
      exact .nil
  | t :: ts => by
    intro us
    constructor
    · intro h
      cases h with
      | cons hhead htail =>
          rw [(renaming_iff t _).mp hhead, (renamingAll_iff ts _).mp htail, mapUpAll]
          rfl
    · rintro rfl
      exact .cons ((renaming_iff t _).mpr rfl) ((renamingAll_iff ts _).mpr rfl)

end

/-! ## Nodes of the result -/

theorem substitute_ne_reserved : substitute ≠ reserved := by decide

mutual

/-- No dynamic import is left under its old name. -/
theorem Renaming.not_calls : {t u : Tree} → Renaming t u →
    ∀ n ∈ u.nodes, calls reserved n = false
  | _, _, .call h => by
    intro n hn
    simp only [Tree.nodes, nodesOfFields, nodesOfAll, List.append_nil, List.mem_cons,
      List.cons_append, List.nil_append] at hn
    rcases hn with rfl | rfl | hn
    · exact decide_eq_false substitute_ne_reserved
    · rfl
    · exact h.not_calls n hn
  | _, _, @Renaming.other k s fs gs hother h => by
    intro n hn
    rcases List.mem_cons.mp hn with rfl | hn
    · rw [(renamingFields_iff fs gs).mp h, keepsKind_renameHere.calls]
      exact hother
    · exact h.not_calls n hn

theorem RenamingFields.not_calls : {fs gs : List (List Tree)} → RenamingFields fs gs →
    ∀ n ∈ nodesOfFields gs, calls reserved n = false
  | _, _, .nil => fun _ hn => absurd hn List.not_mem_nil
  | _, _, .cons hhead htail => by
    intro n hn
    rcases List.mem_append.mp hn with hn | hn
    · exact hhead.not_calls n hn
    · exact htail.not_calls n hn

theorem RenamingAll.not_calls : {ts us : List Tree} → RenamingAll ts us →
    ∀ n ∈ nodesOfAll us, calls reserved n = false
  | _, _, .nil => fun _ hn => absurd hn List.not_mem_nil
  | _, _, .cons hhead htail => by
    intro n hn
    rcases List.mem_append.mp hn with hn | hn
    · exact hhead.not_calls n hn
    · exact htail.not_calls n hn

end

mutual

/-- The new names have places as all other nodes do. -/
theorem Renaming.placed : {t u : Tree} → Renaming t u → t.Placed → u.Placed
  | _, _, @Renaming.call s ns usage parts rest rest' h, hplaced => by
    have hroot : s.isSome = true := hplaced _ (Tree.self_mem_nodes _)
    intro n hn
    simp only [Tree.nodes, nodesOfFields, nodesOfAll, List.append_nil, List.mem_cons,
      List.cons_append, List.nil_append] at hn
    rcases hn with rfl | rfl | hn
    · exact hroot
    · exact hroot
    · exact h.placed (fun m hm => hplaced m (List.mem_cons_of_mem _ (List.mem_append_right _ hm)))
        n hn
  | _, _, @Renaming.other k s fs gs _ h, hplaced => by
    intro n hn
    rcases List.mem_cons.mp hn with rfl | hn
    · exact hplaced (.node k s fs) (Tree.self_mem_nodes _)
    · exact h.placed (fun m hm => hplaced m (List.mem_cons_of_mem _ hm)) n hn

theorem RenamingFields.placed : {fs gs : List (List Tree)} → RenamingFields fs gs →
    (∀ n ∈ nodesOfFields fs, n.span?.isSome = n.kind.hasSpan) →
    ∀ n ∈ nodesOfFields gs, n.span?.isSome = n.kind.hasSpan
  | _, _, .nil, _ => fun _ hn => absurd hn List.not_mem_nil
  | _, _, .cons hhead htail, hplaced => by
    intro n hn
    rcases List.mem_append.mp hn with hn | hn
    · exact hhead.placed (fun m hm => hplaced m (List.mem_append_left _ hm)) n hn
    · exact htail.placed (fun m hm => hplaced m (List.mem_append_right _ hm)) n hn

theorem RenamingAll.placed : {ts us : List Tree} → RenamingAll ts us →
    (∀ n ∈ nodesOfAll ts, n.span?.isSome = n.kind.hasSpan) →
    ∀ n ∈ nodesOfAll us, n.span?.isSome = n.kind.hasSpan
  | _, _, .nil, _ => fun _ hn => absurd hn List.not_mem_nil
  | _, _, .cons hhead htail, hplaced => by
    intro n hn
    rcases List.mem_append.mp hn with hn | hn
    · exact hhead.placed (fun m hm => hplaced m (List.mem_append_left _ hm)) n hn
    · exact htail.placed (fun m hm => hplaced m (List.mem_append_right _ hm)) n hn

end

mutual

/-- A tree without dynamic imports is what comes of it. -/
theorem renamed_eq_self : (t : Tree) → (∀ n ∈ t.nodes, calls reserved n = false) → renamed t = t
  | .node k s fs, h => by
    rw [renamed_of_not_calls (h _ (Tree.self_mem_nodes _)),
      renamed_fields_eq_self fs fun n hn => h n (List.mem_cons_of_mem _ hn)]

theorem renamed_fields_eq_self : (fs : List (List Tree)) →
    (∀ n ∈ nodesOfFields fs, calls reserved n = false) → mapUpFields renameHere fs = fs
  | [], _ => rfl
  | f :: fs, h => by
    rw [mapUpFields, renamed_all_eq_self f fun n hn => h n (List.mem_append_left _ hn),
      renamed_fields_eq_self fs fun n hn => h n (List.mem_append_right _ hn)]

theorem renamed_all_eq_self : (ts : List Tree) →
    (∀ n ∈ nodesOfAll ts, calls reserved n = false) → mapUpAll renameHere ts = ts
  | [], _ => rfl
  | t :: ts, h => by
    have hhead : t.mapUp renameHere = t :=
      renamed_eq_self t fun n hn => h n (List.mem_append_left _ hn)
    rw [mapUpAll, hhead, renamed_all_eq_self ts fun n hn => h n (List.mem_append_right _ hn)]

end

/-- **Dynamic imports are renamed, and nothing else is changed.** Of the tree of a source, renaming
makes the one tree that differs from it just in this: the function of a call was the bare name
`__import__` and is the name `import_` at the place of the call. So no call of `__import__` is left,
however deep in functions, arguments, decorators, defaults or replacement fields, while the name is
where it was wherever it is no function of a call; and renaming once more changes nothing. -/
theorem rename_iff {source : String} {t : Tree} {warnings : List Warning}
    (hparse : Source.parse source = .ok (t, warnings)) :
    (∀ u, Renaming t u ↔ u = rename t)
    ∧ (∀ n ∈ (rename t).nodes, calls reserved n = false)
    ∧ rename (rename t) = rename t := by
  have hplaced := Tree.placed_of_isWellFormed (Source.parse_is hparse).2
  have hiff : ∀ u, Renaming t u ↔ u = rename t := by
    rw [rename_eq_renamed hplaced]
    exact renaming_iff t
  have hrenaming := (hiff _).mpr rfl
  refine ⟨hiff, hrenaming.not_calls, ?_⟩
  rw [rename_eq_renamed (hrenaming.placed hplaced), renamed_eq_self _ hrenaming.not_calls]

/-- Dynamic imports in a default, in a function of a call and in arguments, beside other uses of the
name. -/
def importingLate : String :=
  "__import__ = print\ndef f(a=__import__('b')):\n    return __import__(__import__)('c').__import__()\n" ++
    "f(__import__(k=[__import__('d')]))\n"

theorem renamed_in_importingLate :
    ∃ t, Source.tree? importingLate = some t
      ∧ (t.nodes.filter (calls reserved)).length = 4
      ∧ (t.nodes.filter fun n => n.kind = .name reserved .load).length = 5
      ∧ ((rename t).nodes.filter fun n => n.kind = .name reserved .load).length = 1
      ∧ Renaming t (rename t) ∧ rename (rename t) = rename t := by
  have hchars : importingLate.toList = _ :=
    Source.toList_append_eq String.toList_ofList String.toList_ofList
  have hcounts : (Source.tree? importingLate).map (fun t =>
      ((t.nodes.filter (calls reserved)).length,
        (t.nodes.filter fun n => n.kind = .name reserved .load).length,
        ((rename t).nodes.filter fun n => n.kind = .name reserved .load).length))
      = some (4, 5, 1) := by
    rw [Source.tree?, Source.parse_eq_parseChars hchars]
    decide +kernel
  obtain ⟨t, htree, hcount⟩ := Option.map_eq_some_iff.mp hcounts
  simp only [Prod.mk.injEq] at hcount
  obtain ⟨warnings, hparse⟩ := Source.parse_of_tree? htree
  obtain ⟨hiff, -, hagain⟩ := rename_iff hparse
  exact ⟨t, htree, hcount.1, hcount.2.1, hcount.2.2, (hiff _).mpr rfl, hagain⟩

end SourceLoader.DynamicImport
