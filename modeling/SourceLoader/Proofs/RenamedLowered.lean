import SourceLoader.Proofs.Renamed

/-!
# Renaming and lowering keep out of each other's way

Dynamic imports are renamed before anything else is done with a tree. Neither the dependencies that
a source declares nor the lowering of its imports depend on that: a tree declares the same whether
its dynamic imports are renamed or not, and it makes no difference which of renaming and lowering
comes first, down to the error and to the places of all nodes (`lower_rename`).

Two things are behind it. Renaming changes the kind of no node but of names in front of arguments,
and neither walk looks for these two names there. And the statements that lowering puts in call
helpers of their own, never `__import__`, so renaming has nothing to do in them.
-/

namespace SourceLoader

open Tree (Is AllAre mapUp mapUpFields mapUpAll nodesOfAll nodesOfFields)

namespace Dependencies

open DynamicImport (calls calls_iff reserved substitute renameHere renamed renamed_call
  renamed_of_not_calls keepsKind_renameHere)

/-! ## Declared dependencies -/

/-- A call of anything but `require` declares nothing itself. -/
theorem ofNode_call_other {b : Bool} {name : String} (hname : name ≠ requireName) (usage : Usage)
    (s ns : Option Span) (parts rest : List (List Tree)) :
    ofNode b (.node .call s ([.node (.name name usage) ns parts] :: rest)) = [] := by
  unfold ofNode
  split
  · next heq => cases heq
  · next heq => cases heq
  · next heq => cases heq; rw [if_neg hname]
  · rfl

/-- A name has no parts. -/
theorem parts_of_name {id : String} {usage : Usage} {s : Option Span} {parts : List (List Tree)}
    (h : (Tree.node (.name id usage) s parts).isWellFormed = true) : parts = [] := by
  have hslots := ((Tree.isWellFormed_iff _ _ _).mp h).2
  cases parts with
  | nil => rfl
  | cons f fs => exact hslots.elim

mutual

/-- A tree declares the same whether dynamic imports are renamed or not. -/
theorem ofTree_renamed (b : Bool) : (t : Tree) → t.isWellFormed = true →
    ofTree b (renamed t) = ofTree b t
  | .node k s fs, hformed => by
    simp only [Tree.isWellFormed, Bool.and_eq_true] at hformed
    have hfields := ofFields_renamed b fs hformed.2
    cases hcalls : calls reserved (.node k s fs) with
    | false =>
        rw [renamed_of_not_calls hcalls, ofTree, ofTree, ofNode_eq, ofNode_eq,
          keepsKind_renameHere.kinds, hfields]
    | true =>
        obtain ⟨s, usage, ns, parts, rest, hnode⟩ := calls_iff.mp hcalls
        cases hnode
        simp only [Tree.areFieldsWellFormed, Tree.areWellFormed, Bool.and_eq_true] at hformed
        obtain rfl := parts_of_name hformed.2.1.1
        rw [mapUpFields, ofFields, ofFields] at hfields
        rw [renamed_call, ofTree, ofTree, ofNode_call_other (by decide),
          ofNode_call_other (by decide),
          ofFields, ofFields, ← List.append_cancel_left hfields]
        rfl

theorem ofFields_renamed (b : Bool) : (fs : List (List Tree)) →
    Tree.areFieldsWellFormed fs = true →
    ofFields b (mapUpFields renameHere fs) = ofFields b fs
  | [], _ => rfl
  | f :: fs, hformed => by
    simp only [Tree.areFieldsWellFormed, Bool.and_eq_true] at hformed
    rw [mapUpFields, ofFields, ofFields, ofAll_renamed b f hformed.1,
      ofFields_renamed b fs hformed.2]

theorem ofAll_renamed (b : Bool) : (ts : List Tree) → Tree.areWellFormed ts = true →
    ofAll b (mapUpAll renameHere ts) = ofAll b ts
  | [], _ => rfl
  | t :: ts, hformed => by
    simp only [Tree.areWellFormed, Bool.and_eq_true] at hformed
    have hhead : ofTree b (t.mapUp renameHere) = ofTree b t := ofTree_renamed b t hformed.1
    rw [mapUpAll, ofAll, ofAll, hhead, ofAll_renamed b ts hformed.2]

end

end Dependencies

namespace DynamicImport

open Lowering

/-! ## Statements that lowering puts in -/

theorem calls_eraseSpans (name : String) (t : Tree) : calls name t.eraseSpans = calls name t := by
  obtain ⟨k, s, fs⟩ := t
  rw [Tree.eraseSpans_node]
  refine calls_congr name k none s ?_
  rw [List.map_map]
  refine List.map_congr_left fun f _ => ?_
  simp only [Function.comp_apply, List.map_map]
  exact List.map_congr_left fun t _ => Tree.kind_eraseSpans t

theorem not_calls_of_mem_statement (form : Form) :
    ∀ n ∈ form.statement.nodes, calls reserved n = false := by
  cases form <;>
    simp [Form.statement, Lowering.bind, requireCall, callOf, readName, textLiteral, memberOf,
      bindAll,
      clauseOf, Tree.nodes, nodesOfFields, nodesOfAll, calls, reserved, Dependencies.requireName]

/-- A statement that stands for an import makes no dynamic import. -/
theorem not_calls_of_standFor {t u n : Tree} {statements : List Tree}
    (h : StandFor t statements) (hu : u ∈ statements) (hn : n ∈ u.nodes) :
    calls reserved n = false := by
  obtain ⟨form, hform, -⟩ := form_of_standFor h hu
  rw [← calls_eraseSpans]
  refine not_calls_of_mem_statement form _ ?_
  rw [← hform, ← Tree.moved_none, Tree.nodes_moved]
  exact List.mem_map_of_mem hn

theorem renamed_of_standFor {t : Tree} {statements : List Tree} (h : StandFor t statements) :
    mapUpAll renameHere statements = statements :=
  renamed_all_eq_self statements fun n hn => by
    obtain ⟨u, hu, hn⟩ := Tree.mem_nodesOfAll.mp hn
    exact not_calls_of_standFor h hu hn

/-! ## Shape -/

/-- Renaming changes neither what a tree stands for nor that it is well formed. -/
theorem is_renamed (t : Tree) : ∀ c, Is c t → Is c (renamed t) := by
  induction t using Tree.induction with
  | h t ih =>
  intro c h
  obtain ⟨k, s, fs⟩ := t
  have hspan := ((Tree.isWellFormed_iff k s fs).mp h.2).1
  have hfields := h.fields
  cases hcalls : calls reserved (.node k s fs) with
  | false =>
      rw [renamed_of_not_calls hcalls, Tree.mapUpFields_eq_map]
      exact .node h.1 hspan (hfields.map ih)
  | true =>
      obtain ⟨_, usage, ns, parts, rest, heq⟩ := calls_iff.mp hcalls
      cases heq
      rw [renamed_call, Tree.mapUpFields_eq_map]
      have hrest := Slot.AllFilled.map hfields.2 fun t ht => ih t (List.mem_append_right _ ht)
      exact .node h.1 hspan ⟨.node rfl hspan trivial, hrest⟩

/-! ## Imports -/

/-- Renaming leaves it to imports what they list. -/
theorem listsAsWritten_renamed (t : Tree)
    (h : ∀ n ∈ t.nodes, n.kind.listsAsWritten n.fields = true) :
    ∀ n ∈ (renamed t).nodes, n.kind.listsAsWritten n.fields = true := by
  induction t using Tree.induction with
  | h t ih =>
  obtain ⟨k, s, fs⟩ := t
  have hchild {c : Tree} (hc : c ∈ fs.flatten) :
      ∀ n ∈ (renamed c).nodes, n.kind.listsAsWritten n.fields = true :=
    ih c hc fun n hn => h n (Tree.mem_nodes_iff.mpr (.inr ⟨c, hc, hn⟩))
  have hbelow {gs : List (List Tree)} (hgs : ∀ c ∈ gs.flatten, c ∈ fs.flatten) {n : Tree}
      (hn : ∃ g ∈ mapUpFields renameHere gs, ∃ u ∈ g, n ∈ u.nodes) :
      n.kind.listsAsWritten n.fields = true := by
    obtain ⟨_, hf, _, hu, hn⟩ := hn
    rw [Tree.mapUpFields_eq_map] at hf
    obtain ⟨g, hg, rfl⟩ := List.mem_map.mp hf
    obtain ⟨c, hc, rfl⟩ := List.mem_map.mp hu
    exact hchild (hgs c (List.mem_flatten_of_mem hg hc)) n hn
  intro n hn
  cases hcalls : calls reserved (.node k s fs) with
  | false =>
      rw [renamed_of_not_calls hcalls] at hn
      rcases Tree.mem_nodes_node.mp hn with rfl | hn
      · exact (k.listsAsWritten_congr (keepsKind_renameHere.kinds fs)).trans
          (h _ (Tree.self_mem_nodes _))
      · exact hbelow (fun _ hc => hc) hn
  | true =>
      obtain ⟨_, usage, ns, parts, rest, heq⟩ := calls_iff.mp hcalls
      cases heq
      rw [renamed_call] at hn
      rcases Tree.mem_nodes_node.mp hn with rfl | ⟨f, hf, hn⟩
      · rfl
      · rcases List.mem_cons.mp hf with rfl | hf
        · -- the name that is put in
          obtain ⟨_, hu, hn⟩ := hn
          obtain rfl := List.mem_singleton.mp hu
          rcases Tree.mem_nodes_node.mp hn with rfl | ⟨_, hnone, -⟩
          · rfl
          · cases hnone
        · exact hbelow (fun c hc => List.mem_append_right _ hc) ⟨f, hf, hn⟩

/-- **Imports of a source list names as the grammar has them**, dynamic imports renamed or not. -/
theorem listsAsWritten_rename {source : String} {t : Tree} {warnings : List Warning}
    (hparse : Source.parse source = .ok (t, warnings)) :
    ∀ n ∈ (rename t).nodes, n.kind.listsAsWritten n.fields = true := by
  have hon := (Source.parse_on le_rfl hparse).2
  rw [rename_eq_renamed (Tree.placed_of_isWellFormed (Source.parse_is hparse).2)]
  exact listsAsWritten_renamed t fun n hn => Tree.listsAsWritten_of_mem_nodes hon hn

theorem isLowered_renamed (t : Tree) : isLowered (renamed t) = isLowered t := by
  obtain ⟨k, s, fs⟩ := t
  have hkind : (renamed (.node k s fs)).kind = k := keepsKind_renameHere.mapUp _
  cases k
  case importNames | importFrom =>
    rw [renamed_of_not_calls rfl]
    rcases fs with _ | ⟨f, _ | ⟨g, fs⟩⟩ <;> rfl
  all_goals
    generalize renamed _ = u at hkind ⊢
    obtain ⟨k, s, fs⟩ := u
    cases hkind
    rfl

/-- An import has nothing to be renamed in it. -/
theorem renamed_of_isLowered {t : Tree} (hformed : t.isWellFormed = true)
    (himport : isLowered t = true) : renamed t = t := by
  have hnames : ∀ {aliases : List Tree}, AllAre .importName aliases →
      mapUpFields renameHere [aliases] = [aliases] := by
    intro aliases hall
    refine renamed_fields_eq_self _ fun n hn => ?_
    rw [nodesOfFields, nodesOfFields, List.append_nil] at hn
    obtain ⟨a, ha, hn⟩ := Tree.mem_nodesOfAll.mp hn
    obtain ⟨name, asName, s, rfl⟩ := importName_eq (hall a ha)
    rw [Tree.nodes, nodesOfFields, List.mem_singleton] at hn
    rw [hn]
    rfl
  unfold isLowered at himport
  split at himport
  · rw [renamed_of_not_calls rfl, hnames ((Tree.isWellFormed_iff _ _ _).mp hformed).2.1.2]
  · rw [renamed_of_not_calls rfl, hnames ((Tree.isWellFormed_iff _ _ _).mp hformed).2.1.2]
  · cases himport

/-! ## The walks one after the other -/

variable {origin : Origin}

/-- The kinds in a call stay when what is below it is lowered. -/
theorem calls_lowerFields {k : Kind} {s : Option Span} {fs gs : List (List Tree)}
    (hformed : (Tree.node k s fs).isWellFormed = true) (hlower : lowerFields origin fs = .ok gs)
    (name : String) : calls name (.node k s gs) = calls name (.node k s fs) := by
  cases k with
  | call =>
      refine calls_congr name _ _ _ (kinds_lowerFields (fun f hf t ht hstatement => ?_) hlower)
      obtain ⟨slot, hslot, hfilled⟩ := ((Tree.isWellFormed_iff _ _ _).mp hformed).2.mem f hf
      have hcategory := (hfilled.is t ht).imp And.left And.left
      rw [hstatement] at hcategory
      simp only [Kind.slots, List.mem_cons, List.not_mem_nil, or_false] at hslot
      rcases hslot with rfl | rfl | rfl <;> simp [Slot.category] at hcategory
  | _ => rfl

/-- A name is no import and has none below it. -/
theorem lowerFields_name (id : String) (usage : Usage) (s : Option Span)
    (rest : List (List Tree)) : lowerFields origin ([.node (.name id usage) s []] :: rest)
      = (lowerFields origin rest).map ([.node (.name id usage) s []] :: ·) := by
  rw [lowerFields]
  rfl

mutual

theorem lowerTree_renamed : (t : Tree) → t.isWellFormed = true →
    lowerTree origin (renamed t) = (lowerTree origin t).map renamed
  | .node k s fs, hformed => by
    have hparts := hformed
    simp only [Tree.isWellFormed, Bool.and_eq_true] at hparts
    cases hcalls : calls reserved (.node k s fs) with
    | false =>
        have hfields := lowerFields_renamed fs hparts.2
        rw [renamed_of_not_calls hcalls, lowerTree, lowerTree, hfields]
        cases hlower : lowerFields origin fs with
        | error e => rfl
        | ok gs =>
            have hother := (calls_lowerFields hformed hlower reserved).trans hcalls
            exact congrArg Except.ok (renamed_of_not_calls hother).symm
    | true =>
        obtain ⟨s, usage, ns, parts, rest, hnode⟩ := calls_iff.mp hcalls
        cases hnode
        simp only [Tree.areFieldsWellFormed, Tree.areWellFormed, Bool.and_eq_true] at hparts
        obtain rfl := Dependencies.parts_of_name hparts.2.1.1
        rw [renamed_call, lowerTree, lowerTree, lowerFields_name, lowerFields_name,
          lowerFields_renamed rest hparts.2.2]
        cases lowerFields origin rest with
        | error e => rfl
        | ok gs => exact congrArg Except.ok (renamed_call s ns usage [] gs).symm

theorem lowerFields_renamed : (fs : List (List Tree)) → Tree.areFieldsWellFormed fs = true →
    lowerFields origin (mapUpFields renameHere fs)
      = (lowerFields origin fs).map (mapUpFields renameHere)
  | [], _ => rfl
  | f :: fs, hformed => by
    simp only [Tree.areFieldsWellFormed, Bool.and_eq_true] at hformed
    rw [mapUpFields, lowerFields, lowerFields, lowerAll_renamed f hformed.1,
      lowerFields_renamed fs hformed.2]
    cases lowerAll origin f with
    | error e => rfl
    | ok g => cases lowerFields origin fs <;> rfl

theorem lowerAll_renamed : (ts : List Tree) → Tree.areWellFormed ts = true →
    lowerAll origin (mapUpAll renameHere ts) = (lowerAll origin ts).map (mapUpAll renameHere)
  | [], _ => rfl
  | t :: ts, hformed => by
    simp only [Tree.areWellFormed, Bool.and_eq_true] at hformed
    have htail := lowerAll_renamed ts hformed.2
    have hcons : mapUpAll renameHere (t :: ts) = renamed t :: mapUpAll renameHere ts := rfl
    cases himport : isLowered t with
    | true =>
        rw [hcons, renamed_of_isLowered hformed.1 himport, lowerAll, lowerAll, htail]
        have hanswers := lowerNode?_answers origin hformed.1 himport
        cases hrefusal : refusal? origin t with
        | some e =>
            rw [hrefusal] at hanswers
            have hfails : lowerNode? origin t = .error e := hanswers
            rw [hfails]
            rfl
        | none =>
            rw [hrefusal] at hanswers
            obtain ⟨_, hnode, statements, rfl, hstand⟩ := hanswers
            have hsame := renamed_of_standFor ((hstand _).mpr rfl)
            rw [hnode]
            cases lowerAll origin ts with
            | error e => rfl
            | ok us =>
                have happend : mapUpAll renameHere (statements ++ us)
                    = mapUpAll renameHere statements ++ mapUpAll renameHere us := by
                  simp only [Tree.mapUpAll_eq_map, List.map_append]
                rw [hsame] at happend
                exact congrArg Except.ok happend.symm
    | false =>
        rw [hcons, lowerAll, lowerAll, lowerNode?_eq _ ((isLowered_renamed t).trans himport),
          lowerNode?_eq t himport, htail]
        have hhead := lowerTree_renamed t hformed.1
        cases hlower : lowerTree origin t with
        | error e => rw [hlower] at hhead; simp only [hhead]; rfl
        | ok t' =>
            rw [hlower] at hhead
            simp only [hhead]
            cases lowerAll origin ts <;> rfl

end

/-- **Renaming keeps out of the way of everything after it.** A tree that was read from a source
declares the same dependencies before and after its dynamic imports are renamed. Its imports can be
lowered exactly if those of the renamed tree can, with the same error if not; and if so, lowering the
renamed tree and renaming the lowered tree yield the same tree, places included. -/
theorem lower_rename {source : String} {t : Tree} {warnings : List Warning}
    (hparse : Source.parse source = .ok (t, warnings)) (origin : Origin) :
    (∀ includeImports, Dependencies.ofTree includeImports (rename t)
      = Dependencies.ofTree includeImports t)
    ∧ lower origin (rename t) = (lower origin t).map rename := by
  have his := Source.parse_is hparse
  have hplaced := Tree.placed_of_isWellFormed his.2
  rw [rename_eq_renamed hplaced]
  refine ⟨fun b => Dependencies.ofTree_renamed b t his.2, ?_⟩
  have hlower : lower origin (renamed t) = (lower origin t).map renamed :=
    lowerTree_renamed t his.2
  rw [hlower]
  cases hresult : lower origin t with
  | error e => rfl
  | ok t' =>
      have hplaced' := (replacing_of_lower his hresult).placed (isLowered_of_module his) hplaced
      exact congrArg Except.ok (rename_eq_renamed hplaced').symm

/-- Imports of several forms among dynamic ones; the second source has one that is refused. -/
def importingBoth : String :=
  "import __import__\nfrom m import __import__ as f, g\ndef h():\n    from . import x\n" ++
    "    return __import__(require('a'))(__import__)\n"

theorem lower_rename_importingBoth :
    (∃ t t', lowered? importingBoth = some (t, t')
      ∧ Dependencies.ofTree true (rename t) = ["__import__", "m", ".x", "a"]
      ∧ lower {} (rename t) = .ok (rename t'))
    ∧ ∃ t e, refused? "__import__('a')\nimport b.c\n" = some (t, e)
      ∧ lower {} (rename t) = .error e := by
  constructor
  · have hlists : (lowered? importingBoth).map (fun trees => Dependencies.ofTree true trees.1)
        = some ["__import__", "m", ".x", "a"] := by
      have hchars : importingBoth.toList = _ :=
        Source.toList_append_eq String.toList_ofList String.toList_ofList
      rw [lowered?, Source.parse_eq_parseChars hchars]
      decide +kernel
    obtain ⟨⟨t, t'⟩, hlowered, hlist⟩ := Option.map_eq_some_iff.mp hlists
    obtain ⟨warnings, hparse, hlower⟩ := lowered?_eq_some hlowered
    obtain ⟨hdeclared, hswap⟩ := lower_rename hparse {}
    rw [hlower] at hswap
    exact ⟨t, t', hlowered, (hdeclared true).trans hlist, hswap⟩
  · have hsome : (refused? "__import__('a')\nimport b.c\n").isSome = true := by decide +kernel
    obtain ⟨⟨t, e⟩, hrefused⟩ := Option.isSome_iff_exists.mp hsome
    obtain ⟨warnings, hparse, hlower⟩ := refused?_eq_some hrefused
    have hswap := (lower_rename hparse {}).2
    rw [hlower] at hswap
    exact ⟨t, e, hrefused, hswap⟩

end DynamicImport

end SourceLoader
