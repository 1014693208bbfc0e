import SourceLoader.Proofs.Acceptance
import SourceLoader.Proofs.Declared
import SourceLoader.Proofs.RebuiltChecks
import SourceLoader.Proofs.RebuiltScopes
import SourceLoader.Proofs.RebuiltTexts
import SourceLoader.Proofs.RenamedLowered

/-!
# Modules as scripts

The check of a compilation runs on the lowered tree, where imports are no imports any more. So what
is asked of an import is asked only if lowering asks for it, or if what is put in has to meet it.

All of it is but one thing: an import inside of a function or a class must not list a star. As a
module such a source is accepted, for a star is lowered to a call wherever it stands; as a script
it is refused. Apart from it, what is accepted as a module is accepted as a script
(`script_accepts_iff`).
-/

namespace SourceLoader

/-! ## Lowered trees are well formed -/

namespace Lowering

open Tree (Is AllAre SomeAre nodesOfAll nodesOfFields)

theorem is_form (form : Form) {span : Option Span} (hspan : span.isSome = true) :
    Is .statement (form.statement.relocate span) := by
  obtain ⟨s, rfl⟩ := Option.isSome_iff_exists.mp hspan
  cases form <;> exact ⟨rfl, rfl⟩

theorem ne_nil_of_isEmpty_eq {ts us : List Tree} (h : us.isEmpty = ts.isEmpty) (hts : ts ≠ []) :
    us ≠ [] := fun hnil => hts (List.isEmpty_iff.mp (h.symm.trans (List.isEmpty_iff.mpr hnil)))

/-- What stands for the names of an import are statements. -/
theorem all_put {kind : Kind} {span : Option Span} {aliases : List Tree}
    (himport : isLowered (.node kind span [aliases]) = true)
    (his : Is .statement (.node kind span [aliases])) (haliases : AllAre .importName aliases) :
    AllAre .statement ((aliases.map (statementFor kind)).map (Tree.relocate span)) := by
  have hspan : span.isSome = true :=
    ((Tree.isWellFormed_iff _ _ _).mp his.2).1.trans (hasSpan_of_isLowered himport)
  intro u hu
  rw [List.map_map] at hu
  obtain ⟨a, ha, rfl⟩ := List.mem_map.mp hu
  obtain ⟨name, asName, s, rfl⟩ := importName_eq (haliases a ha)
  exact is_form (formOf kind name asName) hspan

mutual

theorem is_rebuilt : {t u : Tree} → Rebuilt t u → Is .statement t → Is .statement u
  | _, _, .same _, his => his
  | _, _, .functionDef hbody, his => by
    obtain ⟨harguments, hstatements, hdecorators, hresult, -⟩ := his.fields
    exact his.refill ⟨harguments, some_rebuilt hbody hstatements, hdecorators, hresult, trivial⟩
  | _, _, .classDef hbody, his => by
    obtain ⟨hbases, hkeywords, hstatements, hdecorators, -⟩ := his.fields
    exact his.refill ⟨hbases, hkeywords, some_rebuilt hbody hstatements, hdecorators, trivial⟩
  | _, _, .forLoop hbody hotherwise, his => by
    obtain ⟨htarget, hsource, hstatements, hothers, -⟩ := his.fields
    exact his.refill ⟨htarget, hsource, some_rebuilt hbody hstatements,
      all_rebuilt hotherwise hothers, trivial⟩
  | _, _, .whileLoop hbody hotherwise, his => by
    obtain ⟨htest, hstatements, hothers, -⟩ := his.fields
    exact his.refill ⟨htest, some_rebuilt hbody hstatements, all_rebuilt hotherwise hothers,
      trivial⟩
  | _, _, .ifStmt hbody hotherwise, his => by
    obtain ⟨htest, hstatements, hothers, -⟩ := his.fields
    exact his.refill ⟨htest, some_rebuilt hbody hstatements, all_rebuilt hotherwise hothers,
      trivial⟩
  | _, _, .withStmt hbody, his => by
    obtain ⟨hitems, hstatements, -⟩ := his.fields
    exact his.refill ⟨hitems, some_rebuilt hbody hstatements, trivial⟩
  | _, _, .matchStmt hcases, his => by
    obtain ⟨hsubject, hall, -⟩ := his.fields
    exact his.refill ⟨hsubject,
      ⟨ne_nil_of_isEmpty_eq hcases.isEmpty_eq hall.1, cases_rebuilt hcases hall.2⟩, trivial⟩
  | _, _, .tryStmt hbody hhandlers hotherwise hfinal, his => by
    obtain ⟨hstatements, hall, hothers, hlast, -⟩ := his.fields
    exact his.refill ⟨some_rebuilt hbody hstatements, handlers_rebuilt hhandlers hall,
      all_rebuilt hotherwise hothers, all_rebuilt hfinal hlast, trivial⟩

theorem all_rebuilt : {ts us : List Tree} → RebuiltAll ts us → AllAre .statement ts →
    AllAre .statement us
  | _, _, .nil, hall => hall
  | _, _, .put himport haliases _ htail, hall =>
    .append (all_put himport (hall _ List.mem_cons_self) haliases.all)
      (all_rebuilt htail fun t ht => hall t (List.mem_cons_of_mem _ ht))
  | _, _, .kept _ hhead htail, hall =>
    .cons (is_rebuilt hhead (hall _ List.mem_cons_self))
      (all_rebuilt htail fun t ht => hall t (List.mem_cons_of_mem _ ht))

theorem some_rebuilt {ts us : List Tree} (h : RebuiltAll ts us) (hsome : SomeAre .statement ts) :
    SomeAre .statement us :=
  ⟨ne_nil_of_isEmpty_eq h.isEmpty_eq hsome.1, all_rebuilt h hsome.2⟩

theorem handlers_rebuilt : {ts us : List Tree} → RebuiltHandlers ts us → AllAre .handler ts →
    AllAre .handler us
  | _, _, .nil, hall => hall
  | _, _, .cons hbody htail, hall => by
    have hhead := hall _ List.mem_cons_self
    obtain ⟨htype, hstatements, -⟩ := hhead.fields
    exact .cons (hhead.refill ⟨htype, some_rebuilt hbody hstatements, trivial⟩)
      (handlers_rebuilt htail fun t ht => hall t (List.mem_cons_of_mem _ ht))

theorem cases_rebuilt : {ts us : List Tree} → RebuiltCases ts us → AllAre .matchCase ts →
    AllAre .matchCase us
  | _, _, .nil, hall => hall
  | _, _, .cons hbody htail, hall => by
    have hhead := hall _ List.mem_cons_self
    obtain ⟨hpattern, hcondition, hstatements, -⟩ := hhead.fields
    exact .cons (hhead.refill ⟨hpattern, hcondition, some_rebuilt hbody hstatements, trivial⟩)
      (cases_rebuilt htail fun t ht => hall t (List.mem_cons_of_mem _ ht))

end

/-- A module stays a module when its imports are replaced. -/
theorem is_module_rebuilt {s : Option Span} {body body' : List Tree} (h : RebuiltAll body body')
    (his : Is .module (.node .module s [body])) : Is .module (.node .module s [body']) :=
  his.refill ⟨all_rebuilt h his.fields.1, trivial⟩

/-! ## What stays in a lowered tree -/

mutual

/-- Lowering leaves all but the imports and the names that they list. -/
theorem Replacing.kind_mem : {t u : Tree} → Replacing t u → t.isWellFormed = true →
    ∀ n ∈ t.nodes, isLowered n = false → n.category ≠ .importName → ∃ m ∈ u.nodes, m.kind = n.kind
  | .node k s fs, .node _ _ gs, .node h, hformed => by
    simp only [Tree.isWellFormed, Bool.and_eq_true] at hformed
    intro n hn hother hname
    rw [Tree.nodes] at hn
    rcases List.mem_cons.mp hn with rfl | hn
    · exact ⟨_, Tree.self_mem_nodes _, rfl⟩
    · obtain ⟨m, hm, hkind⟩ := h.kind_mem hformed.2 n hn hother hname
      exact ⟨m, List.mem_cons_of_mem _ hm, hkind⟩

theorem ReplacingFields.kind_mem : {fs gs : List (List Tree)} → ReplacingFields fs gs →
    Tree.areFieldsWellFormed fs = true → ∀ n ∈ nodesOfFields fs, isLowered n = false →
      n.category ≠ .importName → ∃ m ∈ nodesOfFields gs, m.kind = n.kind
  | _, _, .nil, _ => fun _ hn => absurd hn List.not_mem_nil
  | _, _, .cons hhead htail, hformed => by
    simp only [Tree.areFieldsWellFormed, Bool.and_eq_true] at hformed
    intro n hn hother hname
    rcases List.mem_append.mp hn with hn | hn
    · obtain ⟨m, hm, hkind⟩ := hhead.kind_mem hformed.1 n hn hother hname
      exact ⟨m, List.mem_append_left _ hm, hkind⟩
    · obtain ⟨m, hm, hkind⟩ := htail.kind_mem hformed.2 n hn hother hname
      exact ⟨m, List.mem_append_right _ hm, hkind⟩

theorem ReplacingAll.kind_mem : {ts us : List Tree} → ReplacingAll ts us →
    Tree.areWellFormed ts = true → ∀ n ∈ nodesOfAll ts, isLowered n = false →
      n.category ≠ .importName → ∃ m ∈ nodesOfAll us, m.kind = n.kind
  | _, _, .nil, _ => fun _ hn => absurd hn List.not_mem_nil
  | .node k s fs :: _, _, .put himport _ htail, hformed => by
    simp only [Tree.areWellFormed, Bool.and_eq_true] at hformed
    intro n hn hother hname
    rw [Tree.nodesOfAll_append]
    rcases List.mem_append.mp hn with hn | hn
    · -- all that is below an import are the names that it lists
      obtain ⟨aliases, rfl, haliases⟩ :=
        importNames_of_isImport hformed.1 (isImport_of_isLowered himport)
      rcases Tree.mem_nodes_node.mp hn with rfl | ⟨f, hf, hbelow⟩
      · rw [himport] at hother
        cases hother
      · obtain rfl := List.mem_singleton.mp hf
        obtain ⟨a, ha, hn⟩ := hbelow
        obtain ⟨name, asName, s, rfl⟩ := importName_eq (haliases.all a ha)
        rcases Tree.mem_nodes_node.mp hn with rfl | ⟨f, hf, -⟩
        · exact absurd rfl hname
        · cases hf
    · obtain ⟨m, hm, hkind⟩ := htail.kind_mem hformed.2 n hn hother hname
      exact ⟨m, List.mem_append_right _ hm, hkind⟩
  | _, _, .kept _ hhead htail, hformed => by
    simp only [Tree.areWellFormed, Bool.and_eq_true] at hformed
    intro n hn hother hname
    rcases List.mem_append.mp hn with hn | hn
    · obtain ⟨m, hm, hkind⟩ := hhead.kind_mem hformed.1 n hn hother hname
      exact ⟨m, List.mem_append_left _ hm, hkind⟩
    · obtain ⟨m, hm, hkind⟩ := htail.kind_mem hformed.2 n hn hother hname
      exact ⟨m, List.mem_append_right _ hm, hkind⟩

end

end Lowering

namespace Compile

open Lowering (Replacing)
open Tree (Is)

/-- No variable is named like a constant. -/
theorem constantName?_eq_none_iff {t : Tree} (hformed : t.isWellFormed = true) :
    constantName? t = none
      ↔ ∀ n ∈ t.nodes, ∀ id usage, n.kind = .name id usage → constantNames.contains id = false := by
  rw [constantName?, List.findSome?_eq_none_iff]
  constructor
  · intro h n hn id usage hkind
    have hthere : n.isMissing = false := by
      obtain ⟨k, s, fs⟩ := n
      obtain rfl : k = .name id usage := hkind
      rfl
    have hwalk : n ∈ t.walkNodes := (Tree.walkNodes_perm hformed).mem_iff.mpr
      (List.mem_filter.mpr ⟨hn, by rw [hthere]; rfl⟩)
    have hnone := h n hwalk
    rw [hkind] at hnone
    simpa using hnone
  · intro h n hn
    have hmem := (List.mem_filter.mp ((Tree.walkNodes_perm hformed).mem_iff.mp hn)).1
    split
    · next id usage hkind =>
      rw [h n hmem id usage hkind]
      rfl
    · rfl

theorem constantName?_of_replacing {t u : Tree} (h : Replacing t u) (ht : t.isWellFormed = true)
    (hu : u.isWellFormed = true) (hnone : constantName? u = none) : constantName? t = none := by
  rw [constantName?_eq_none_iff ht]
  intro n hn id usage hkind
  have hcategory : n.category = .expression := by rw [Tree.category, hkind]; rfl
  obtain ⟨m, hm, hsame⟩ := h.kind_mem ht n hn
    (Lowering.isLowered_of_category (by rw [hcategory]; nofun)) (by rw [hcategory]; nofun)
  exact (constantName?_eq_none_iff hu).mp hnone m hm id usage (hsame.trans hkind)

end Compile

namespace Check

open Lowering (RebuiltAll)

theorem forM_stmt (ctx : Context) (ts : List Tree) : ts.forM (stmt ctx) = stmts ctx ts := by
  induction ts with
  | nil => rfl
  | cons t ts ih =>
      rw [stmts, ← ih]
      rfl

/-- A module is sound if it is with its imports replaced, as long as no star stands inside. -/
theorem module_isOk_rebuilt {s : Option Span} {body body' : List Tree} (h : RebuiltAll body body')
    (hstars : Tree.starsFit false (.node .module s [body]) = true)
    (hsound : (module (.node .module s [body'])).isOk = true) :
    (module (.node .module s [body])).isOk = true := by
  obtain ⟨future, hfuture, hscope, state, hstmts⟩ := (module_isOk_iff _).mp hsound
  have hscope' : Scope.checkModule future (.node .module s [body']) = .ok () := by
    cases hcheck : Scope.checkModule future (.node .module s [body']) with
    | ok _ => rfl
    | error e => rw [hcheck] at hscope; cases hscope
  refine (module_isOk_iff _).mpr ⟨future, ?_, ?_, ?_⟩
  · exact (Future.scan_rebuilt h).symm.trans hfuture
  · rw [Scope.checkModule_rebuilt h hstars hscope']
    rfl
  · have hbeside : Context.Beside True future future { block := .module, future }
        { block := .module, future } := ⟨rfl, .nil, rfl⟩
    have halike := stmts_rebuilt h hbeside {} {} rfl
    rw [Tree.children, Tree.fields, List.flatten_singleton, forM_stmt] at hstmts
    rw [hstmts] at halike
    obtain ⟨⟨_, state'⟩, hread, -⟩ := halike.ok
    rw [Tree.children, Tree.fields, List.flatten_singleton, forM_stmt]
    exact ⟨state', hread⟩

end Check

namespace Compile

open DynamicImport (rename)
open Tree (Is)

variable {req : CompileRequest} {read t : Tree} {remarks : List Warning}

/-! ## What is accepted -/

theorem isOk_map {ε α β : Type} (f : α → β) (x : Except ε α) : (x.map f).isOk = x.isOk := by
  cases x <;> rfl

theorem check_isOk_iff : (check req t).isOk = true
    ↔ placesFit t = true ∧ constantName? t = none ∧ (Check.module t).isOk = true := by
  unfold check
  cases placesFit t with
  | false => exact iff_of_false Bool.false_ne_true fun h => Bool.false_ne_true h.1
  | true =>
      cases constantName? t with
      | some name => exact iff_of_false Bool.false_ne_true fun h => nomatch h.2.1
      | none =>
          cases Check.module t with
          | error e => exact iff_of_false Bool.false_ne_true fun h => nomatch h.2.2
          | ok warnings => exact iff_of_true rfl ⟨rfl, rfl, rfl⟩

/-- Can a tree be written, with a line map if one is wanted? -/
def CanBeWritten (req : CompileRequest) (t : Tree) : Prop :=
  ∃ text, t.print = .ok text ∧ (req.sourceMaps = true → (LineMap.build t text).isOk = true)

theorem finish_isOk_iff : (finish req t).isOk = true ↔ CanBeWritten req t := by
  unfold finish print CanBeWritten
  cases t.print with
  | error fault => exact iff_of_false Bool.false_ne_true fun ⟨_, h, _⟩ => nomatch h
  | ok text =>
      have hmap : (mapLines t text).isOk = (LineMap.build t text).isOk := by
        unfold mapLines
        cases LineMap.build t text with
        | ok map => rfl
        | error e => cases e <;> rfl
      change ((if req.sourceMaps = true then (mapLines t text).bind _ else _ :
        Except Failure (String × Option (List Nat)))).isOk = true ↔ _
      split
      · next hmaps =>
        constructor
        · intro h
          refine ⟨text, rfl, fun _ => ?_⟩
          rw [← hmap]
          cases hlines : mapLines t text with
          | error f => rw [hlines] at h; cases h
          | ok map => rfl
        · rintro ⟨_, heq, h⟩
          cases heq
          have hlines := hmap.trans (h hmaps)
          cases hresult : mapLines t text with
          | error f => rw [hresult] at hlines; cases hlines
          | ok map => rfl
      · next hmaps => exact iff_of_true rfl ⟨text, rfl, fun h => absurd h hmaps⟩

/-- The tree that a request without passes has to check. -/
def checkedTree (req : CompileRequest) (t : Tree) : Except Failure Tree :=
  if req.moduleMode then (lowering req).apply t else .ok t

theorem lower_of_lowering {u : Tree} (h : (lowering req).apply t = .ok u) :
    Lowering.lower ⟨req.file, req.source⟩ t = .ok u := by
  unfold lowering at h
  dsimp only at h
  split at h
  · next heq => rw [heq, Except.ok.inj h]
  · cases h

theorem applyPasses_outcome (hpasses : req.passes = []) :
    (applyPasses (allPasses req) t).outcome = checkedTree req t := by
  rw [allPasses, hpasses, checkedTree]
  split
  · rw [applyPasses]
    cases (lowering req).apply t with
    | error e => exact Script.outcome_bind_of_error rfl
    | ok u => exact Script.outcome_bind_of_ok rfl
  · rfl

/-- A request without passes is accepted if the tree is sound and can be written. -/
theorem compile_isOk_iff (hpasses : req.passes = []) (hread : parse req = .ok (read, remarks)) :
    (compile req).outcome.isOk = true ↔ ∃ t, checkedTree req (rename read) = .ok t
      ∧ (check req t.fillSpans).isOk = true ∧ CanBeWritten req t.fillSpans := by
  rw [(compile_eq_steps req).1, ← applyPasses_outcome hpasses]
  cases hpassed : (applyPasses (allPasses req) (rename read)).outcome with
  | error f =>
      have hchange : (change req (rename read)).outcome = .error f :=
        Script.outcome_bind_of_error hpassed
      rw [(steps_of_change_error hread hchange).1]
      exact iff_of_false Bool.false_ne_true fun ⟨_, h, _⟩ => nomatch h
  | ok t =>
      have hchange : (change req (rename read)).outcome
          = (check req t.fillSpans).map fun more => (t.fillSpans, more) := by
        refine (Script.outcome_bind_of_ok hpassed).trans ?_
        cases hcheck : check req t.fillSpans with
        | error f => exact Script.outcome_bind_of_error hcheck
        | ok more => exact Script.outcome_bind_of_ok hcheck
      cases hcheck : check req t.fillSpans with
      | error f =>
          rw [hcheck] at hchange
          rw [(steps_of_change_error hread hchange).1]
          refine iff_of_false Bool.false_ne_true ?_
          rintro ⟨_, h, hsound, -⟩
          cases h
          rw [hcheck] at hsound
          cases hsound
      | ok more =>
          rw [hcheck] at hchange
          rw [(steps_of_change_ok hread hchange).1, isOk_map, finish_isOk_iff]
          constructor
          · exact fun hwrite => ⟨t, rfl, by rw [hcheck]; rfl, hwrite⟩
          · rintro ⟨_, heq, -, hwrite⟩
            cases heq
            exact hwrite

/-! ## Modules as scripts -/

/-- When a module can run itself, if it can with its imports lowered. -/
theorem isOk_iff_of_lower {origin : Lowering.Origin} {t u : Tree} (his : Is .module t)
    (hwritten : ∀ n ∈ t.nodes, n.kind.listsAsWritten n.fields = true)
    (hlower : Lowering.lower origin t = .ok u) (hsound : (Check.module u).isOk = true) :
    (Check.module t).isOk = true ↔ t.starsFit false = true := by
  obtain ⟨s, body, body', rfl, rfl, hrebuilt⟩ :=
    Lowering.rebuiltAll_of_lower his hlower hwritten
  constructor
  · intro h
    obtain ⟨future, -, hscope, -⟩ := (Check.module_isOk_iff _).mp h
    cases hcheck : Scope.checkModule future (.node .module s [body]) with
    | error e => rw [hcheck] at hscope; cases hscope
    | ok _ => exact Scope.starsFit_of_checkModule hrebuilt his.fields.1 hcheck
  · exact fun hstars => Check.module_isOk_rebuilt hrebuilt hstars hsound

theorem print_of_lower {origin : Lowering.Origin} {t u : Tree} (his : Is .module t)
    (hwritten : ∀ n ∈ t.nodes, n.kind.listsAsWritten n.fields = true)
    (hlower : Lowering.lower origin t = .ok u) (hwrite : CanBeWritten req u) :
    ∃ text, t.print = .ok text := by
  obtain ⟨s, body, body', rfl, rfl, hrebuilt⟩ :=
    Lowering.rebuiltAll_of_lower his hlower hwritten
  obtain ⟨text, hprint, -⟩ := hwrite
  exact Tree.print_rebuilt hrebuilt hprint

/-- **When what is accepted as a module is accepted as a script.** The imports are then checked as
they stand. Whatever is asked of them has been asked of what lowering puts in, but for one thing: no
star may be listed inside of a function or a class. The places of listed names must be small
enough, too, since they are not there any more in the lowered tree; and if a line map is wanted, the
other text has to be mapped. -/
theorem script_accepts_iff (hmode : req.moduleMode = true) (hpasses : req.passes = [])
    (hread : Source.parse req.source = .ok (read, remarks)) (h : (compile req).outcome.isOk = true) :
    (compile { req with moduleMode := false }).outcome.isOk = true
      ↔ (rename read).starsFit false = true ∧ placesFit (rename read) = true
        ∧ (req.sourceMaps = true → ∀ text, (rename read).print = .ok text →
          (LineMap.build (rename read) text).isOk = true) := by
  have hparse : parse req = .ok (read, remarks) := by rw [parse, hread]
  have hwritten := DynamicImport.listsAsWritten_rename hread
  have his : Is .module (rename read) := by
    have hmodule := Source.parse_is hread
    rw [DynamicImport.rename_eq_renamed (Tree.placed_of_isWellFormed hmodule.2)]
    exact DynamicImport.is_renamed read .module hmodule
  obtain ⟨u, hu, hchecked, hwrite⟩ := (compile_isOk_iff hpasses hparse).mp h
  have hlower : Lowering.lower ⟨req.file, req.source⟩ (rename read) = .ok u := by
    rw [checkedTree, if_pos hmode] at hu
    exact lower_of_lowering hu
  have hreplacing := Lowering.replacing_of_lower his hlower
  have hu' : Is .module u := by
    obtain ⟨s, body, body', ht, rfl, hrebuilt⟩ :=
      Lowering.rebuiltAll_of_lower his hlower hwritten
    exact Lowering.is_module_rebuilt hrebuilt (ht ▸ his)
  have hfill : (rename read).fillSpans = rename read :=
    (Tree.placed_of_isWellFormed his.2).fillSpans
  rw [(Tree.placed_of_isWellFormed hu'.2).fillSpans] at hchecked hwrite
  obtain ⟨-, hnames, hsound⟩ := check_isOk_iff.mp hchecked
  have hnames' := constantName?_of_replacing hreplacing his.2 hu'.2 hnames
  obtain ⟨text', hprint'⟩ := print_of_lower his hwritten hlower hwrite
  have hasScript := @compile_isOk_iff { req with moduleMode := false } read remarks hpasses hparse
  rw [hasScript]
  constructor
  · rintro ⟨_, heq, hscript, text, hprint, hmap⟩
    cases heq
    rw [hfill] at hscript hprint hmap
    obtain ⟨hplaces, -, hsound'⟩ := check_isOk_iff.mp hscript
    refine ⟨(isOk_iff_of_lower his hwritten hlower hsound).mp hsound', hplaces, ?_⟩
    rintro hmaps _ hprint''
    rw [← Except.ok.inj (hprint.symm.trans hprint'')]
    exact hmap hmaps
  · rintro ⟨hstars, hplaces, hmap⟩
    have hsound' := (isOk_iff_of_lower his hwritten hlower hsound).mpr hstars
    refine ⟨_, rfl, ?_, ?_⟩
    · rw [hfill]
      exact check_isOk_iff.mpr ⟨hplaces, hnames', hsound'⟩
    · rw [hfill]
      exact ⟨text', hprint', fun hmaps => hmap hmaps text' hprint'⟩

/-- A source with a star where only modules may have one, to be compiled as a module. -/
def innerStar : CompileRequest where
  file := "/a.py"
  source := "def f():\n    from m import *\n"
  moduleMode := true

/-- The same source with the star in front. -/
def outerStar : CompileRequest :=
  { innerStar with source := "from m import *\ndef f():\n    pass\n" }

/-- What a source is read as, once its dynamic imports are renamed. -/
def renamed? (source : String) : Option Tree :=
  (Source.parse source).toOption.map fun r => rename r.1

theorem renamed?_eq_some {source : String} {t : Tree} (h : renamed? source = some t) :
    ∃ read remarks, Source.parse source = .ok (read, remarks) ∧ rename read = t := by
  unfold renamed? at h
  cases hparse : Source.parse source with
  | error e => rw [hparse] at h; cases h
  | ok r =>
      rw [hparse] at h
      exact ⟨r.1, r.2, rfl, Option.some.inj h⟩

/-- Both sources are accepted as modules, but only the one with the star in front as a script. -/
theorem script_refuses_inner_star :
    (compile innerStar).outcome.isOk = true
      ∧ (compile { innerStar with moduleMode := false }).outcome.isOk ≠ true
      ∧ (compile outerStar).outcome.isOk = true
      ∧ (compile { outerStar with moduleMode := false }).outcome.isOk = true := by
  have hinner : (compile innerStar).outcome.isOk = true := by decide +kernel
  have houter : (compile outerStar).outcome.isOk = true := by decide +kernel
  have hinnerTree : (renamed? innerStar.source).map (·.starsFit false) = some false := by
    decide +kernel
  have houterTree : (renamed? outerStar.source).map (fun t => (t.starsFit false, placesFit t))
      = some (true, true) := by
    decide +kernel
  obtain ⟨t, ht, hstars⟩ := Option.map_eq_some_iff.mp hinnerTree
  obtain ⟨t', ht', hfacts⟩ := Option.map_eq_some_iff.mp houterTree
  obtain ⟨read, remarks, hread, rfl⟩ := renamed?_eq_some ht
  obtain ⟨read', remarks', hread', rfl⟩ := renamed?_eq_some ht'
  simp only [Prod.mk.injEq] at hfacts
  refine ⟨hinner, fun hscript => ?_, houter, ?_⟩
  · have hfit := ((script_accepts_iff rfl rfl hread hinner).mp hscript).1
    rw [hstars] at hfit
    cases hfit
  · exact (script_accepts_iff rfl rfl hread' houter).mpr
      ⟨hfacts.1, hfacts.2, fun hmaps => nomatch hmaps⟩

end Compile

end SourceLoader
