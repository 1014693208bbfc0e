import SourceLoader.Proofs.Places.Statements
import SourceLoader.Proofs.PutScopes
import SourceLoader.Proofs.Rebuilt

/-!
# Checks of a lowered module

A statement whose imports are replaced is checked as the statement itself: what is put in binds the
same names and adds nothing that could be refused (`stmts_put`), and it neither waits nor yields
(`reachesAny_rebuilt`), so that functions stay of the kind that they are. So a module passes the
check of its statements if it passes it with its imports replaced (`stmts_rebuilt`).
-/

namespace SourceLoader

namespace Check

open Lowering
open Tree (SomeAre moved relocate)

/-! ## What waits and what yields -/

theorem reachesAny_append (waits : Bool) (ts us : List Tree) :
    reachesAny waits (ts ++ us) = (reachesAny waits ts || reachesAny waits us) := by
  induction ts with
  | nil => rfl
  | cons t ts ih => rw [List.cons_append, reachesAny, reachesAny, ih, Bool.or_assoc]

theorem reachesAny_eq_false {waits : Bool} {ts : List Tree}
    (h : ∀ t ∈ ts, reaches waits t = false) : reachesAny waits ts = false := by
  induction ts with
  | nil => rfl
  | cons t ts ih =>
      rw [reachesAny, h t List.mem_cons_self, ih fun u hu => h u (List.mem_cons_of_mem _ hu),
        Bool.or_false]

/-- A statement that is put in neither waits nor yields. -/
theorem reaches_form (waits : Bool) (span : Option Span) (form : Form) :
    reaches waits (form.statement.relocate span) = false := by
  rw [Tree.relocate_eq_moved, (reaches_moved_all waits).1]
  cases form <;> cases waits <;> rfl

theorem reachesAny_put (waits : Bool) {kind : Kind} (span : Option Span) {aliases : List Tree}
    (haliases : SomeAre .importName aliases) :
    reachesAny waits ((aliases.map (statementFor kind)).map (relocate span)) = false := by
  rw [List.map_map]
  refine reachesAny_eq_false fun u hu => ?_
  obtain ⟨a, ha, rfl⟩ := List.mem_map.mp hu
  obtain ⟨name, asName, s, rfl⟩ := importName_eq (haliases.all a ha)
  exact reaches_form waits span (formOf kind name asName)

theorem reaches_import (waits : Bool) {kind : Kind} {span : Option Span} {aliases : List Tree}
    (himport : isLowered (.node kind span [aliases]) = true)
    (haliases : SomeAre .importName aliases) :
    reaches waits (.node kind span [aliases]) = false := by
  have hnames : reachesAny waits aliases = false := by
    refine reachesAny_eq_false fun a ha => ?_
    obtain ⟨name, asName, s, rfl⟩ := importName_eq (haliases.all a ha)
    rfl
  cases kind <;> first | cases himport | skip
  all_goals
    rw [reaches, reachesFields, hnames]
    · rfl
    all_goals (intros; contradiction)

mutual

theorem reaches_rebuilt (waits : Bool) : {t u : Tree} → Rebuilt t u →
    reaches waits u = reaches waits t
  | _, _, .same _ => rfl
  | _, _, .functionDef _ => by rw [reaches, reaches]
  | _, _, .classDef _ => by rw [reaches, reaches]
  | _, _, .forLoop hbody hotherwise => by
    rw [reaches, reaches]
    · simp only [reachesFields, reachesAny_rebuilt waits hbody, reachesAny_rebuilt waits hotherwise]
    all_goals (intros; contradiction)
  | _, _, .whileLoop hbody hotherwise => by
    rw [reaches, reaches]
    · simp only [reachesFields, reachesAny_rebuilt waits hbody, reachesAny_rebuilt waits hotherwise]
    all_goals (intros; contradiction)
  | _, _, .ifStmt hbody hotherwise => by
    rw [reaches, reaches]
    · simp only [reachesFields, reachesAny_rebuilt waits hbody, reachesAny_rebuilt waits hotherwise]
    all_goals (intros; contradiction)
  | _, _, .withStmt hbody => by
    rw [reaches, reaches]
    · simp only [reachesFields, reachesAny_rebuilt waits hbody]
    all_goals (intros; contradiction)
  | _, _, .matchStmt hcases => by
    rw [reaches, reaches]
    · simp only [reachesFields, reachesAny_rebuiltCases waits hcases]
    all_goals (intros; contradiction)
  | _, _, .tryStmt hbody hhandlers hotherwise hfinal => by
    rw [reaches, reaches]
    · simp only [reachesFields, reachesAny_rebuilt waits hbody,
        reachesAny_rebuiltHandlers waits hhandlers, reachesAny_rebuilt waits hotherwise,
        reachesAny_rebuilt waits hfinal]
    all_goals (intros; contradiction)

/-- Replaced imports change nothing in what waits and what yields. -/
theorem reachesAny_rebuilt (waits : Bool) : {ts us : List Tree} → RebuiltAll ts us →
    reachesAny waits us = reachesAny waits ts
  | _, _, .nil => rfl
  | _, _, .put himport haliases _ htail => by
    rw [reachesAny_append, reachesAny_put waits _ haliases, reachesAny,
      reaches_import waits himport haliases, reachesAny_rebuilt waits htail]
  | _, _, .kept _ hhead htail => by
    rw [reachesAny, reachesAny, reaches_rebuilt waits hhead, reachesAny_rebuilt waits htail]

theorem reachesAny_rebuiltHandlers (waits : Bool) : {ts us : List Tree} → RebuiltHandlers ts us →
    reachesAny waits us = reachesAny waits ts
  | _, _, .nil => rfl
  | _, _, .cons hbody htail => by
    rw [reachesAny, reachesAny, reachesAny_rebuiltHandlers waits htail, reaches, reaches]
    · simp only [reachesFields, reachesAny_rebuilt waits hbody]
    all_goals (intros; contradiction)

theorem reachesAny_rebuiltCases (waits : Bool) : {ts us : List Tree} → RebuiltCases ts us →
    reachesAny waits us = reachesAny waits ts
  | _, _, .nil => rfl
  | _, _, .cons hbody htail => by
    rw [reachesAny, reachesAny, reachesAny_rebuiltCases waits htail, reaches, reaches]
    · simp only [reachesFields, reachesAny_rebuilt waits hbody]
    all_goals (intros; contradiction)

end

/-! ## What is put in -/

section

variable (ctx : Context) (span : Option Span)

theorem stmt_whole (name specifier : String) :
    stmt ctx ((Form.whole name specifier).statement.relocate span)
      = mayUse (span.getD default) .store name := by
  show (do mayUse (span.getD default) .store name; return ()) = _
  exact bind_pure_unit

theorem stmt_member (name specifier part : String) :
    stmt ctx ((Form.member name specifier part).statement.relocate span)
      = mayUse (span.getD default) .store name := by
  show (do mayUse (span.getD default) .store name; return ()) = _
  exact bind_pure_unit

theorem stmts_append (ts us : List Tree) :
    stmts ctx (ts ++ us) = (do stmts ctx ts; stmts ctx us) := by
  induction ts with
  | nil => rfl
  | cons t ts ih =>
      rw [List.cons_append, stmts, stmts, ih]
      exact (bind_assoc _ _ _).symm

/-- What stands for the names of an import binds what the import binds. -/
theorem stmts_put (span' : Span) {kind : Kind} {aliases : List Tree}
    (haliases : ∀ a ∈ aliases, Tree.Is .importName a)
    (hbinds : ∀ name asName s fs, .node (.alias name asName) s fs ∈ aliases →
      StarOrWord kind name asName) :
    Alike True (stmts ctx ((aliases.map (statementFor kind)).map (relocate span)))
      (bindAliases span' aliases) := by
  induction aliases with
  | nil => exact alike_done
  | cons a aliases ih =>
      obtain ⟨name, asName, s, rfl⟩ := importName_eq (haliases a List.mem_cons_self)
      have hrest := ih (fun b hb => haliases b (List.mem_cons_of_mem _ hb))
        fun name asName s fs hb => hbinds name asName s fs (List.mem_cons_of_mem _ hb)
      rw [List.map_cons, List.map_cons, stmts, bindAliases]
      refine Alike.seq ?_ hrest
      change Alike True (stmt ctx ((formOf kind name asName).statement.relocate span)) _
      rcases hbinds name asName s [] List.mem_cons_self with
        ⟨rfl, rfl, m, level, rfl⟩ | ⟨hname, hword⟩
      · exact alike_done
      rw [Scope.boundPart_of_isWord hword]
      rcases formOf_word kind asName hname with ⟨_, heq⟩ | ⟨_, _, heq⟩
      · rw [heq, stmt_whole]
        exact alike_mayUse _ _ _ _
      · rw [heq, stmt_member]
        exact alike_mayUse _ _ _ _

end

/-- The check of an import, and of what stands for it. -/
theorem stmt_import {kind : Kind} {span : Option Span} {aliases : List Tree} {ctx ctx' : Context}
    (himport : isLowered (.node kind span [aliases]) = true)
    (haliases : SomeAre .importName aliases)
    (hbinds : ∀ name asName s fs, .node (.alias name asName) s fs ∈ aliases →
      StarOrWord kind name asName) :
    Alike True (stmts ctx ((aliases.map (statementFor kind)).map (relocate span)))
      (stmt ctx' (.node kind span [aliases])) := by
  have hput := stmts_put ctx span (span.getD default) haliases.all hbinds
  cases kind <;> first | cases himport | skip
  · rw [stmt]
    exact hput
  · rename_i module level
    have hother : module ≠ some Dependencies.futureModule := by
      simpa [isLowered] using himport
    rw [stmt]
    simp only [hother, decide_false, Bool.false_and]
    exact hput

/-! ## What stays -/

section

variable {future : Future} {ctx ctx' : Context}

namespace Context.Beside

variable (h : Context.Beside True future future ctx ctx')

include h

theorem expr_self (t : Tree) : Alike True (Check.expr ctx t) (Check.expr ctx' t) := by
  have hself := h.expr (p := fun _ s => s) t
  rwa [Tree.moved_id] at hself

theorem exprs_self (ts : List Tree) : Alike True (Check.exprs ctx ts) (Check.exprs ctx' ts) := by
  have hself := h.exprs (p := fun _ s => s) ts
  rwa [Tree.map_moved_id] at hself

theorem elementsOf_self (ts : List Tree) :
    Alike True (Check.elementsOf ctx ts) (Check.elementsOf ctx' ts) := by
  have hself := h.elementsOf (p := fun _ s => s) ts
  rwa [Tree.map_moved_id] at hself

theorem pattern_self (last : Bool) (t : Tree) :
    Alike True (Check.pattern ctx last t) (Check.pattern ctx' last t) := by
  have hself := h.pattern (p := fun _ s => s) last t
  rwa [Tree.moved_id] at hself

theorem signature_self (arguments : Tree) (result : List Tree) :
    Alike True (Check.signature ctx arguments result) (Check.signature ctx' arguments result) := by
  have hself := h.signature (p := fun _ s => s) rfl arguments result
  rwa [Tree.moved_id, Tree.map_moved_id] at hself

theorem withItems_self (span : Span) (ts : List Tree) :
    Same True (Context.Beside True future future) (Check.withItems ctx span ts)
      (Check.withItems ctx' span ts) := by
  have hself := alike_withItems (p := fun _ s => s) h span span ts
  rwa [Tree.map_moved_id] at hself

theorem stmt_self (t : Tree) : Alike True (Check.stmt ctx t) (Check.stmt ctx' t) := by
  have hkept : KeepsFuture (fun _ s => s) True future future :=
    ⟨rfl, fun _ _ hlate => hlate, fun _ _ hlate => .inl hlate⟩
  have hself := (stmt_alike_all hkept).1 ctx t ctx' h
  rwa [Tree.moved_id] at hself

end Context.Beside

theorem alike_checkKeywords_self (span : Span) (ts : List Tree) :
    Alike True (checkKeywords span ts) (checkKeywords span ts) := by
  have hself : Alike True (checkKeywords span ts)
      (checkKeywords span (ts.map (Tree.moved fun _ s => s))) := alike_checkKeywords span span ts
  rwa [Tree.map_moved_id] at hself

theorem alike_checkParameters_self (span : Span) (arguments : Tree) :
    Alike True (checkParameters span arguments) (checkParameters span arguments) := by
  have hself : Alike True (checkParameters span arguments)
      (checkParameters span (arguments.moved fun _ s => s)) :=
    alike_checkParameters span span arguments
  rwa [Tree.moved_id] at hself

/-! ## What is rebuilt -/

mutual

theorem stmt_rebuilt : {t u : Tree} → Rebuilt t u → ∀ {ctx ctx' : Context},
    Context.Beside True future future ctx ctx' → Alike True (stmt ctx u) (stmt ctx' t)
  | _, _, .same _, _, _, h => h.stmt_self _
  | _, _, .functionDef hbody, _, _, h => by
    rw [stmt, stmt, reachesAny_rebuilt false hbody, reachesAny_rebuilt true hbody]
    exact (alike_checkParameters_self _ _).seq ((h.exprs_self _).seq ((h.signature_self _ _).seq
      ((stmts_rebuilt hbody (h.fresh _ _ _)).seq (alike_mayUse _ _ _ _))))
  | _, _, .classDef hbody, _, _, h => by
    rw [stmt, stmt]
    exact (h.exprs_self _).seq ((stmts_rebuilt hbody (h.fresh _ _ _)).seq
      ((alike_checkKeywords_self _ _).seq ((h.elementsOf_self _).seq ((h.exprs_self _).seq
        (alike_mayUse _ _ _ _)))))
  | _, _, .forLoop hbody hotherwise, _, _, h => by
    rw [stmt, stmt, h.block_eq]
    exact alike_unless (Agree.bind (h.pushLoop _ _) fun c c' hc => (h.expr_self _).seq
      ((h.expr_self _).seq ((stmts_rebuilt hbody hc).seq (stmts_rebuilt hotherwise h))))
  | _, _, .whileLoop hbody hotherwise, _, _, h => by
    rw [stmt, stmt]
    exact Agree.bind (h.pushLoop _ _) fun c c' hc => (h.expr_self _).seq
      ((stmts_rebuilt hbody hc).seq ((h.expr_self _).seq (stmts_rebuilt hotherwise h)))
  | _, _, .ifStmt hbody hotherwise, _, _, h => by
    rw [stmt, stmt]
    exact (h.expr_self _).seq ((stmts_rebuilt hbody h).seq (stmts_rebuilt hotherwise h))
  | _, _, .withStmt hbody, _, _, h => by
    rw [stmt, stmt, h.block_eq]
    exact alike_unless (Agree.bind (h.withItems_self _ _) fun c c' hc => stmts_rebuilt hbody hc)
  | _, _, .matchStmt hcases, _, _, h => by
    rw [stmt, stmt]
    exact (h.expr_self _).seq (casesOf_rebuilt hcases h)
  | _, _, .tryStmt hbody hhandlers hotherwise hfinal, _, _, h => by
    rw [stmt, stmt, hfinal.isEmpty_eq, hhandlers.isEmpty_eq]
    have hparts : ∀ {c c'}, Context.Beside True future future c c' → ∀ span star,
        Alike True (handled c span star (stmts · _) (handlersOf · star _) (stmts · _))
          (handled c' span star (stmts · _) (handlersOf · star _) (stmts · _)) :=
      fun hc span star => hc.handled (fun _ _ => stmts_rebuilt hbody)
        (fun _ _ => handlersOf_rebuilt hhandlers) (fun _ _ => stmts_rebuilt hotherwise) span span
        star
    refine Agree.ite (fun _ => hparts h _ _) fun _ =>
      Agree.bind (h.pushFinal (stmts_rebuilt hfinal h) _ _) fun c c' hc => ?_
    have hlast := fun span : Span => (stmts_rebuilt hfinal h).seq
      (Agree.bind (h.pushPlain span span) fun _ _ => stmts_rebuilt hfinal)
    exact Agree.ite (fun _ => (stmts_rebuilt hbody hc).seq (hlast _)) fun _ =>
      (hparts hc _ _).seq (hlast _)

/-- Replaced imports are checked as the imports are, and may only be checked more strictly. -/
theorem stmts_rebuilt : {ts us : List Tree} → RebuiltAll ts us → ∀ {ctx ctx' : Context},
    Context.Beside True future future ctx ctx' → Alike True (stmts ctx us) (stmts ctx' ts)
  | _, _, .nil, _, _, _ => alike_done
  | _, _, .put himport haliases hbinds htail, _, _, h => by
    rw [stmts_append, stmts]
    exact (stmt_import himport haliases hbinds).seq (stmts_rebuilt htail h)
  | _, _, .kept _ hhead htail, _, _, h => by
    rw [stmts, stmts]
    exact (stmt_rebuilt hhead h).seq (stmts_rebuilt htail h)

theorem handlersOf_rebuilt {star : Bool} : {ts us : List Tree} → RebuiltHandlers ts us →
    ∀ {ctx ctx' : Context}, Context.Beside True future future ctx ctx' →
      Alike True (handlersOf ctx star us) (handlersOf ctx' star ts)
  | _, _, .nil, _, _, _ => alike_done
  | _, _, .cons hbody htail, _, _, h => by
    rw [handlersOf, handlersOf, htail.isEmpty_eq]
    exact alike_unless ((h.exprs_self _).seq (Alike.seq (agree_forM fun _ _ => alike_mayUse _ _ _ _)
      (Agree.bind (h.pushPlain _ _) fun c c' hc => (stmts_rebuilt hbody hc).seq
        (handlersOf_rebuilt htail h))))

theorem casesOf_rebuilt : {ts us : List Tree} → RebuiltCases ts us → ∀ {ctx ctx' : Context},
    Context.Beside True future future ctx ctx' → Alike True (casesOf ctx us) (casesOf ctx' ts)
  | _, _, .nil, _, _, _ => alike_done
  | _, _, .cons hbody htail, _, _, h => by
    rw [casesOf, casesOf, htail.isEmpty_eq]
    exact (alike_setStores _).seq ((h.pattern_self _ _).seq ((h.exprs_self _).seq
      ((stmts_rebuilt hbody h).seq (casesOf_rebuilt htail h))))

end

end

end Check

namespace Future

open Lowering

variable {isOver : Bool} {line : Nat} {future : Future} {t : Tree} {ts us : List Tree}

/-- What is neither a documentation nor an import of `__future__` ends the beginning of a module. -/
theorem scan_other (hdoc : isDocumentation t = false) (hother : isFutureImport t = false) :
    scan isOver line future (t :: ts)
      = if isOver && t.span.line > line then .ok future else scan true t.span.line future ts := by
  rw [scan.eq_def]
  dsimp only
  congr 1
  split
  · rename_i module level s aliases
    exact if_neg (by simpa [isFutureImport, Tree.kind] using hother)
  · rw [hdoc, Bool.not_false, Bool.or_true]

theorem scan_cons_congr
    (h : ∀ isOver line future, scan isOver line future us = scan isOver line future ts) :
    scan isOver line future (t :: us) = scan isOver line future (t :: ts) := by
  unfold scan
  simp only [h]

/-- Statements at one place, none of which can stand at the beginning, count as one. -/
theorem scan_put {span : Option Span} (hus : us ≠ []) (hspan : ∀ u ∈ us, u.span? = span)
    (hdoc : ∀ u ∈ us, isDocumentation u = false) (hother : ∀ u ∈ us, isFutureImport u = false) :
    scan isOver line future (us ++ ts)
      = if isOver && (span.getD default).line > line then .ok future
        else scan true (span.getD default).line future ts := by
  induction us generalizing isOver line with
  | nil => exact absurd rfl hus
  | cons u us ih =>
      have hplace : u.span = span.getD default := by
        rw [← hspan u List.mem_cons_self]
        rfl
      rw [List.cons_append, scan_other (hdoc u List.mem_cons_self) (hother u List.mem_cons_self),
        hplace]
      congr 1
      by_cases hnil : us = []
      · rw [hnil, List.nil_append]
      rw [ih hnil (fun v hv => hspan v (List.mem_cons_of_mem _ hv))
        (fun v hv => hdoc v (List.mem_cons_of_mem _ hv))
        (fun v hv => hother v (List.mem_cons_of_mem _ hv))]
      simp

/-- What stands for a listed name is neither a documentation nor an import. -/
theorem form_begins (form : Form) (span : Option Span) :
    (form.statement.relocate span).span? = span
      ∧ isDocumentation (form.statement.relocate span) = false
      ∧ isFutureImport (form.statement.relocate span) = false := by
  cases form <;> exact ⟨rfl, rfl, rfl⟩

/-- Replaced imports end the beginning of a module as the imports do. -/
theorem scan_rebuilt (h : RebuiltAll ts us) :
    scan isOver line future us = scan isOver line future ts := by
  induction ts generalizing us isOver line future with
  | nil => cases h; rfl
  | cons t ts ih =>
      cases h with
      | @put k span aliases _ us himport haliases _ htail =>
          have hforms : ∀ u ∈ (aliases.map (statementFor k)).map (Tree.relocate span),
              ∃ form : Form, u = form.statement.relocate span := by
            intro u hu
            rw [List.map_map] at hu
            obtain ⟨a, ha, rfl⟩ := List.mem_map.mp hu
            obtain ⟨name, asName, s, rfl⟩ := importName_eq (haliases.all a ha)
            exact ⟨formOf k name asName, rfl⟩
          rw [scan_put (by simpa using haliases.1), ih htail,
            scan_other (isDocumentation_of_isLowered himport)
              (not_isFutureImport_of_isLowered himport)]
          · rfl
          all_goals
            intro u hu
            obtain ⟨form, rfl⟩ := hforms u hu
          · exact (form_begins form span).1
          · exact (form_begins form span).2.1
          · exact (form_begins form span).2.2
      | kept _ hhead htail =>
          rcases hhead.eq_or with rfl | ⟨hflat, hkind, hspan⟩
          · exact scan_cons_congr fun _ _ _ => ih htail
          · have hflat' := hkind ▸ hflat
            rw [scan_other (isDocumentation_of_not_isFlat hflat)
                (isFutureImport_of_not_isFlat hflat),
              scan_other (isDocumentation_of_not_isFlat hflat')
                (isFutureImport_of_not_isFlat hflat'), ih htail, Tree.span, Tree.span, hspan]

end Future

end SourceLoader
