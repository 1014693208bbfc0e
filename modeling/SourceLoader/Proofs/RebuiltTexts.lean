import SourceLoader.Proofs.Rebuilt

/-!
# Texts of a lowered module

A module can be written if it can be with its imports replaced: an import can always be written, and
the rest of the two is written alike (`print_rebuilt`).
-/

namespace SourceLoader

namespace Printer

open Lowering
open Tree (AllAre SomeAre)

/-! ## What can be written -/

/-- The second can be written if the first can. -/
def Follows {α β : Type} (x : Except PrintFault α) (y : Except PrintFault β) : Prop :=
  ∀ a, x = .ok a → ∃ b, y = .ok b

section

variable {α β γ δ : Type} {x : Except PrintFault α} {y : Except PrintFault β}

theorem Follows.refl : Follows x x := fun a h => ⟨a, h⟩

theorem follows_pure (a : α) (b : β) : Follows (pure a) (pure b) := fun _ _ => ⟨b, rfl⟩

theorem Follows.bind {f : α → Except PrintFault γ} {g : β → Except PrintFault δ}
    (hx : Follows x y) (hf : ∀ a b, Follows (f a) (g b)) : Follows (x >>= f) (y >>= g) := by
  intro c h
  cases hxa : x with
  | error e => rw [hxa] at h; cases h
  | ok a =>
      obtain ⟨b, hyb⟩ := hx a hxa
      rw [hxa] at h
      obtain ⟨d, hd⟩ := hf a b c h
      exact ⟨d, by rw [hyb]; exact hd⟩

/-- The same step comes first in both. -/
theorem Follows.step {f : α → Except PrintFault γ} {g : α → Except PrintFault δ}
    (hf : ∀ a, Follows (f a) (g a)) : Follows (x >>= f) (x >>= g) := by
  intro c h
  cases hxa : x with
  | error e => rw [hxa] at h; cases h
  | ok a =>
      rw [hxa] at h
      exact hf a c h

end

/-! ## Imports -/

section

variable {depth : Nat} {inGroups : Bool} {groups : Option Bool} {ts us : List Tree}

theorem exprs_importNames {plain : Bool} {ps : List Precedence} (h : AllAre .importName ts) :
    ∃ ss, exprs plain ps ts = .ok ss := by
  induction ts generalizing ps with
  | nil => exact ⟨[], by rw [exprs]; rfl⟩
  | cons a ts ih =>
      obtain ⟨name, asName, s, rfl⟩ := importName_eq (h a List.mem_cons_self)
      obtain ⟨ss, hss⟩ : ∃ ss, exprs plain ps.tail ts = .ok ss :=
        ih fun b hb => h b (List.mem_cons_of_mem _ hb)
      have halias : ∃ w, expr plain (ps.headD .test) (.node (.alias name asName) s []) = .ok w :=
        ⟨_, rfl⟩
      obtain ⟨w, hw⟩ := halias
      rw [exprs, hw, hss]
      exact ⟨_, rfl⟩

/-- An import can always be written. -/
theorem statement_import {kind : Kind} {span : Option Span} {aliases : List Tree}
    (himport : isLowered (.node kind span [aliases]) = true)
    (haliases : AllAre .importName aliases) :
    ∃ ls, statement depth inGroups (.node kind span [aliases]) = .ok ls := by
  obtain ⟨ss, hss⟩ : ∃ ss, exprs false [] aliases = .ok ss := exprs_importNames haliases
  cases kind <;> first | cases himport | skip
  all_goals
    rw [statement, hss]
    exact ⟨_, rfl⟩

/-- Statements can be written only if those behind some of them can. -/
theorem statements_of_append {ls : List String}
    (h : statements depth inGroups groups (us ++ ts) = .ok ls) :
    ∃ ls', statements depth inGroups groups ts = .ok ls' := by
  induction us generalizing ls with
  | nil => exact ⟨ls, h⟩
  | cons u us ih =>
      rw [List.cons_append, statements] at h
      cases hu : statement depth (groups.getD inGroups) u with
      | error e => rw [hu] at h; cases h
      | ok first =>
          rw [hu] at h
          change (statements depth inGroups groups (us ++ ts)).bind _ = _ at h
          cases hrest : statements depth inGroups groups (us ++ ts) with
          | error e => rw [hrest] at h; cases h
          | ok rest => exact ih hrest

theorem follows_put {kind : Kind} {span : Option Span} {aliases : List Tree}
    (himport : isLowered (.node kind span [aliases]) = true)
    (haliases : AllAre .importName aliases) (ws : List Tree)
    (h : Follows (statements depth inGroups groups us) (statements depth inGroups groups ts)) :
    Follows (statements depth inGroups groups (ws ++ us))
      (statements depth inGroups groups (.node kind span [aliases] :: ts)) := by
  intro ls hls
  obtain ⟨first, hfirst⟩ : ∃ ls, statement depth (groups.getD inGroups)
      (.node kind span [aliases]) = .ok ls := statement_import himport haliases
  obtain ⟨_, hus⟩ := statements_of_append hls
  obtain ⟨_, hts⟩ := h _ hus
  rw [statements, hfirst, hts]
  exact ⟨_, rfl⟩

/-! ## Bodies -/

/-- A body that begins with no documentation is written as its statements. -/
theorem documented_other {t : Tree} (h : documentation? t = none) :
    documented depth inGroups (t :: ts) = statements depth inGroups none (t :: ts) := by
  rw [documented, statements, h]
  rfl

theorem follows_documented {t u : Tree} (ht : documentation? t = none)
    (hu : documentation? u = none) (h : Follows (statements depth inGroups none (u :: us))
      (statements depth inGroups none (t :: ts))) :
    Follows (documented depth inGroups (u :: us)) (documented depth inGroups (t :: ts)) := by
  rwa [documented_other ht, documented_other hu]

theorem documentation?_of_not_isFlat {t : Tree} (h : t.kind.isFlat = false) :
    documentation? t = none := by
  unfold documentation?
  split
  · cases h
  · rfl

theorem documentation?_of_isLowered {t : Tree} (h : isLowered t = true) :
    documentation? t = none := by
  unfold documentation?
  split
  · cases h
  · rfl

theorem documentation?_form (form : Form) (span : Option Span) :
    documentation? (form.statement.relocate span) = none := by
  cases form <;> rfl

/-- Other branches than one choice are written as statements. -/
theorem otherwiseLines_other {t : Tree} (h : t.kind ≠ .ifStmt ∨ ts ≠ []) :
    otherwiseLines depth inGroups (t :: ts) = (do
      let ls ← statements (depth + 1) inGroups none (t :: ts)
      return line depth "else:" :: ls) := by
  rw [otherwiseLines, statements]
  · simp only [bind_assoc, pure_bind, Option.getD_none, List.cons_append]
  · rintro s test body otherwise rfl rfl
    exact h.elim (fun hkind => hkind rfl) fun hts => hts rfl

theorem follows_otherwise {t u : Tree} (ht : t.kind ≠ .ifStmt ∨ ts ≠ [])
    (hu : u.kind ≠ .ifStmt ∨ us ≠ []) (h : Follows (statements (depth + 1) inGroups none (u :: us))
      (statements (depth + 1) inGroups none (t :: ts))) :
    Follows (otherwiseLines depth inGroups (u :: us))
      (otherwiseLines depth inGroups (t :: ts)) := by
  rw [otherwiseLines_other ht, otherwiseLines_other hu]
  exact h.bind fun _ _ => follows_pure _ _

section

variable {kind : Kind} {span : Option Span} {aliases : List Tree}
  (himport : isLowered (.node kind span [aliases]) = true) (haliases : SomeAre .importName aliases)

include himport haliases

/-- What is put in begins with a statement of one of the forms. -/
theorem put_eq_cons : ∃ (form : Form) (ws : List Tree),
    (aliases.map (statementFor kind)).map (Tree.relocate span)
      = form.statement.relocate span :: ws := by
  rcases aliases with _ | ⟨a, aliases⟩
  · exact absurd rfl haliases.1
  · obtain ⟨name, asName, s, rfl⟩ := importName_eq (haliases.all a List.mem_cons_self)
    exact ⟨formOf kind name asName, _, rfl⟩

theorem documented_put
    (h : Follows (statements depth inGroups none us) (statements depth inGroups none ts)) :
    Follows (documented depth inGroups
        ((aliases.map (statementFor kind)).map (Tree.relocate span) ++ us))
      (documented depth inGroups (.node kind span [aliases] :: ts)) := by
  have hput := follows_put himport haliases.all
    ((aliases.map (statementFor kind)).map (Tree.relocate span)) h
  obtain ⟨form, ws, heq⟩ := put_eq_cons himport haliases
  rw [heq] at hput ⊢
  exact follows_documented (documentation?_of_isLowered himport) (documentation?_form form span)
    hput

theorem otherwise_put (h : Follows (statements (depth + 1) inGroups none us)
      (statements (depth + 1) inGroups none ts)) :
    Follows (otherwiseLines depth inGroups
        ((aliases.map (statementFor kind)).map (Tree.relocate span) ++ us))
      (otherwiseLines depth inGroups (.node kind span [aliases] :: ts)) := by
  have hput := follows_put himport haliases.all
    ((aliases.map (statementFor kind)).map (Tree.relocate span)) h
  obtain ⟨form, ws, heq⟩ := put_eq_cons himport haliases
  rw [heq] at hput ⊢
  refine follows_otherwise (.inl ?_) (.inl ?_) hput
  · rintro (rfl : kind = _)
    cases himport
  · cases form <;> nofun

end

end

/-! ## What is rebuilt -/

mutual

theorem statement_rebuilt : {t u : Tree} → Rebuilt t u → ∀ (depth : Nat) (inGroups : Bool),
    Follows (statement depth inGroups u) (statement depth inGroups t)
  | _, _, .same _, _, _ => .refl
  | _, _, .functionDef hbody, depth, inGroups => by
    rw [statement, statement]
    exact .step fun _ => .step fun _ => .step fun _ =>
      (documented_rebuilt hbody _ _).bind fun _ _ => follows_pure _ _
  | _, _, .classDef hbody, depth, inGroups => by
    rw [statement, statement]
    exact .step fun _ => .step fun _ => .step fun _ =>
      (documented_rebuilt hbody _ _).bind fun _ _ => follows_pure _ _
  | _, _, .forLoop hbody hotherwise, depth, inGroups => by
    rw [statement, statement]
    exact .step fun _ => .step fun _ => (statements_rebuilt hbody _ _ _).bind fun _ _ =>
      (statements_rebuilt hotherwise _ _ _).bind fun _ _ => follows_pure _ _
  | _, _, .whileLoop hbody hotherwise, depth, inGroups => by
    rw [statement, statement]
    exact .step fun _ => (statements_rebuilt hbody _ _ _).bind fun _ _ =>
      (statements_rebuilt hotherwise _ _ _).bind fun _ _ => follows_pure _ _
  | _, _, .ifStmt hbody hotherwise, depth, inGroups => by
    rw [statement, statement]
    exact .step fun _ => (statements_rebuilt hbody _ _ _).bind fun _ _ =>
      (otherwise_rebuilt hotherwise _ _).bind fun _ _ => follows_pure _ _
  | _, _, .withStmt hbody, depth, inGroups => by
    rw [statement, statement]
    exact .step fun _ => (statements_rebuilt hbody _ _ _).bind fun _ _ => follows_pure _ _
  | _, _, .matchStmt hcases, depth, inGroups => by
    rw [statement, statement]
    exact .step fun _ => (cases_rebuilt hcases _ _ _).bind fun _ _ => follows_pure _ _
  | _, _, .tryStmt hbody hhandlers hotherwise hfinal, depth, inGroups => by
    rw [statement, statement]
    exact (statements_rebuilt hbody _ _ _).bind fun _ _ =>
      (handlers_rebuilt hhandlers _ _ _).bind fun _ _ =>
        (statements_rebuilt hotherwise _ _ _).bind fun _ _ =>
          (statements_rebuilt hfinal _ _ _).bind fun _ _ => follows_pure _ _

theorem statements_rebuilt : {ts us : List Tree} → RebuiltAll ts us →
    ∀ (depth : Nat) (inGroups : Bool) (groups : Option Bool),
      Follows (statements depth inGroups groups us) (statements depth inGroups groups ts)
  | _, _, .nil, _, _, _ => .refl
  | _, _, .put himport haliases _ htail, depth, inGroups, groups =>
    follows_put himport haliases.all _ (statements_rebuilt htail depth inGroups groups)
  | _, _, .kept _ hhead htail, depth, inGroups, groups => by
    rw [statements, statements]
    exact (statement_rebuilt hhead _ _).bind fun _ _ =>
      (statements_rebuilt htail _ _ _).bind fun _ _ => follows_pure _ _

theorem documented_rebuilt : {ts us : List Tree} → RebuiltAll ts us →
    ∀ (depth : Nat) (inGroups : Bool),
      Follows (documented depth inGroups us) (documented depth inGroups ts)
  | _, _, .nil, _, _ => .refl
  | _, _, .put himport haliases hbinds htail, depth, inGroups =>
    documented_put himport haliases (statements_rebuilt htail depth inGroups none)
  | _, _, .kept hother hhead htail, depth, inGroups => by
    rcases hhead.eq_or with rfl | ⟨hflat, hkind, -⟩
    · rw [documented, documented]
      split
      · exact (statements_rebuilt htail _ _ _).bind fun _ _ => follows_pure _ _
      · exact .step fun _ => (statements_rebuilt htail _ _ _).bind fun _ _ => follows_pure _ _
    · refine follows_documented (documentation?_of_not_isFlat hflat)
        (documentation?_of_not_isFlat (hkind ▸ hflat)) ?_
      rw [statements, statements]
      exact (statement_rebuilt hhead _ _).bind fun _ _ =>
        (statements_rebuilt htail _ _ _).bind fun _ _ => follows_pure _ _

theorem otherwise_rebuilt : {ts us : List Tree} → RebuiltAll ts us →
    ∀ (depth : Nat) (inGroups : Bool),
      Follows (otherwiseLines depth inGroups us) (otherwiseLines depth inGroups ts)
  | _, _, .nil, _, _ => .refl
  | _, _, .put himport haliases hbinds htail, depth, inGroups =>
    otherwise_put himport haliases (statements_rebuilt htail (depth + 1) inGroups none)
  | _, _, @RebuiltAll.kept t u ts us hother hhead htail, depth, inGroups => by
    have hstatements : Follows (statements (depth + 1) inGroups none (u :: us))
        (statements (depth + 1) inGroups none (t :: ts)) := by
      rw [statements, statements]
      exact (statement_rebuilt hhead _ _).bind fun _ _ =>
        (statements_rebuilt htail _ _ _).bind fun _ _ => follows_pure _ _
    by_cases hchoice : t.kind = .ifStmt ∧ ts = []
    · obtain ⟨hkind, rfl⟩ := hchoice
      cases htail
      cases hhead with
      | same hflat => rw [hkind] at hflat; cases hflat
      | ifStmt hbody hotherwise =>
          rw [otherwiseLines, otherwiseLines]
          exact .step fun _ => (statements_rebuilt hbody _ _ _).bind fun _ _ =>
            (otherwise_rebuilt hotherwise _ _).bind fun _ _ => follows_pure _ _
      | _ => cases hkind
    · have hkind : u.kind = t.kind := hhead.eq_or.elim (congrArg _) fun h => h.2.1
      rw [not_and_or] at hchoice
      refine follows_otherwise hchoice (hchoice.imp (by rw [hkind]; exact id) fun hts hus => hts ?_)
        hstatements
      rw [← List.isEmpty_iff, ← htail.isEmpty_eq, hus]
      rfl

theorem handlers_rebuilt : {ts us : List Tree} → RebuiltHandlers ts us →
    ∀ (depth : Nat) (inGroups : Bool) (groups : Option Bool),
      Follows (statements depth inGroups groups us) (statements depth inGroups groups ts)
  | _, _, .nil, _, _, _ => .refl
  | _, _, .cons hbody htail, depth, inGroups, groups => by
    simp only [statements, statement]
    exact Follows.bind (.step fun _ => (statements_rebuilt hbody _ _ _).bind fun _ _ =>
      follows_pure _ _) fun _ _ => (handlers_rebuilt htail _ _ _).bind fun _ _ => follows_pure _ _

theorem cases_rebuilt : {ts us : List Tree} → RebuiltCases ts us →
    ∀ (depth : Nat) (inGroups : Bool) (groups : Option Bool),
      Follows (statements depth inGroups groups us) (statements depth inGroups groups ts)
  | _, _, .nil, _, _, _ => .refl
  | _, _, .cons hbody htail, depth, inGroups, groups => by
    simp only [statements, statement]
    exact Follows.bind (.step fun _ => .step fun _ => (statements_rebuilt hbody _ _ _).bind
      fun _ _ => follows_pure _ _) fun _ _ => (cases_rebuilt htail _ _ _).bind
        fun _ _ => follows_pure _ _

end

end Printer

/-- **A module can be written if it can be with its imports replaced.** -/
theorem Tree.print_rebuilt {s : Option Span} {body body' : List Tree} {text : String}
    (h : Lowering.RebuiltAll body body') (hprint : (Tree.node .module s [body']).print = .ok text) :
    ∃ text', (Tree.node .module s [body]).print = .ok text' := by
  have hfollows : Printer.Follows (Tree.node .module s [body']).print
      (Tree.node .module s [body]).print := by
    rw [Tree.print, Tree.print]
    exact (Printer.documented_rebuilt h 0 false).bind fun _ _ => Printer.follows_pure _ _
  exact hfollows text hprint

end SourceLoader
