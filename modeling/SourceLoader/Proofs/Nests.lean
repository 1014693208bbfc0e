import SourceLoader.Observe.Script

/-!
# Nested stages

Stages lie inside of one another, and a failure that is raised in the innermost one leaves them
one after the other. `Nest` is any arrangement of stages with what they log and where they fail;
`Nest.script` is the script of it.

**What a failure does on its way.** Each stage that it crosses ends with the wording of the
failure and logs one entry on it, the innermost stage first; all other stages that have begun end
well (`failure_crosses`). The entry is made of the failure and the attributes of the stage. An
attribute with a reserved name clashes with the other parts of the entry: then the stage logs
nothing, and another failure goes on in place of the one that was raised.

The journal knows the stages by number, and a stage is changed when it ends, after all that has
begun inside of it. `record_script` is the account of that: what a nest adds to a journal stands
behind what was there, whatever stages are open around it.
-/

namespace SourceLoader

/-! ## One stage -/

/-- What a stage is begun with. -/
structure Label where
  name : String
  attributes : List (String × Data) := []

namespace Label

/-- Names of what an entry on a failure is made of, besides the attributes. -/
def reserved : List String := ["error", "self", "event", "method_name"]

/-- No attribute has a reserved name. -/
def Free (l : Label) : Prop := ∀ a ∈ l.attributes, a.1 ∉ reserved

instance (l : Label) : Decidable l.Free :=
  inferInstanceAs (Decidable (∀ a ∈ l.attributes, a.1 ∉ reserved))

/-- The entry on a failure: its wording and the attributes of the stage. -/
def failed (l : Label) (message : String) : Entry :=
  ⟨.debug, l.name ++ "_failed", ("error", .text message) :: l.attributes⟩

/-- Why there is no entry on a failure. -/
def clash? (l : Label) : Option Failure :=
  match Stage.failureEntry l.name l.attributes "" with
  | .ok _ => none
  | .error g => some g

theorem failureEntry_of_free {l : Label} (h : l.Free) (message : String) :
    Stage.failureEntry l.name l.attributes message = .ok (l.failed message) := by
  have hnone : ∀ name ∈ reserved, ∀ a ∈ l.attributes, a.1 ≠ name := by
    rintro name hname a ha rfl
    exact h a ha hname
  have hparameters : (l.attributes.find? fun a => Stage.logParameters.contains a.1) = none := by
    rw [List.find?_eq_none]
    intro a ha
    simpa [Stage.logParameters] using
      ⟨hnone "self" (by decide) a ha, hnone "event" (by decide) a ha⟩
  have herror : l.attributes.any (·.1 = "error") = false := by
    simpa using fun a b ha => hnone "error" (by decide) (a, b) ha
  have hmethod : l.attributes.any (·.1 = "method_name") = false := by
    simpa using fun a b ha => hnone "method_name" (by decide) (a, b) ha
  simp only [Stage.failureEntry, herror, hparameters, hmethod]
  rfl

/-- Which failure it is depends on the attributes alone. -/
theorem failureEntry_of_not_free {l : Label} (h : ¬ l.Free) :
    ∃ text, ∀ message, Stage.failureEntry l.name l.attributes message
      = .error (.host "TypeError" text) := by
  unfold Stage.failureEntry
  dsimp only
  split
  · exact ⟨_, fun _ => rfl⟩
  · rename_i herror
    split
    · exact ⟨_, fun _ => rfl⟩
    · rename_i hparameters
      rw [List.find?_eq_none] at hparameters
      split
      · exact ⟨_, fun _ => rfl⟩
      · rename_i hmethod
        refine absurd (fun a ha hname => ?_) h
        simp only [List.any_eq_true, decide_eq_true_eq, not_exists, not_and] at herror hmethod
        have hother := hparameters a ha
        simp only [Stage.logParameters, List.contains_cons, List.contains_nil] at hother
        simp only [reserved, List.mem_cons, List.not_mem_nil] at hname
        grind

theorem clash?_of_free {l : Label} (h : l.Free) : l.clash? = none := by
  rw [clash?, failureEntry_of_free h]

theorem clash?_of_not_free {l : Label} (h : ¬ l.Free) :
    ∃ text, l.clash? = some (.host "TypeError" text) := by
  obtain ⟨text, htext⟩ := failureEntry_of_not_free h
  exact ⟨text, by rw [clash?, htext]⟩

theorem failureEntry_eq (l : Label) (message : String) :
    Stage.failureEntry l.name l.attributes message
      = match l.clash? with
        | none => .ok (l.failed message)
        | some g => .error g := by
  by_cases h : l.Free
  · rw [clash?_of_free h, failureEntry_of_free h]
  · obtain ⟨text, htext⟩ := failureEntry_of_not_free h
    rw [clash?, htext, htext]

/-- The failure that goes on when `f` has crossed the stage. -/
def passing (l : Label) (f : Failure) : Failure := l.clash?.getD f

/-- What the stage logs when `f` crosses it. -/
def logs (l : Label) (f : Failure) : List Entry :=
  match l.clash? with
  | none => [l.failed f.message]
  | some _ => []

theorem passing_of_free {l : Label} (h : l.Free) (f : Failure) : l.passing f = f := by
  rw [passing, clash?_of_free h]
  rfl

theorem logs_of_free {l : Label} (h : l.Free) (f : Failure) : l.logs f = [l.failed f.message] := by
  rw [logs, clash?_of_free h]

end Label

/-- A stage that is over, with the failure that has crossed it, if any. -/
def Stage.ended : Label × Option Failure → Stage
  | (l, none) => ⟨l.name, l.attributes, .done, []⟩
  | (l, some f) => ⟨l.name, l.attributes, .failed f.message, [f.errorClass]⟩

namespace Journal

/-- A journal with more entries and more stages. -/
def add (j : Journal) (entries : List Entry) (stages : List Stage) : Journal :=
  { j with
    entries := j.entries ++ entries.toArray
    stages := j.stages ++ stages.toArray }

theorem add_nil (j : Journal) : j.add [] [] = j := by simp [add]

theorem log_eq_add (j : Journal) (e : Entry) : j.log e = j.add [e] [] := by simp [add, log]

theorem add_add (j : Journal) (es es' : List Entry) (ss ss' : List Stage) :
    (j.add es ss).add es' ss' = j.add (es ++ es') (ss ++ ss') := by
  simp [add]

/-- The stage that begins behind those of a journal is the one that is changed at its number. -/
theorem modify_size (stages : Array Stage) (s : Stage) (ss : List Stage) (f : Stage → Stage) :
    (stages ++ (s :: ss).toArray).modify stages.size f = stages ++ (f s :: ss).toArray := by
  apply Array.toList_inj.mp
  rw [Array.toList_modify]
  simp [List.modify_eq_take_cons_drop, List.drop_append]

theorem enter_add (j : Journal) (l : Label) (es : List Entry) (ss : List Stage) :
    (j.enter l.name l.attributes).1.add es ss
      = j.add es ({ name := l.name, attributes := l.attributes } :: ss) := by
  simp [enter, add]

theorem leave_add (j : Journal) (l : Label) (es : List Entry) (ss : List Stage) :
    ((j.enter l.name l.attributes).1.add es ss).leave j.stages.size
      = j.add es (.ended (l, none) :: ss) := by
  rw [enter_add]
  simp only [leave, add, modify_size]
  rfl

theorem fail_add (j : Journal) (l : Label) (f : Failure) (es : List Entry) (ss : List Stage) :
    (((j.enter l.name l.attributes).1.add es ss).fail j.stages.size f.errorClass f.message).1
      = j.add (es ++ l.logs f) (.ended (l, some f) :: ss) := by
  have hstage : ∀ s : Stage, (j.stages ++ (s :: ss).toArray)[j.stages.size]? = some s := by simp
  rw [enter_add]
  simp only [fail, add, modify_size, hstage, Label.failureEntry_eq, Label.logs]
  cases l.clash? with
  | none => simp [log, Stage.ended]
  | some g => simp [Stage.ended]

end Journal

/-! ## Nests -/

/-- Stages inside of one another and behind one another. -/
inductive Nest where
  | done
  | raised (f : Failure)
  | log (entry : Entry) (next : Nest)
  | stage (label : Label) (body next : Nest)

namespace Nest

/-- The script of a nest. -/
def script : Nest → Script Unit
  | done => Script.done ()
  | raised f => Script.failing f
  | log entry next => do
    Script.emit (.log entry)
    next.script
  | stage label body next => do
    Script.stage label.name label.attributes body.script
    next.script

/-- The failure that is raised. -/
def raised? : Nest → Option Failure
  | done => none
  | raised f => some f
  | log _ next => next.raised?
  | stage _ body next => body.raised?.or next.raised?

/-- The stages around the place where the failure is raised, the innermost one first. -/
def crossed : Nest → List Label
  | done | raised _ => []
  | log _ next => next.crossed
  | stage label body next =>
    match body.raised? with
    | none => next.crossed
    | some _ => body.crossed ++ [label]

/-- What is logged until the failure is raised. -/
def logged : Nest → List Entry
  | done | raised _ => []
  | log entry next => entry :: next.logged
  | stage _ body next =>
    match body.raised? with
    | none => body.logged ++ next.logged
    | some _ => body.logged

/-- The failure that goes on when `f` has crossed some stages. -/
def leaving (f : Failure) (stages : List Label) : Failure := stages.foldl (fun f l => l.passing f) f

/-- What stages log that `f` crosses. -/
def logs (f : Failure) : List Label → List Entry
  | [] => []
  | l :: ls => l.logs f ++ logs (l.passing f) ls

/-- The stages that begin, in this order, each with the failure that crosses it. -/
def begun : Nest → List (Label × Option Failure)
  | done | raised _ => []
  | log _ next => next.begun
  | stage label body next =>
    match body.raised? with
    | none => (label, none) :: (body.begun ++ next.begun)
    | some f => (label, some (leaving f body.crossed)) :: body.begun

/-- All that a nest logs. -/
def entries (n : Nest) : List Entry :=
  n.logged ++ (n.raised?.elim [] fun f => logs f n.crossed)

theorem leaving_concat (f : Failure) (ls : List Label) (l : Label) :
    leaving f (ls ++ [l]) = l.passing (leaving f ls) := by
  simp [leaving]

theorem logs_concat (f : Failure) (ls : List Label) (l : Label) :
    logs f (ls ++ [l]) = logs f ls ++ l.logs (leaving f ls) := by
  induction ls generalizing f with
  | nil => simp [logs, leaving]
  | cons l' ls ih => simp [logs, ih, leaving]

/-! ## What a nest shows -/

section Stage

variable {α : Type} {s : Script α} {a : α} {f : Failure}

theorem stage_of_ok (h : s.outcome = .ok a) (l : Label) :
    s.stage l.name l.attributes
      = ⟨.enter l.name l.attributes :: (s.effects ++ [.leave]), .ok a⟩ := by
  rw [Script.stage, h]
  rfl

theorem stage_of_error (h : s.outcome = .error f) (l : Label) :
    s.stage l.name l.attributes
      = ⟨.enter l.name l.attributes :: (s.effects ++ [.fail f.errorClass f.message]),
          .error (l.passing f)⟩ := by
  rw [Script.stage, h]
  dsimp only
  rw [Label.failureEntry_eq, Label.passing]
  cases l.clash? <;> rfl

end Stage

/-- How a nest ends. -/
theorem outcome_script (n : Nest) :
    n.script.outcome = match n.raised? with
      | none => .ok ()
      | some f => .error (leaving f n.crossed) := by
  induction n with
  | done => rfl
  | raised f => rfl
  | log entry next ih => exact ih
  | stage label body next hbody hnext =>
      show (Script.andThen _ fun _ => next.script).outcome = _
      cases hraised : body.raised? with
      | none =>
          rw [hraised] at hbody
          simp [Script.andThen, stage_of_ok hbody, hnext, raised?, crossed, hraised]
      | some f =>
          rw [hraised] at hbody
          simp [Script.andThen, stage_of_error hbody, raised?, crossed, hraised, leaving_concat]

section Effects

variable {body : Nest}

theorem effects_of_ends (hraised : body.raised? = none) (label : Label) (next : Nest) :
    (stage label body next).script.effects
      = .enter label.name label.attributes
          :: (body.script.effects ++ .leave :: next.script.effects) := by
  have houtcome := outcome_script body
  rw [hraised] at houtcome
  show (Script.andThen _ fun _ => next.script).effects = _
  simp [Script.andThen, stage_of_ok houtcome]

theorem effects_of_raises {f : Failure} (hraised : body.raised? = some f) (label : Label)
    (next : Nest) :
    (stage label body next).script.effects
      = .enter label.name label.attributes
          :: (body.script.effects
            ++ [.fail (leaving f body.crossed).errorClass (leaving f body.crossed).message]) := by
  have houtcome := outcome_script body
  rw [hraised] at houtcome
  show (Script.andThen _ fun _ => next.script).effects = _
  simp [Script.andThen, stage_of_error houtcome]

end Effects

/-- **What a nest adds to a journal**, whatever stages are open around it. -/
theorem record_script (n : Nest) (isOpen : List Nat) (rest : List Effect) (j : Journal) :
    Script.record isOpen (n.script.effects ++ rest) j
      = Script.record isOpen rest (j.add n.entries (n.begun.map .ended)) := by
  induction n generalizing isOpen rest j with
  | done => simp [entries, logged, begun, raised?, script, Script.done, Journal.add_nil]
  | raised f =>
      simp [entries, logged, begun, raised?, crossed, logs, script, Script.failing,
        Journal.add_nil]
  | log entry next ih =>
      have heffects : (log entry next).script.effects = .log entry :: next.script.effects := rfl
      rw [heffects, List.cons_append, Script.record, ih, Journal.log_eq_add, Journal.add_add]
      rfl
  | stage label body next hbody hnext =>
      cases hraised : body.raised? with
      | none =>
          have hentries : (stage label body next).entries = body.entries ++ next.entries := by
            simp [entries, logged, raised?, crossed, hraised]
          have hbegun : (stage label body next).begun = (label, none) :: (body.begun ++ next.begun)
            := by simp [begun, hraised]
          rw [effects_of_ends hraised, hentries, hbegun]
          simp only [List.cons_append, List.append_assoc, Script.record]
          rw [hbody]
          show Script.record isOpen (next.script.effects ++ rest)
            (((j.enter label.name label.attributes).1.add _ _).leave j.stages.size) = _
          rw [Journal.leave_add, hnext, Journal.add_add]
          simp
      | some f =>
          have hentries : (stage label body next).entries
              = body.entries ++ label.logs (leaving f body.crossed) := by
            simp [entries, logged, raised?, crossed, hraised, logs_concat]
          have hbegun : (stage label body next).begun
              = (label, some (leaving f body.crossed)) :: body.begun := by simp [begun, hraised]
          rw [effects_of_raises hraised, hentries, hbegun]
          simp only [List.cons_append, List.append_assoc, Script.record]
          rw [hbody]
          show Script.record isOpen rest (((j.enter label.name label.attributes).1.add _ _).fail
            j.stages.size _ _).1 = _
          rw [Journal.fail_add]
          rfl

theorem journal_script (n : Nest) :
    n.script.journal = Journal.add {} n.entries (n.begun.map .ended) := by
  have hrecord := n.record_script [] [] {}
  rwa [List.append_nil] at hrecord

/-! ## The way of a failure -/

/-- The failure that is raised goes on as it is where no name clashes. -/
theorem leaving_of_free {f : Failure} {ls : List Label} (h : ∀ l ∈ ls, l.Free) :
    leaving f ls = f := by
  induction ls with
  | nil => rfl
  | cons l ls ih =>
      rw [leaving, List.foldl_cons, Label.passing_of_free (h l List.mem_cons_self)]
      exact ih fun l' hl' => h l' (List.mem_cons_of_mem _ hl')

theorem logs_of_free {f : Failure} {ls : List Label} (h : ∀ l ∈ ls, l.Free) :
    logs f ls = ls.map fun l => l.failed f.message := by
  induction ls with
  | nil => rfl
  | cons l ls ih =>
      have hl := h l List.mem_cons_self
      rw [logs, Label.passing_of_free hl, Label.logs_of_free hl,
        ih fun l' hl' => h l' (List.mem_cons_of_mem _ hl')]
      rfl

/-- Where a name clashes another failure comes out, the one of the outermost such stage. -/
theorem leaving_of_not_free {f : Failure} {ls : List Label} (h : ∃ l ∈ ls, ¬ l.Free) :
    ∃ text, leaving f ls = .host "TypeError" text := by
  induction ls generalizing f with
  | nil => simp at h
  | cons l ls ih =>
      by_cases houter : ∃ l ∈ ls, ¬ l.Free
      · exact ih houter
      · -- the stages further out let the failure of this one pass
        have hfree : ∀ l ∈ ls, l.Free := by simpa using houter
        have hl : ¬ l.Free := by simpa [houter] using h
        obtain ⟨text, htext⟩ := Label.clash?_of_not_free hl
        have hpassing : l.passing f = .host "TypeError" text := by
          rw [Label.passing, htext]
          rfl
        exact ⟨text, by rw [leaving, List.foldl_cons, hpassing]; exact leaving_of_free hfree⟩

theorem crossed_of_ends {n : Nest} (h : n.raised? = none) : n.crossed = [] := by
  induction n with
  | done => rfl
  | raised f => cases h
  | log entry next ih => exact ih h
  | stage label body next _ hnext =>
      obtain ⟨hbody, hrest⟩ := Option.or_eq_none_iff.mp h
      simpa [crossed, hbody] using hnext hrest

/-- The stages that end with a failure are those around the place where it is raised. -/
theorem map_filter_begun (n : Nest) :
    (n.begun.filter fun b => b.2.isSome).map Prod.fst = n.crossed.reverse := by
  induction n with
  | done => rfl
  | raised f => rfl
  | log entry next ih => exact ih
  | stage label body next hbody hnext =>
      cases hraised : body.raised? with
      | none =>
          rw [crossed_of_ends hraised] at hbody
          simp [begun, crossed, hraised, hbody, hnext]
      | some f => simp [begun, crossed, hraised, hbody]

theorem not_mem_begun_of_ends {n : Nest} (h : n.raised? = none) (l : Label) (g : Failure) :
    (l, some g) ∉ n.begun := by
  have hcrossed := n.map_filter_begun
  rw [crossed_of_ends h] at hcrossed
  intro hmem
  have hin : (l, some g) ∈ n.begun.filter fun b => b.2.isSome := List.mem_filter.mpr ⟨hmem, rfl⟩
  have hlabel := List.mem_map_of_mem (f := Prod.fst) hin
  rw [hcrossed] at hlabel
  cases hlabel

/-- Where no name clashes, the stages end with the failure that is raised. -/
theorem eq_of_mem_begun {n : Nest} {f g : Failure} (hf : n.raised? = some f)
    (hfree : ∀ l ∈ n.crossed, l.Free) {l : Label} (hl : (l, some g) ∈ n.begun) : g = f := by
  induction n with
  | done => cases hf
  | raised f => cases hl
  | log entry next ih => exact ih hf hfree hl
  | stage label body next hbody hnext =>
      cases hraised : body.raised? with
      | none =>
          simp only [raised?, hraised, Option.none_or] at hf
          simp only [crossed, hraised] at hfree
          simp only [begun, hraised, List.mem_cons, List.mem_append] at hl
          rcases hl with hl | hl | hl
          · cases hl
          · exact absurd hl (not_mem_begun_of_ends hraised l g)
          · exact hnext hf hfree hl
      | some f' =>
          obtain rfl : f' = f := by simpa [raised?, hraised] using hf
          simp only [crossed, hraised, List.mem_append] at hfree
          have hinner : ∀ l ∈ body.crossed, l.Free := fun l hl => hfree l (.inl hl)
          simp only [begun, hraised, List.mem_cons] at hl
          rcases hl with hl | hl
          · injection hl with _ hg
            injection hg with hg
            exact hg.trans (leaving_of_free hinner)
          · exact hbody hraised hinner hl

/-- A stage whose attribute is named like the wording of the failure, inside of another one and
around one that ends well. -/
def clashing : Nest :=
  stage ⟨"outer", [("k", .int 1)]⟩
    (stage ⟨"inner", [("error", .text "boom")]⟩
      (stage ⟨"first", []⟩ done (raised (.host "ValueError" "boom"))) done) done

end Nest

end SourceLoader
