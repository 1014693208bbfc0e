import SourceLoader.Proofs.Artifacts

/-!
# What the sink is told

A compilation tells the sink of a syntax error when it reads the source and when it changes and
checks the tree. What comes then, the remarks and the writing of the tree, is behind both handlers.
Writing alone makes no syntax error; but for a line map the text is read again, and that can.

`Compile.checked` is how far the handlers reach. So a compilation that ends with a syntax error has
told it once, or else the text of a checked tree could not be read again, and then the sink has only
heard the remarks (`compile_calls`).
-/

namespace SourceLoader

/-! ## Calls of scripts -/

/-- The values of a call of the sink. -/
def Effect.call? : Effect → Option (List Data)
  | .call values => some values
  | _ => none

namespace Script

variable {α β : Type} {s : Script α} {f : α → Script β} {a : α} {e : Failure}

/-- The calls of the sink that a script makes, in order. -/
def calls (s : Script α) : List (List Data) := s.effects.filterMap Effect.call?

theorem calls_record (isOpen : List Nat) (es : List Effect) (j : Journal) :
    (record isOpen es j).calls.toList = j.calls.toList ++ es.filterMap Effect.call? := by
  have hfail : ∀ (j : Journal) stage c message, (j.fail stage c message).1.calls = j.calls := by
    intro j stage c message
    unfold Journal.fail
    dsimp only
    split
    · rfl
    · split <;> rfl
  induction es generalizing isOpen j with
  | nil => simp [record]
  | cons e es ih =>
      rw [List.filterMap_cons]
      cases e with
      | log entry => exact ih isOpen _
      | call values => simp [record, ih, Journal.call, Effect.call?]
      | pause => exact ih isOpen j
      | enter name attributes => exact ih _ _
      | leave =>
          cases isOpen with
          | nil => exact ih [] j
          | cons stage outer => exact ih outer _
      | fail c message =>
          cases isOpen with
          | nil => exact ih [] j
          | cons stage outer =>
              show (record outer es _).calls.toList = _
              rw [ih, hfail]
              rfl

/-- What the sink of a script has heard in the end. -/
theorem journal_calls (s : Script α) : s.journal.calls.toList = s.calls := by
  simp [journal, calls_record, calls]

theorem outcome_bind_of_ok (h : s.outcome = .ok a) : (s >>= f).outcome = (f a).outcome := by
  show (s.andThen f).outcome = _
  rw [andThen, h]

theorem calls_bind_of_ok (h : s.outcome = .ok a) : (s >>= f).calls = s.calls ++ (f a).calls := by
  show (s.andThen f).calls = _
  rw [andThen, h, calls, calls, calls, List.filterMap_append]

theorem outcome_bind_of_error (h : s.outcome = .error e) : (s >>= f).outcome = .error e := by
  show (s.andThen f).outcome = _
  rw [andThen, h]

theorem calls_bind_of_error (h : s.outcome = .error e) : (s >>= f).calls = s.calls := by
  show (s.andThen f).calls = _
  rw [andThen, h]
  rfl

theorem calls_onFailure_of_ok (h : s.outcome = .ok a) (onError : Failure → List Effect) :
    (s.onFailure onError).calls = s.calls := by
  rw [onFailure, h]
  rfl

theorem calls_onFailure_of_error (h : s.outcome = .error e) (onError : Failure → List Effect) :
    (s.onFailure onError).calls = s.calls ++ (onError e).filterMap Effect.call? := by
  rw [onFailure, h, calls, calls, List.filterMap_append]

/-- A stage is told to the host by other means. -/
theorem calls_stage (name : String) (attributes : List (String × Data)) (s : Script α) :
    (s.stage name attributes).calls = s.calls := by
  unfold stage
  split <;> simp [calls, List.filterMap_cons, Effect.call?]

end Script

/-! ## The reach of the handlers -/

namespace LineMap

theorem enter_error {os es : List WalkStop} {map : List Nat} {failure : Failure}
    (h : enter os es map = .error failure) : failure = .lineOutOfRange := by
  induction os generalizing es map with
  | nil => cases h
  | cons o os ih =>
      cases es with
      | nil => cases h
      | cons e es =>
          unfold enter at h
          split at h
          · cases h
          split at h
          · exact ih h
          · exact ih h
          · split at h
            · cases h
              rfl
            · exact ih h
            · exact ih h

theorem parse_of_unreadable {t : Tree} {text : String} {reason : ParseFailure}
    (h : build t text = .error (.unreadable reason)) : Source.parse text = .error reason := by
  unfold build at h
  split at h
  · rename_i hparse
    cases h
    exact hparse
  · cases enter_error h

end LineMap

namespace Compile

variable {req : CompileRequest}

/-- A source as a tree that can be compiled, with all remarks. -/
def checked (req : CompileRequest) : Except Failure (Tree × List Warning) := do
  let (t, remarks) ← parse req
  let (t, more) ← (change req (DynamicImport.rename t)).outcome
  return (t, remarks ++ more)

/-- A line or a column of an error, and one if there is none. -/
def orOne : Option Int → Int
  | none | some 0 => 1
  | some n => n

/-- The call that tells an error of a step. -/
def errorCall (req : CompileRequest) (step : String) (e : SyntaxError) : List Data :=
  [.text "error", .text step,
    .text (Diagnostic.format e.fault.message req.file req.source (orOne e.line) (orOne e.offset))]

/-- The call that tells a remark. -/
def remarkCall (message : String) : List Data :=
  [.text "warn", .text "parse script", .text message]

theorem report_calls (hsink : req.hasSink = true) (step : String) (e : SyntaxError) :
    (report req step e).filterMap Effect.call? = [errorCall req step e] := by
  have hknown : ∀ n : Option Int, (if n.getD 0 = 0 then 1 else n.getD 1) = orOne n := by
    intro n
    cases n with
    | none => rfl
    | some n =>
        by_cases hn : n = 0
        · subst hn
          rfl
        · unfold orOne
          split <;> simp_all
  simp [report, toSink, hsink, errorCall, hknown, Effect.call?]

theorem tellWarning_calls (hsink : req.hasSink = true) (messages : List String) :
    (messages.flatMap (tellWarning req)).filterMap Effect.call? = messages.map remarkCall := by
  induction messages with
  | nil => rfl
  | cons message messages ih =>
      rw [List.flatMap_cons, List.filterMap_append, ih]
      simp [tellWarning, toSink, hsink, remarkCall, Effect.call?]

/-- Passes make no calls, whatever comes of them. -/
theorem applyPasses_calls (ps : List Pass) (t : Tree) : (applyPasses ps t).calls = [] := by
  induction ps generalizing t with
  | nil => rfl
  | cons p ps ih =>
      have hpauses : (Script.mk (List.replicate p.pauses .pause) (p.apply t)).calls = [] := by
        simp [Script.calls, Effect.call?]
      cases hp : p.apply t with
      | ok t' =>
          rw [hp] at hpauses
          show (Script.mk _ (p.apply t) >>= _).calls = []
          rw [hp, Script.calls_bind_of_ok rfl, hpauses, ih]
          rfl
      | error f =>
          rw [hp] at hpauses
          show (Script.mk _ (p.apply t) >>= _).calls = []
          rw [hp, Script.calls_bind_of_error rfl, hpauses]

theorem change_calls (t : Tree) : (change req t).calls = [] := by
  cases hpassed : (applyPasses (allPasses req) t).outcome with
  | error f => exact (Script.calls_bind_of_error hpassed).trans (applyPasses_calls _ t)
  | ok passed =>
      refine (Script.calls_bind_of_ok hpassed).trans ?_
      rw [applyPasses_calls, List.nil_append]
      cases hcheck : check req passed.fillSpans with
      | error f => exact Script.calls_bind_of_error hcheck
      | ok remarks => exact Script.calls_bind_of_ok hcheck

section Steps

variable {read t : Tree} {remarks more : List Warning} {f : Failure}

theorem steps_of_parse_error (h : parse req = .error f) : (steps req).outcome = .error f
    ∧ (steps req).calls = (reportFailure req "parse script" f).filterMap Effect.call? := by
  have hread : ((Script.ofExcept (parse req)).onFailure (reportFailure req "parse script")).outcome
      = .error f := (Script.outcome_onFailure_eq _ _).trans h
  refine ⟨Script.outcome_bind_of_error hread, (Script.calls_bind_of_error hread).trans ?_⟩
  exact Script.calls_onFailure_of_error h _

theorem steps_of_change_error (hread : parse req = .ok (read, remarks))
    (h : (change req (DynamicImport.rename read)).outcome = .error f) :
    (steps req).outcome = .error f
      ∧ (steps req).calls = (reportFailure req "transform script" f).filterMap Effect.call? := by
  have hparse : ((Script.ofExcept (parse req)).onFailure (reportFailure req "parse script")).outcome
      = .ok (read, remarks) := (Script.outcome_onFailure_eq _ _).trans hread
  have hchange : ((change req (DynamicImport.rename read)).onFailure
      (reportFailure req "transform script")).outcome = .error f :=
    (Script.outcome_onFailure_eq _ _).trans h
  have hnone : ((Script.ofExcept (parse req)).onFailure
      (reportFailure req "parse script")).calls = [] := Script.calls_onFailure_of_ok hread _
  refine ⟨(Script.outcome_bind_of_ok hparse).trans (Script.outcome_bind_of_error hchange), ?_⟩
  refine (Script.calls_bind_of_ok hparse).trans ?_
  rw [hnone, List.nil_append]
  refine (Script.calls_bind_of_error hchange).trans ?_
  rw [Script.calls_onFailure_of_error h, change_calls, List.nil_append]

/-- Behind the check the remarks are told, whatever comes of the writing. -/
theorem steps_of_change_ok (hread : parse req = .ok (read, remarks))
    (h : (change req (DynamicImport.rename read)).outcome = .ok (t, more)) :
    (steps req).outcome = (finish req t).map (fun written =>
        { dependencies := Dependencies.ofTree req.moduleMode (DynamicImport.rename read)
          text := written.1
          lineMap := written.2
          warnings := (remarks ++ more).map (describe req.file) })
      ∧ (steps req).calls = (((remarks ++ more).map (describe req.file)).flatMap
          (tellWarning req)).filterMap Effect.call? := by
  have hparse : ((Script.ofExcept (parse req)).onFailure (reportFailure req "parse script")).outcome
      = .ok (read, remarks) := (Script.outcome_onFailure_eq _ _).trans hread
  have hchange : ((change req (DynamicImport.rename read)).onFailure
      (reportFailure req "transform script")).outcome = .ok (t, more) :=
    (Script.outcome_onFailure_eq _ _).trans h
  have hnone : ((Script.ofExcept (parse req)).onFailure
      (reportFailure req "parse script")).calls = [] := Script.calls_onFailure_of_ok hread _
  constructor
  · refine (Script.outcome_bind_of_ok hparse).trans ((Script.outcome_bind_of_ok hchange).trans ?_)
    refine (Script.outcome_bind_of_ok rfl).trans ?_
    cases hfinish : finish req t with
    | error f => exact Script.outcome_bind_of_error rfl
    | ok written => exact Script.outcome_bind_of_ok rfl
  · refine (Script.calls_bind_of_ok hparse).trans ?_
    rw [hnone, List.nil_append]
    refine (Script.calls_bind_of_ok hchange).trans ?_
    rw [Script.calls_onFailure_of_ok h, change_calls, List.nil_append]
    refine (Script.calls_bind_of_ok rfl).trans ?_
    cases hfinish : finish req t with
    | error f => rw [Script.calls_bind_of_error rfl]; exact List.append_nil _
    | ok written => rw [Script.calls_bind_of_ok rfl]; exact List.append_nil _

end Steps

/-- The stage around the steps and the entry behind them change neither the result nor the calls. -/
theorem compile_eq_steps (req : CompileRequest) :
    (compile req).outcome = (steps req).outcome ∧ (compile req).calls = (steps req).calls := by
  let stage := (steps req).stage "modloom.transform"
    [("modloom.filename", .text req.file), ("modloom.module_mode", .bool req.moduleMode)]
  have hcalls : stage.calls = (steps req).calls := Script.calls_stage _ _ _
  cases hsteps : (steps req).outcome with
  | error f =>
      have hstage : stage.outcome = .error f := by
        show (Script.stage _ _ _).outcome = _
        rw [Script.stage, hsteps]
        rfl
      exact ⟨Script.outcome_bind_of_error hstage,
        (Script.calls_bind_of_error hstage).trans hcalls⟩
  | ok compiled =>
      have hstage : stage.outcome = .ok compiled := by
        show (Script.stage _ _ _).outcome = _
        rw [Script.stage, hsteps]
      refine ⟨Script.outcome_bind_of_ok hstage, (Script.calls_bind_of_ok hstage).trans ?_⟩
      rw [hcalls]
      exact List.append_nil _

/-- Writing fails with a syntax error only if the text cannot be read again for the line map. -/
theorem finish_rejected {t : Tree} {e : SyntaxError} (h : finish req t = .error (.rejected e)) :
    req.sourceMaps = true ∧ ∃ text e', t.print = .ok text
      ∧ Source.parse text = .error (.rejected e') ∧ e = e'.inFile "<unknown>" := by
  unfold finish print at h
  cases hprint : t.print with
  | error fault => rw [hprint] at h; cases h
  | ok text =>
      rw [hprint] at h
      change (if req.sourceMaps then (mapLines t text).bind _ else _) = _ at h
      split at h
      case isFalse => cases h
      rename_i hmaps
      refine ⟨hmaps, text, ?_⟩
      unfold mapLines at h
      cases hbuild : LineMap.build t text with
      | ok map => rw [hbuild] at h; cases h
      | error failure =>
          rw [hbuild] at h
          cases failure with
          | lineOutOfRange => cases h
          | unreadable reason =>
              have hparse := LineMap.parse_of_unreadable hbuild
              cases reason with
              | nullCharacter => cases h
              | rejected e' => cases h; exact ⟨e', rfl, hparse, rfl⟩

/-- **What the sink hears of a compilation.** If it ends well, all remarks and nothing else. If it
ends with a syntax error that reading, a pass or the check has made, this error once, with the step
that made it. There is one other way to end with a syntax error: the tree has passed the check, but
its text cannot be read again for the line map; then the remarks alone. -/
theorem compile_calls (req : CompileRequest) (hsink : req.hasSink = true) :
    (∀ compiled, (compile req).outcome = .ok compiled →
      (compile req).journal.calls.toList = compiled.warnings.map remarkCall)
    ∧ ∀ e, (compile req).outcome = .error (.rejected e) →
      (checked req = .error (.rejected e) ∧ ∃ step,
        (compile req).journal.calls.toList = [errorCall req step e]
          ∧ (step = "parse script" ∧ parse req = .error (.rejected e)
            ∨ step = "transform script" ∧ ∃ read, parse req = .ok read))
      ∨ ∃ t warnings text e', checked req = .ok (t, warnings) ∧ req.sourceMaps = true
          ∧ t.print = .ok text ∧ Source.parse text = .error (.rejected e')
          ∧ e = e'.inFile "<unknown>"
          ∧ (compile req).journal.calls.toList
            = (warnings.map (describe req.file)).map remarkCall := by
  rw [Script.journal_calls, (compile_eq_steps req).1, (compile_eq_steps req).2]
  cases hread : parse req with
  | error f =>
      obtain ⟨houtcome, hcalls⟩ := steps_of_parse_error hread
      have hchecked : checked req = .error f := by rw [checked, hread]; rfl
      rw [houtcome, hcalls, hchecked]
      refine ⟨fun _ h => (by cases h), fun e h => ?_⟩
      cases h
      exact Or.inl ⟨rfl, "parse script", report_calls hsink _ e, Or.inl ⟨rfl, rfl⟩⟩
  | ok result =>
      obtain ⟨read, remarks⟩ := result
      cases hchange : (change req (DynamicImport.rename read)).outcome with
      | error f =>
          obtain ⟨houtcome, hcalls⟩ := steps_of_change_error hread hchange
          have hchecked : checked req = .error f := by
            rw [checked, hread]
            show (change req (DynamicImport.rename read)).outcome.bind _ = _
            rw [hchange]
            rfl
          rw [houtcome, hcalls, hchecked]
          refine ⟨fun _ h => (by cases h), fun e h => ?_⟩
          cases h
          exact Or.inl ⟨rfl, "transform script", report_calls hsink _ e, Or.inr ⟨rfl, _, rfl⟩⟩
      | ok result =>
          obtain ⟨t, more⟩ := result
          obtain ⟨houtcome, hcalls⟩ := steps_of_change_ok hread hchange
          have hchecked : checked req = .ok (t, remarks ++ more) := by
            rw [checked, hread]
            show (change req (DynamicImport.rename read)).outcome.bind _ = _
            rw [hchange]
            rfl
          rw [houtcome, hcalls, hchecked, tellWarning_calls hsink]
          cases hfinish : finish req t with
          | ok written =>
              exact ⟨fun compiled h => by cases h; rfl, fun e h => by cases h⟩
          | error f =>
              refine ⟨fun _ h => (by cases h), fun e h => Or.inr ?_⟩
              cases h
              obtain ⟨hmaps, text, e', hprint, hparse, he⟩ := finish_rejected hfinish
              exact ⟨t, _, text, e', rfl, hmaps, hprint, hparse, he, rfl⟩

/-- Has a compilation ended with a syntax error? -/
def isRejected : Except Failure Compiled → Bool
  | .error (.rejected _) => true
  | _ => false

theorem exists_of_isRejected {r : Except Failure Compiled} (h : isRejected r = true) :
    ∃ e, r = .error (.rejected e) := by
  unfold isRejected at h
  split at h
  · exact ⟨_, rfl⟩
  · cases h

/-- A request whose pass puts something in place of a name that is not one. -/
def spacedName : CompileRequest where
  file := "/a.py"
  source := "x = 1"
  moduleMode := true
  passes := [.rename "x" "1 y"]
  sourceMaps := true

/-- A request whose pass makes a statement that cannot be compiled. -/
def strayReturn : CompileRequest := { spacedName with passes := [.appendReturn] }

/-- The error of the check is told; that of reading the text again is not. -/
theorem compile_calls_unread : spacedName.hasSink = true ∧ strayReturn.hasSink = true
    ∧ (∃ e, (compile spacedName).outcome = .error (.rejected e)
      ∧ (compile spacedName).journal.calls.toList = [])
    ∧ ∃ e, (compile strayReturn).outcome = .error (.rejected e)
      ∧ (compile strayReturn).journal.calls.toList
        = [errorCall strayReturn "transform script" e] := by
  refine ⟨rfl, rfl, ?_, ?_⟩
  · obtain ⟨e, he⟩ := exists_of_isRejected (r := (compile spacedName).outcome) (by decide +kernel)
    have hchecked : (checked spacedName).toOption.map (·.2.isEmpty) = some true := by
      decide +kernel
    refine ⟨e, he, ?_⟩
    rcases (compile_calls spacedName rfl).2 e he with
      ⟨herror, -⟩ | ⟨t, warnings, _, _, hok, -, -, -, -, hcalls⟩
    · rw [herror] at hchecked
      cases hchecked
    · have hnone : warnings = [] := by simpa [hok, Except.toOption] using hchecked
      rw [hcalls, hnone]
      rfl
  · obtain ⟨e, he⟩ := exists_of_isRejected (r := (compile strayReturn).outcome) (by decide +kernel)
    have hparse : (parse strayReturn).isOk = true := by decide +kernel
    have hchecked : (checked strayReturn).isOk = false := by decide +kernel
    refine ⟨e, he, ?_⟩
    rcases (compile_calls strayReturn rfl).2 e he with
      ⟨-, step, hcalls, ⟨-, herror⟩ | ⟨rfl, -⟩⟩ | ⟨t, warnings, _, _, hok, -⟩
    · rw [herror] at hparse
      cases hparse
    · exact hcalls
    · rw [hok] at hchecked
      cases hchecked

end Compile

end SourceLoader
