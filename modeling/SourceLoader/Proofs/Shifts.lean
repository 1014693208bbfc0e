import SourceLoader.Proofs.Artifacts
import SourceLoader.Proofs.Turns

/-!
# Compiling side by side is compiling alone

A compilation has changed the board and put it back before it pauses, so others find the board as
it was, and they leave it so. All that is left of them are their records, and no compilation looks
at those of another one.

`Shift.Follows` compares a step on the board with the script of a compilation that is alone: it
pauses as often, it comes to the same outcome, and it keeps the board. Steps one after the other
follow scripts one after the other (`Follows.bind`), so a compilation follows its script step by
step, with one more fact on the way: which record holds which remarks. That is still true when
others have had their turns. Since all compilations keep the board, they can have their turns in
any order (`compiled_in_turns`).
-/

namespace SourceLoader

/-!
## What a step leaves on the board

A step that is recorded adds one record to the board, with what the step remarked, and changes
nothing else (`Compilation.recording_eq`); a muted one changes nothing at all
(`Compilation.muted_eq`). That holds whatever the filters and the listener of the board are, and
also if the step fails.

So a board only grows, by records that nobody writes to any more (`Board.Kept`).
-/

namespace Board

variable {b b' b'' : Board} {ns : List Notice} {i : Nat}

/-- Filters and listener are as they were, the host has been told nothing, and records are as they
were. New records may have been opened. -/
structure Kept (b b' : Board) : Prop where
  filters : b'.filters = b.filters
  otherwise : b'.otherwise = b.otherwise
  listener : b'.listener = b.listener
  told : b'.told = b.told
  known : b'.known = b.known
  records : b.records <+: b'.records

theorem Kept.refl (b : Board) : b.Kept b := ⟨rfl, rfl, rfl, rfl, rfl, List.prefix_refl _⟩

theorem Kept.trans (h : b.Kept b') (h' : b'.Kept b'') : b.Kept b'' :=
  ⟨h'.filters.trans h.filters, h'.otherwise.trans h.otherwise, h'.listener.trans h.listener,
    h'.told.trans h.told, h'.known.trans h.known, h.records.trans h'.records⟩

/-- A board with one more record. -/
def withRecord (b : Board) (ns : List Notice) : Board := { b with records := b.records ++ [ns] }

theorem kept_withRecord (b : Board) (ns : List Notice) : b.Kept (b.withRecord ns) :=
  ⟨rfl, rfl, rfl, rfl, rfl, List.prefix_append _ _⟩

/-- A record was told some notices. -/
def Has (b : Board) (i : Nat) (ns : List Notice) : Prop := b.records[i]? = some ns

theorem has_withRecord (b : Board) (ns : List Notice) : (b.withRecord ns).Has b.records.length ns :=
  List.getElem?_concat_length

theorem Has.kept (h : b.Has i ns) (hkept : b.Kept b') : b'.Has i ns := by
  obtain ⟨more, hmore⟩ := hkept.records
  rw [Has, ← hmore, List.getElem?_append_left (List.getElem?_eq_some_iff.mp h).1]
  exact h

theorem Has.record (h : b.Has i ns) : b.record i = ns := by
  rw [Board.record, List.getD_eq_getElem?_getD, h]
  rfl

theorem modify_last (records : List (List Notice)) (ns : List Notice)
    (f : List Notice → List Notice) :
    (records ++ [ns]).modify records.length f = records ++ [f ns] :=
  List.modifyTailIdx_add (List.modifyHead f) 0 records [ns]

end Board

namespace Shift

variable {α β : Type} {x : Shift α} {f : α → Shift β} {b w : Board}

theorem bind_of_ok {a : α} (hx : x b = .done w (.ok a)) : (x >>= f) b = f a w := by
  show (x b).bind f = f a w
  rw [hx]
  rfl

theorem bind_of_error {e : Failure} (hx : x b = .done w (.error e)) :
    (x >>= f) b = .done w (.error e) := by
  show (x b).bind f = .done w (.error e)
  rw [hx]
  rfl

theorem post_muted (b : Board) (ns : List Notice) :
    post ns (b.withAction .hide) = .done (b.withAction .hide) (.ok ()) := by
  induction ns with
  | nil => rfl
  | cons n ns ih =>
      rw [post, bind_of_ok (w := b.withAction .hide) (a := ()) rfl]
      exact ih

/-- A board that tells all to a new record, which was told some notices. -/
def recordingTo (b : Board) (ns : List Notice) : Board :=
  { b.openRecord.withAction .tell with records := b.records ++ [ns] }

theorem post_recordingTo (b : Board) (ns more : List Notice) :
    post more (recordingTo b ns) = .done (recordingTo b (ns ++ more)) (.ok ()) := by
  -- the record grows while notices are told, so it is any record
  induction more generalizing ns with
  | nil =>
      rw [List.append_nil]
      rfl
  | cons n more ih =>
      have htell : (recordingTo b ns).tell n = recordingTo b (ns ++ [n]) := by
        simp only [Board.tell, recordingTo, Board.openRecord, Board.withAction,
          Board.modify_last]
      have hpost : atOnce (·.post n) (recordingTo b ns)
          = .done (recordingTo b (ns ++ [n])) (.ok ()) := congrArg (Course.done · _) htell
      rw [post, bind_of_ok hpost, ih, List.append_assoc]
      rfl

end Shift

namespace Compilation

variable {α : Type} (c : Compilation)

/-- What a step remarks. -/
def noticed (file : String) : Except Failure (α × List Warning) → List Notice
  | .ok (_, remarks) => remarks.map fun w => ⟨file, w⟩
  | .error _ => c.unheard

/-- A step whose remarks all go through comes to its result. -/
theorem remarking_eq {file : String} {r : Except Failure (α × List Warning)} {b w : Board}
    (hpost : Shift.post (c.noticed file r) b = .done w (.ok ())) :
    c.remarking file r b = .done w (r.map Prod.fst) := by
  cases r with
  | ok made => exact Shift.bind_of_ok hpost
  | error f => exact Shift.bind_of_ok hpost

/-- **A step of which nobody is told leaves the board as it is.** -/
theorem muted_eq (file : String) (r : Except Failure (α × List Warning)) (b : Board) :
    Shift.muted (c.remarking file r) b = .done b (r.map Prod.fst) := by
  simp only [Shift.muted, Shift.during, remarking_eq c (Shift.post_muted b _)]
  rfl

/-- **A step that is recorded adds a record of its remarks, and leaves the rest of the board as it
is.** -/
theorem recording_eq (file : String) (r : Except Failure (α × List Warning)) (b : Board) :
    Shift.recording (c.remarking file r) b
      = .done (b.withRecord (c.noticed file r)) (r.map fun made => (made.1, b.records.length)) := by
  have hstep := remarking_eq c (Shift.post_recordingTo b [] (c.noticed file r))
  have hbody : (c.remarking file r >>= fun a => pure (a, b.records.length))
      (Shift.recordingTo b [])
      = .done (Shift.recordingTo b (c.noticed file r))
        (r.map fun made => (made.1, b.records.length)) := by
    cases r with
    | ok made => exact Shift.bind_of_ok hstep
    | error f => exact Shift.bind_of_error hstep
  exact congrArg (Course.andThen _) hbody

end Compilation

/-! ## Steps and scripts -/

/-- Is an effect a pause? -/
def Effect.isPause : Effect → Bool
  | .pause => true
  | _ => false

namespace Script

variable {α β : Type} {s : Script α} {f : α → Script β}

/-- How often a script pauses. -/
def pauses (s : Script α) : Nat := s.effects.countP Effect.isPause

theorem bind_of_ok {a : α} (h : s.outcome = .ok a) :
    s >>= f = ⟨s.effects ++ (f a).effects, (f a).outcome⟩ := by
  show s.andThen f = _
  simp only [andThen, h]

theorem bind_of_error {e : Failure} (h : s.outcome = .error e) :
    s >>= f = ⟨s.effects, .error e⟩ := by
  show s.andThen f = _
  simp only [andThen, h]

theorem pauses_onFailure {onError : Failure → List Effect}
    (h : ∀ e, (onError e).countP Effect.isPause = 0) :
    (s.onFailure onError).pauses = s.pauses := by
  unfold onFailure pauses
  cases s.outcome with
  | ok a => rfl
  | error e => simp only [List.countP_append, h, Nat.add_zero]

theorem pauses_stage (name : String) (attributes : List (String × Data)) :
    (s.stage name attributes).pauses = s.pauses := by
  unfold stage pauses
  cases s.outcome with
  | ok a => simp [List.countP_append, Effect.isPause]
  | error e => simp [List.countP_append, Effect.isPause]

/-- What becomes of a result depends on nothing else of the stage. -/
theorem outcome_stage_eq (name : String) (attributes : List (String × Data)) :
    (s.stage name attributes).outcome = ((ofExcept s.outcome).stage name attributes).outcome := by
  unfold stage ofExcept
  cases s.outcome with
  | ok a => rfl
  | error e => rfl

end Script

/-- A result is what another one comes to. -/
def Agrees {α β : Type} (P : Board → α → β → Prop) :
    Except Failure β → Board → Except Failure α → Prop
  | .ok c, w, .ok a => P w a c
  | .error f, _, .error g => g = f
  | _, _, _ => False

namespace Shift

variable {α β γ δ : Type} {b : Board} {x : Shift α} {s : Script β} {P : Board → α → β → Prop}

/-- From a board, a step does what a script does: it pauses as often, and it comes to the outcome of
the script. The rest of the board it leaves as it was. -/
def Follows (x : Shift α) (b : Board) (s : Script β) (P : Board → α → β → Prop) : Prop :=
  (x b).Abides Board.Kept (Agrees P s.outcome) s.pauses b

/-- A step that is done at once. -/
theorem follows_of_done {w : Board} {r : Except Failure α} (hx : x b = .done w r)
    (hkept : b.Kept w) (hpauses : s.pauses = 0) (hagrees : Agrees P s.outcome w r) :
    x.Follows b s P := by
  rw [Follows, hx]
  exact ⟨hpauses, hkept, hagrees⟩

/-- **Steps one after the other do what scripts do one after the other.** -/
theorem Follows.bind {Q : Board → γ → δ → Prop} {f : α → Shift γ} {g : β → Script δ}
    (hx : x.Follows b s P)
    (hf : ∀ a c w, b.Kept w → s.outcome = .ok c → P w a c → (f a).Follows w (g c) Q) :
    (x >>= f).Follows b (s >>= g) Q := by
  have habides : (x b).Abides Board.Kept (Agrees P s.outcome) s.pauses b := hx
  cases houtcome : s.outcome with
  | ok c =>
      rw [Follows, Script.bind_of_ok houtcome, Script.pauses, List.countP_append]
      refine habides.andThen Board.Kept.trans fun w r hw hr => ?_
      rw [houtcome] at hr
      cases r with
      | ok a => exact hf a c w hw houtcome hr
      | error e => cases hr
  | error e =>
      -- the rest of the script is left out, and so are its pauses
      rw [Follows, Script.bind_of_error houtcome]
      refine habides.andThen (m := 0) Board.Kept.trans fun w r hw hr => ?_
      rw [houtcome] at hr
      cases r with
      | ok a => cases hr
      | error e' => exact ⟨rfl, Board.Kept.refl w, hr⟩

theorem agrees_eq {o : Except Failure α} {w : Board} {r : Except Failure α} :
    Agrees (fun _ a c => a = c) o w r ↔ r = o := by
  cases o <;> cases r <;> simp [Agrees]

/-- A step that is done at once and leaves the board alone. -/
theorem follows_of_result {r : Except Failure α} (hx : x b = .done b r) :
    x.Follows b (Script.ofExcept r) fun _ a c => a = c :=
  follows_of_done hx (Board.Kept.refl b) rfl (agrees_eq.mpr rfl)

theorem follows_pausing (r : Except Failure α) (n : Nat) :
    (pausing r n).Follows b ⟨List.replicate n .pause, r⟩ fun _ a c => a = c := by
  induction n generalizing b with
  | zero => exact follows_of_result rfl
  | succ n ih =>
      refine ⟨rfl, Board.Kept.refl b, (Script.mk (List.replicate n .pause) r).pauses, ?_,
        fun w hw => ih⟩
      simp [Script.pauses, List.replicate_succ, List.countP_cons, Effect.isPause]

theorem follows_pure {a : α} {c : β} (h : P b a c) : (pure a : Shift α).Follows b (pure c) P :=
  follows_of_done rfl (Board.Kept.refl b) rfl h

theorem Follows.congr (hx : x.Follows b s P) {s' : Script β} (hpauses : s'.pauses = s.pauses)
    (houtcome : s'.outcome = s.outcome) : x.Follows b s' P := by
  rw [Follows, hpauses, houtcome]
  exact hx

/-- A failure that is told on the way is still the failure. -/
theorem Follows.onFailure (hx : x.Follows b s P) (onError : Failure → List Effect)
    (h : ∀ e, (onError e).countP Effect.isPause = 0) : x.Follows b (s.onFailure onError) P :=
  hx.congr (Script.pauses_onFailure h) (Script.outcome_onFailure_eq s onError)

theorem Follows.stage {s : Script α} (hx : x.Follows b s fun _ a c => a = c) (name : String)
    (attributes : List (String × Data)) :
    (x.stage name attributes).Follows b (s.stage name attributes) fun _ a c => a = c := by
  have habides : (x b).Abides Board.Kept (Agrees (fun _ a c => a = c) s.outcome) s.pauses b := hx
  rw [Follows, Script.pauses_stage]
  refine habides.andThen (m := 0) Board.Kept.trans fun w r hw hr => ?_
  refine ⟨rfl, Board.Kept.refl w, ?_⟩
  rw [agrees_eq] at hr ⊢
  rw [hr, Script.outcome_stage_eq name attributes (s := s)]

end Shift

/-! ## Compilations -/

namespace Compilation

open Shift

variable (c : Compilation)

theorem applyPasses_follows (ps : List Pass) (t : Tree) (b : Board) :
    (applyPasses ps t).Follows b (Compile.applyPasses ps t) fun _ t t' => t = t' := by
  induction ps generalizing t b with
  | nil => exact follows_pure rfl
  | cons p ps ih =>
      refine (follows_pausing (p.apply t) p.pauses).bind fun t t' w _ _ ht => ?_
      obtain rfl := ht
      exact ih t w

/-- The remarks of a step are in its record. -/
theorem recording_follows {α : Type} (file : String) (r : Except Failure (α × List Warning))
    (b : Board) :
    (recording (c.remarking file r)).Follows b (Script.ofExcept r) fun w made known =>
      made.1 = known.1 ∧ w.Has made.2 (known.2.map fun x => ⟨file, x⟩) := by
  refine follows_of_done (c.recording_eq file r b) (Board.kept_withRecord b _) rfl ?_
  cases r with
  | ok made => exact ⟨rfl, Board.has_withRecord b _⟩
  | error f => exact rfl

theorem change_follows (t : Tree) (b : Board) :
    (c.change t).Follows b (Compile.change c.request t) fun w made changed =>
      made.1 = changed.1 ∧ w.Has made.2 (changed.2.map fun x => ⟨c.request.file, x⟩) := by
  refine (applyPasses_follows _ t b).bind fun t t' w _ _ ht => ?_
  obtain rfl := ht
  -- the board is that of the moment, after all pauses
  let checked := (Compile.check c.request t.fillSpans).map fun remarks => ((), remarks)
  have hrecorded : (recording (c.remarking c.request.file checked)).Follows w
      (Script.ofExcept (Compile.check c.request t.fillSpans)) fun w made remarks =>
        w.Has made.2 (remarks.map fun x => ⟨c.request.file, x⟩) := by
    refine follows_of_done (c.recording_eq _ checked w) (Board.kept_withRecord w _) rfl ?_
    simp only [checked]
    cases Compile.check c.request t.fillSpans with
    | ok remarks => exact Board.has_withRecord w _
    | error f => exact rfl
  exact hrecorded.bind fun made remarks v _ _ hhas => follows_pure ⟨rfl, hhas⟩

/-- A text that cannot be read has no line map. -/
theorem mapLines_of_unread {t : Tree} {text : String} {f : Failure}
    (h : Compile.parse { c.request with file := "<unknown>", source := text } = .error f) :
    Compile.mapLines t text = .error f := by
  unfold Compile.parse at h
  unfold Compile.mapLines LineMap.build
  cases hparse : Source.parse text with
  | ok result => simp [hparse] at h
  | error e => simpa [hparse] using h

theorem mapLines_eq (t : Tree) (text : String) (b : Board) :
    c.mapLines t text b = .done b (Compile.mapLines t text) := by
  have hmuted := c.muted_eq "<unknown>"
    (Compile.parse { c.request with file := "<unknown>", source := text }) b
  unfold mapLines
  cases hread : Compile.parse { c.request with file := "<unknown>", source := text } with
  | ok read =>
      rw [hread] at hmuted
      exact bind_of_ok hmuted
  | error f =>
      rw [c.mapLines_of_unread hread]
      rw [hread] at hmuted
      exact bind_of_error hmuted

theorem finish_eq (t : Tree) (b : Board) :
    c.finish t b = .done b (Compile.finish c.request t) := by
  unfold finish Compile.finish
  cases hprint : Compile.print t with
  | error f => rfl
  | ok text =>
      rw [bind_of_ok rfl]
      by_cases hmaps : c.request.sourceMaps = true
      · simp only [hmaps, if_true]
        have hlines := c.mapLines_eq t text b
        show _ = Course.done b ((Compile.mapLines t text).bind fun lines => .ok (text, some lines))
        cases hmap : Compile.mapLines t text with
        | ok lines =>
            rw [hmap] at hlines
            exact bind_of_ok hlines
        | error f =>
            rw [hmap] at hlines
            exact bind_of_error hlines
      · simp only [hmaps]
        rfl

theorem toSink_quiet (req : CompileRequest) (values : List String) :
    (Compile.toSink req values).countP Effect.isPause = 0 := by
  unfold Compile.toSink
  split <;> rfl

theorem reportFailure_quiet (req : CompileRequest) (step : String) (f : Failure) :
    (Compile.reportFailure req step f).countP Effect.isPause = 0 := by
  cases f with
  | rejected e =>
      simp only [Compile.reportFailure, Compile.report, List.countP_append, toSink_quiet]
      rfl
  | _ => rfl

theorem tellWarnings_quiet (req : CompileRequest) (warnings : List String) :
    (warnings.flatMap (Compile.tellWarning req)).countP Effect.isPause = 0 := by
  induction warnings with
  | nil => rfl
  | cons warning warnings ih =>
      rw [List.flatMap_cons, List.countP_append, ih, Compile.tellWarning, List.countP_append,
        toSink_quiet]
      rfl

/-- **A compilation does what compiling alone does.** Its two records are read when others have had
their turns, and still hold its own remarks. -/
theorem steps_follows (b : Board) :
    c.steps.Follows b (Compile.steps c.request) fun _ made compiled => made = compiled := by
  have hparse := (c.recording_follows c.request.file (Compile.parse c.request) b).onFailure
    _ (reportFailure_quiet c.request "parse script")
  refine hparse.bind ?_
  rintro ⟨t, first⟩ ⟨t', remarks⟩ w _ _ ⟨ht, hfirst⟩
  obtain rfl := ht
  have hchange := (c.change_follows (DynamicImport.rename t) w).onFailure
    _ (reportFailure_quiet c.request "transform script")
  refine hchange.bind ?_
  rintro ⟨t, second⟩ ⟨t', more⟩ v hwv _ ⟨ht, hsecond⟩
  obtain rfl := ht
  let warnings := (remarks ++ more).map (Compile.describe c.request.file)
  have htold : (told [first, second]).Follows v
      ⟨warnings.flatMap (Compile.tellWarning c.request), .ok ()⟩ fun _ notices _ =>
        notices = (remarks ++ more).map fun x => ⟨c.request.file, x⟩ := by
    -- the first record is older than the pauses of the passes
    refine follows_of_done rfl (Board.Kept.refl v) (tellWarnings_quiet _ _) ?_
    show [first, second].flatMap v.record = _
    simp [(hfirst.kept hwv).record, hsecond.record]
  refine htold.bind fun notices _ u _ _ hnotices => ?_
  refine (follows_of_result (c.finish_eq t u)).bind ?_
  rintro ⟨text, lineMap⟩ _ v _ _ rfl
  refine follows_pure ?_
  simp [hnotices, Function.comp_def]

/-- The entry in the log that ends a compilation changes nothing. -/
theorem transform_abides (b : Board) :
    (c.transform b).Abides Board.Kept (fun _ r => r = (compile c.request).outcome)
      (compile c.request).pauses b := by
  let staged := (Compile.steps c.request).stage "modloom.transform"
    [("modloom.filename", .text c.request.file),
      ("modloom.module_mode", .bool c.request.moduleMode)]
  have hlast : (compile c.request).pauses = staged.pauses
      ∧ (compile c.request).outcome = staged.outcome := by
    unfold compile
    cases houtcome : staged.outcome with
    | ok compiled =>
        rw [Script.bind_of_ok houtcome, Script.pauses, List.countP_append]
        exact ⟨rfl, rfl⟩
    | error f =>
        rw [Script.bind_of_error houtcome]
        exact ⟨rfl, rfl⟩
  have hfollows : c.transform.Follows b (compile c.request) fun _ made compiled =>
      made = compiled := ((c.steps_follows b).stage _ _).congr hlast.1 hlast.2
  exact Course.Abides.mono hfollows fun w r => agrees_eq.mp

/-! ## Many compilations -/

variable {c} {cs : List Compilation}

/-- What holds of a compilation after some turns of its own. -/
def AtTurn (cs : List Compilation) (n k : Nat) (b : Board)
    (course : Course Board Unit Failure Compiled) : Prop :=
  ∃ c, cs[n]? = some c
    ∧ course.Reached Board.Kept (fun _ r => r = (compile c.request).outcome)
      (compile c.request).pauses k b

theorem reliable (cs : List Compilation) :
    Crowd.Reliable Course.turn (fun _ => True) Board.Kept (AtTurn cs) where
  refl := Board.Kept.refl
  trans := Board.Kept.trans
  does := by
    rintro n k b course - ⟨c, hc, hreached⟩
    obtain ⟨hkept, hnext⟩ := hreached.turn Board.Kept.refl
    exact ⟨trivial, hkept, c, hc, hnext⟩
  withstands := by
    rintro n k b b' course ⟨c, hc, hreached⟩ hkept
    exact ⟨c, hc, hreached.withstands Board.Kept.trans hkept⟩

theorem stands_together (b : Board) (cs : List Compilation) (schedule : List Nat) :
    ((together b cs).run Course.turn schedule).Stands (fun _ => True) (AtTurn cs) schedule.count
      ∧ b.Kept ((together b cs).run Course.turn schedule).shared := by
  have hstart : (together b cs).Stands (fun _ => True) (AtTurn cs) fun _ => 0 := by
    refine ⟨trivial, fun n course hcourse => ?_⟩
    obtain ⟨c, hc, rfl⟩ : ∃ c, cs[n]? = some c
        ∧ Course.ask b .pause (fun b _ => c.transform b) = course := by
      simpa [together] using hcourse
    exact ⟨c, hc, Nat.zero_le _, Board.Kept.refl b, fun w _ => c.transform_abides w⟩
  have hrun := Crowd.stands_run (reliable cs) hstart schedule
  simp only [Nat.zero_add] at hrun
  exact hrun

/-- What a compilation warns of is what its parse and its check remark. -/
theorem warnings_of_compile {req : CompileRequest} {compiled : Compiled}
    (h : (compile req).outcome = .ok compiled) :
    ∃ t remarks t' more, Compile.parse req = .ok (t, remarks)
      ∧ (Compile.applyPasses (Compile.allPasses req) (DynamicImport.rename t)).outcome = .ok t'
      ∧ Compile.check req t'.fillSpans = .ok more
      ∧ compiled.warnings = (remarks ++ more).map (Compile.describe req.file) := by
  obtain ⟨result, hsteps, h⟩ := Script.outcome_bind h
  obtain ⟨_, _, h⟩ := Script.outcome_bind h
  cases h
  obtain ⟨⟨t, remarks⟩, hparse, h⟩ := Script.outcome_bind (Script.outcome_stage hsteps)
  obtain ⟨⟨t', more⟩, hchange, h⟩ := Script.outcome_bind h
  obtain ⟨_, _, h⟩ := Script.outcome_bind h
  obtain ⟨⟨text, lineMap⟩, _, h⟩ := Script.outcome_bind h
  cases h
  obtain ⟨passed, hpassed, hchange⟩ := Script.outcome_bind (Script.outcome_onFailure hchange)
  obtain ⟨found, hcheck, hchange⟩ := Script.outcome_bind hchange
  cases hchange
  exact ⟨t, remarks, passed, more, Script.outcome_onFailure hparse, hpassed, hcheck, rfl⟩

/-- **Compiling side by side is compiling alone.** Compilations share a board, whatever its filters
and its listener are, and have their turns in any order. After any turns the board is as it was but
for the records that were opened. Each compilation has come to an end once it has had more turns
than its passes pause, and then to what it comes to alone. What it warns of is what its own parse
has remarked, and then its own check. -/
theorem compiled_in_turns (b : Board) (cs : List Compilation) (schedule : List Nat) :
    let after := (together b cs).run Course.turn schedule
    b.Kept after.shared
      ∧ ∀ n c, cs[n]? = some c → ∃ course, after.members[n]? = some course
        ∧ ((compile c.request).pauses < schedule.count n ↔ ∃ w r, course = .done w r)
        ∧ ∀ w r, course = .done w r → r = (compile c.request).outcome
          ∧ ∀ compiled, r = .ok compiled → ∃ t remarks t' more,
            Compile.parse c.request = .ok (t, remarks)
            ∧ (Compile.applyPasses (Compile.allPasses c.request)
                (DynamicImport.rename t)).outcome = .ok t'
            ∧ Compile.check c.request t'.fillSpans = .ok more
            ∧ compiled.warnings = (remarks ++ more).map (Compile.describe c.request.file) := by
  intro after
  obtain ⟨hstands, hkept⟩ := stands_together b cs schedule
  refine ⟨hkept, fun n c hc => ?_⟩
  have hfirst : (together b cs).members[n]? = some (.ask b .pause fun b _ => c.transform b) := by
    simp only [together, List.getElem?_map, hc, Option.map_some]
  obtain ⟨course, hcourse⟩ := Crowd.exists_member schedule hfirst
  obtain ⟨c', hc', hreached⟩ := hstands.each n course hcourse
  obtain rfl : c = c' := Option.some.inj (hc.symm.trans hc')
  refine ⟨course, hcourse, ?_, ?_⟩
  · cases course with
    | done w r => exact ⟨fun _ => ⟨w, r, rfl⟩, fun _ => hreached.1⟩
    | ask w request next =>
        refine ⟨fun h => absurd h (Nat.not_lt.mpr hreached.1), ?_⟩
        rintro ⟨v, r, h⟩
        cases h
  · rintro w r rfl
    obtain ⟨-, rfl⟩ := hreached
    exact ⟨rfl, fun compiled h => warnings_of_compile h⟩

/-- Two compilations of which each pauses between its parse and its check, on a board on which every
remark is an error. -/
theorem remarks_kept_apart :
    let first : Compilation :=
      { request := { file := "/a.py", source := "x = '\\d' is 1\n", moduleMode := true,
                     passes := [Pass.identity.paused] } }
    let second : Compilation :=
      { request := { file := "/b.py", source := "y = 1 is 1\n", moduleMode := true,
                     passes := [Pass.identity.paused] } }
    let b : Board := { filters := [⟨.raise, fun _ => true⟩] }
    let after := (together b [first, second]).run Course.turn [0, 1, 1, 0]
    b.Kept after.shared ∧ ∃ w r w' r',
      after.members[0]? = some (.done w r) ∧ after.members[1]? = some (.done w' r')
        ∧ r.toOption.map Compiled.warnings
          = some ["/a.py:1: DeprecationWarning: invalid escape sequence '\\d'",
            "/a.py:1: SyntaxWarning: \"is\" with a literal. Did you mean \"==\"?"]
        ∧ r'.toOption.map Compiled.warnings
          = some ["/b.py:1: SyntaxWarning: \"is\" with a literal. Did you mean \"==\"?"] := by
  intro first second b after
  obtain ⟨hkept, hcalls⟩ := compiled_in_turns b [first, second] [0, 1, 1, 0]
  obtain ⟨course, hfirst, hended, hresult⟩ := hcalls 0 first rfl
  obtain ⟨w, r, rfl⟩ := hended.mp (by decide +kernel)
  obtain ⟨rfl, -⟩ := hresult w r rfl
  obtain ⟨course', hsecond, hended', hresult'⟩ := hcalls 1 second rfl
  obtain ⟨w', r', rfl⟩ := hended'.mp (by decide +kernel)
  obtain ⟨rfl, -⟩ := hresult' w' r' rfl
  exact ⟨hkept, w, _, w', _, hfirst, hsecond, by decide +kernel, by decide +kernel⟩

end Compilation

end SourceLoader
