import SourceLoader.Model.Artifact
import SourceLoader.Proofs.Json.Value

/-!
# Artifacts can be read again

What is kept of a compiled source is a mapping. Reading it gives the compiled source back, whatever
its texts and its line map are.

It is kept as JSON, in which a whole number must not be too long. A line map tells lines of the
tree that the text was written from, and a tree with lines beyond a limit does not pass the check.
-/

namespace SourceLoader

namespace Model

variable {α : Type}

/-- Items that can be read one by one can be read together. -/
theorem items_map {read : Data → Reading α} (write : α → Data)
    (hread : ∀ a, read (write a) = .ok a) (position : Nat) (as : List α) :
    items read position (as.map write) = .ok as := by
  induction as generalizing position with
  | nil => rfl
  | cons a as ih => simp only [List.map_cons, items, hread, inside, ih, both]

theorem list_ofTexts (ss : List String) : list text (Data.ofTexts ss) = .ok ss := by
  have hitems : items text 0 (ss.map Data.text) = .ok ss := items_map Data.text (fun _ => rfl) 0 ss
  exact hitems

theorem optional_ofLineMap (map : Option (List Int)) :
    optional (list integer) (Data.ofLineMap map) = .ok map := by
  cases map with
  | none => rfl
  | some lines =>
      have hlines : items integer 0 (lines.map Data.int) = .ok lines :=
        items_map Data.int (fun _ => rfl) 0 lines
      simp only [Data.ofLineMap, optional, list, hlines]

end Model

/-- **What is kept of a compiled source gives it back.** -/
theorem Artifact.ofData_toData (a : Artifact) : Artifact.ofData a.toData = .ok a := by
  obtain ⟨dependencies, text, lineMap⟩ := a
  have hdependencies := Model.list_ofTexts dependencies
  have hlineMap := Model.optional_ofLineMap lineMap
  simp [Artifact.ofData, Artifact.toData, Data.record, Model.ofDict, Artifact.readFields,
    Model.required, Model.withDefault, Data.entry?, hdependencies, hlineMap, Model.text,
    Model.inside, Model.both, Model.nothingElse, Model.strange?, Artifact.fields, Except.mapError]

/-! ## What a script ends with -/

namespace Script

variable {α β : Type}

theorem outcome_bind {s : Script α} {f : α → Script β} {b : β}
    (h : (s >>= f).outcome = .ok b) : ∃ a, s.outcome = .ok a ∧ (f a).outcome = .ok b := by
  change (s.andThen f).outcome = .ok b at h
  unfold andThen at h
  split at h
  · cases h
  · rename_i a ha
    exact ⟨a, ha, h⟩

theorem outcome_onFailure_eq (s : Script α) (onError : Failure → List Effect) :
    (s.onFailure onError).outcome = s.outcome := by
  unfold onFailure
  cases h : s.outcome with
  | ok a => rfl
  | error e => rfl

theorem outcome_onFailure {s : Script α} {onError : Failure → List Effect} {a : α}
    (h : (s.onFailure onError).outcome = .ok a) : s.outcome = .ok a :=
  (outcome_onFailure_eq s onError).symm.trans h

theorem outcome_stage {name : String} {attributes : List (String × Data)} {s : Script α} {a : α}
    (h : (s.stage name attributes).outcome = .ok a) : s.outcome = .ok a := by
  unfold stage at h
  split at h
  · rename_i a' ha
    exact ha.trans h
  · cases h

end Script

/-! ## Line maps -/

namespace LineMap

/-- The lines that are entered are lines of the first walk. -/
theorem enter_lt {limit : Nat} {os es : List WalkStop} {map map' : List Nat}
    (hos : ∀ o ∈ os, o.line?.getD 0 < limit) (hmap : ∀ n ∈ map, n < limit)
    (h : enter os es map = .ok map') : ∀ n ∈ map', n < limit := by
  induction os generalizing es map with
  | nil =>
      cases h
      exact hmap
  | cons o os ih =>
      have hos' : ∀ o ∈ os, o.line?.getD 0 < limit := fun o ho => hos o (List.mem_cons_of_mem _ ho)
      cases es with
      | nil =>
          cases h
          exact hmap
      | cons e es =>
          unfold enter at h
          split at h
          · cases h
            exact hmap
          split at h
          · exact ih hos' hmap h
          · exact ih hos' hmap h
          · rename_i emitted source hemitted hsource
            split at h
            · cases h
            · refine ih hos' (fun n hn => ?_) h
              rcases List.mem_or_eq_of_mem_set hn with hn | rfl
              · exact hmap n hn
              · have ho := hos o List.mem_cons_self
                rwa [hsource] at ho
            · exact ih hos' hmap h

/-- A map tells lines of the tree, or zero. -/
theorem build_lt {limit : Nat} (hlimit : 0 < limit) {t : Tree} {text : String} {map : List Nat}
    (ht : ∀ o ∈ t.walk, o.line?.getD 0 < limit) (h : build t text = .ok map) :
    ∀ n ∈ map, n < limit := by
  unfold build at h
  split at h
  · cases h
  · refine enter_lt ht (fun n hn => ?_) h
    rw [(List.mem_replicate.mp hn).2]
    exact hlimit

end LineMap

/-! ## Compilations -/

namespace Compile

/-- A tree whose places fit has no line beyond the limit. -/
theorem line_lt_of_placesFit {t : Tree} (ht : placesFit t = true) :
    ∀ o ∈ t.walk, o.line?.getD 0 < placeLimit := by
  intro o ho
  cases o with
  | mark title => exact (by decide : 0 < placeLimit)
  | node n =>
      have hn : n ∈ t.walkNodes := List.mem_filterMap.mpr ⟨_, ho, rfl⟩
      have hfits := List.all_eq_true.mp ht n hn
      cases hspan : n.span? with
      | none => simp [WalkStop.line?, hspan, placeLimit]
      | some s =>
          simp only [hspan, Option.all_some, placeFits, Bool.and_eq_true, decide_eq_true_eq]
            at hfits
          simpa [WalkStop.line?, hspan] using hfits.1.1.1

theorem placesFit_of_check {req : CompileRequest} {t : Tree} {warnings : List Warning}
    (h : check req t = .ok warnings) : placesFit t = true := by
  unfold check at h
  split at h
  · assumption
  · cases h

theorem placesFit_of_change {req : CompileRequest} {t t' : Tree} {warnings : List Warning}
    (h : (change req t).outcome = .ok (t', warnings)) : placesFit t' = true := by
  obtain ⟨passed, _, h⟩ := Script.outcome_bind h
  obtain ⟨remarks, hcheck, h⟩ := Script.outcome_bind h
  cases h
  exact placesFit_of_check hcheck

/-- A line map is made from the text and the tree that it was written from. -/
theorem build_of_finish {req : CompileRequest} {t : Tree} {text : String} {map : List Nat}
    (h : finish req t = .ok (text, some map)) : LineMap.build t text = .ok map := by
  unfold finish at h
  cases hprint : print t with
  | error f => rw [hprint] at h; cases h
  | ok written =>
      rw [hprint] at h
      change (if req.sourceMaps then _ else _) = _ at h
      split at h
      · cases hmap : mapLines t written with
        | error f => rw [hmap] at h; cases h
        | ok lines =>
            rw [hmap] at h
            cases h
            unfold mapLines at hmap
            split at hmap
            · cases hmap
              assumption
            · cases hmap
            · cases hmap
      · cases h

/-- What a compilation ends with is written from a tree whose places fit. -/
theorem finish_of_steps {req : CompileRequest} {compiled : Compiled}
    (h : (steps req).outcome = .ok compiled) :
    ∃ t, placesFit t = true ∧ finish req t = .ok (compiled.text, compiled.lineMap) := by
  obtain ⟨read, _, h⟩ := Script.outcome_bind h
  obtain ⟨⟨t, more⟩, hchange, h⟩ := Script.outcome_bind h
  obtain ⟨_, _, h⟩ := Script.outcome_bind h
  obtain ⟨⟨text, lineMap⟩, hfinish, h⟩ := Script.outcome_bind h
  cases h
  exact ⟨t, placesFit_of_change (Script.outcome_onFailure hchange), hfinish⟩

/-- A line map tells lines below the limit. -/
theorem lineMap_lt {req : CompileRequest} {compiled : Compiled}
    (h : (compile req).outcome = .ok compiled) {map : List Nat}
    (hmap : compiled.lineMap = some map) : ∀ n ∈ map, n < placeLimit := by
  obtain ⟨result, hsteps, h⟩ := Script.outcome_bind h
  obtain ⟨_, _, h⟩ := Script.outcome_bind h
  cases h
  obtain ⟨t, ht, hfinish⟩ := finish_of_steps (Script.outcome_stage hsteps)
  rw [hmap] at hfinish
  exact LineMap.build_lt (by decide) (line_lt_of_placesFit ht) (build_of_finish hfinish)

end Compile

/-! ## What is kept is JSON -/

theorem Data.native_ofTexts (ss : List String) : (Data.ofTexts ss).Native := by
  refine .list _ fun d hd => ?_
  obtain ⟨s, _, rfl⟩ := List.mem_map.mp hd
  exact .text s

theorem Data.native_ofLineMap {map : Option (List Int)}
    (hmap : ∀ lines, map = some lines → ∀ n ∈ lines, n.natAbs < Nat.pow 10 Number.maxDigits) :
    (Data.ofLineMap map).Native := by
  cases map with
  | none => exact .none
  | some lines =>
      refine .list _ fun d hd => ?_
      obtain ⟨n, hn, rfl⟩ := List.mem_map.mp hd
      exact .int n (hmap lines rfl n hn)

/-- The whole numbers of the line map are short enough to be written. -/
def Artifact.Short (a : Artifact) : Prop :=
  ∀ lines, a.lineMap = some lines → ∀ n ∈ lines, n.natAbs < Nat.pow 10 Number.maxDigits

theorem Artifact.native_toData {a : Artifact} (hshort : a.Short) : a.toData.Native := by
  refine .record [("dependency_specifiers", .ofTexts a.dependencies),
    ("transformed_source", .text a.text), ("line_map", .ofLineMap a.lineMap)] (by simp) ?_
  intro f hf
  simp only [List.mem_cons, List.not_mem_nil, or_false] at hf
  rcases hf with rfl | rfl | rfl
  · exact Data.native_ofTexts _
  · exact .text _
  · exact Data.native_ofLineMap hshort

theorem Number.lt_of_ten_digits {n : Nat} (h : n < Nat.pow 10 10) :
    n < Nat.pow 10 Number.maxDigits := by
  have hpow : ∀ {a b : Nat}, a ≤ b → Nat.pow 10 a ≤ Nat.pow 10 b := fun h =>
    Nat.pow_le_pow_right (by decide) h
  exact Nat.lt_of_lt_of_le h (hpow (by decide))

/-- The line map of a compilation tells lines, and there are not that many. -/
theorem Compiled.short_toArtifact {req : CompileRequest} {compiled : Compiled}
    (h : (compile req).outcome = .ok compiled) : compiled.toArtifact.Short := by
  intro lines hlines n hn
  simp only [Compiled.toArtifact, Option.map_eq_some_iff] at hlines
  obtain ⟨map, hmap, rfl⟩ := hlines
  obtain ⟨k, hk, rfl⟩ := List.mem_map.mp hn
  refine Number.lt_of_ten_digits ?_
  calc k < Compile.placeLimit := Compile.lineMap_lt h hmap k hk
    _ ≤ Nat.pow 10 10 := by decide

/-- **What is kept of a compiled source can be written, and reading it gives it back.** -/
theorem Compiled.write_toArtifact {req : CompileRequest} {compiled : Compiled}
    (h : (compile req).outcome = .ok compiled) :
    ∃ text, Json.write .spaced compiled.toArtifact.toData = .ok text
      ∧ Json.read text = .ok compiled.toArtifact.toData :=
  Json.read_write (Artifact.native_toData (Compiled.short_toArtifact h))

/-!
## Artifacts through JSON

An artifact is kept as a JSON text. Reading the text and what it says gives the artifact back,
whatever its texts are: quotes, backslashes, control characters, and characters that need two
escapes. The one thing that can stand in the way is a whole number in the line map that is too long
to be written (`Artifact.Short`), and then there is no text at all. So a text that was written is
never read as something else.
-/

namespace Artifact

/-- Writes an artifact as JSON text and reads it again. -/
def reread (a : Artifact) : Except Failure Artifact :=
  match Json.write .spaced a.toData with
  | .error obstacle => .error (.unwritable obstacle)
  | .ok text =>
    match Json.read text with
    | .error rejection => .error (.unreadable text rejection)
    | .ok d => ofData d

end Artifact

namespace Json

variable {layout : Layout}

/-- Among whole numbers a long one is the only obstacle. -/
theorem writeAll_of_long {lines : List Int}
    (h : ∃ n ∈ lines, Nat.pow 10 Number.maxDigits ≤ n.natAbs) :
    writeAll layout (lines.map .int) = .error .hugeInteger := by
  induction lines with
  | nil =>
      obtain ⟨n, hn, -⟩ := h
      cases hn
  | cons n lines ih =>
      rw [List.map_cons, writeAll, write, intText]
      by_cases hlong : Nat.pow 10 Number.maxDigits ≤ n.natAbs
      · rw [if_pos hlong]
        rfl
      · have hrest : ∃ n ∈ lines, Nat.pow 10 Number.maxDigits ≤ n.natAbs := by
          obtain ⟨m, hm, hm'⟩ := h
          rcases List.mem_cons.mp hm with rfl | hm
          · exact absurd hm' hlong
          · exact ⟨m, hm, hm'⟩
        rw [if_neg hlong, ih hrest]
        rfl

theorem write_ofLineMap_of_long {lines : List Int}
    (h : ∃ n ∈ lines, Nat.pow 10 Number.maxDigits ≤ n.natAbs) :
    write layout (.ofLineMap (some lines)) = .error .hugeInteger := by
  rw [Data.ofLineMap, write, writeAll_of_long h]
  rfl

/-- Entries that can be written, and behind them one that cannot. -/
theorem writeEntries_of_obstacle {fields : List (String × Data)} (name : String) {d : Data}
    (rest : List (Data × Data)) {obstacle : Obstacle}
    (hfields : ∀ f ∈ fields, ∃ text, write layout f.2 = .ok text)
    (hd : write layout d = .error obstacle) :
    writeEntries layout (fields.map (fun f => (.text f.1, f.2)) ++ (.text name, d) :: rest)
      = .error obstacle := by
  induction fields with
  | nil =>
      rw [List.map_nil, List.nil_append, writeEntries, keyText, hd]
      rfl
  | cons f fields ih =>
      obtain ⟨text, htext⟩ := hfields f List.mem_cons_self
      rw [List.map_cons, List.cons_append, writeEntries, keyText, htext,
        ih fun f hf => hfields f (List.mem_cons_of_mem _ hf)]
      rfl

end Json

namespace Artifact

variable {a : Artifact}

theorem reread_of_short (hshort : a.Short) : a.reread = .ok a := by
  obtain ⟨text, hwrite, hread⟩ := Json.read_write (native_toData hshort)
  simp only [reread, hwrite, hread]
  exact ofData_toData a

theorem reread_of_long (hlong : ¬ a.Short) : a.reread = .error (.unwritable .hugeInteger) := by
  obtain ⟨lines, hlines, hmem⟩ : ∃ lines, a.lineMap = some lines
      ∧ ∃ n ∈ lines, Nat.pow 10 Number.maxDigits ≤ n.natAbs := by
    simpa only [Artifact.Short, not_forall, exists_prop, Nat.not_lt] using hlong
  -- the texts in front of the line map can always be written
  have htexts : ∀ f ∈ [("dependency_specifiers", Data.ofTexts a.dependencies),
      ("transformed_source", .text a.text)], ∃ text, Json.write .spaced f.2 = .ok text := by
    intro f hf
    have hnative : f.2.Native := by
      simp only [List.mem_cons, List.not_mem_nil, or_false] at hf
      rcases hf with rfl | rfl
      · exact Data.native_ofTexts _
      · exact .text _
    obtain ⟨text, hwrite, -⟩ := Json.read_write hnative
    exact ⟨text, hwrite⟩
  have hwrite : Json.write .spaced a.toData = .error .hugeInteger := by
    have hentries := Json.writeEntries_of_obstacle "line_map" [] htexts
      (Json.write_ofLineMap_of_long hmem)
    rw [toData, hlines, Data.record, Json.write]
    exact congrArg (· >>= _) hentries
  simp only [reread, hwrite]

end Artifact

/-- **Artifacts are read back.** An artifact whose line map can be written is what is read of its
text, and one whose line map cannot be has no text. The artifact of a result has, when it is read
back, the fields of the result that an artifact has, with the same values. What was compiled can
always be read back. -/
theorem artifacts_reread :
    (∀ a : Artifact, (a.Short → a.reread = .ok a)
        ∧ (¬ a.Short → a.reread = .error (.unwritable .hugeInteger)))
      ∧ (∀ r : TransformResult, r.artifact.Short → ∃ a fields, r.artifact.reread = .ok a
        ∧ r.toData = .record fields
        ∧ a.toData = .record (fields.filter fun f => f.1 ∈ Artifact.fields))
      ∧ ∀ req compiled, (compile req).outcome = .ok compiled →
        ∃ a, compiled.toArtifact.reread = .ok a ∧ a.dependencies = compiled.dependencies
          ∧ a.text = compiled.text ∧ a.lineMap = compiled.lineMap.map (·.map Int.ofNat) := by
  refine ⟨fun a => ⟨Artifact.reread_of_short, Artifact.reread_of_long⟩, fun r hshort => ?_,
    fun req compiled h => ?_⟩
  · exact ⟨_, _, Artifact.reread_of_short hshort, rfl, by simp [Artifact.toData, Artifact.fields]⟩
  · exact ⟨_, Artifact.reread_of_short (Compiled.short_toArtifact h), rfl, rfl, rfl⟩

/-- A text with quotes, a line break and a character that needs two escapes. -/
theorem reread_astral :
    let a : Artifact := ⟨["./b.py", "./b.py"], "x = '\\d\"'\n# \x01 🙂", some [1, -2]⟩
    a.reread = .ok a := by
  intro a
  refine (artifacts_reread.1 a).1 fun lines hlines n hn => ?_
  obtain rfl : [1, -2] = lines := Option.some.inj hlines
  obtain rfl | rfl : n = 1 ∨ n = -2 := by simpa using hn
  · exact Number.lt_of_ten_digits (by decide)
  · exact Number.lt_of_ten_digits (by decide)

end SourceLoader
