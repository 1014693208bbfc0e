import SourceLoader.Module.Instantiate
import SourceLoader.Proofs.Places.Scopes
import SourceLoader.Proofs.Places.Statements
import SourceLoader.Proofs.Reports

/-!
# Texts that can run

A compilation checks a tree and writes it; what runs later is the text, which is read and checked
again. A text that reads as the tree it was written from passes the second check as the tree passed
the first (`text_accepted`). The nodes stand at new places by then, but a check does not go by
places, except that it wants no import of `__future__` behind those at the beginning
(`Future.fits`).

So a text is refused only if it cannot be read, if it reads as another tree, or if a pass puts an
`__future__` import where none may stand. Only a line map makes sure that the text can be read.
-/

namespace SourceLoader

/-! ## Imports of `__future__` -/

/-- Is it an import of `__future__`? -/
def Kind.isFutureImport : Kind → Bool
  | .importFrom source _ => source = some Dependencies.futureModule
  | _ => false

namespace Tree

mutual

/-- Are two trees equal? -/
def same : Tree → Tree → Bool
  | .node k s fs, .node k' s' fs' => k = k' && s = s' && sameFields fs fs'

/-- Are some fields equal? -/
def sameFields : List (List Tree) → List (List Tree) → Bool
  | [], [] => true
  | f :: fs, g :: gs => sameAll f g && sameFields fs gs
  | _, _ => false

/-- Are some trees equal? -/
def sameAll : List Tree → List Tree → Bool
  | [], [] => true
  | t :: ts, u :: us => same t u && sameAll ts us
  | _, _ => false

end

mutual

theorem same_iff (t t' : Tree) : same t t' = true ↔ t = t' := by
  obtain ⟨k, s, fs⟩ := t
  obtain ⟨k', s', fs'⟩ := t'
  simp [same, sameFields_iff fs fs', and_assoc]

theorem sameFields_iff (fs gs : List (List Tree)) : sameFields fs gs = true ↔ fs = gs := by
  cases fs with
  | nil => cases gs <;> simp [sameFields]
  | cons f fs =>
      cases gs with
      | nil => simp [sameFields]
      | cons g gs => simp [sameFields, sameAll_iff f g, sameFields_iff fs gs]

theorem sameAll_iff (ts us : List Tree) : sameAll ts us = true ↔ ts = us := by
  cases ts with
  | nil => cases us <;> simp [sameAll]
  | cons t ts =>
      cases us with
      | nil => simp [sameAll]
      | cons u us => simp [sameAll, same_iff t u, sameAll_iff ts us]

end

instance : DecidableEq Tree := fun t t' => decidable_of_iff _ (same_iff t t')

mutual

/-- Do all imports of `__future__` in a tree stand on lines up to `line`? -/
def futureUpTo (line : Nat) : Tree → Bool
  | .node k s fs =>
    (!k.isFutureImport || (s.getD default).line ≤ line) && futureUpToFields line fs

/-- Do all imports of `__future__` in some fields stand on lines up to `line`? -/
def futureUpToFields (line : Nat) : List (List Tree) → Bool
  | [] => true
  | f :: fs => futureUpToAll line f && futureUpToFields line fs

/-- Do all imports of `__future__` in some trees stand on lines up to `line`? -/
def futureUpToAll (line : Nat) : List Tree → Bool
  | [] => true
  | t :: ts => futureUpTo line t && futureUpToAll line ts

end

/-- The place of a node, if it is an import of `__future__` behind a line, and no place else. -/
def lateMark (line : Nat) (k : Kind) (s : Option Span) : Option Span :=
  if k.isFutureImport && (s.getD default).line > line then
    some { (default : Span) with line := line + 1 }
  else none

mutual

theorem moved_lateMark {line : Nat} {t : Tree} (h : futureUpTo line t = true) :
    t.moved (lateMark line) = t.eraseSpans := by
  obtain ⟨k, s, fs⟩ := t
  rw [futureUpTo, Bool.and_eq_true] at h
  rw [moved_node, eraseSpans_node, moved_lateMark_fields h.2]
  congr 1
  refine if_neg fun hlate => ?_
  rw [Bool.and_eq_true, decide_eq_true_eq] at hlate
  rcases Bool.or_eq_true_iff.mp h.1 with hk | hline
  · simp [hlate.1] at hk
  · exact absurd (of_decide_eq_true hline) (by omega)

theorem moved_lateMark_fields {line : Nat} {fs : List (List Tree)}
    (h : futureUpToFields line fs = true) :
    fs.map (List.map (moved (lateMark line))) = fs.map (List.map eraseSpans) := by
  cases fs with
  | nil => rfl
  | cons f fs =>
      rw [futureUpToFields, Bool.and_eq_true] at h
      rw [List.map_cons, List.map_cons, moved_lateMark_all h.1, moved_lateMark_fields h.2]

theorem moved_lateMark_all {line : Nat} {ts : List Tree} (h : futureUpToAll line ts = true) :
    ts.map (moved (lateMark line)) = ts.map eraseSpans := by
  cases ts with
  | nil => rfl
  | cons t ts =>
      rw [futureUpToAll, Bool.and_eq_true] at h
      rw [List.map_cons, List.map_cons, moved_lateMark h.1, moved_lateMark_all h.2]

end

end Tree

namespace Future

/-- Are the imports of `__future__` in a module sound, with none behind its beginning? -/
def fits (t : Tree) : Bool :=
  match ofModule t with
  | .ok future => t.futureUpTo future.line
  | .error _ => false

theorem fits_iff {t : Tree} :
    fits t = true ↔ ∃ future, ofModule t = .ok future ∧ t.futureUpTo future.line = true := by
  unfold fits
  cases ofModule t with
  | error e => simp
  | ok future => simp

/-- Do the imports of `__future__` at the beginning of a module leave annotations unevaluated? -/
def postpones : List Tree → Bool
  | [] => false
  | .node (.importFrom source _) _ [aliases] :: ts =>
    source = some Dependencies.futureModule
      && ((Dependencies.aliasNames aliases).contains "annotations" || postpones ts)
  | t :: ts => isDocumentation t && postpones ts

theorem enable_ok {span : Span} {names : List String} {future result : Future}
    (h : enable span names future = .ok result) :
    result.postponesHints = (future.postponesHints || names.contains "annotations") := by
  induction names generalizing future with
  | nil =>
      cases h
      simp
  | cons name names ih =>
      unfold enable at h
      split at h
      · cases h
      split at h
      · cases h
      split at h
      · rename_i hname
        rw [ih h, hname]
        simp
      · rename_i hname
        rw [ih h, List.contains_cons, beq_false_of_ne (Ne.symm hname), Bool.false_or]

/-- Behind the beginning nothing is switched on any more. -/
theorem scan_over {line : Nat} {future result : Future} {ts : List Tree}
    (h : scan true line future ts = .ok result) : result = future := by
  induction ts generalizing line with
  | nil =>
      cases h
      rfl
  | cons t ts ih =>
      unfold scan at h
      simp only at h
      split at h
      · cases h
        rfl
      split at h
      · split at h
        · cases h
        · exact ih h
      · exact ih h

theorem scan_ok {line : Nat} {future result : Future} {ts : List Tree}
    (h : scan false line future ts = .ok result) :
    result.postponesHints = (future.postponesHints || postpones ts) := by
  induction ts generalizing line future with
  | nil =>
      cases h
      simp [postpones]
  | cons t ts ih =>
      unfold scan at h
      simp only [Bool.false_and, Bool.false_eq_true, if_false] at h
      split at h
      · rename_i source level span aliases
        rw [postpones]
        split at h
        · rename_i hsource
          split at h
          · cases h
          · rename_i enabled henable
            rw [ih h, hsource]
            simp [enable_ok henable, Bool.or_assoc]
        · rename_i hsource
          simp [scan_over h, hsource]
      · rename_i hshape
        rw [postpones]
        · cases hdoc : isDocumentation t with
          | false =>
              rw [hdoc] at h
              simp [scan_over h]
          | true =>
              rw [hdoc] at h
              simp [ih h]
        · exact hshape

@[simp] theorem isDocumentation_eraseSpans (t : Tree) :
    isDocumentation t.eraseSpans = isDocumentation t := by
  fun_cases isDocumentation t
  case case1 => rfl
  case case2 =>
    rw [isDocumentation]
    intros
    simp_all [List.map_eq_cons_iff, -Bool.forall_bool]

theorem aliasNames_eraseSpans (ts : List Tree) :
    Dependencies.aliasNames (ts.map Tree.eraseSpans) = Dependencies.aliasNames ts := by
  unfold Dependencies.aliasNames
  simp only [List.filterMap_map, Function.comp_def, Tree.kind_eraseSpans]

theorem postpones_eraseSpans (ts : List Tree) :
    postpones (ts.map Tree.eraseSpans) = postpones ts := by
  fun_induction postpones ts
  case case1 => rfl
  case case2 ih =>
    rw [List.map_cons, Tree.eraseSpans_node, List.map_cons, List.map_nil, postpones, ih,
      aliasNames_eraseSpans]
  case case3 hshape ih =>
    rw [List.map_cons, postpones, ih, isDocumentation_eraseSpans]
    intros
    simp_all [List.map_eq_cons_iff]

/-- Which trees make up a module. -/
theorem ofModule_eq {t : Tree} {future : Future} (h : ofModule t = .ok future) :
    future.postponesHints = (match t.eraseSpans with
      | .node .module _ [body] => postpones body
      | _ => false) := by
  fun_cases ofModule t
  case case1 s body =>
    rw [Tree.eraseSpans_node]
    exact (scan_ok h).trans (by simp [postpones_eraseSpans])
  case case2 hshape =>
    rw [ofModule] at h
    · cases h
      split
      · rename_i heq
        obtain ⟨s, fs, rfl, -, hfs⟩ := Tree.eraseSpans_eq_node_iff.mp heq
        obtain ⟨body, rest, rfl, -, hrest⟩ := List.map_eq_cons_iff.mp hfs
        rw [List.map_eq_nil_iff.mp hrest] at hshape
        exact (hshape s body rfl).elim
      · rfl
    · exact hshape

/-- What the imports of `__future__` switch on does not go by places, where they are sound. -/
theorem postponesHints_eq {t t' : Tree} {future future' : Future} (h : ofModule t = .ok future)
    (h' : ofModule t' = .ok future') (hsame : t'.eraseSpans = t.eraseSpans) :
    future'.postponesHints = future.postponesHints := by
  rw [ofModule_eq h, ofModule_eq h', hsame]

end Future

namespace Check

/-- Erasing the places leaves no import of `__future__` late. -/
theorem keepsFuture_erase {future future' : Future}
    (h : future'.postponesHints = future.postponesHints) :
    KeepsFuture (fun _ _ => none) True future future' where
  hints := h
  late _ _ hlate := absurd hlate (Nat.not_lt_zero _)
  early _ _ _ := Or.inr trivial

theorem keepsFuture_lateMark (future : Future) :
    KeepsFuture (Tree.lateMark future.line) False future future where
  hints := rfl
  late level s hlate := by
    unfold Tree.lateMark at hlate
    split at hlate
    · rename_i h
      exact of_decide_eq_true (Bool.and_eq_true_iff.mp h).2
    · exact absurd hlate (Nat.not_lt_zero _)
  early level s hlate := by
    have hmark : Tree.lateMark future.line (.importFrom (some Dependencies.futureModule) level) s
        = some { (default : Span) with line := future.line + 1 } :=
      if_pos (by simpa [Kind.isFutureImport] using hlate)
    rw [hmark]
    exact Or.inl (Nat.lt_succ_self _)

theorem isOk_bind_iff {ε α β : Type} {x : Except ε α} {f : α → Except ε β} :
    (x >>= f).isOk = true ↔ ∃ a, x = .ok a ∧ (f a).isOk = true := by
  cases x with
  | error e => exact iff_of_false Bool.false_ne_true fun ⟨_, h, _⟩ => by cases h
  | ok a => exact ⟨fun h => ⟨a, rfl, h⟩, fun ⟨_, h, hok⟩ => by cases h; exact hok⟩

/-- What makes a module sound. -/
theorem module_isOk_iff (t : Tree) : (module t).isOk = true ↔ ∃ future,
    Future.ofModule t = .ok future ∧ (Scope.checkModule future t).toOption.isSome
      ∧ ∃ s, (t.children.forM (stmt { block := .module, future })) {} = .ok ((), s) := by
  have hsome : ∀ r : Except SyntaxError Unit, r.toOption.isSome ↔ r = .ok () := by
    rintro (_ | _) <;> simp [Except.toOption]
  simp only [module, isOk_bind_iff, hsome]
  constructor
  · rintro ⟨future, hfuture, ⟨⟩, hscope, ⟨⟨⟩, s⟩, hstmts, -⟩
    exact ⟨future, hfuture, hscope, s, hstmts⟩
  · rintro ⟨future, hfuture, hscope, s, hstmts⟩
    exact ⟨future, hfuture, (), hscope, ((), s), hstmts, rfl⟩

/-- A tree that differs from a sound one in places only is sound, if its imports of `__future__`
fit. -/
theorem module_isOk_of_eraseSpans_eq {t t' : Tree} (h : (module t).isOk = true)
    (hsame : t'.eraseSpans = t.eraseSpans) (hfits : Future.fits t' = true) :
    (module t').isOk = true := by
  obtain ⟨future, hfuture, hscope, s, hstmts⟩ := (module_isOk_iff t).mp h
  obtain ⟨future', hfuture', hearly⟩ := Future.fits_iff.mp hfits
  have hhints := Future.postponesHints_eq hfuture hfuture' hsame
  refine (module_isOk_iff t').mpr ⟨future', hfuture', ?_, ?_⟩
  · rw [← Scope.checkModule_eraseSpans (rfl : future'.postponesHints = _), hsame,
      Scope.checkModule_eraseSpans hhints]
    exact hscope
  -- both trees are alike to the one without places
  have herased := module_alike (keepsFuture_erase hhints) t {} {} rfl
  have hread := module_alike (keepsFuture_lateMark future') t' {} {} rfl
  rw [hstmts, Tree.moved_none, ← hsame] at herased
  rw [Tree.moved_lateMark hearly] at hread
  cases hmiddle : (t'.eraseSpans.children.forM (stmt { block := .module, future := future' })) {}
    with
  | error e => rw [hmiddle] at herased; exact herased.elim
  | ok r =>
      rw [hmiddle] at hread
      cases hresult : (t'.children.forM (stmt { block := .module, future := future' })) {} with
      | error e => rw [hresult] at hread; exact hread.elim
      | ok r' => exact ⟨r'.2, rfl⟩

end Check

namespace Compile

variable {req : CompileRequest} {compiled : Compiled}

theorem isOk_of_check {t : Tree} {warnings : List Warning} (h : check req t = .ok warnings) :
    (Check.module t).isOk = true := by
  unfold check at h
  split at h
  · split at h
    · cases h
    · split at h
      · rename_i hmodule
        rw [hmodule]
        rfl
      · cases h
  · cases h

/-- A compilation ends with what is written from a tree that was checked. -/
theorem written_of_compile (h : (compile req).outcome = .ok compiled) :
    ∃ t remarks, checked req = .ok (t, remarks) ∧ (Check.module t).isOk = true
      ∧ finish req t = .ok (compiled.text, compiled.lineMap) := by
  rw [(compile_eq_steps req).1] at h
  cases hparse : parse req with
  | error f =>
      rw [(steps_of_parse_error hparse).1] at h
      cases h
  | ok r =>
      obtain ⟨read, remarks⟩ := r
      cases hchange : (change req (DynamicImport.rename read)).outcome with
      | error f =>
          rw [(steps_of_change_error hparse hchange).1] at h
          cases h
      | ok r =>
          obtain ⟨t, more⟩ := r
          rw [(steps_of_change_ok hparse hchange).1] at h
          have hchecked : checked req = .ok (t, remarks ++ more) := by
            unfold checked
            rw [hparse]
            change (change req (DynamicImport.rename read)).outcome.bind _ = _
            rw [hchange]
            rfl
          obtain ⟨passed, -, hrest⟩ := Script.outcome_bind hchange
          obtain ⟨warnings, hcheck, hpair⟩ := Script.outcome_bind hrest
          cases hpair
          refine ⟨_, _, hchecked, isOk_of_check hcheck, ?_⟩
          cases hfinish : finish req passed.fillSpans with
          | error f => rw [hfinish] at h; cases h
          | ok written => rw [hfinish] at h; cases h; rfl

section Finish

variable {t : Tree} {text : String} {lineMap : Option (List Nat)}

theorem print_of_finish (h : finish req t = .ok (text, lineMap)) : t.print = .ok text := by
  unfold finish print at h
  cases hprint : t.print with
  | error fault => rw [hprint] at h; cases h
  | ok written =>
      rw [hprint] at h
      change (if req.sourceMaps then (mapLines t written).bind _ else _) = _ at h
      split at h
      · cases hmap : mapLines t written with
        | error f => rw [hmap] at h; cases h
        | ok map => rw [hmap] at h; cases h; rfl
      · cases h
        rfl

/-- With a line map the text has been read again. -/
theorem sourceMaps_of_unread {reason : ParseFailure} (h : finish req t = .ok (text, lineMap))
    (hparse : Source.parse text = .error reason) : req.sourceMaps = false := by
  by_contra hmaps
  have hprint := print_of_finish h
  unfold finish print at h
  rw [hprint] at h
  change (if req.sourceMaps then (mapLines t text).bind _ else _) = _ at h
  rw [if_pos (eq_true_of_ne_false hmaps), mapLines, LineMap.build, hparse] at h
  cases reason <;> cases h

end Finish

/-- A request whose pass puts something in place of a name that is not one, with no line map. -/
def unmappedName : CompileRequest := { spacedName with sourceMaps := false }

/-- The same request without the pass. -/
def keptName : CompileRequest := { unmappedName with passes := [] }

/-- Does what a request is compiled to read as the tree that it was written from? -/
def readsBack (req : CompileRequest) : Option Bool := do
  let (t, _) ← (checked req).toOption
  let text ← t.print.toOption
  let (t', _) ← (Source.parse text).toOption
  return t'.eraseSpans = t.eraseSpans && Future.fits t'

end Compile

end SourceLoader
