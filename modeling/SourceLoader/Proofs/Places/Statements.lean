import Mathlib.Data.List.Forall2
import SourceLoader.Proofs.Places.Expressions

/-!
# Statements at other places

A statement is checked alike wherever its nodes stand (`stmt_alike_all`), with one exception: an
`__future__` import must not come later than those that the module begins with, and what is late
goes by lines. `KeepsFuture` says of a move that it leaves late what is late.
-/

namespace SourceLoader

namespace Check

open Tree (moved moved_node)

variable {p : Kind → Option Span → Option Span} {loose : Prop}

theorem expr_alike (ctx : Context) (t : Tree) (future : Future) (frames : List Frame) :
    Alike loose (expr ctx t) (expr (ctx.over future frames) (t.moved p)) :=
  expr_alike_all.1 ctx t future frames

theorem exprFields_alike (ctx : Context) (fs : List (List Tree)) (future : Future)
    (frames : List Frame) : Alike loose (exprFields ctx fs)
      (exprFields (ctx.over future frames) (fs.map (List.map (moved p)))) :=
  expr_alike_all.2.1 ctx fs future frames

theorem exprs_alike (ctx : Context) (ts : List Tree) (future : Future) (frames : List Frame) :
    Alike loose (exprs ctx ts) (exprs (ctx.over future frames) (ts.map (moved p))) :=
  expr_alike_all.2.2.1 ctx ts future frames

theorem entriesOf_alike (ctx : Context) (ts : List Tree) (future : Future) (frames : List Frame) :
    Alike loose (entriesOf ctx ts) (entriesOf (ctx.over future frames) (ts.map (moved p))) :=
  expr_alike_all.2.2.2.2.2.1 ctx ts future frames

theorem elementsOf_alike (ctx : Context) (ts : List Tree) (future : Future) (frames : List Frame) :
    Alike loose (elementsOf ctx ts) (elementsOf (ctx.over future frames) (ts.map (moved p))) :=
  expr_alike_all.2.2.2.2.2.2.2 ctx ts future frames

/-! ## Patterns -/

theorem alike_store (name : Option String) : Alike loose (store name) (store name) := by
  cases name with
  | none => exact alike_done
  | some n =>
      refine Agree.bind agree_get fun s s' hs => (alike_mayUse _ _ _ _).seq ?_
      rw [hs]
      exact alike_unless (agree_set rfl)

theorem alike_moveTo (span span' : Option Span) : Alike loose (moveTo span) (moveTo span') :=
  agree_modify fun _ _ hs => hs

theorem alike_setStores (names : List String) :
    Alike loose (modify fun s => { s with stores := names })
      (modify fun s => { s with stores := names }) :=
  agree_modify fun _ _ _ => rfl

theorem alike_checkAttributes (named : List (String × Tree)) :
    Alike loose (checkAttributes named)
      (checkAttributes (named.map fun n => (n.1, n.2.moved p))) := by
  have hfind : ∀ (name : String) (named : List (String × Tree)),
      ((named.map fun n => (n.1, n.2.moved p)).find? fun other => other.1 = name)
        = (named.find? fun other => other.1 = name).map fun n => (n.1, n.2.moved p) := by
    intro name named
    rw [List.find?_map]
    rfl
  induction named with
  | nil => exact alike_done
  | cons n named ih =>
      unfold checkAttributes
      refine (alike_mayUse _ _ _ _).seq ?_
      rw [hfind]
      cases named.find? fun other => other.1 = n.1 with
      | none => exact ih
      | some other => exact alike_refuse _ _ _ _

theorem alike_checkKeys (ctx : Context) (future : Future) (frames : List Frame)
    (place place' : Span) (seen : List StaticValue) (keys : List Tree) :
    Alike loose (checkKeys ctx place seen keys)
      (checkKeys (ctx.over future frames) place' seen (keys.map (moved p))) := by
  induction keys generalizing seen with
  | nil => exact alike_done
  | cons key keys ih =>
      rw [List.map_cons]
      unfold checkKeys
      rw [Tree.kind_moved, Tree.staticValue?_moved]
      split
      · exact alike_unless (ih _)
      · exact (expr_alike _ _ _ _).seq (ih _)
      · exact alike_refuse _ _ _ _

theorem alike_checkStars (place place' : Span) (position : Nat) (starred : Bool)
    (ts : List Tree) : Alike loose (checkStars place position starred ts)
      (checkStars place' position starred (ts.map (moved p))) := by
  induction ts generalizing position starred with
  | nil => exact alike_done
  | cons t ts ih =>
      obtain ⟨k, s, fs⟩ := t
      rw [List.map_cons, moved_node]
      cases k with
      | matchStar name =>
          unfold checkStars
          exact alike_unless (alike_unless (ih _ _))
      | _ => exact ih _ _

theorem pattern_alike_all (ctx : Context) (future : Future) (frames : List Frame) :
    (∀ last t, Alike loose (pattern ctx last t)
      (pattern (ctx.over future frames) last (t.moved p)))
    ∧ (∀ last names ts, Same loose Eq (alternatives ctx last names ts)
      (alternatives (ctx.over future frames) last names (ts.map (moved p))))
    ∧ ∀ ts, Alike loose (subpatterns ctx ts)
      (subpatterns (ctx.over future frames) (ts.map (moved p))) := by
  apply pattern.mutual_induct
    (fun last t => Alike loose (pattern ctx last t)
      (pattern (ctx.over future frames) last (t.moved p)))
    (fun last names ts => Same loose Eq (alternatives ctx last names ts)
      (alternatives (ctx.over future frames) last names (ts.map (moved p))))
    (fun ts => Alike loose (subpatterns ctx ts)
      (subpatterns (ctx.over future frames) (ts.map (moved p))))
  all_goals intros
  all_goals try simp only [moved_node, List.map_cons, List.map_nil, pattern, alternatives,
    subpatterns, Tree.kind_moved, Tree.staticValue?_moved]
  case case1 =>
    refine (alike_moveTo _ _).seq ?_
    split
    · exact expr_alike _ _ _ _
    · exact alike_done
    · exact alike_refuse _ _ _ _
  case case2 ih =>
    exact (alike_moveTo _ _).seq ((alike_checkStars _ _ _ _ _).seq ih)
  case case3 => exact (alike_moveTo _ _).seq (alike_store _)
  case case4 ih =>
    exact (alike_moveTo _ _).seq ((alike_checkKeys _ _ _ _ _ _ _).seq (ih.seq (alike_store _)))
  case case5 ihp ihn =>
    refine (alike_moveTo _ _).seq (Alike.seq ?_ ((expr_alike _ _ _ _).seq (ihp.seq ihn)))
    rw [List.zip_map_right]
    exact alike_checkAttributes _
  case case6 =>
    refine (alike_moveTo _ _).seq ?_
    refine Agree.ite (fun _ => ?_) fun _ => alike_store _
    split
    all_goals exact (alike_refuse _ _ _ _).seq (alike_store _)
  case case7 ih =>
    exact (alike_moveTo _ _).seq (ih.seq (alike_store _))
  case case8 ih =>
    refine (alike_moveTo _ _).seq (Agree.bind agree_get fun s s' hs => Agree.bind ih ?_)
    rintro names _ rfl
    rw [hs]
    refine (alike_setStores _).seq ?_
    refine agree_forM fun n _ => Agree.bind agree_get fun s s' hs => ?_
    rw [hs]
    exact alike_unless (agree_set rfl)
  case case9 =>
    rw [pattern]
    · exact alike_moveTo _ _
    all_goals
      intros
      simp_all [List.map_eq_cons_iff, -Bool.forall_bool]
  case case10 => exact agree_pure rfl
  case case11 ts ih ihs ihn =>
    rw [List.isEmpty_map]
    refine Agree.seq (alike_setStores _) (Agree.seq ih (Agree.bind agree_get fun s s' hs => ?_))
    split
    · rw [← hs]
      exact ihs s
    · rw [hs]
      exact Agree.ite (fun _ => ihn) fun _ => Agree.bind agree_get fun _ _ _ => agree_throw _ _
  case case12 => exact alike_done
  case case13 ih =>
    exact ih
  case case14 ih ih' =>
    rw [subpatterns]
    · exact ih.seq ih'
    intros
    simp_all [-Bool.forall_bool]

theorem pattern_alike (ctx : Context) (last : Bool) (t : Tree) (future : Future)
    (frames : List Frame) : Alike loose (pattern ctx last t)
      (pattern (ctx.over future frames) last (t.moved p)) :=
  (pattern_alike_all ctx future frames).1 last t

/-! ## Statements -/

/-- The same frame, with a final part that is checked alike. -/
def Frame.Alike (loose : Prop) : Frame → Frame → Prop
  | .loop, .loop | .plain, .plain | .groupHandler, .groupHandler => True
  | .final run, .final run' => Check.Alike loose run run'
  | _, _ => False

/-- Two contexts stand at the same place of a tree, under futures of their own. -/
structure Context.Beside (loose : Prop) (future future' : Future) (ctx ctx' : Context) : Prop where
  future_eq : ctx.future = future
  frames : List.Forall₂ (Frame.Alike loose) ctx.frames ctx'.frames
  eq_over : ctx' = ctx.over future' ctx'.frames

section

variable {future future' : Future} {ctx ctx' : Context}

namespace Context.Beside

variable (h : Context.Beside loose future future' ctx ctx')

include h

theorem block_eq : ctx'.block = ctx.block := by rw [h.eq_over]; rfl

theorem isGenerator_eq : ctx'.isGenerator = ctx.isGenerator := by rw [h.eq_over]; rfl

theorem isCoroutine_eq : ctx'.isCoroutine = ctx.isCoroutine := by rw [h.eq_over]; rfl

theorem future'_eq : ctx'.future = future' := by rw [h.eq_over]; rfl

/-- The contexts of an inner block stand at the same place too. -/
theorem fresh (block : Block) (isGenerator isCoroutine : Bool) :
    Context.Beside loose future future' { block, future := ctx.future, isGenerator, isCoroutine }
      { block, future := ctx'.future, isGenerator, isCoroutine } :=
  ⟨h.future_eq, .nil, by rw [h.future'_eq]; rfl⟩

theorem expr (t : Tree) : Alike loose (expr ctx t) (Check.expr ctx' (t.moved p)) := by
  rw [h.eq_over]
  exact expr_alike ctx t future' _

theorem exprs (ts : List Tree) : Alike loose (exprs ctx ts)
    (Check.exprs ctx' (ts.map (moved p))) := by
  rw [h.eq_over]
  exact exprs_alike ctx ts future' _

theorem exprFields (fs : List (List Tree)) : Alike loose (exprFields ctx fs)
    (Check.exprFields ctx' (fs.map (List.map (moved p)))) := by
  rw [h.eq_over]
  exact exprFields_alike ctx fs future' _

theorem entriesOf (ts : List Tree) : Alike loose (entriesOf ctx ts)
    (Check.entriesOf ctx' (ts.map (moved p))) := by
  rw [h.eq_over]
  exact entriesOf_alike ctx ts future' _

theorem elementsOf (ts : List Tree) : Alike loose (elementsOf ctx ts)
    (Check.elementsOf ctx' (ts.map (moved p))) := by
  rw [h.eq_over]
  exact elementsOf_alike ctx ts future' _

theorem pattern (last : Bool) (t : Tree) : Alike loose (pattern ctx last t)
    (Check.pattern ctx' last (t.moved p)) := by
  rw [h.eq_over]
  exact pattern_alike ctx last t future' _

theorem push (frame frame' : Frame) (hframe : Frame.Alike loose frame frame') (span span' : Span) :
    Same loose (Context.Beside loose future future') (push ctx frame span)
      (Check.push ctx' frame' span') := by
  unfold Check.push
  rw [← h.frames.length_eq]
  refine Agree.ite (fun _ => agree_throw _ _) fun _ =>
    agree_pure ⟨h.future_eq, .cons hframe h.frames, ?_⟩
  rw [h.eq_over]
  rfl

theorem pushPlain (span span' : Span) : Same loose (Context.Beside loose future future')
    (Check.push ctx .plain span) (Check.push ctx' .plain span') :=
  h.push .plain .plain trivial span span'

theorem pushLoop (span span' : Span) : Same loose (Context.Beside loose future future')
    (Check.push ctx .loop span) (Check.push ctx' .loop span') :=
  h.push .loop .loop trivial span span'

theorem pushFinal {run run' : Checker Unit} (hrun : Alike loose run run') (span span' : Span) :
    Same loose (Context.Beside loose future future') (Check.push ctx (.final run) span)
      (Check.push ctx' (.final run') span') :=
  h.push (.final run) (.final run') hrun span span'

theorem handled {body handlers otherwise body' handlers' otherwise' : Context → Checker Unit}
    (hbody : ∀ c c', Context.Beside loose future future' c c' → Alike loose (body c) (body' c'))
    (hhandlers : ∀ c c', Context.Beside loose future future' c c' →
      Alike loose (handlers c) (handlers' c'))
    (hotherwise : ∀ c c', Context.Beside loose future future' c c' →
      Alike loose (otherwise c) (otherwise' c')) (span span' : Span) (star : Bool) :
    Alike loose (handled ctx span star body handlers otherwise)
      (Check.handled ctx' span' star body' handlers' otherwise') := by
  unfold Check.handled
  refine Agree.bind (h.pushPlain span span') fun c c' hc => (hbody c c' hc).seq ?_
  refine Agree.ite (fun _ => ?_) fun _ => (hotherwise _ _ h).seq ?_
  · exact Agree.bind (h.push .groupHandler .groupHandler trivial span span')
      fun c c' hc => (hhandlers c c' hc).seq (hotherwise _ _ h)
  · exact Agree.bind (h.pushPlain span span') hhandlers

end Context.Beside

theorem alike_unwind {frames frames' : List Frame}
    (h : List.Forall₂ (Frame.Alike loose) frames frames') (span span' : Span) (toLoop : Bool) :
    Same loose Eq (unwind span toLoop frames) (unwind span' toLoop frames') := by
  induction h with
  | nil => exact agree_pure rfl
  | @cons frame frame' frames frames' hframe hframes ih =>
      cases frame <;> cases frame' <;> try exact hframe.elim
      case loop => exact Agree.ite (fun _ => agree_pure rfl) fun _ => ih
      case plain => exact ih
      case groupHandler => exact agree_throw _ _
      case final run run' =>
        have hrun : Alike loose run run' := hframe
        exact Agree.seq hrun ih

theorem alike_bindAliases (span span' : Span) (ts : List Tree) :
    Alike loose (bindAliases span ts) (bindAliases span' (ts.map (moved p))) := by
  induction ts with
  | nil => exact alike_done
  | cons t ts ih =>
      obtain ⟨k, s, fs⟩ := t
      rw [List.map_cons, moved_node]
      cases k with
      | «alias» name asName =>
          unfold bindAliases
          exact (alike_mayUse _ _ _ _).seq ih
      | _ => exact ih

theorem hintsOf_moved (ts : List Tree) :
    hintsOf (ts.map (moved p)) = (hintsOf ts).map (moved p) := by
  unfold hintsOf
  rw [List.flatMap_map, List.map_flatMap]
  refine List.flatMap_congr fun t _ => ?_
  obtain ⟨k, s, _ | ⟨_, _ | ⟨_, _⟩⟩⟩ := t
  all_goals
    rw [moved_node]
    cases k <;> rfl

namespace Context.Beside

variable (h : Context.Beside loose future future' ctx ctx')

include h

theorem evaluatedHint (hhints : future'.postponesHints = future.postponesHints) (ts : List Tree) :
    Alike loose (evaluatedHint ctx ts) (Check.evaluatedHint ctx' (ts.map (moved p))) := by
  unfold Check.evaluatedHint
  rw [h.future'_eq, hhints, h.future_eq]
  exact Agree.ite (fun _ => alike_done) fun _ => h.elementsOf _

theorem signature (hhints : future'.postponesHints = future.postponesHints) (arguments : Tree)
    (result : List Tree) : Alike loose (signature ctx arguments result)
      (Check.signature ctx' (arguments.moved p) (result.map (moved p))) := by
  fun_cases Check.signature ctx arguments result
  case case1 =>
    simp only [moved_node, List.map_cons, List.map_nil, Check.signature, hintsOf_moved,
      ← List.map_append]
    exact (h.exprs _).seq ((h.entriesOf _).seq (h.evaluatedHint hhints _))
  case case2 =>
    rw [Check.signature]
    · exact alike_done
    intros
    simp_all [List.map_eq_cons_iff]

end Context.Beside

theorem alike_withItems (h : Context.Beside loose future future' ctx ctx') (span span' : Span)
    (ts : List Tree) : Same loose (Context.Beside loose future future') (withItems ctx span ts)
      (withItems ctx' span' (ts.map (moved p))) := by
  fun_induction withItems ctx span ts generalizing ctx'
  case case1 ih =>
    simp only [moved_node, List.map_cons, List.map_nil, withItems]
    refine Agree.seq (h.expr _) (Agree.bind (h.pushPlain _ _)
      fun c c' hc => Agree.seq (h.exprs _) (ih c hc))
  case case2 =>
    rw [withItems]
    · exact agree_pure h
    intros
    simp_all [List.map_eq_cons_iff]

/-- Imports of `__future__` are as early in the moved tree as in the tree itself. Only a loose
check may find one that is not late any more. -/
structure KeepsFuture (p : Kind → Option Span → Option Span) (loose : Prop)
    (future future' : Future) : Prop where
  hints : future'.postponesHints = future.postponesHints
  late : ∀ level s,
    ((p (.importFrom (some Dependencies.futureModule) level) s).getD default).line > future'.line →
      (s.getD default : Span).line > future.line
  early : ∀ level s, (s.getD default : Span).line > future.line →
    ((p (.importFrom (some Dependencies.futureModule) level) s).getD default).line > future'.line
      ∨ loose

theorem stmt_alike_all (hp : KeepsFuture p loose future future') :
    (∀ ctx t ctx', Context.Beside loose future future' ctx ctx' →
      Alike loose (stmt ctx t) (stmt ctx' (t.moved p)))
    ∧ (∀ ctx star ts ctx', Context.Beside loose future future' ctx ctx' →
      Alike loose (handlersOf ctx star ts) (handlersOf ctx' star (ts.map (moved p))))
    ∧ (∀ ctx ts ctx', Context.Beside loose future future' ctx ctx' →
      Alike loose (stmts ctx ts) (stmts ctx' (ts.map (moved p))))
    ∧ ∀ ctx ts ctx', Context.Beside loose future future' ctx ctx' →
      Alike loose (casesOf ctx ts) (casesOf ctx' (ts.map (moved p))) := by
  apply stmt.mutual_induct
    (fun ctx t => ∀ ctx', Context.Beside loose future future' ctx ctx' →
      Alike loose (stmt ctx t) (stmt ctx' (t.moved p)))
    (fun ctx star ts => ∀ ctx', Context.Beside loose future future' ctx ctx' →
      Alike loose (handlersOf ctx star ts) (handlersOf ctx' star (ts.map (moved p))))
    (fun ctx ts => ∀ ctx', Context.Beside loose future future' ctx ctx' →
      Alike loose (stmts ctx ts) (stmts ctx' (ts.map (moved p))))
    (fun ctx ts => ∀ ctx', Context.Beside loose future future' ctx ctx' →
      Alike loose (casesOf ctx ts) (casesOf ctx' (ts.map (moved p))))
  -- what is no statement
  case case30 =>
    intros
    rw [stmt, stmt]
    · exact alike_done
    all_goals first
      | assumption
      | (intros
         rename_i h
         obtain ⟨s, fs, rfl, -, hfs⟩ := Tree.moved_eq_node_iff.mp h
         simp only [Tree.node.injEq, reduceCtorEq, false_and, false_implies, implies_true] at *
         simp_all [List.map_eq_cons_iff, -Bool.forall_bool])
  all_goals intros
  case case9 h =>
    rw [moved_node, List.map_cons, List.map_cons, List.map_cons, moved_node, List.map_nil,
      List.map_cons, List.map_nil, List.map_nil, stmt, stmt]
    · exact (h.exprFields _).seq (h.expr _)
    all_goals assumption
  all_goals try simp only [moved_node, List.map_cons, List.map_nil, stmt, handlersOf, stmts,
    casesOf]
  case case1 ih _ h =>
    rw [reachesAny_moved, reachesAny_moved]
    exact (alike_checkParameters _ _ _).seq ((h.exprs _).seq ((h.signature hp.hints _ _).seq
      ((ih _ (h.fresh _ _ _)).seq (alike_mayUse _ _ _ _))))
  case case2 ih _ h =>
    exact (h.exprs _).seq ((ih _ (h.fresh _ _ _)).seq ((alike_checkKeywords _ _ _).seq
      ((h.elementsOf _).seq ((h.exprs _).seq (alike_mayUse _ _ _ _)))))
  case case3 | case4 =>
    rename_i h
    rw [h.block_eq, h.isGenerator_eq, h.isCoroutine_eq, List.isEmpty_map]
    exact alike_unless (alike_unless ((h.exprs _).seq
      (Agree.bind (alike_unwind h.frames _ _ _) fun _ _ _ => alike_done)))
  case case5 h => exact h.exprs _
  case case6 h => exact (h.expr _).seq (h.exprs _)
  case case7 h => exact (h.expr _).seq (alike_mayUse _ _ _ _)
  case case8 h => exact (h.exprFields _).seq ((h.expr _).seq (alike_mayUse _ _ _ _))
  case case10 ctx simple s k ts parts hint value _ h =>
    rw [h.block_eq, h.future'_eq, h.future_eq, hp.hints, List.isEmpty_map]
    have htarget := h.expr (p := p) (.node k ts parts)
    rw [moved_node] at htarget
    refine (h.exprs _).seq (alike_when (fun _ => htarget) ?_)
    -- the annotation of a target that is no mere name comes last
    have hlast : Alike loose _ _ := Agree.ite (c := (!simple && ((decide (ctx.block = Block.module)
      || decide (ctx.block = Block.classBody)) && !future.postponesHints)) = true)
      (fun _ => h.expr (p := p) hint) fun _ => alike_done
    cases k
    case name => exact (alike_mayUse _ _ _ _).seq (alike_when (fun _ => h.expr _) hlast)
    case «attribute» =>
      exact (alike_mayUse _ _ _ _).seq (alike_when (fun _ => h.exprFields _) hlast)
    case subscript => exact alike_when (fun _ => h.exprFields _) hlast
    all_goals exact hlast
  case case11 | case12 =>
    rename_i ihb iho _ h
    rw [h.block_eq]
    exact alike_unless (Agree.bind (h.pushLoop _ _)
      fun c c' hc => (h.expr _).seq ((h.expr _).seq ((ihb c c' hc).seq (iho _ h))))
  case case13 ihb iho _ h => 
    exact Agree.bind (h.pushLoop _ _) fun c c' hc =>
      (h.expr _).seq ((ihb c c' hc).seq ((h.expr _).seq (iho _ h)))
  case case14 ihb iho _ h => exact (h.expr _).seq ((ihb _ h).seq (iho _ h))
  case case15 | case16 =>
    rename_i ih _ h
    rw [h.block_eq]
    exact alike_unless (Agree.bind (alike_withItems h _ _ _) ih)
  case case17 ih _ h => exact (h.expr _).seq (ih _ h)
  case case18 h => exact (h.exprs _).seq (h.exprs _)
  case case19 hempty ihb ihh iho _ h =>
    rw [List.isEmpty_map, if_pos hempty, if_pos hempty]
    exact h.handled ihb ihh iho _ _ _
  case case20 star s _ _ _ _ hfinal ihb ihh iho ihf ihl _ h =>
    rw [List.isEmpty_map, List.isEmpty_map, if_neg hfinal, if_neg hfinal]
    refine Agree.bind (h.pushFinal (ihf _ h) _ _)
      fun c c' hc => ?_
    have hlast := (ihf _ h).seq (Agree.bind (h.pushPlain (s.getD default)
      ((p (.tryStmt star) s).getD default)) ihl)
    exact Agree.ite (fun _ => (ihb c c' hc).seq hlast) fun _ =>
      (hc.handled ihb ihh iho _ _ _).seq hlast
  case case21 test message _ _ _ _ _ _ h | case22 test message _ _ _ _ _ h
      | case23 test message _ _ _ h =>
    have hrest := (h.expr (p := p) test).seq (h.exprs (p := p) message)
    repeat' split
    all_goals first
      | exact hrest
      | exact alike_remark_left hrest _ _
      | exact alike_remark_right hrest _ _
      | exact alike_remark_left (alike_remark_right hrest _ _) _ _
  case case24 => exact alike_bindAliases _ _ _
  case case25 module level s aliases _ _ _ h | case26 module level s aliases _ _ _ h =>
    rw [h.future_eq, h.future'_eq]
    by_cases hmodule : module = some Dependencies.futureModule
    · subst hmodule
      simp only [decide_true, Bool.true_and, decide_eq_true_eq]
      exact Agree.unless (hp.late level s) (hp.early level s) (alike_bindAliases _ _ _)
    · simp only [hmodule, decide_false, Bool.false_and]
      exact alike_unless (alike_bindAliases _ _ _)
  case case27 h => exact h.expr _
  case case28 | case29 =>
    rename_i h
    refine Agree.bind (alike_unwind h.frames _ _ _) ?_
    rintro found _ rfl
    exact Agree.ite (fun _ => alike_refuse _ _ _ _) fun _ => alike_done
  case case31 | case35 | case37 => exact alike_done
  case case32 | case33 =>
    rename_i ihb ihr _ h
    rw [List.isEmpty_map, List.isEmpty_map]
    exact alike_unless ((h.exprs _).seq (Alike.seq (agree_forM fun _ _ => alike_mayUse _ _ _ _)
      (Agree.bind (h.pushPlain _ _) fun c c' hc => (ihb c c' hc).seq (ihr _ h))))
  case case36 iht ihs _ h => exact (iht _ h).seq (ihs _ h)
  case case38 ihb ihr _ h =>
    rw [List.isEmpty_map, List.isEmpty_map]
    exact (alike_setStores _).seq ((h.pattern _ _).seq ((h.exprs _).seq ((ihb _ h).seq (ihr _ h))))
  -- the branches for all other shapes
  case case34 ihr _ h =>
    rw [handlersOf]
    · exact ihr _ h
    all_goals
      intros
      simp_all [List.map_eq_cons_iff, -Bool.forall_bool]
  case case39 ihr _ h =>
    rw [casesOf]
    · exact ihr _ h
    all_goals
      intros
      simp_all [List.map_eq_cons_iff, -Bool.forall_bool]

/-- The statements of a module are checked alike at other places. -/
theorem module_alike (hp : KeepsFuture p loose future future') (t : Tree) :
    Alike loose (t.children.forM (stmt { block := .module, future }))
      ((t.moved p).children.forM (stmt { block := .module, future := future' })) := by
  rw [Tree.children_moved]
  exact Agree.forM_map fun u _ => (stmt_alike_all hp).1 _ u _ ⟨rfl, .nil, rfl⟩

end

end Check

end SourceLoader
