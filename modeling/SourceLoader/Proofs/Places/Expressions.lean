import SourceLoader.Proofs.Places.Agree
import SourceLoader.Proofs.Places.Moved

/-!
# Expressions at other places

An expression is checked alike wherever its nodes stand (`expr_alike_all`): the same names are
bound, and a fault is found at both places or at neither. Which fault it is and which remarks are
made may differ, since a place is part of them.
-/

namespace SourceLoader

namespace Check

open Tree (moved moved_node)

/-- Two checks agree: they have bound the same names so far, whatever the places. -/
abbrev Same {α β : Type} (loose : Prop) (R : α → β → Prop) (x : Checker α) (y : Checker β) : Prop :=
  Agree loose (fun s s' : State => s.stores = s'.stores)
    (fun s s' : State => s.stores = s'.stores) R x y

/-- Two checks without a result agree. -/
abbrev Alike (loose : Prop) (x y : Checker Unit) : Prop := Same loose (fun _ _ => True) x y

/-- The context with another future and other frames. -/
def Context.over (ctx : Context) (future : Future) (frames : List Frame) : Context :=
  { ctx with future, frames }

variable {p : Kind → Option Span → Option Span} {loose : Prop}

/-! ## Steps that do not look at the tree -/

theorem alike_done : Alike loose (return ()) (return ()) := agree_pure trivial

theorem alike_refuse (span span' : Span) (fault fault' : Fault) :
    Alike loose (refuse span fault) (refuse span' fault') := agree_throw _ _

theorem Alike.seq {x y x' y' : Checker Unit} (hx : Alike loose x y) (hx' : Alike loose x' y') :
    Alike loose (do x; x') (do y; y') := Agree.bind hx fun _ _ _ => hx'

/-- A refusal under a condition that does not go by places. -/
theorem alike_unless {c : Prop} [Decidable c] {x y : Checker Unit} {span span' : Span}
    {fault : Fault} (h : Alike loose x y) :
    Alike loose (if c then do refuse span fault; x else x)
      (if c then do refuse span' fault; y else y) :=
  Agree.unless id Or.inl h

/-- A step under a condition that does not go by places. -/
theorem alike_when {c : Prop} [Decidable c] {x y x' y' : Checker Unit} (h : c → Alike loose x x')
    (h' : Alike loose y y') :
    Alike loose (if c then do x; y else y) (if c then do x'; y' else y') :=
  Agree.ite (fun hc => (h hc).seq h') fun _ => h'

/-- A step that can only make remarks. -/
def OnlyRemarks (x : Checker Unit) : Prop := ∀ s, ∃ s', x s = .ok ((), s') ∧ s'.stores = s.stores

theorem OnlyRemarks.alike {x y : Checker Unit} (hx : OnlyRemarks x) (hy : OnlyRemarks y) :
    Alike loose x y := by
  intro s s' hs
  obtain ⟨u, hu, hus⟩ := hx s
  obtain ⟨u', hu', hus'⟩ := hy s'
  rw [hu, hu']
  exact ⟨trivial, (hus.trans hs).trans hus'.symm⟩

theorem onlyRemarks_done : OnlyRemarks (return ()) := fun s => ⟨s, rfl, rfl⟩

theorem onlyRemarks_remark (span : Span) (r : Remark) : OnlyRemarks (remark span r) :=
  fun _ => ⟨_, rfl, rfl⟩

theorem onlyRemarks_call (span : Span) (function : Tree) :
    OnlyRemarks (remarkOnCall span function) := by
  unfold remarkOnCall
  split
  · exact onlyRemarks_done
  · exact onlyRemarks_remark _ _
  · exact onlyRemarks_done

theorem onlyRemarks_subscript (span : Span) (value : Tree) :
    OnlyRemarks (remarkOnSubscript span value) := by
  unfold remarkOnSubscript
  split
  all_goals first
    | exact onlyRemarks_remark _ _
    | exact onlyRemarks_done
    | (split
       · exact onlyRemarks_remark _ _
       · exact onlyRemarks_done)

theorem onlyRemarks_index (span : Span) (value index : Tree) :
    OnlyRemarks (remarkOnIndex span value index) := by
  unfold remarkOnIndex
  split
  all_goals first
    | exact onlyRemarks_done
    | (split
       · exact onlyRemarks_remark _ _
       · exact onlyRemarks_done)

theorem alike_mayUse (span span' : Span) (usage : Usage) (name : String) :
    Alike loose (mayUse span usage name) (mayUse span' usage name) := by
  unfold mayUse
  refine Agree.ite (fun _ => ?_) fun _ => alike_done
  cases usage with
  | load => exact alike_done
  | store => exact alike_refuse _ _ _ _
  | del => exact alike_refuse _ _ _ _

/-! ## Steps over lists of trees -/

theorem alike_checkUnpacking (span span' : Span) (position : Nat) (starred : Bool)
    (ts : List Tree) : Alike loose (checkUnpacking span position starred ts)
      (checkUnpacking span' position starred (ts.map (moved p))) := by
  induction ts generalizing position starred with
  | nil => exact alike_done
  | cons t ts ih =>
      obtain ⟨k, s, fs⟩ := t
      rw [List.map_cons, moved_node]
      cases k with
      | starred usage =>
          unfold checkUnpacking
          exact alike_unless (alike_unless (ih _ _))
      | _ => exact ih _ _

/-- The same keyword is given again, or none is. -/
theorem find?_moved (k : Kind) (ts : List Tree) : ((ts.map (moved p)).find? fun t => t.kind = k)
    = (ts.find? fun t => t.kind = k).map (moved p) := by
  induction ts with
  | nil => rfl
  | cons t ts ih => simp only [List.map_cons, List.find?_cons, Tree.kind_moved]; split <;> simp [ih]

theorem alike_checkKeywords (span span' : Span) (ts : List Tree) :
    Alike loose (checkKeywords span ts) (checkKeywords span' (ts.map (moved p))) := by
  induction ts with
  | nil => exact alike_done
  | cons t ts ih =>
      obtain ⟨k, s, fs⟩ := t
      rw [List.map_cons, moved_node]
      cases k with
      | keyword name =>
          cases name with
          | none => exact ih
          | some name =>
              unfold checkKeywords
              refine (alike_mayUse _ _ _ _).seq ?_
              rw [find?_moved]
              cases ts.find? fun t => t.kind = .keyword (some name) with
              | none => exact ih
              | some other => exact alike_refuse _ _ _ _
      | _ => exact ih

theorem alike_checkParameters (span span' : Span) (arguments : Tree) :
    Alike loose (checkParameters span arguments) (checkParameters span' (arguments.moved p)) := by
  fun_cases checkParameters span arguments
  case case1 =>
    simp only [moved_node, List.map_cons, List.map_nil, checkParameters, ← List.map_append]
    refine Agree.forM_map fun t _ => ?_
    rw [Tree.kind_moved]
    cases t.kind with
    | arg name => exact alike_mayUse _ _ _ _
    | _ => exact alike_done
  case case2 =>
    rw [checkParameters]
    · exact alike_done
    · intros
      simp_all [List.map_eq_cons_iff]

theorem alike_mayWait {ctx : Context} {future : Future} {frames : List Frame} (span span' : Span)
    (elements generators : List Tree) : Alike loose (mayWait ctx span elements generators)
      (mayWait (ctx.over future frames) span' (elements.map (moved p))
        (generators.map (moved p))) := by
  unfold mayWait
  rw [comprehensionWaits_moved]
  exact Agree.ite (fun _ => alike_refuse _ _ _ _) fun _ => alike_done

theorem alike_remark_left {x y : Checker Unit} (h : Alike loose x y) (span : Span) (r : Remark) :
    Alike loose (do remark span r; x) y := fun _ _ hs => h _ _ hs

theorem alike_remark_right {x y : Checker Unit} (h : Alike loose x y) (span : Span) (r : Remark) :
    Alike loose x (do remark span r; y) := fun _ _ hs => h _ _ hs

/-- A remark that may be made or not does not matter for what comes next. -/
theorem alike_remarkThen {x y : Checker Unit} (o o' : Option Bool) (span span' : Span)
    (h : Alike loose x y) :
    Alike loose
      (match o with
        | some negated => do
          remark span (.isWithLiteral negated)
          x
        | none => x)
      (match o' with
        | some negated => do
          remark span' (.isWithLiteral negated)
          y
        | none => y) := by
  cases o with
  | none =>
      cases o' with
      | none => exact h
      | some _ => exact alike_remark_right h _ _
  | some _ =>
      cases o' with
      | none => exact alike_remark_left h _ _
      | some _ => exact alike_remark_left (alike_remark_right h _ _) _ _

/-- A value that is known before the module runs needs no check. -/
theorem alike_unlessKnown {t : Tree} {x y : Checker Unit} (h : Alike loose x y) :
    Alike loose (if t.staticValue?.isSome then return () else x)
      (if (t.moved p).staticValue?.isSome then return () else y) := by
  rw [Tree.staticValue?_moved]
  exact Agree.ite (fun _ => alike_done) fun _ => h

theorem expr_alike_all :
    (∀ ctx t future frames, Alike loose (expr ctx t) (expr (ctx.over future frames) (t.moved p)))
    ∧ (∀ ctx fs future frames, Alike loose (exprFields ctx fs)
        (exprFields (ctx.over future frames) (fs.map (List.map (moved p)))))
    ∧ (∀ ctx ts future frames, Alike loose (exprs ctx ts)
        (exprs (ctx.over future frames) (ts.map (moved p))))
    ∧ (∀ ctx ts future frames, Alike loose (firstSource ctx ts)
        (firstSource (ctx.over future frames) (ts.map (moved p))))
    ∧ (∀ ctx isFirst ts future frames, Alike loose (clauses ctx isFirst ts)
        (clauses (ctx.over future frames) isFirst (ts.map (moved p))))
    ∧ (∀ ctx ts future frames, Alike loose (entriesOf ctx ts)
        (entriesOf (ctx.over future frames) (ts.map (moved p))))
    ∧ (∀ ctx span ops t span' future frames, Alike loose (negated ctx span ops t)
        (negated (ctx.over future frames) span' ops (t.moved p)))
    ∧ ∀ ctx ts future frames, Alike loose (elementsOf ctx ts)
        (elementsOf (ctx.over future frames) (ts.map (moved p))) := by
  apply expr.mutual_induct
    (fun ctx t => ∀ future frames, Alike loose (expr ctx t)
      (expr (ctx.over future frames) (t.moved p)))
    (fun ctx fs => ∀ future frames, Alike loose (exprFields ctx fs)
      (exprFields (ctx.over future frames) (fs.map (List.map (moved p)))))
    (fun ctx ts => ∀ future frames, Alike loose (exprs ctx ts)
      (exprs (ctx.over future frames) (ts.map (moved p))))
    (fun ctx ts => ∀ future frames, Alike loose (firstSource ctx ts)
      (firstSource (ctx.over future frames) (ts.map (moved p))))
    (fun ctx isFirst ts => ∀ future frames, Alike loose (clauses ctx isFirst ts)
      (clauses (ctx.over future frames) isFirst (ts.map (moved p))))
    (fun ctx ts => ∀ future frames, Alike loose (entriesOf ctx ts)
      (entriesOf (ctx.over future frames) (ts.map (moved p))))
    (fun ctx span ops t => ∀ span' future frames, Alike loose (negated ctx span ops t)
      (negated (ctx.over future frames) span' ops (t.moved p)))
    (fun ctx ts => ∀ future frames, Alike loose (elementsOf ctx ts)
      (elementsOf (ctx.over future frames) (ts.map (moved p))))
  all_goals intros
  all_goals try simp only [moved_node, List.map_cons, List.map_nil, expr, exprFields, exprs,
    firstSource, clauses, entriesOf, negated, elementsOf]
  case case1 => exact alike_mayUse _ _ _ _
  case case2 => exact alike_refuse _ _ _ _
  case case3 | case4 | case5 | case6 =>
    rename_i ih future frames
    exact alike_when (fun _ => alike_checkUnpacking _ _ _ _ _) (ih _ _)
  case case7 | case16 | case45 | case51 =>
    rename_i ih _ _
    exact ih _ _
  case case8 | case9 =>
    rename_i ihl iho _ _
    exact alike_remarkThen _ _ _ _ ((ihl _ _).seq (iho _ _))
  case case10 =>
    rename_i op s operand hknown _ _
    have hsame := Tree.staticValue?_moved (p := p) (.node (.unaryOp op) s [[operand]])
    simp only [moved_node, List.map_cons, List.map_nil] at hsame
    rw [hsame, if_pos hknown, if_pos hknown]
    exact alike_done
  case case11 =>
    rename_i s operand ops span hunknown hcomparison ih _ _
    obtain ⟨span', hcomparison'⟩ := comparison?_moved_of_some (p := p) hcomparison
    simp only [moved_node, List.map_cons, List.map_nil] at hcomparison'
    rw [hcomparison, hcomparison']
    exact alike_unlessKnown (t := .node (.unaryOp .not) s [[operand]]) (ih _ _ _)
  case case12 =>
    rename_i op s operand hunknown hnone ih _ _
    refine alike_unlessKnown (t := .node (.unaryOp op) s [[operand]]) ?_
    split
    · rename_i ops span hcomparison
      obtain ⟨span', hcomparison⟩ := comparison?_of_moved_some (p := p)
        (t := .node (.unaryOp .not) s [[operand]]) (by simpa using hcomparison)
      exact (hnone ops span' rfl hcomparison).elim
    · exact ih _ _
  case case13 =>
    rename_i op s left right hknown _ _
    have hsame := Tree.staticValue?_moved (p := p) (.node (.binOp op) s [[left], [right]])
    simp only [moved_node, List.map_cons, List.map_nil] at hsame
    rw [hsame, if_pos hknown, if_pos hknown]
    exact alike_done
  case case14 =>
    rename_i op s left right _ ihl ihr _ _
    exact alike_unlessKnown (t := .node (.binOp op) s [[left], [right]])
      ((ihl _ _).seq (ihr _ _))
  case case15 =>
    rename_i ihf iha ihk _ _
    refine (alike_checkKeywords _ _ _).seq ?_
    refine ((onlyRemarks_call _ _).alike (onlyRemarks_call _ _)).seq ?_
    exact (ihf _ _).seq ((iha _ _).seq (ihk _ _))
  case case17 | case18 | case19 =>
    rename_i ihv ihi future frames
    have hboth := (ihv future frames).seq (ihi future frames)
    refine Agree.ite (fun _ => alike_unlessKnown (t := .node (.subscript _) _ [[_], [_]]) ?_)
      fun _ => hboth
    refine ((onlyRemarks_subscript _ _).alike (onlyRemarks_subscript _ _)).seq ?_
    exact ((onlyRemarks_index _ _ _).alike (onlyRemarks_index _ _ _)).seq hboth
  case case20 =>
    rename_i ih _ _
    exact (ih _ _).seq (Agree.ite (fun _ => alike_mayUse _ _ _ _) fun _ => alike_done)
  case case21 | case22 | case42 | case44 | case54 =>
    rename_i ih ih' _ _
    exact (ih _ _).seq (ih' _ _)
  case case23 =>
    rename_i s as only ps rest named kds mapping ds _ ihd ihk ihb future _
    have hparameters : Alike loose _ _ := alike_checkParameters (p := p) (s.getD default)
      ((p .lambda s).getD default) (.node .arguments as [only, ps, rest, named, kds, mapping, ds])
    simp only [moved_node, List.map_cons, List.map_nil] at hparameters
    exact hparameters.seq ((ihd _ _).seq ((ihk _ _).seq (ihb future [])))
  case case24 | case25 =>
    rename_i ih _ _
    exact alike_unless (ih _ _)
  case case26 | case27 =>
    rename_i ih _ _
    exact alike_unless (alike_unless (ih _ _))
  case case28 | case29 | case30 =>
    rename_i ih _ _
    exact Agree.ite (fun _ => alike_unless (alike_unless (ih _ _))) fun _ => ih _ _
  case case32 | case33 =>
    rename_i ihc ihe ihs future _
    refine (alike_mayWait _ _ _ _).seq ?_
    exact (ihc future []).seq ((ihe future []).seq (ihs _ _))
  case case34 =>
    rename_i keys values generators ihc ihk ihv ihs future _
    rw [← List.map_append]
    refine (alike_mayWait _ _ _ _).seq ?_
    exact (ihc future []).seq ((ihk future []).seq ((ihv future []).seq (ihs _ _)))
  case case35 =>
    rename_i ihc ihe ihs future _
    exact (ihc future []).seq ((ihe future []).seq (ihs _ _))
  case case37 | case38 =>
    rename_i ihl iho _ _ _
    exact alike_remarkThen _ _ _ _ ((ihl _ _).seq (iho _ _))
  case case39 =>
    rename_i ih _ _ _
    exact ih _ _ _
  case case47 =>
    rename_i iht ihc ihm ihs future frames
    have hrest := (iht future frames).seq ((ihc future frames).seq (ihm future frames))
    exact alike_when (fun _ => ihs _ _) hrest
  case case48 =>
    rename_i hfirst iht ihc ihm _ _
    rw [if_neg hfirst, if_neg hfirst]
    exact (iht _ _).seq ((ihc _ _).seq (ihm _ _))
  case case31 =>
    rename_i iht ihb iho _ _
    exact (iht _ _).seq ((ihb _ _).seq (iho _ _))
  case case41 | case43 | case50 | case53 => exact alike_done
  -- the branches for all other shapes
  case case36 =>
    rename_i ih _ _
    rw [expr]
    · exact ih _ _
    all_goals
      intros
      simp_all [List.map_eq_cons_iff, -Bool.forall_bool]
  case case40 =>
    rw [negated]
    · exact alike_done
    all_goals
      intros
      simp_all [List.map_eq_cons_iff, -Bool.forall_bool]
  case case46 =>
    rw [firstSource]
    · exact alike_done
    intros
    simp_all [List.map_eq_cons_iff, -Bool.forall_bool]
  case case49 =>
    rw [clauses]
    · exact alike_done
    intros
    simp_all [List.map_eq_cons_iff, -Bool.forall_bool]
  case case52 =>
    rename_i ih ih' _ _
    rw [entriesOf]
    · exact (ih _ _).seq (ih' _ _)
    intros
    simp_all
  case case55 =>
    rename_i ih ih' _ _
    rw [elementsOf]
    · exact (ih _ _).seq (ih' _ _)
    intros
    simp_all [List.map_eq_cons_iff, -Bool.forall_bool]

end Check

end SourceLoader
