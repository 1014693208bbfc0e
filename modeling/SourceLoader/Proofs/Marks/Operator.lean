import SourceLoader.Proofs.Marks.Parsing
import SourceLoader.Syntax.Grammar.Operators

/-!
# Expressions from operators lie between marks
-/

namespace SourceLoader.Grammar

open Parser Dependencies

variable {g : Rules} {v : Survey} {i j : ℕ}

/-! ## Lists of expressions -/

theorem tupleOrOne_reads {item : Parser Tree} (hitem : ∀ i, item.Reads v i (Laid v i)) :
    (tupleOrOne item).Reads v i (Laid v i) := by
  refine .peek fun start _ => (Reads.firstOf (.or ?_ (.or ?_ (.or (hitem i) .none_left)))).seen
  · refine (hitem i).bind fun j first hj hfirst => ?_
    refine (Reads.many1Behind (fun _ => .punct _) hitem).bind fun k others hk hothers => ?_
    exact .skip (.opt (.punct _)) fun _ _ hend =>
      .nodeFrom (.row rfl (.cons (.push hfirst hothers) .nil) (by omega))
  · refine (hitem i).bind fun j first hj hfirst => ?_
    exact .skip (.punct _) fun _ _ hend =>
      .nodeFrom (.row rfl (.cons (.one hfirst) .nil) (by omega))

theorem starExpressions_reads (hg : g.Lays) : (starExpressions g).Reads v i (Laid v i) :=
  tupleOrOne_reads fun _ => hg.one .starExpression

theorem starredOperand_reads (hg : g.Lays) : (starredOperand g).Reads v i (Laid v i) :=
  .located (.skip (.punct _) fun _ _ hj => (hg.one .bitOr).bind fun _ _ hk hvalue =>
    .ret (.row rfl (.cons (.one hvalue) .nil) (by omega)))

theorem starExpression_reads (hg : g.Lays) : (starExpression g).Reads v i (Laid v i) :=
  .firstOf (.or (starredOperand_reads hg) (.or (hg.one .expression) .none_left))

theorem starNamedExpression_reads (hg : g.Lays) : (starNamedExpression g).Reads v i (Laid v i) :=
  .firstOf (.or (starredOperand_reads hg) (.or (hg.one .namedExpression) .none_left))

theorem starNamedExpressions_reads (hg : g.Lays) :
    (starNamedExpressions g).Reads v i (Row (Laid v) i) :=
  (Reads.sepBy1 (fun _ => hg.one .starNamedExpression) fun _ => .punct _).bind
    fun _ _ _ helements => .skip (.opt (.punct _)) fun _ _ hk => .ret (helements.mono le_rfl hk)

/-! ## Named expressions -/

theorem assignmentExpression_reads (hg : g.Lays) :
    (assignmentExpression g).Reads v i (Laid v i) := by
  refine .located (Reads.nameTree.bind fun j target hj htarget => ?_)
  refine .skip (.punct _) fun k _ hk => (hg.one .expression).bind fun _ value hend hvalue => ?_
  have hbound : Laid v i j (target.withUsage .store) := (htarget.2.1.laid i j).withUsage .store
  exact .ret (.row rfl (.cons (.one hbound) (.cons (.one hvalue) .nil)) (by omega))

theorem expressionAlone_reads (hg : g.Lays) : (expressionAlone g).Reads v i (Laid v i) :=
  (hg.one .expression).bind fun _ _ _ he => .skip (.notLook (.punct _)) fun _ _ hk =>
    .ret (he.mono le_rfl hk)

theorem namedExpression_reads (hg : g.Lays) : (namedExpression g).Reads v i (Laid v i) :=
  .firstOf (.or (assignmentExpression_reads hg) (.or (hg.one .invalidNamed)
    (.or (expressionAlone_reads hg) .none_left)))

/-! ## Conditional expressions -/

theorem noParameters_still (b : Bool) : Still b noParameters :=
  .node rfl (by simp) none

theorem missing_still (b : Bool) : Still b Tree.missing := .node rfl (by simp) none

/-- Parameters that may be left out. -/
theorem parametersOr_laid {o : Option Tree} (h : ∀ t ∈ o, Laid v i j t) :
    Laid v i j (o.getD noParameters) := by
  cases o with
  | none => exact (noParameters_still v.imports).laid i j
  | some t => exact h t rfl

theorem lambda_reads (hg : g.Lays) : (lambda g).Reads v i (Laid v i) := by
  refine .located (.skip (.keyword _) fun j _ hj => ?_)
  refine (Reads.opt (hg.one .lambdaParameters)).bind fun k parameters hk hparameters => ?_
  refine .skip (.punct _) fun l _ hl => (hg.one .expression).bind fun _ body hend hbody => ?_
  exact .ret (.row rfl (.cons (.one (parametersOr_laid hparameters)) (.cons (.one hbody) .nil))
    (by omega))

/-- The condition of a choice is read behind the first of its results. -/
theorem conditional_reads (hg : g.Lays) : (conditional g).Reads v i (Laid v i) := by
  refine .located ((hg.one .disjunction).bind fun j body hj hbody => ?_)
  refine .skip (.keyword _) fun k _ hk => (hg.one .disjunction).bind fun l test hl htest => ?_
  refine .skip (.keyword _) fun m _ hm => (hg.one .expression).bind fun n otherwise hn hother => ?_
  have hall : ∀ f ∈ [[test], [body], [otherwise]], AllLaid v i n f := by
    simp only [AllLaid, List.forall_mem_cons, List.not_mem_nil, false_implies, implies_true,
      and_true]
    exact ⟨htest.mono (by omega) (by omega), hbody.mono le_rfl (by omega),
      hother.mono (by omega) le_rfl⟩
  exact .ret (.reordered rfl rfl hall)

theorem expression_reads (hg : g.Lays) : (expression g).Reads v i (Laid v i) :=
  .firstOf (.or (.diagnose _) (.or (.diagnose _) (.or (conditional_reads hg)
    (.or (hg.one .disjunction) (.or (lambda_reads hg) .none_left)))))

theorem yieldExpression_reads (hg : g.Lays) : (yieldExpression g).Reads v i (Laid v i) := by
  refine .firstOf (.or (.located ?_) (.or (.located ?_) .none_left))
  · exact .skip (.keyword _) fun _ _ hj => .skip (.keyword _) fun _ _ hk =>
      (hg.one .expression).bind fun _ _ hl hvalue =>
        .ret (.row rfl (.cons (.one hvalue) .nil) (by omega))
  · exact .skip (.keyword _) fun _ _ hj => (Reads.opt (hg.one .starExpressions)).bind
      fun _ _ hk hvalue => .ret (.row rfl (.cons (.toList hvalue) .nil) (by omega))

/-! ## Operators -/

theorem wordChain_reads (word : String) (op : BoolOp) {operand : Parser Tree}
    (hoperand : ∀ i, operand.Reads v i (Laid v i)) :
    (wordChain word op operand).Reads v i (Laid v i) := by
  refine .firstOf (.or (.located ?_) (.or (hoperand i) .none_left))
  refine (hoperand i).bind fun j first hj hfirst => ?_
  exact (Reads.many1Behind (fun _ => .keyword _) hoperand).bind fun _ others hk hothers =>
    .ret (.row rfl (.cons (.push hfirst hothers) .nil) (by omega))

theorem comparisonOperator_passes : comparisonOperator.Passes v i := by
  refine Reads.peek fun t _ => ?_
  split
  case h_7 => exact Reads.advance (.skip (.keyword _) fun _ _ _ => .ret trivial)
  case h_9 => exact Reads.fail.seen
  case h_10 => exact Reads.fail.seen
  all_goals exact Reads.advance (.ret trivial)

theorem comparisonPair_reads (hg : g.Lays) (i : ℕ) :
    (comparisonPair g).Reads v i fun j pair => Laid v i j pair.2 := by
  refine .firstOf (.or ?_ (.or ?_ (.or ?_ .none_left)))
  · exact .skip comparisonOperator_passes fun _ _ hj => (hg.one .bitOr).bind fun _ _ _ ht =>
      .ret (ht.mono hj le_rfl)
  · exact .skip (.keyword _) fun _ _ hj => .skip (.keyword _) fun _ _ hk =>
      (hg.one .bitOr).bind fun _ _ _ ht => .ret (ht.mono (hj.trans hk) le_rfl)
  · exact .skip (.keyword _) fun _ _ hj => (hg.one .bitOr).bind fun _ _ _ ht =>
      .ret (ht.mono hj le_rfl)

theorem comparison_reads (hg : g.Lays) : (comparison g).Reads v i (Laid v i) := by
  refine .firstOf (.or (.located ?_) (.or (hg.one .bitOr) .none_left))
  refine (hg.one .bitOr).bind fun j first hj hfirst => ?_
  refine (Reads.many1 (comparisonPair_reads hg)).bind fun k others hk hothers => ?_
  have hright : Row (Laid v) j k (others.map Prod.snd) := hothers.map fun _ _ _ h => h
  exact .ret (.row rfl (.cons (.one hfirst) (.cons hright.whole .nil)) (by omega))

theorem unary_reads {operator : Parser Token} (hoperator : ∀ i, operator.Passes v i) (op : UnaryOp)
    {operand : Parser Tree} (hoperand : ∀ i, operand.Reads v i (Laid v i)) :
    (unary operator op operand).Reads v i (Laid v i) :=
  .located (.skip (hoperator i) fun j _ hj => (hoperand j).bind fun _ _ hk hvalue =>
    .ret (.row rfl (.cons (.one hvalue) .nil) (by omega)))

theorem inversion_reads (hg : g.Lays) : (inversion g).Reads v i (Laid v i) :=
  .firstOf (.or (unary_reads (fun _ => .keyword _) .not fun _ => hg.one .inversion)
    (.or (comparison_reads hg) .none_left))

theorem binaryChain_reads (operators : List (String × BinOp)) {operand : Parser Tree}
    (hoperand : ∀ i, operand.Reads v i (Laid v i)) :
    (binaryChain operators operand).Reads v i (Laid v i) := by
  refine .peek fun start _ => (Reads.chain (hoperand i) fun j left hj hleft => ?_).seen
  refine .firstOf fun p hp => ?_
  obtain ⟨⟨text, op⟩, -, rfl⟩ := List.mem_map.mp hp
  exact .skip (.punct _) fun k _ hk => (hoperand k).bind fun _ right hl hright =>
    .nodeFrom (.row rfl (.cons (.one hleft) (.cons (.one hright) .nil)) (by omega))

theorem power_reads (hg : g.Lays) : (power g).Reads v i (Laid v i) := by
  refine .firstOf (.or (.located ?_) (.or (hg.one .awaitPrimary) .none_left))
  refine (hg.one .awaitPrimary).bind fun j base hj hbase => .skip (.punct _) fun k _ hk => ?_
  exact (hg.one .factor).bind fun _ exponent hl hexponent =>
    .ret (.row rfl (.cons (.one hbase) (.cons (.one hexponent) .nil)) (by omega))

theorem factor_reads (hg : g.Lays) : (factor g).Reads v i (Laid v i) :=
  .firstOf (.or (unary_reads (fun _ => .punct _) .uAdd fun _ => hg.one .factor)
    (.or (unary_reads (fun _ => .punct _) .uSub fun _ => hg.one .factor)
      (.or (unary_reads (fun _ => .punct _) .invert fun _ => hg.one .factor)
        (.or (power_reads hg) .none_left))))

theorem awaitPrimary_reads (hg : g.Lays) : (awaitPrimary g).Reads v i (Laid v i) := by
  refine .firstOf (.or (.located ?_) (.or (hg.one .primary) .none_left))
  exact .skip (.keyword _) fun _ _ hj => (hg.one .primary).bind fun _ value hk hvalue =>
    .ret (.row rfl (.cons (.one hvalue) .nil) (by omega))

end SourceLoader.Grammar
