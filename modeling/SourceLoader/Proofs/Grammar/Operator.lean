import SourceLoader.Proofs.Parsing
import SourceLoader.Syntax.Grammar.Operators

/-!
# Expressions from operators yield expressions
-/

namespace SourceLoader

open Tree (On AllOn SomeOn)

/-! ## Usage -/

namespace Tree

variable {n : Nat}

mutual

/-- Marking an expression as bound or deleted changes neither its category nor its shape. -/
theorem withUsage_on {c : Category} (usage : Usage) :
    (t : Tree) → On n c t → On n c (t.withUsage usage)
  | .node k s fs, h => by
    have hspan := ((isWellFormed_iff ..).mp h.1.2).1
    unfold withUsage
    split
    · next heq => cases heq; exact .node h.1.1 hspan h.place rfl h.fields
    · next heq => cases heq; exact .node h.1.1 hspan h.place rfl h.fields
    · next heq => cases heq; exact .node h.1.1 hspan h.place rfl h.fields
    · next value heq =>
        cases heq
        exact .node h.1.1 hspan h.place rfl ⟨withUsage_on usage value h.fields.1, trivial⟩
    · next elements heq =>
        cases heq
        exact .node h.1.1 hspan h.place rfl ⟨withUsageAll_on usage elements h.fields.1, trivial⟩
    · next elements heq =>
        cases heq
        exact .node h.1.1 hspan h.place rfl ⟨withUsageAll_on usage elements h.fields.1, trivial⟩
    · next heq => exact h

theorem withUsageAll_on {c : Category} (usage : Usage) :
    (ts : List Tree) → AllOn n c ts → AllOn n c (withUsage.withUsageAll usage ts)
  | [], _ => .nil
  | t :: ts, h =>
    .cons (withUsage_on usage t (h t List.mem_cons_self))
      (withUsageAll_on usage ts fun u hu => h u (List.mem_cons_of_mem _ hu))

end

end Tree

namespace Grammar

open Parser

variable {n : Nat} {g : Rules}

/-! ## Lists of expressions -/

theorem tupleOrOne_gives {item : Parser Tree} (hitem : item.Gives n (On n .expression)) :
    (tupleOrOne item).Gives n (On n .expression) := by
  refine .bind .peek fun start hstart => .firstOf (.or ?_ (.or ?_ (.or hitem .none_left)))
  · refine hitem.bind fun first hfirst => ?_
    refine Gives.bind (.many1 (.skip (.punct _) fun _ => hitem)) fun others hothers => ?_
    exact .skip (.opt (.punct _)) fun _ =>
      .nodeFrom hstart ⟨rfl, rfl, .cons hfirst hothers.2, trivial⟩
  · refine hitem.bind fun first hfirst => ?_
    exact .skip (.punct _) fun _ => .nodeFrom hstart ⟨rfl, rfl, .one hfirst, trivial⟩

theorem starExpressions_gives (hg : g.Sound n) : (starExpressions g).Gives n (On n .expression) :=
  tupleOrOne_gives (hg.one .starExpression)

theorem starredOperand_gives (hg : g.Sound n) : (starredOperand g).Gives n (On n .expression) :=
  .located (.skip (.punct _) fun _ => (hg.one .bitOr).bind fun _ hvalue =>
    .ret ⟨rfl, rfl, hvalue, trivial⟩)

theorem starExpression_gives (hg : g.Sound n) : (starExpression g).Gives n (On n .expression) :=
  .firstOf (.or (starredOperand_gives hg) (.or (hg.one .expression) .none_left))

theorem starNamedExpression_gives (hg : g.Sound n) :
    (starNamedExpression g).Gives n (On n .expression) :=
  .firstOf (.or (starredOperand_gives hg) (.or (hg.one .namedExpression) .none_left))

theorem starNamedExpressions_gives (hg : g.Sound n) :
    (starNamedExpressions g).Gives n (SomeOn n .expression) :=
  Gives.bind (.sepBy1 (hg.one .starNamedExpression) (.punct _)) fun _ helements =>
    .skip (.opt (.punct _)) fun _ => .ret helements

/-! ## Named expressions -/

theorem assignmentExpression_gives (hg : g.Sound n) :
    (assignmentExpression g).Gives n (On n .expression) := by
  refine .located (Gives.nameTree.bind fun target htarget => .skip (.punct _) fun _ => ?_)
  exact (hg.one .expression).bind fun value hvalue =>
    .ret ⟨rfl, rfl, Tree.withUsage_on .store target htarget, hvalue, trivial⟩

theorem expressionAlone_gives (hg : g.Sound n) : (expressionAlone g).Gives n (On n .expression) :=
  (hg.one .expression).bind fun _ he => .skip (.notLook (.punct _)) fun _ => .ret he

theorem namedExpression_gives (hg : g.Sound n) : (namedExpression g).Gives n (On n .expression) :=
  .firstOf (.or (assignmentExpression_gives hg) (.or (hg.one .invalidNamed)
    (.or (expressionAlone_gives hg) .none_left)))

/-! ## Conditional expressions -/

theorem noParameters_on : On n .arguments noParameters :=
  .node rfl rfl rfl rfl ⟨.nil, .nil, trivial, .nil, by simp [Slot.FilledOn], trivial, .nil, trivial⟩

/-- Parameters that may be left out. -/
theorem parametersOr_on {o : Option Tree} (h : ∀ t ∈ o, On n .arguments t) :
    On n .arguments (o.getD noParameters) := by
  cases o with
  | none => exact noParameters_on
  | some t => exact h t rfl

theorem lambda_gives (hg : g.Sound n) : (lambda g).Gives n (On n .expression) := by
  refine .located (.skip (.keyword _) fun _ => ?_)
  refine (Gives.opt (hg.one .lambdaParameters)).bind fun parameters hparameters => ?_
  exact .skip (.punct _) fun _ => (hg.one .expression).bind fun body hbody =>
    .ret ⟨rfl, rfl, parametersOr_on hparameters, hbody, trivial⟩

theorem conditional_gives (hg : g.Sound n) : (conditional g).Gives n (On n .expression) := by
  refine .located ((hg.one .disjunction).bind fun body hbody => .skip (.keyword _) fun _ => ?_)
  refine (hg.one .disjunction).bind fun test htest => .skip (.keyword _) fun _ => ?_
  exact (hg.one .expression).bind fun otherwise hotherwise =>
    .ret ⟨rfl, rfl, htest, hbody, hotherwise, trivial⟩

theorem expression_gives (hg : g.Sound n) : (expression g).Gives n (On n .expression) :=
  .firstOf (.or (.diagnose _) (.or (.diagnose _) (.or (conditional_gives hg)
    (.or (hg.one .disjunction) (.or (lambda_gives hg) .none_left)))))

theorem yieldExpression_gives (hg : g.Sound n) :
    (yieldExpression g).Gives n (On n .expression) := by
  refine .firstOf (.or ?_ (.or ?_ .none_left))
  · exact .located (.skip (.keyword _) fun _ => .skip (.keyword _) fun _ =>
      (hg.one .expression).bind fun value hvalue => .ret ⟨rfl, rfl, hvalue, trivial⟩)
  · exact .located (.skip (.keyword _) fun _ =>
      (Gives.opt (hg.one .starExpressions)).bind fun value hvalue =>
        .ret ⟨rfl, rfl, Slot.filledOn_toList hvalue, trivial⟩)

/-! ## Operators -/

theorem wordChain_gives (word : String) (op : BoolOp) {operand : Parser Tree}
    (hoperand : operand.Gives n (On n .expression)) :
    (wordChain word op operand).Gives n (On n .expression) := by
  refine .firstOf (.or (.located (hoperand.bind fun first hfirst => ?_)) (.or hoperand .none_left))
  exact Gives.bind (.many1 (.skip (.keyword _) fun _ => hoperand)) fun others hothers =>
    .ret ⟨rfl, rfl, .cons hfirst hothers.2, trivial⟩

theorem comparisonOperator_keeps : comparisonOperator.Keeps n := by
  refine .skip .peek fun t => ?_
  split
  case h_7 => exact .skip .advance fun _ => .skip (.keyword _) fun _ => .ret trivial
  case h_9 => exact .fail
  case h_10 => exact .fail
  all_goals exact .skip .advance fun _ => .ret trivial

theorem comparisonPair_gives (hg : g.Sound n) :
    (comparisonPair g).Gives n fun pair => On n .expression pair.2 := by
  refine .firstOf (.or ?_ (.or ?_ (.or ?_ .none_left)))
  · exact .skip comparisonOperator_keeps fun _ => (hg.one .bitOr).bind fun _ ht => .ret ht
  · exact .skip (.keyword _) fun _ => .skip (.keyword _) fun _ =>
      (hg.one .bitOr).bind fun _ ht => .ret ht
  · exact .skip (.keyword _) fun _ => (hg.one .bitOr).bind fun _ ht => .ret ht

theorem comparison_gives (hg : g.Sound n) : (comparison g).Gives n (On n .expression) := by
  refine .firstOf (.or (.located ?_) (.or (hg.one .bitOr) .none_left))
  refine (hg.one .bitOr).bind fun first hfirst => ?_
  refine (Gives.many1 (comparisonPair_gives hg)).bind fun others ⟨hsome, hothers⟩ => ?_
  refine .ret ⟨rfl, rfl, hfirst, ⟨by simpa using hsome, fun t ht => ?_⟩, trivial⟩
  obtain ⟨pair, hpair, rfl⟩ := List.mem_map.mp ht
  exact hothers pair hpair

theorem unary_gives {operator : Parser Token} (hoperator : operator.Keeps n) (op : UnaryOp)
    {operand : Parser Tree} (hoperand : operand.Gives n (On n .expression)) :
    (unary operator op operand).Gives n (On n .expression) :=
  .located (.skip hoperator fun _ => hoperand.bind fun _ hvalue =>
    .ret ⟨rfl, rfl, hvalue, trivial⟩)

theorem inversion_gives (hg : g.Sound n) : (inversion g).Gives n (On n .expression) :=
  .firstOf (.or (unary_gives (.keyword _) .not (hg.one .inversion))
    (.or (comparison_gives hg) .none_left))

theorem binaryChain_gives (operators : List (String × BinOp)) {operand : Parser Tree}
    (hoperand : operand.Gives n (On n .expression)) :
    (binaryChain operators operand).Gives n (On n .expression) := by
  refine .bind .peek fun start hstart => .chain hoperand fun left hleft => .firstOf fun p hp => ?_
  obtain ⟨⟨text, op⟩, -, rfl⟩ := List.mem_map.mp hp
  exact .skip (.punct _) fun _ => hoperand.bind fun right hright =>
    .nodeFrom hstart ⟨rfl, rfl, hleft, hright, trivial⟩

theorem power_gives (hg : g.Sound n) : (power g).Gives n (On n .expression) := by
  refine .firstOf (.or (.located ?_) (.or (hg.one .awaitPrimary) .none_left))
  refine (hg.one .awaitPrimary).bind fun base hbase => .skip (.punct _) fun _ => ?_
  exact (hg.one .factor).bind fun exponent hexponent =>
    .ret ⟨rfl, rfl, hbase, hexponent, trivial⟩

theorem factor_gives (hg : g.Sound n) : (factor g).Gives n (On n .expression) :=
  .firstOf (.or (unary_gives (.punct _) .uAdd (hg.one .factor))
    (.or (unary_gives (.punct _) .uSub (hg.one .factor))
      (.or (unary_gives (.punct _) .invert (hg.one .factor)) (.or (power_gives hg) .none_left))))

theorem awaitPrimary_gives (hg : g.Sound n) : (awaitPrimary g).Gives n (On n .expression) := by
  refine .firstOf (.or (.located ?_) (.or (hg.one .primary) .none_left))
  exact .skip (.keyword _) fun _ => (hg.one .primary).bind fun value hvalue =>
    .ret ⟨rfl, rfl, hvalue, trivial⟩

end Grammar

end SourceLoader
