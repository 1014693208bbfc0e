import SourceLoader.Proofs.Grammar.Operator
import SourceLoader.Syntax.Grammar.Atom
import SourceLoader.Syntax.Grammar.Target

/-!
# Atoms, displays, calls and targets yield expressions
-/

namespace SourceLoader.Grammar

open Parser
open Tree (On AllOn SomeOn)

variable {n : Nat} {g : Rules}

/-! ## Comprehensions -/

theorem forClause_gives (hg : g.Sound n) : (forClause g).Gives n (On n .clause) := by
  have hbehind (isAsync : Bool) (target : Tree) (htarget : On n .expression target) :
      Gives n (do
        let iterable ← g.one .disjunction
        let conditions ← many (do let _ ← keyword "if"; g.one .disjunction)
        return .node (.comprehension isAsync) none [[target], [iterable], conditions])
        (On n .clause) := by
    refine (hg.one .disjunction).bind fun iterable hiterable => ?_
    exact Gives.bind (.many (.skip (.keyword _) fun _ => hg.one .disjunction))
      fun conditions hconditions =>
        .ret (.node rfl rfl rfl rfl ⟨htarget, hiterable, hconditions, trivial⟩)
  have hbefore : Gives n (do
      let _ ← keyword "for"
      let target ← g.one .starTargets
      let _ ← keyword "in"
      return target) (On n .expression) :=
    .skip (.keyword _) fun _ => (hg.one .starTargets).bind fun _ htarget =>
      .skip (.keyword _) fun _ => .ret htarget
  exact .commit (.skip (.keyword _) fun _ => hbefore) (hbehind true)
    (.commit hbefore (hbehind false) (.diagnose _))

theorem forClauses_gives (hg : g.Sound n) : (forClauses g).Gives n (SomeOn n .clause) :=
  .many1 (forClause_gives hg)

/-- A comprehension with one element yields an expression. -/
theorem comprehension_gives (hg : g.Sound n) {k : Kind} (opening closing : String)
    {element : Parser Tree} (hcategory : k.category = .expression) (hspan : k.hasSpan = true)
    (hslots : k.slots = [.one .expression, .some .clause])
    (helement : element.Gives n (On n .expression)) :
    (comprehension g k opening closing element).Gives n (On n .expression) := by
  refine .firstOf (.or (.located (.skip (.punct _) fun _ => ?_)) (.or (.diagnose _) .none_left))
  refine helement.bind fun e he => (hg.many .forClauses).bind fun clauses hclauses => ?_
  have hlists := k.listsAsWritten_of_category (by rw [hcategory]; decide) [[e], clauses]
  refine .skip (.punct _) fun _ => .ret ⟨hcategory, by rw [hspan, hlists]; rfl, ?_⟩
  rw [hslots]
  exact ⟨he, hclauses, trivial⟩

theorem generator_gives (hg : g.Sound n) : (generator g).Gives n (On n .expression) :=
  comprehension_gives hg _ _ rfl rfl rfl
    (.firstOf (.or (assignmentExpression_gives hg) (.or (expressionAlone_gives hg) .none_left)))

/-! ## Displays -/

/-- Elements that may be left out. -/
theorem elementsOr_on {c : Category} {o : Option (List Tree)} (h : ∀ ts ∈ o, SomeOn n c ts) :
    AllOn n c (o.getD []) := by
  cases o with
  | none => exact .nil
  | some ts => exact (h ts rfl).all

theorem listDisplay_gives (hg : g.Sound n) : (listDisplay g).Gives n (On n .expression) :=
  .located (.skip (.punct _) fun _ =>
    (Gives.opt (hg.many .starNamedExpressions)).bind fun _ helements =>
      .skip (.punct _) fun _ => .ret ⟨rfl, rfl, elementsOr_on helements, trivial⟩)

theorem tupleDisplay_gives (hg : g.Sound n) : (tupleDisplay g).Gives n (On n .expression) := by
  refine .located (.skip (.punct _) fun _ => ?_)
  refine Gives.bind (.opt (P := SomeOn n .expression) ?_) fun elements helements =>
    .skip (.punct _) fun _ => .ret ⟨rfl, rfl, elementsOr_on helements, trivial⟩
  refine (hg.one .starNamedExpression).bind fun first hfirst => .skip (.punct _) fun _ => ?_
  exact (Gives.opt (hg.many .starNamedExpressions)).bind fun others hothers =>
    .ret (.cons hfirst (elementsOr_on hothers))

theorem group_gives (hg : g.Sound n) : (group g).Gives n (On n .expression) := by
  refine .firstOf (.or (.skip (.punct _) fun _ => ?_) (.or (.diagnose _) .none_left))
  exact Gives.bind
    (.firstOf (.or (hg.one .yieldExpression) (.or (hg.one .namedExpression) .none_left)))
    fun e he => .skip (.punct _) fun _ => .ret he

theorem keyValue_gives (hg : g.Sound n) :
    (keyValue g).Gives n fun pair => On n .expression pair.1 ∧ On n .expression pair.2 :=
  (hg.one .expression).bind fun _ hkey => .skip (.punct _) fun _ =>
    (hg.one .expression).bind fun _ hvalue => .ret ⟨hkey, hvalue⟩

theorem entry_gives (hg : g.Sound n) :
    (entry g).Gives n fun pair =>
      (On n .expression pair.1 ∨ On n .missing pair.1) ∧ On n .expression pair.2 := by
  refine .firstOf (.or (.skip (.punct _) fun _ => ?_) (.or ?_ .none_left))
  · exact (hg.one .bitOr).bind fun _ hmapping => .ret ⟨.inr Tree.missing_on, hmapping⟩
  · exact (keyValue_gives hg).mono fun _ h => ⟨.inl h.1, h.2⟩

theorem dictDisplay_gives (hg : g.Sound n) : (dictDisplay g).Gives n (On n .expression) := by
  refine .firstOf (.or (.located (.skip (.punct _) fun _ => ?_)) (.or (.diagnose _) .none_left))
  refine Gives.bind (.opt (Gives.bind (.sepBy1 (entry_gives hg) (.punct _)) fun _ hentries =>
    .skip (.opt (.punct _)) fun _ => .ret hentries.2)) fun entries hentries => ?_
  have hall : ∀ pair ∈ entries.getD [],
      (On n .expression pair.1 ∨ On n .missing pair.1) ∧ On n .expression pair.2 := by
    cases entries with
    | none => simp
    | some pairs => exact hentries pairs rfl
  refine .skip (.punct _) fun _ => .ret ⟨rfl, rfl, fun t ht => ?_, fun t ht => ?_, trivial⟩
  · obtain ⟨pair, hpair, rfl⟩ := List.mem_map.mp ht
    exact (hall pair hpair).1
  · obtain ⟨pair, hpair, rfl⟩ := List.mem_map.mp ht
    exact (hall pair hpair).2

theorem setDisplay_gives (hg : g.Sound n) : (setDisplay g).Gives n (On n .expression) :=
  .located (.skip (.punct _) fun _ => (hg.many .starNamedExpressions).bind fun _ helements =>
    .skip (.punct _) fun _ => .ret ⟨rfl, rfl, helements, trivial⟩)

theorem dictComprehension_gives (hg : g.Sound n) :
    (dictComprehension g).Gives n (On n .expression) := by
  refine .firstOf (.or (.located (.skip (.punct _) fun _ => ?_)) (.or (.diagnose _) .none_left))
  refine (keyValue_gives hg).bind fun pair ⟨hkey, hvalue⟩ => ?_
  exact (hg.many .forClauses).bind fun clauses hclauses => .skip (.punct _) fun _ =>
    .ret ⟨rfl, rfl, hkey, hvalue, hclauses, trivial⟩

/-! ## Atoms -/

theorem number_gives : number.Gives n (On n .expression) := by
  refine .bind (.kind _) fun t ht => ?_
  split
  · exact .ret (leaf_on ht.1 _ rfl rfl rfl)
  · exact .faultAtLine _ _

theorem atom_gives (hg : g.Sound n) : (atom g).Gives n (On n .expression) := by
  have hword {t : Token} (ht : t.Within n) (k : Kind) (hcategory : k.category = .expression)
      (hspan : k.hasSpan = true) (hslots : k.slots = []) :
      Gives n (do advance; return leaf t k) (On n .expression) :=
    .skip .advance fun _ => .ret (leaf_on ht k hcategory hspan hslots)
  refine .bind .peek fun t ht => ?_
  split
  · exact .nameTree
  · exact hword ht _ rfl rfl rfl
  · exact hword ht _ rfl rfl rfl
  · exact hword ht _ rfl rfl rfl
  · exact hg.one .strings
  · exact number_gives
  · exact .firstOf (.or (hg.one .tupleDisplay) (.or (group_gives hg)
      (.or (hg.one .generator) .none_left)))
  · exact .firstOf (.or (hg.one .listDisplay)
      (.or (comprehension_gives hg _ _ rfl rfl rfl (hg.one .namedExpression)) .none_left))
  · exact .firstOf (.or (dictDisplay_gives hg) (.or (setDisplay_gives hg)
      (.or (dictComprehension_gives hg)
        (.or (comprehension_gives hg _ _ rfl rfl rfl (hg.one .namedExpression)) .none_left))))
  · exact hword ht _ rfl rfl rfl
  · exact .fail

/-! ## Members, calls and subscripts -/

/-- What is read between the parentheses of a call fits behind its function. -/
theorem callParts_filled {t : Tree} {o : Option Tree} (ht : On n .expression t)
    (ho : ∀ u ∈ o, u.IsCallOfNothing n) :
    Slot.AllFilledOn n Kind.call.slots ([t] :: callParts o) := by
  cases o with
  | none => exact ⟨ht, .nil, .nil, trivial⟩
  | some u =>
      obtain ⟨k, s, arguments, keywords, rfl, harguments, hkeywords⟩ := ho u rfl
      exact ⟨ht, harguments, hkeywords, trivial⟩

theorem slice_gives (hg : g.Sound n) : (slice g).Gives n (On n .expression) := by
  refine .firstOf (.or (.located ?_) (.or (hg.one .namedExpression) .none_left))
  refine (Gives.opt (hg.one .expression)).bind fun lower hlower => .skip (.punct _) fun _ => ?_
  refine (Gives.opt (hg.one .expression)).bind fun upper hupper => ?_
  refine Gives.bind (.opt (.skip (.punct _) fun _ => .opt (hg.one .expression)))
    fun step hstep => .ret ⟨rfl, rfl, Slot.filledOn_toList hlower, Slot.filledOn_toList hupper,
      Slot.filledOn_toList fun t ht => ?_, trivial⟩
  obtain ⟨o, ho, rfl⟩ : ∃ o, step = some o ∧ o = some t := by
    simpa [Option.join_eq_some_iff] using ht
  exact hstep _ ho t rfl

theorem starredArgument_gives (hg : g.Sound n) : (starredArgument g).Gives n (On n .expression) :=
  .located (.skip (.punct _) fun _ => (hg.one .expression).bind fun _ hvalue =>
    .ret ⟨rfl, rfl, hvalue, trivial⟩)

theorem slices_gives (hg : g.Sound n) : (slices g).Gives n (On n .expression) := by
  refine .firstOf (.or ?_ (.or (.located ?_) .none_left))
  · exact (slice_gives hg).bind fun _ hs => .skip (.notLook (.punct _)) fun _ => .ret hs
  · refine Gives.bind (.sepBy1 (.firstOf (.or (slice_gives hg)
      (.or (starredArgument_gives hg) .none_left))) (.punct _)) fun elements helements => ?_
    exact .skip (.opt (.punct _)) fun _ => .ret ⟨rfl, rfl, helements.2, trivial⟩

theorem primary_gives (hg : g.Sound n) : (primary g).Gives n (On n .expression) := by
  refine .bind .peek fun start hstart => .chain (hg.one .atom) fun t ht =>
    .firstOf (.or ?_ (.or ?_ (.or ?_ (.or ?_ .none_left))))
  · exact .skip (.punct _) fun _ => .skip .identifier fun _ =>
      .nodeFrom hstart ⟨rfl, rfl, ht, trivial⟩
  · exact (hg.one .generator).bind fun argument hargument =>
      .nodeFrom hstart ⟨rfl, rfl, ht, .one hargument, .nil, trivial⟩
  · exact .skip (.punct _) fun _ => (Gives.opt (hg.one .arguments)).bind fun o ho =>
      .skip (.punct _) fun _ => .nodeFrom hstart ⟨rfl, rfl, callParts_filled ht ho⟩
  · exact .skip (.punct _) fun _ => (hg.one .slices).bind fun index hindex =>
      .skip (.punct _) fun _ => .nodeFrom hstart ⟨rfl, rfl, ht, hindex, trivial⟩

/-! ## Arguments of calls -/

theorem namedArgument_gives (hg : g.Sound n) : (namedArgument g).Gives n (On n .keyword) :=
  .located (.skip .identifier fun _ => .skip (.punct _) fun _ =>
    (hg.one .expression).bind fun _ hvalue => .ret ⟨rfl, rfl, hvalue, trivial⟩)

/-- Keyword arguments stand among starred ones, which are expressions. -/
def IsArgument (n : Nat) (t : Tree) : Prop :=
  On n .keyword t ∨ On n .expression t ∧ isStarred t = true

theorem keywordOrStarred_gives (hg : g.Sound n) : (keywordOrStarred g).Gives n (IsArgument n) := by
  refine .firstOf (.or (.diagnose _) (.or ?_ (.or ?_ .none_left)))
  · exact (namedArgument_gives hg).mono fun _ h => .inl h
  · refine .locatedAs
      (P := fun r => ∃ value, r = (.starred .load, [[value]]) ∧ On n .expression value)
      (.skip (.punct _) fun _ => (hg.one .expression).bind fun _ hvalue => .ret ⟨_, rfl, hvalue⟩) ?_
    rintro _ span ⟨value, rfl, hvalue⟩ hspan
    exact .inr ⟨.node rfl rfl hspan rfl ⟨hvalue, trivial⟩, rfl⟩

theorem keywordOrMapping_gives (hg : g.Sound n) : (keywordOrMapping g).Gives n (IsArgument n) := by
  refine .firstOf (.or (.diagnose _) (.or ?_ (.or ?_ .none_left)))
  · exact (namedArgument_gives hg).mono fun _ h => .inl h
  · refine (Gives.located (c := .keyword) ?_).mono fun _ h => .inl h
    exact .skip (.punct _) fun _ => (hg.one .expression).bind fun _ hvalue =>
      .ret ⟨rfl, rfl, hvalue, trivial⟩

theorem keywordArguments_gives (hg : g.Sound n) :
    (keywordArguments g).Gives n fun ts => ∀ t ∈ ts, IsArgument n t := by
  have hcomma : (punct ",").Keeps n := .punct _
  have hstarred := Gives.sepBy1 (keywordOrStarred_gives hg) hcomma
  have hmapping := Gives.sepBy1 (keywordOrMapping_gives hg) hcomma
  refine .firstOf (.or ?_ (.or (hstarred.mono fun _ h => h.2)
    (.or (hmapping.mono fun _ h => h.2) .none_left)))
  refine hstarred.bind fun first hfirst => .skip (.punct _) fun _ => ?_
  exact hmapping.bind fun second hsecond => .ret fun t ht =>
    (List.mem_append.mp ht).elim (hfirst.2 t) (hsecond.2 t)

theorem filter_isStarred_on {ts : List Tree} (h : ∀ t ∈ ts, IsArgument n t) :
    AllOn n .expression (ts.filter isStarred) ∧
      AllOn n .keyword (ts.filter fun t => !isStarred t) := by
  constructor
  · intro t ht
    obtain ⟨hmem, hstarred⟩ := List.mem_filter.mp ht
    rcases h t hmem with hkeyword | hexpression
    · -- a keyword is not starred
      have : t.kind.category = .keyword := hkeyword.1.1
      unfold isStarred at hstarred
      split at hstarred
      · next hkind => rw [hkind] at this; cases this
      · cases hstarred
    · exact hexpression.1
  · intro t ht
    obtain ⟨hmem, hstarred⟩ := List.mem_filter.mp ht
    rcases h t hmem with hkeyword | ⟨-, his⟩
    · exact hkeyword
    · simp [his] at hstarred

/-- Arguments and keywords make a call of nothing. -/
theorem located_isCallOfNothing {p : Parser (Kind × List (List Tree))}
    (h : p.Gives n fun r => ∃ arguments keywords, r = (.call, [[], arguments, keywords]) ∧
      AllOn n .expression arguments ∧ AllOn n .keyword keywords) :
    (located p).Gives n (Tree.IsCallOfNothing n) := by
  refine .locatedAs h ?_
  rintro _ span ⟨arguments, keywords, rfl, harguments, hkeywords⟩ -
  exact ⟨_, _, _, _, rfl, harguments, hkeywords⟩

theorem callArguments_gives (hg : g.Sound n) :
    (callArguments g).Gives n (Tree.IsCallOfNothing n) := by
  refine .firstOf (.or (located_isCallOfNothing ?_) (.or (located_isCallOfNothing ?_) .none_left))
  · have halone : Gives n (do
        let e ← firstOf [assignmentExpression g, expressionAlone g]
        notLook (punct "=")
        return e) (On n .expression) :=
      Gives.bind (.firstOf (.or (assignmentExpression_gives hg) (.or (expressionAlone_gives hg)
        .none_left))) fun e he => .skip (.notLook (.punct _)) fun _ => .ret he
    refine Gives.bind (.sepBy1 (.firstOf (.or (starredArgument_gives hg) (.or halone .none_left)))
      (.punct _)) fun positional hpositional => ?_
    refine Gives.bind (.opt (.skip (.punct _) fun _ => keywordArguments_gives hg))
      fun named hnamed => ?_
    have hall : ∀ t ∈ named.getD [], IsArgument n t := by
      cases named with
      | none => simp
      | some ts => exact hnamed ts rfl
    have hfilter := filter_isStarred_on hall
    exact .ret ⟨_, _, rfl, .append hpositional.2 hfilter.1, hfilter.2⟩
  · refine (keywordArguments_gives hg).bind fun named hnamed => ?_
    have hfilter := filter_isStarred_on hnamed
    exact .ret ⟨_, _, rfl, hfilter.1, hfilter.2⟩

theorem arguments_gives (hg : g.Sound n) : (arguments g).Gives n (Tree.IsCallOfNothing n) := by
  refine .firstOf (.or ?_ (.or (.diagnose _) .none_left))
  exact (hg.one .callArguments).bind fun _ harguments => .skip (.opt (.punct _)) fun _ =>
    .skip (.look (.punct _)) fun _ => .ret harguments

/-! ## Targets -/

theorem opensTail_keeps : opensTail.Keeps n :=
  Gives.firstOf (.or (Keeps.punct _) (.or (Keeps.punct _) (.or (Keeps.punct _) .none_left)))

theorem memberOf_gives {start : Token} (hstart : start.Within n) (usage : Usage) {t : Tree}
    (ht : On n .expression t) :
    (memberOf start usage t).Gives n (On n .expression) :=
  .skip (.punct _) fun _ => .skip .identifier fun _ => .nodeFrom hstart ⟨rfl, rfl, ht, trivial⟩

theorem subscriptOf_gives (hg : g.Sound n) {start : Token} (hstart : start.Within n)
    (usage : Usage) {t : Tree}
    (ht : On n .expression t) : (subscriptOf g start usage t).Gives n (On n .expression) :=
  .skip (.punct _) fun _ => (hg.one .slices).bind fun _ hindex => .skip (.punct _) fun _ =>
    .nodeFrom hstart ⟨rfl, rfl, ht, hindex, trivial⟩

theorem targetPrimary_gives (hg : g.Sound n) : (targetPrimary g).Gives n (On n .expression) := by
  have followed {p : Parser Tree} (h : p.Gives n (On n .expression)) :
      Gives n (do let t ← p; look opensTail; return t) (On n .expression) :=
    h.bind fun _ ht => .skip (.look opensTail_keeps) fun _ => .ret ht
  refine .bind .peek fun start hstart => .chain (followed (hg.one .atom)) fun t ht =>
    .firstOf (.or (followed (memberOf_gives hstart .load ht))
      (.or (followed (subscriptOf_gives hg hstart .load ht)) (.or (followed ?_)
        (.or (followed ?_) .none_left))))
  · exact (hg.one .generator).bind fun argument hargument =>
      .nodeFrom hstart ⟨rfl, rfl, ht, .one hargument, .nil, trivial⟩
  · refine .skip (.punct _) fun _ => (Gives.opt (hg.one .arguments)).bind fun o ho =>
      .skip (.punct _) fun _ => .nodeFrom hstart ⟨rfl, rfl, ?_⟩
    cases o with
    | none => exact ⟨ht, .nil, .nil, trivial⟩
    | some u =>
        obtain ⟨k, s, arguments, keywords, rfl, harguments, hkeywords⟩ := ho u rfl
        exact ⟨ht, harguments, hkeywords, trivial⟩

theorem memberTarget_gives (hg : g.Sound n) (usage : Usage) :
    (memberTarget g usage).Gives n (On n .expression) := by
  refine .bind .peek fun start hstart => .firstOf (.or ?_ (.or ?_ .none_left))
  · exact (hg.one .targetPrimary).bind fun t ht => (memberOf_gives hstart usage ht).bind fun m hm =>
      .skip (.notLook opensTail_keeps) fun _ => .ret hm
  · exact (hg.one .targetPrimary).bind fun t ht =>
      (subscriptOf_gives hg hstart usage ht).bind fun m hm =>
        .skip (.notLook opensTail_keeps) fun _ => .ret hm

theorem boundName_gives (usage : Usage) : (boundName usage).Gives n (On n .expression) :=
  Gives.nameTree.bind fun t ht => .ret (Tree.withUsage_on usage t ht)

/-- Something in parentheses. -/
theorem inParentheses_gives {P : Tree → Prop} {p : Parser Tree} (f : Tree → Tree)
    (h : p.Gives n fun t => P (f t)) :
    Gives n (do let _ ← punct "("; let t ← p; let _ ← punct ")"; return f t) P :=
  .skip (.punct _) fun _ => h.bind fun _ ht => .skip (.punct _) fun _ => .ret ht

theorem starAtom_gives (hg : g.Sound n) : (starAtom g).Gives n (On n .expression) := by
  refine .firstOf (.or (boundName_gives .store) (.or ?_ (.or (.located ?_)
    (.or (.located ?_) .none_left))))
  · exact inParentheses_gives _ ((hg.one .targetWithStarAtom).mono (Tree.withUsage_on .store))
  · refine .skip (.punct _) fun _ => Gives.bind (.opt (P := SomeOn n .expression)
      (.firstOf (.or ?_ (.or ?_ .none_left)))) fun elements helements => .skip (.punct _) fun _ =>
        .ret ⟨rfl, rfl, elementsOr_on helements, trivial⟩
    · refine (hg.one .starTarget).bind fun first hfirst => ?_
      exact Gives.bind (.many1 (.skip (.punct _) fun _ => hg.one .starTarget))
        fun others hothers => .skip (.opt (.punct _)) fun _ => .ret (.cons hfirst hothers.2)
    · exact (hg.one .starTarget).bind fun first hfirst => .skip (.punct _) fun _ =>
        .ret (.cons hfirst .nil)
  · refine .skip (.punct _) fun _ => Gives.bind (.opt (P := SomeOn n .expression) ?_)
      fun elements helements => .skip (.punct _) fun _ =>
        .ret ⟨rfl, rfl, elementsOr_on helements, trivial⟩
    exact Gives.bind (.sepBy1 (hg.one .starTarget) (.punct _)) fun elements helements =>
      .skip (.opt (.punct _)) fun _ => .ret helements

theorem targetWithStarAtom_gives (hg : g.Sound n) :
    (targetWithStarAtom g).Gives n (On n .expression) :=
  .firstOf (.or (memberTarget_gives hg .store) (.or (starAtom_gives hg) .none_left))

theorem starTarget_gives (hg : g.Sound n) : (starTarget g).Gives n (On n .expression) := by
  refine .firstOf (.or (.located ?_) (.or (hg.one .targetWithStarAtom) .none_left))
  exact .skip (.punct _) fun _ => .skip (.notLook (.punct _)) fun _ =>
    (hg.one .starTarget).bind fun t ht =>
      .ret ⟨rfl, rfl, Tree.withUsage_on .store t ht, trivial⟩

theorem starTargets_gives (hg : g.Sound n) : (starTargets g).Gives n (On n .expression) := by
  refine .firstOf (.or ?_ (.or (.located ?_) .none_left))
  · exact (hg.one .starTarget).bind fun _ ht => .skip (.notLook (.punct _)) fun _ => .ret ht
  · refine (hg.one .starTarget).bind fun first hfirst => ?_
    exact Gives.bind (.many (.skip (.punct _) fun _ => hg.one .starTarget)) fun others hothers =>
      .skip (.opt (.punct _)) fun _ => .ret ⟨rfl, rfl, .cons hfirst hothers, trivial⟩

theorem singleTarget_gives (hg : g.Sound n) : (singleTarget g).Gives n (On n .expression) :=
  .firstOf (.or (hg.one .memberTarget) (.or (boundName_gives .store)
    (.or (inParentheses_gives id (hg.one .singleTarget)) .none_left)))

theorem annotationTarget_gives (hg : g.Sound n) : (annotationTarget g).Gives n (On n .expression) :=
  .firstOf (.or (hg.one .listDisplay) (.or (hg.one .tupleDisplay)
    (.or (inParentheses_gives id (hg.one .annotationTarget)) .none_left)))

theorem delTargets_gives (hg : g.Sound n) : (delTargets g).Gives n (SomeOn n .expression) :=
  Gives.bind (.sepBy1 (hg.one .delTarget) (.punct _)) fun _ htargets =>
    .skip (.opt (.punct _)) fun _ => .ret htargets

theorem delTarget_gives (hg : g.Sound n) : (delTarget g).Gives n (On n .expression) := by
  refine .firstOf (.or (memberTarget_gives hg .del) (.or (boundName_gives .del) (.or ?_
    (.or (.located ?_) (.or (.located ?_) .none_left)))))
  · exact inParentheses_gives _ ((hg.one .delTarget).mono (Tree.withUsage_on .del))
  · exact .skip (.punct _) fun _ => (Gives.opt (hg.many .delTargets)).bind fun targets htargets =>
      .skip (.punct _) fun _ => .ret ⟨rfl, rfl, elementsOr_on htargets, trivial⟩
  · exact .skip (.punct _) fun _ => (Gives.opt (hg.many .delTargets)).bind fun targets htargets =>
      .skip (.punct _) fun _ => .ret ⟨rfl, rfl, elementsOr_on htargets, trivial⟩

end SourceLoader.Grammar
