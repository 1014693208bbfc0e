import SourceLoader.Proofs.Grammar.Rules
import SourceLoader.Proofs.Marks.Parameter
import SourceLoader.Proofs.Marks.Pattern
import SourceLoader.Proofs.Marks.Statement
import SourceLoader.Proofs.Marks.Strings

/-!
# Whatever rules read lies between marks

The place of a result tells its rule and the mark where the rule was called, so that a result that is
remembered lies between the same marks as when it was worked out.
-/

namespace SourceLoader

open Dependencies

namespace Grammar

open Parser

variable {g : Rules} {v : Survey} {i : ℕ}

theorem oneRule_reads (hg : g.Lays) (rule : OneRule) :
    (oneRule g rule).Reads v i fun j => rule.Lays v i j := by
  cases rule with
  | simpleStatement => exact simpleStatement_reads hg
  | elifPart => exact branch_reads hg _
  | namedExpression => exact namedExpression_reads hg
  | invalidNamed => exact .diagnose _
  | expression => exact expression_reads hg
  | starExpressions => exact starExpressions_reads hg
  | starExpression => exact starExpression_reads hg
  | starNamedExpression => exact starNamedExpression_reads hg
  | yieldExpression => exact yieldExpression_reads hg
  | disjunction => exact wordChain_reads _ _ fun _ => hg.one .conjunction
  | conjunction => exact wordChain_reads _ _ fun _ => hg.one .inversion
  | inversion => exact inversion_reads hg
  | bitOr => exact binaryChain_reads _ fun _ => hg.one .bitXor
  | bitXor => exact binaryChain_reads _ fun _ => hg.one .bitAnd
  | bitAnd => exact binaryChain_reads _ fun _ => hg.one .shift
  | shift => exact binaryChain_reads _ fun _ => hg.one .sum
  | sum => exact binaryChain_reads _ fun _ => hg.one .term
  | term => exact binaryChain_reads _ fun _ => hg.one .factor
  | factor => exact factor_reads hg
  | awaitPrimary => exact awaitPrimary_reads hg
  | primary => exact primary_reads hg
  | atom => exact atom_reads hg
  | strings => exact strings_reads hg
  | generator => exact generator_reads hg
  | listDisplay => exact listDisplay_reads hg
  | tupleDisplay => exact tupleDisplay_reads hg
  | arguments => exact arguments_reads hg
  | callArguments => exact callArguments_reads hg
  | slices => exact slices_reads hg
  | starTargets => exact starTargets_reads hg
  | starTarget => exact starTarget_reads hg
  | targetWithStarAtom => exact targetWithStarAtom_reads hg
  | targetPrimary => exact targetPrimary_reads hg
  | memberTarget => exact memberTarget_reads hg _
  | singleTarget => exact singleTarget_reads hg
  | annotationTarget => exact annotationTarget_reads hg
  | delTarget => exact delTarget_reads hg
  | pattern => exact pattern_still hg
  | closedPattern => exact closedPattern_still hg
  | starPattern => exact starPattern_still
  | patternName => exact patternName_still
  | parameters => exact parameters_reads hg _
  | lambdaParameters => exact parameters_reads hg _
  | casePatterns => exact patterns_still hg
  | fieldInput => exact starExpressions_reads hg

theorem manyRule_reads (hg : g.Lays) (rule : ManyRule) :
    (manyRule g rule).Reads v i fun j => rule.Lays v i j := by
  cases rule with
  | statements => exact statements_reads hg
  | block => exact block_reads hg
  | starNamedExpressions => exact starNamedExpressions_reads hg
  | forClauses => exact forClauses_reads hg
  | delTargets => exact delTargets_reads hg
  | patternElements => exact patternElements_still hg
  | openPatternElements => exact openPatternElements_still hg
  | simpleStatements => exact simpleStatements_reads hg

/-! ## Memory -/

/-- The place of a result tells its mark. -/
theorem markOf_placeOf (s : ParseState) (isShared : Bool) {rule : ℕ} (h : rule < 128) :
    markOf (placeOf s rule isShared) = s.mark := by
  have hbit := Bool.toNat_le (!isShared && s.diagnosing)
  simp only [markOf, placeOf]
  omega

/-- Remembering one result more. -/
theorem insertOne_aligned {s s' : ParseState} (hs' : s'.Aligned v) (rule : OneRule)
    {result : Remembered Tree} (h : ∀ t stop, result = some (t, stop) →
      s.mark ≤ stop ∧ stop ≤ s'.tokens.size ∧ rule.Lays v s.mark stop t) :
    { s' with ones := s'.ones.insert (placeOf s rule.ctorIdx rule.isShared) result }.Aligned v := by
  refine ⟨hs'.trusting, hs'.mark, hs'.lexer, hs'.tokens, fun place t stop hfound => ?_, hs'.manys⟩
  rw [Std.TreeMap.getElem?_insert] at hfound
  split at hfound
  · next heq =>
    have hlt := oneRule_lt rule
    rw [← Std.LawfulEqCmp.eq_of_compare heq, ruleOf_placeOf s _ hlt, markOf_placeOf s _ hlt]
    obtain ⟨hmark, hstop, hlays⟩ := h t stop (Option.some.inj hfound)
    refine ⟨hmark, hstop, fun rule' hrule => ?_⟩
    rw [← oneRule_injective hrule]
    exact hlays
  · exact hs'.ones place t stop hfound

/-- Remembering one result more. -/
theorem insertMany_aligned {s s' : ParseState} (hs' : s'.Aligned v) (rule : ManyRule)
    {result : Remembered (List Tree)} (h : ∀ ts stop, result = some (ts, stop) →
      s.mark ≤ stop ∧ stop ≤ s'.tokens.size ∧ rule.Lays v s.mark stop ts) :
    { s' with manys := s'.manys.insert (placeOf s rule.ctorIdx rule.isShared) result }.Aligned v := by
  refine ⟨hs'.trusting, hs'.mark, hs'.lexer, hs'.tokens, hs'.ones, fun place ts stop hfound => ?_⟩
  rw [Std.TreeMap.getElem?_insert] at hfound
  split at hfound
  · next heq =>
    have hlt := manyRule_lt rule
    rw [← Std.LawfulEqCmp.eq_of_compare heq, ruleOf_placeOf s _ hlt, markOf_placeOf s _ hlt]
    obtain ⟨hmark, hstop, hlays⟩ := h ts stop (Option.some.inj hfound)
    refine ⟨hmark, hstop, fun rule' hrule => ?_⟩
    rw [← manyRule_injective hrule]
    exact hlays
  · exact hs'.manys place ts stop hfound

theorem rememberOne_reads (rule : OneRule) {p : Parser Tree}
    (h : p.Reads v i fun j => rule.Lays v i j) :
    (rememberOne rule p).Reads v i fun j => rule.Lays v i j := by
  rintro s hs rfl
  have hlt := oneRule_lt rule
  unfold rememberOne
  dsimp only
  split
  · next t stop hfound =>
    obtain ⟨hmark, hstop, hlays⟩ := hs.ones _ t stop hfound
    rw [markOf_placeOf s _ hlt] at hmark hlays
    exact ⟨hs.at hstop, hmark, hlays rule (ruleOf_placeOf s _ hlt)⟩
  · exact ⟨hs, hs.mark⟩
  · have hp := h s hs rfl
    cases hr : p s with
    | ok t s' =>
        rw [hr] at hp
        refine ⟨insertOne_aligned hp.1 rule fun u stop hu => ?_, hp.2⟩
        cases hu
        exact ⟨hp.2.1, hp.1.mark, hp.2.2⟩
    | no s' =>
        rw [hr] at hp
        exact ⟨insertOne_aligned hp.1 rule (fun _ _ hu => nomatch hu), hp.2⟩
    | stop e s' => trivial

theorem rememberMany_reads (rule : ManyRule) {p : Parser (List Tree)}
    (h : p.Reads v i fun j => rule.Lays v i j) :
    (rememberMany rule p).Reads v i fun j => rule.Lays v i j := by
  rintro s hs rfl
  have hlt := manyRule_lt rule
  unfold rememberMany
  dsimp only
  split
  · next ts stop hfound =>
    obtain ⟨hmark, hstop, hlays⟩ := hs.manys _ ts stop hfound
    rw [markOf_placeOf s _ hlt] at hmark hlays
    exact ⟨hs.at hstop, hmark, hlays rule (ruleOf_placeOf s _ hlt)⟩
  · exact ⟨hs, hs.mark⟩
  · have hp := h s hs rfl
    cases hr : p s with
    | ok ts s' =>
        rw [hr] at hp
        refine ⟨insertMany_aligned hp.1 rule fun u stop hu => ?_, hp.2⟩
        cases hu
        exact ⟨hp.2.1, hp.1.mark, hp.2.2⟩
    | no s' =>
        rw [hr] at hp
        exact ⟨insertMany_aligned hp.1 rule (fun _ _ hu => nomatch hu), hp.2⟩
    | stop e s' => trivial

/-- **All rules read what lies between marks, however deep they may call each other.** -/
theorem rules_lays (depth : ℕ) : (rules depth).Lays := by
  induction depth with
  | zero => exact ⟨fun _ => .fail, fun _ => .fail⟩
  | succ depth ih =>
      exact ⟨fun rule => rememberOne_reads rule (oneRule_reads ih rule),
        fun rule => rememberMany_reads rule (manyRule_reads ih rule)⟩

end Grammar

/-- A tree that is read from a source lies between its marks. -/
theorem Source.parse_laid {source : String} {t : Tree} {warnings : List Warning}
    (h : Source.parse source = .ok (t, warnings)) (b : Bool) :
    ∃ j, Laid ⟨Lexer.ofSource source, b⟩ 0 j t := by
  unfold Source.parse at h
  split at h
  · cases h
  · dsimp only at h
    split at h
    · next hread =>
      cases h
      have haligned : (ParseState.ofSource source).Aligned ⟨(ParseState.ofSource source).lexer, b⟩ :=
        .first rfl rfl rfl rfl rfl rfl
      obtain ⟨_, hlaid⟩ := (Grammar.module_reads (Grammar.rules_lays _)).read haligned rfl hread
      exact ⟨_, hlaid⟩
    · cases h

/-- **A tree that is read from a source is arranged**: where the grammar reads the parts of a node
in the order of its fields, they declare what they declare in the order of the source. -/
theorem Source.parse_arranged {source : String} {t : Tree} {warnings : List Warning}
    (h : Source.parse source = .ok (t, warnings)) (b : Bool) : Arranged b t := by
  obtain ⟨_, hlaid⟩ := Source.parse_laid h b
  exact hlaid.arranged

end SourceLoader

/-!
## Which dependencies come in the order of the source

Dependencies are collected along the fields of each node. Most fields are read in this order, so
that what they declare goes down the source (`Source.parse_arranged`). Six kinds of nodes list their
fields in another order, and a tree with such a node can declare something later in the source
before something that stands in front of it. The exact condition is that the parts of these nodes are
in order (`ofTree_inOrder_iff`); each of the six can break it (`disordered_not_inOrder`).
-/

namespace SourceLoader.Dependencies

/-- **The order breaks at nodes that reorder their fields, and nowhere else.** Along the list that is
collected from a source, the places of the declaring statements and calls go up exactly if the parts
of each such node are in order. A node in which an f-string declares something has to be looked at,
too, since the places in an f-string are counted in a source of its own. -/
theorem ofTree_inOrder_iff {source : String} {t : Tree} {warnings : List Warning}
    (hparse : Source.parse source = .ok (t, warnings)) (b : Bool) :
    (declarations b t).map Prod.fst = ofTree b t
    ∧ (InOrder b t ↔
      ∀ n ∈ t.nodes, n.kind.reorders = true ∨ ¬Plain b n → PartsInOrder b n) := by
  refine ⟨map_fst_declarations b t, ?_⟩
  have harranged : Arranged b t := Source.parse_arranged hparse b
  rw [inOrder_iff b t (Source.parse_is hparse).2]
  constructor
  · exact fun hall n hn _ => hall n hn
  · intro hsome n hn
    by_cases hreorders : n.kind.reorders = true
    · exact hsome n hn (.inl hreorders)
    by_cases hplain : Plain b n
    · exact harranged n hn hplain (by simpa using hreorders)
    · exact hsome n hn (.inr hplain)

instance (ds es : List (String × Place)) : Decidable (NoLater ds es) :=
  inferInstanceAs (Decidable (∀ d ∈ ds, ∀ e ∈ es, d.2 ≤ e.2))

instance (b : Bool) (t : Tree) : Decidable (InOrder b t) :=
  inferInstanceAs (Decidable ((declarations b t).Pairwise fun d e => d.2 ≤ e.2))

instance (b : Bool) (t : Tree) : Decidable (PartsInOrder b t) :=
  inferInstanceAs (Decidable (t.children.Pairwise fun c d =>
    NoLater (declarations b c) (declarations b d)))

/-- The condition of a choice is asked for before its results. -/
def choosing : String := "x = require('a') if require('b') else require('c')\n"

theorem choosing_not_inOrder : ∃ t, Source.tree? choosing = some t
    ∧ ofTree true t = ["b", "a", "c"] ∧ ¬InOrder true t
    ∧ ∃ n ∈ t.nodes, (n.kind.reorders = true ∨ ¬Plain true n) ∧ ¬PartsInOrder true n := by
  have hlist : (Source.tree? choosing).map (fun t => (ofTree true t, decide (InOrder true t)))
      = some (["b", "a", "c"], false) := by decide +kernel
  obtain ⟨t, htree, hlist⟩ := Option.map_eq_some_iff.mp hlist
  simp only [Prod.mk.injEq, decide_eq_false_iff_not] at hlist
  obtain ⟨warnings, hparse⟩ := Source.parse_of_tree? htree
  refine ⟨t, htree, hlist.1, hlist.2, ?_⟩
  have hbroken := mt (ofTree_inOrder_iff hparse true).2.mpr hlist.2
  push Not at hbroken
  simpa only [exists_prop] using hbroken

end SourceLoader.Dependencies
