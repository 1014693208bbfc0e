import SourceLoader.Proofs.Grammar.Parameter
import SourceLoader.Proofs.Grammar.Pattern
import SourceLoader.Proofs.Grammar.Statement
import SourceLoader.Proofs.Grammar.Strings
import SourceLoader.Syntax.Parse

/-!
# Trees that are read from a source are well formed and stand on its lines

Rules call rules at a smaller depth, so the soundness of all of them goes by induction on the depth.
What a rule remembers is what it has yielded, and the place of a result tells which rule it belongs
to.
-/

namespace SourceLoader

open Tree (On AllOn SomeOn)

namespace Grammar

open Parser

variable {n : Nat} {g : Rules}

theorem oneRule_gives (hg : g.Sound n) (rule : OneRule) :
    (oneRule g rule).Gives n (rule.Yields n) := by
  cases rule with
  | simpleStatement => exact simpleStatement_gives hg
  | elifPart => exact branch_gives hg _
  | namedExpression => exact namedExpression_gives hg
  | invalidNamed => exact .diagnose _
  | expression => exact expression_gives hg
  | starExpressions => exact starExpressions_gives hg
  | starExpression => exact starExpression_gives hg
  | starNamedExpression => exact starNamedExpression_gives hg
  | yieldExpression => exact yieldExpression_gives hg
  | disjunction => exact wordChain_gives _ _ (hg.one .conjunction)
  | conjunction => exact wordChain_gives _ _ (hg.one .inversion)
  | inversion => exact inversion_gives hg
  | bitOr => exact binaryChain_gives _ (hg.one .bitXor)
  | bitXor => exact binaryChain_gives _ (hg.one .bitAnd)
  | bitAnd => exact binaryChain_gives _ (hg.one .shift)
  | shift => exact binaryChain_gives _ (hg.one .sum)
  | sum => exact binaryChain_gives _ (hg.one .term)
  | term => exact binaryChain_gives _ (hg.one .factor)
  | factor => exact factor_gives hg
  | awaitPrimary => exact awaitPrimary_gives hg
  | primary => exact primary_gives hg
  | atom => exact atom_gives hg
  | strings => exact strings_gives hg
  | generator => exact generator_gives hg
  | listDisplay => exact listDisplay_gives hg
  | tupleDisplay => exact tupleDisplay_gives hg
  | arguments => exact arguments_gives hg
  | callArguments => exact callArguments_gives hg
  | slices => exact slices_gives hg
  | starTargets => exact starTargets_gives hg
  | starTarget => exact starTarget_gives hg
  | targetWithStarAtom => exact targetWithStarAtom_gives hg
  | targetPrimary => exact targetPrimary_gives hg
  | memberTarget => exact memberTarget_gives hg _
  | singleTarget => exact singleTarget_gives hg
  | annotationTarget => exact annotationTarget_gives hg
  | delTarget => exact delTarget_gives hg
  | pattern => exact pattern_gives hg
  | closedPattern => exact closedPattern_gives hg
  | starPattern => exact starPattern_gives
  | patternName => exact patternName_gives
  | parameters => exact parameters_gives hg _
  | lambdaParameters => exact parameters_gives hg _
  | casePatterns => exact patterns_gives hg
  | fieldInput => exact starExpressions_gives hg

theorem manyRule_gives (hg : g.Sound n) (rule : ManyRule) :
    (manyRule g rule).Gives n (SomeOn n rule.category) := by
  cases rule with
  | statements => exact statements_gives hg
  | block => exact block_gives hg
  | starNamedExpressions => exact starNamedExpressions_gives hg
  | forClauses => exact forClauses_gives hg
  | delTargets => exact delTargets_gives hg
  | patternElements => exact patternElements_gives hg
  | openPatternElements => exact openPatternElements_gives hg
  | simpleStatements => exact simpleStatements_gives hg

/-! ## Memory -/

/-- The place of a result tells its rule. -/
theorem ruleOf_placeOf (s : ParseState) (isShared : Bool) {rule : Nat} (h : rule < 128) :
    ruleOf (placeOf s rule isShared) = rule := by
  have hbit := Bool.toNat_le (!isShared && s.diagnosing)
  simp only [ruleOf, placeOf]
  omega

theorem oneRule_lt (rule : OneRule) : rule.ctorIdx < 128 := by cases rule <;> decide

theorem manyRule_lt (rule : ManyRule) : rule.ctorIdx < 128 := by cases rule <;> decide

theorem oneRule_injective {rule rule' : OneRule} (h : rule.ctorIdx = rule'.ctorIdx) :
    rule = rule' := by
  rw [← OneRule.ofNat_ctorIdx rule, h, OneRule.ofNat_ctorIdx]

theorem manyRule_injective {rule rule' : ManyRule} (h : rule.ctorIdx = rule'.ctorIdx) :
    rule = rule' := by
  rw [← ManyRule.ofNat_ctorIdx rule, h, ManyRule.ofNat_ctorIdx]

/-- Remembering one result more. -/
theorem insertOne_sound {s s' : ParseState} (hs' : s'.Sound n) (rule : OneRule)
    {result : Remembered Tree} (h : ∀ t mark, result = some (t, mark) → rule.Yields n t) :
    { s' with ones := s'.ones.insert (placeOf s rule.ctorIdx rule.isShared) result }.Sound n := by
  refine ⟨hs'.trusting, hs'.lexer, hs'.tokens, fun place t mark hfound rule' hrule => ?_,
    hs'.manys⟩
  rw [Std.TreeMap.getElem?_insert] at hfound
  split at hfound
  · next heq =>
      rw [← Std.LawfulEqCmp.eq_of_compare heq, ruleOf_placeOf s _ (oneRule_lt rule)] at hrule
      rw [← oneRule_injective hrule]
      exact h t mark (Option.some.inj hfound)
  · exact hs'.ones place t mark hfound rule' hrule

/-- Remembering one result more. -/
theorem insertMany_sound {s s' : ParseState} (hs' : s'.Sound n) (rule : ManyRule)
    {result : Remembered (List Tree)}
    (h : ∀ ts mark, result = some (ts, mark) → SomeOn n rule.category ts) :
    { s' with manys := s'.manys.insert (placeOf s rule.ctorIdx rule.isShared) result }.Sound n := by
  refine ⟨hs'.trusting, hs'.lexer, hs'.tokens, hs'.ones,
    fun place ts mark hfound rule' hrule => ?_⟩
  rw [Std.TreeMap.getElem?_insert] at hfound
  split at hfound
  · next heq =>
      rw [← Std.LawfulEqCmp.eq_of_compare heq, ruleOf_placeOf s _ (manyRule_lt rule)] at hrule
      rw [← manyRule_injective hrule]
      exact h ts mark (Option.some.inj hfound)
  · exact hs'.manys place ts mark hfound rule' hrule

theorem rememberOne_gives (rule : OneRule) {p : Parser Tree} (h : p.Gives n (rule.Yields n)) :
    (rememberOne rule p).Gives n (rule.Yields n) := by
  intro s hs
  unfold rememberOne
  dsimp only
  split
  · next t mark hfound =>
      exact ⟨hs.at mark, hs.ones _ t mark hfound rule (ruleOf_placeOf s _ (oneRule_lt rule))⟩
  · exact hs
  · have hp := h s hs
    cases hr : p s with
    | ok t s' =>
        rw [hr] at hp
        exact ⟨insertOne_sound hp.1 rule fun u mark hu => by cases hu; exact hp.2, hp.2⟩
    | no s' =>
        rw [hr] at hp
        exact insertOne_sound hp rule fun _ _ hu => by cases hu
    | stop e s' => trivial

theorem rememberMany_gives (rule : ManyRule) {p : Parser (List Tree)}
    (h : p.Gives n (SomeOn n rule.category)) :
    (rememberMany rule p).Gives n (SomeOn n rule.category) := by
  intro s hs
  unfold rememberMany
  dsimp only
  split
  · next ts mark hfound =>
      exact ⟨hs.at mark, hs.manys _ ts mark hfound rule (ruleOf_placeOf s _ (manyRule_lt rule))⟩
  · exact hs
  · have hp := h s hs
    cases hr : p s with
    | ok ts s' =>
        rw [hr] at hp
        exact ⟨insertMany_sound hp.1 rule fun u mark hu => by cases hu; exact hp.2, hp.2⟩
    | no s' =>
        rw [hr] at hp
        exact insertMany_sound hp rule fun _ _ hu => by cases hu
    | stop e s' => trivial

/-- **All rules yield what they should, however deep they may call each other.** -/
theorem rules_sound (depth : Nat) : (rules depth).Sound n := by
  induction depth with
  | zero => exact ⟨fun _ => .fail, fun _ => .fail⟩
  | succ depth ih =>
      exact ⟨fun rule => rememberOne_gives rule (oneRule_gives ih rule),
        fun rule => rememberMany_gives rule (manyRule_gives ih rule)⟩

end Grammar

namespace Source

variable {source : String} {t : Tree} {warnings : List Warning}

/-- **A tree that is read from a source stands on its lines.** -/
theorem parse_on {n : Nat} (hlines : Lexer.lineCount source ≤ n)
    (h : parse source = .ok (t, warnings)) : On n .module t := by
  unfold parse at h
  split at h
  · cases h
  · dsimp only at h
    split at h
    · next hread =>
        cases h
        exact (Grammar.module_gives (Grammar.rules_sound _)).read
          (ParseState.ofSource_sound hlines) hread
    · cases h

/-- **A tree that is read from a source is well formed.** -/
theorem parse_is (h : parse source = .ok (t, warnings)) : Tree.Is .module t :=
  (parse_on le_rfl h).1

/-- The tree of a source, if it has one. -/
def tree? (source : String) : Option Tree := (parse source).toOption.map Prod.fst

theorem parse_of_tree? (h : tree? source = some t) :
    ∃ warnings, parse source = .ok (t, warnings) := by
  obtain ⟨⟨t, warnings⟩, hparse, rfl⟩ := Option.map_eq_some_iff.mp h
  cases hresult : parse source with
  | error e => rw [hresult] at hparse; cases hparse
  | ok result => rw [hresult] at hparse; cases hparse; exact ⟨warnings, rfl⟩

/-! ### Sources of known characters -/

/-- Reads a source that is given by its characters. They need not be decoded then, which takes long
where a proof works out what is read. -/
def parseChars (chars : List Char) : Except ParseFailure (Tree × List Warning) :=
  if chars.contains '\x00' then .error .nullCharacter
  else
    let unified := Text.unifyNewlines chars
    let rest := if unified.getLast? = some '\n' then unified else unified ++ ['\n']
    let state : ParseState := {
      lexer := { rest }
      limit := 2 * rest.length + 2
      lines := ((String.ofList unified).splitOn "\n").toArray.map String.toList }
    match Parser.read (Grammar.module (Grammar.rules (Grammar.depthFor state.limit))) state with
    | .ok (tree, warnings) => .ok (tree, warnings.reverse)
    | .error e => .error (.rejected e)

theorem parse_eq_parseChars {chars : List Char} (h : source.toList = chars) :
    parse source = parseChars chars := by
  subst h
  rfl

/-- The characters of a text that is put together. -/
theorem toList_append_eq {s s' : String} {cs cs' : List Char} (h : s.toList = cs)
    (h' : s'.toList = cs') : (s ++ s').toList = cs ++ cs' := by
  rw [String.toList_append, h, h']

end Source

end SourceLoader
