import SourceLoader.Proofs.Grammar.Atom
import SourceLoader.Syntax.Grammar.Pattern

/-!
# Patterns
-/

namespace SourceLoader.Grammar

open Parser
open Tree (On AllOn SomeOn)

variable {n : Nat} {g : Rules}

/-! ## Values -/

theorem patternNumber_gives : patternNumber.Gives n (On n .expression) := number_gives

/-- A number with a minus sign. -/
theorem negated_gives {p : Parser Tree} (h : p.Gives n (On n .expression)) :
    Gives n (located do
      let _ ← punct "-"
      let n ← p
      return (.unaryOp .uSub, [[n]])) (On n .expression) :=
  .located (.skip (.punct _) fun _ => h.bind fun _ hn => .ret ⟨rfl, rfl, hn, trivial⟩)

theorem signedNumber_gives : signedNumber.Gives n (On n .expression) :=
  .firstOf (.or patternNumber_gives (.or (negated_gives patternNumber_gives) .none_left))

theorem realNumber_gives : realNumber.Gives n (On n .expression) :=
  patternNumber_gives.bind fun _ hn => .ite (fun _ => .faultAtTree _ _) fun _ => .ret hn

theorem imaginaryNumber_gives : imaginaryNumber.Gives n (On n .expression) :=
  patternNumber_gives.bind fun _ hn => .ite (fun _ => .ret hn) fun _ => .faultAtTree _ _

theorem complexNumber_gives : complexNumber.Gives n (On n .expression) := by
  have hreal := Gives.firstOf (n := n)
    (.or realNumber_gives (.or (negated_gives realNumber_gives) .none_left))
  refine .bind .peek fun start hstart => .firstOf (.or ?_ (.or ?_ .none_left))
  all_goals
    exact hreal.bind fun a ha => .skip (.punct _) fun _ =>
      imaginaryNumber_gives.bind fun b hb => .nodeFrom hstart ⟨rfl, rfl, ha, hb, trivial⟩

theorem literalValue_gives (hg : g.Sound n) : (literalValue g).Gives n (On n .expression) := by
  refine .firstOf (.or ?_ (.or complexNumber_gives (.or (hg.one .strings) .none_left)))
  exact signedNumber_gives.bind fun _ hn => .skip (.notLook
    (Gives.firstOf (.or (Keeps.punct _) (.or (Keeps.punct _) .none_left)))) fun _ => .ret hn

theorem wordConstant_gives : wordConstant.Gives n fun r => r.1.Within n := by
  refine .bind .peek fun t ht => ?_
  split
  case h_4 => exact .fail
  all_goals exact .skip .advance fun _ => .ret ht

theorem literalKey_gives (hg : g.Sound n) : (literalKey g).Gives n (On n .expression) := by
  refine .firstOf (.or (literalValue_gives hg) (.or ?_ .none_left))
  exact wordConstant_gives.bind fun _ ht => .ret (leaf_on ht _ rfl rfl rfl)

theorem patternName_gives : patternName.Gives n (On n .expression) := by
  refine .bind .peek fun start hstart => .chain .nameTree fun t ht => ?_
  exact .skip (.punct _) fun _ => .skip .identifier fun _ =>
    .nodeFrom hstart ⟨rfl, rfl, ht, trivial⟩

theorem dottedName_gives (hg : g.Sound n) : (dottedName g).Gives n (On n .expression) := by
  refine (hg.one .patternName).bind fun t ht => ?_
  split
  · exact .ret ht
  · exact .fail

/-! ## Closed patterns -/

theorem captureTarget_keeps : captureTarget.Keeps n := by
  refine .skip (.notLook (.softKeyword _)) fun _ => .skip .identifier fun _ => ?_
  exact .skip (.notLook (Gives.firstOf (.or (Keeps.punct _) (.or (Keeps.punct _)
    (.or (Keeps.punct _) .none_left))))) fun _ => .ret trivial

theorem literalPattern_gives (hg : g.Sound n) : (literalPattern g).Gives n (On n .pattern) := by
  refine .firstOf (.or (.located ?_) (.or (.located ?_) .none_left))
  · exact (literalValue_gives hg).bind fun _ hvalue => .ret ⟨rfl, rfl, hvalue, trivial⟩
  · exact .skip wordConstant_gives.keeps fun _ => .ret ⟨rfl, rfl, trivial⟩

theorem starPattern_gives : starPattern.Gives n (On n .pattern) := by
  refine .firstOf (.or (.located ?_) (.or (.located ?_) .none_left))
  · exact .skip (.punct _) fun _ => .skip captureTarget_keeps fun _ => .ret ⟨rfl, rfl, trivial⟩
  · exact .skip (.punct _) fun _ => .skip (.softKeyword _) fun _ => .ret ⟨rfl, rfl, trivial⟩

theorem maybeStarPattern_gives (hg : g.Sound n) : (maybeStarPattern g).Gives n (On n .pattern) :=
  .firstOf (.or (hg.one .starPattern) (.or (hg.one .pattern) .none_left))

theorem patternElements_gives (hg : g.Sound n) : (patternElements g).Gives n (SomeOn n .pattern) :=
  Gives.bind (.sepBy1 (maybeStarPattern_gives hg) (.punct _)) fun _ helements =>
    .skip (.opt (.punct _)) fun _ => .ret helements

theorem openPatternElements_gives (hg : g.Sound n) :
    (openPatternElements g).Gives n (SomeOn n .pattern) := by
  refine (maybeStarPattern_gives hg).bind fun first hfirst => .skip (.punct _) fun _ => ?_
  exact (Gives.opt (hg.many .patternElements)).bind fun others hothers =>
    .ret (.cons hfirst (elementsOr_on hothers))

theorem sequencePattern_gives (hg : g.Sound n) : (sequencePattern g).Gives n (On n .pattern) := by
  refine .firstOf (.or (.located ?_) (.or (.located ?_) .none_left))
  · exact .skip (.punct _) fun _ => (Gives.opt (hg.many .patternElements)).bind fun _ helements =>
      .skip (.punct _) fun _ => .ret ⟨rfl, rfl, elementsOr_on helements, trivial⟩
  · exact .skip (.punct _) fun _ =>
      (Gives.opt (hg.many .openPatternElements)).bind fun _ helements =>
        .skip (.punct _) fun _ => .ret ⟨rfl, rfl, elementsOr_on helements, trivial⟩

theorem patternEntry_gives (hg : g.Sound n) :
    (patternEntry g).Gives n fun pair => On n .expression pair.1 ∧ On n .pattern pair.2 := by
  refine Gives.bind (.firstOf (.or (literalKey_gives hg) (.or (dottedName_gives hg) .none_left)))
    fun key hkey => .skip (.punct _) fun _ => ?_
  exact (hg.one .pattern).bind fun p hp => .ret ⟨hkey, hp⟩

theorem remainingEntries_keeps : remainingEntries.Keeps n :=
  .skip (.punct _) fun _ => captureTarget_keeps

/-- Entries fit into a mapping pattern. -/
theorem entries_filled {entries : List (Tree × Tree)} (rest : Option String)
    (h : ∀ pair ∈ entries, On n .expression pair.1 ∧ On n .pattern pair.2) :
    Built n .pattern (.matchMapping rest, [entries.map Prod.fst, entries.map Prod.snd]) := by
  refine ⟨rfl, rfl, fun t ht => ?_, fun t ht => ?_, trivial⟩
  · obtain ⟨pair, hpair, rfl⟩ := List.mem_map.mp ht
    exact (h pair hpair).1
  · obtain ⟨pair, hpair, rfl⟩ := List.mem_map.mp ht
    exact (h pair hpair).2

theorem mappingPattern_gives (hg : g.Sound n) : (mappingPattern g).Gives n (On n .pattern) := by
  have hentries := Gives.sepBy1 (patternEntry_gives hg) (.punct ",")
  refine .firstOf (.or (.located ?_) (.or (.located ?_) (.or (.located ?_) (.or (.located ?_)
    .none_left))))
  · exact .skip (.punct _) fun _ => .skip (.punct _) fun _ => .ret ⟨rfl, rfl, .nil, .nil, trivial⟩
  · exact .skip (.punct _) fun _ => .skip remainingEntries_keeps fun _ =>
      .skip (.opt (.punct _)) fun _ => .skip (.punct _) fun _ =>
        .ret ⟨rfl, rfl, .nil, .nil, trivial⟩
  · exact .skip (.punct _) fun _ => hentries.bind fun entries h => .skip (.punct _) fun _ =>
      .skip remainingEntries_keeps fun _ => .skip (.opt (.punct _)) fun _ =>
        .skip (.punct _) fun _ => .ret (entries_filled _ h.2)
  · exact .skip (.punct _) fun _ => hentries.bind fun entries h =>
      .skip (.opt (.punct _)) fun _ => .skip (.punct _) fun _ => .ret (entries_filled _ h.2)

theorem positionalPatterns_gives (hg : g.Sound n) :
    (positionalPatterns g).Gives n (SomeOn n .pattern) := .sepBy1 (hg.one .pattern) (.punct _)

theorem keywordPatterns_gives (hg : g.Sound n) :
    (keywordPatterns g).Gives n fun named => AllOn n .pattern (named.map Prod.snd) := by
  refine (Gives.sepBy1 (P := fun pair => On n .pattern pair.2) ?_ (.punct _)).mono
    fun named h t ht => ?_
  · exact .skip .identifier fun _ => .skip (.punct _) fun _ =>
      (hg.one .pattern).bind fun _ hp => .ret hp
  · obtain ⟨pair, hpair, rfl⟩ := List.mem_map.mp ht
    exact h.2 pair hpair

theorem classPattern_gives (hg : g.Sound n) : (classPattern g).Gives n (On n .pattern) := by
  refine .firstOf (.or (.located ?_) (.or (.located ?_) (.or (.located ?_) (.or (.located ?_)
    (.or (.diagnose _) .none_left)))))
  · exact (hg.one .patternName).bind fun cls hcls => .skip (.punct _) fun _ =>
      .skip (.punct _) fun _ => .ret ⟨rfl, rfl, hcls, .nil, .nil, trivial⟩
  · exact (hg.one .patternName).bind fun cls hcls => .skip (.punct _) fun _ =>
      (positionalPatterns_gives hg).bind fun positional hpositional =>
        .skip (.opt (.punct _)) fun _ => .skip (.punct _) fun _ =>
          .ret ⟨rfl, rfl, hcls, hpositional.all, .nil, trivial⟩
  · exact (hg.one .patternName).bind fun cls hcls => .skip (.punct _) fun _ =>
      (keywordPatterns_gives hg).bind fun named hnamed =>
        .skip (.opt (.punct _)) fun _ => .skip (.punct _) fun _ =>
          .ret ⟨rfl, rfl, hcls, .nil, hnamed, trivial⟩
  · exact (hg.one .patternName).bind fun cls hcls => .skip (.punct _) fun _ =>
      (positionalPatterns_gives hg).bind fun positional hpositional => .skip (.punct _) fun _ =>
        (keywordPatterns_gives hg).bind fun named hnamed =>
          .skip (.opt (.punct _)) fun _ => .skip (.punct _) fun _ =>
            .ret ⟨rfl, rfl, hcls, hpositional.all, hnamed, trivial⟩

theorem closedPattern_gives (hg : g.Sound n) : (closedPattern g).Gives n (On n .pattern) := by
  refine .firstOf (.or (literalPattern_gives hg) (.or (.located ?_) (.or (.located ?_)
    (.or (.located ?_) (.or ?_ (.or (sequencePattern_gives hg) (.or (mappingPattern_gives hg)
      (.or (classPattern_gives hg) .none_left))))))))
  · exact .skip captureTarget_keeps fun _ => .ret ⟨rfl, rfl, trivial, trivial⟩
  · exact .skip (.softKeyword _) fun _ => .ret ⟨rfl, rfl, trivial, trivial⟩
  · exact (dottedName_gives hg).bind fun value hvalue => .skip (.notLook
      (Gives.firstOf (.or (Keeps.punct _) (.or (Keeps.punct _) (.or (Keeps.punct _) .none_left)))))
        fun _ => .ret ⟨rfl, rfl, hvalue, trivial⟩
  · exact inParentheses_gives id (hg.one .pattern)

/-! ## Patterns -/

theorem orPattern_gives (hg : g.Sound n) : (orPattern g).Gives n (On n .pattern) := by
  refine .bind .peek fun start hstart => Gives.bind (.sepBy1 (hg.one .closedPattern) (.punct _))
    fun alternatives halternatives => ?_
  split
  · exact .ret (halternatives.2 _ List.mem_cons_self)
  · exact .nodeFrom hstart ⟨rfl, rfl, halternatives, trivial⟩

theorem pattern_gives (hg : g.Sound n) : (pattern g).Gives n (On n .pattern) := by
  refine .firstOf (.or (.located ?_) (.or (.diagnose _) (.or (orPattern_gives hg) .none_left)))
  exact (orPattern_gives hg).bind fun p hp => .skip (.keyword _) fun _ =>
    .skip captureTarget_keeps fun _ => .ret ⟨rfl, rfl, hp, trivial⟩

theorem patterns_gives (hg : g.Sound n) : (patterns g).Gives n (On n .pattern) := by
  refine .firstOf (.or (.located ?_) (.or (hg.one .pattern) .none_left))
  exact (hg.many .openPatternElements).bind fun _ helements =>
    .ret ⟨rfl, rfl, helements.all, trivial⟩

end SourceLoader.Grammar
