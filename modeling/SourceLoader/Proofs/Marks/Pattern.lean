import SourceLoader.Proofs.Marks.Atom
import SourceLoader.Syntax.Grammar.Pattern

/-!
# Patterns declare nothing

The names, members and literals of a pattern are no calls, so that a pattern declares nothing
wherever it stands, unless an f-string in it does.
-/

namespace SourceLoader.Grammar

open Parser Dependencies

variable {g : Rules} {v : Survey} {i j : ℕ}

/-- What is read declares nothing. -/
abbrev ReadsStill (p : Parser Tree) (v : Survey) (i : ℕ) : Prop :=
  p.Reads v i fun _ => Still v.imports

/-- All of what is read declares nothing. -/
abbrev ReadsAllStill (p : Parser (List Tree)) (v : Survey) (i : ℕ) : Prop :=
  p.Reads v i fun _ ts => ∀ t ∈ ts, Still v.imports t

theorem nodeFrom_still {start : Token} {k : Kind} {fs : List (List Tree)} (hk : k.declares = false)
    (h : ∀ f ∈ fs, ∀ t ∈ f, Still v.imports t) : ReadsStill (nodeFrom start k fs) v i :=
  (Reads.spanFrom start).bind fun _ span _ _ => .ret (.node hk h (some span))

/-- A row of values that have a property whatever marks they lie between. -/
theorem all_of_row {α : Type} {P : α → Prop} {as : List α} (h : Row (fun _ _ => P) i j as) :
    ∀ a ∈ as, P a := by
  intro a ha
  obtain ⟨-, -, -, -, -, hp⟩ := h.mem ha
  exact hp

theorem getD_still {b : Bool} {o : Option (List Tree)} (h : ∀ ts ∈ o, ∀ t ∈ ts, Still b t) :
    ∀ t ∈ o.getD [], Still b t := by
  cases o with
  | none => simp
  | some ts => exact h ts rfl

/-! ## Values -/

theorem patternNumber_still : ReadsStill patternNumber v i := number_reads.mono fun _ _ _ h => h.1

/-- A number with a minus sign. -/
theorem negated_still {p : Parser Tree} (h : ∀ i, ReadsStill p v i) :
    ReadsStill (located do
      let _ ← punct "-"
      let n ← p
      return (.unaryOp .uSub, [[n]])) v i :=
  .still (.skip (.punct _) fun j _ _ => (h j).bind fun _ n _ hn => .ret ⟨rfl, by simpa using hn⟩)

theorem signedNumber_still : ReadsStill signedNumber v i :=
  .firstOf (.or patternNumber_still (.or (negated_still fun _ => patternNumber_still) .none_left))

theorem realNumber_still : ReadsStill realNumber v i :=
  patternNumber_still.bind fun _ _ _ hn => .ite (fun _ => .faultAtTree _ _) fun _ => .ret hn

theorem imaginaryNumber_still : ReadsStill imaginaryNumber v i :=
  patternNumber_still.bind fun _ _ _ hn => .ite (fun _ => .ret hn) fun _ => .faultAtTree _ _

theorem complexNumber_still : ReadsStill complexNumber v i := by
  refine .peek fun start _ => Reads.seen (.firstOf (.or ?_ (.or ?_ .none_left)))
  all_goals
    refine Reads.bind (.firstOf (.or realNumber_still (.or (negated_still fun _ => realNumber_still)
      .none_left))) fun _ a _ ha => .skip (.punct _) fun _ _ _ => ?_
    exact imaginaryNumber_still.bind fun _ b _ hb => nodeFrom_still rfl (by simpa using ⟨ha, hb⟩)

theorem literalValue_still (hg : g.Lays) : ReadsStill (literalValue g) v i := by
  refine .firstOf (.or ?_ (.or complexNumber_still (.or ?_ .none_left)))
  · exact signedNumber_still.bind fun _ _ _ hn => .skip (.notLook
      (Reads.firstOf (.or (Passes.punct _) (.or (Passes.punct _) .none_left)))) fun _ _ _ => .ret hn
  · exact (hg.one .strings).mono fun _ _ _ h => h.1

theorem wordConstant_passes : wordConstant.Passes v i := by
  refine Reads.peek fun t _ => ?_
  split
  case h_4 => exact Reads.fail.seen
  all_goals exact Reads.advance (.ret trivial)

theorem literalKey_still (hg : g.Lays) : ReadsStill (literalKey g) v i := by
  refine .firstOf (.or (literalValue_still hg) (.or ?_ .none_left))
  exact .skip wordConstant_passes fun _ _ _ => .ret (leaf_still rfl _ _)

theorem patternName_still : ReadsStill patternName v i := by
  refine .peek fun start _ => Reads.seen (.chain (Reads.nameTree.mono fun _ _ _ h => h.2.1)
    fun j t _ ht => ?_)
  exact .skip (.punct _) fun _ _ _ => .skip .identifier fun _ _ _ =>
    nodeFrom_still rfl (by simpa using ht)

theorem dottedName_still (hg : g.Lays) : ReadsStill (dottedName g) v i := by
  refine (hg.one .patternName).bind fun j t _ ht => ?_
  split
  · exact .ret ht
  · exact .fail

/-! ## Closed patterns -/

/-- What may not follow a name, so that it is the whole of a pattern. -/
theorem nameGoesOn_passes : Passes (firstOf [punct ".", punct "(", punct "="]) v i :=
  Reads.firstOf (.or (Passes.punct _) (.or (Passes.punct _) (.or (Passes.punct _) .none_left)))

theorem captureTarget_passes : captureTarget.Passes v i :=
  Reads.skip (.notLook (.softKeyword _)) fun _ _ _ => Reads.skip .identifier fun _ _ _ =>
    Reads.skip (.notLook nameGoesOn_passes) fun _ _ _ => .ret trivial

theorem literalPattern_still (hg : g.Lays) : ReadsStill (literalPattern g) v i := by
  refine .firstOf (.or (.still ?_) (.or (.still ?_) .none_left))
  · exact (literalValue_still hg).bind fun _ _ _ hvalue => .ret ⟨rfl, by simpa using hvalue⟩
  · exact .skip wordConstant_passes fun _ _ _ => .ret ⟨rfl, by simp⟩

theorem starPattern_still : ReadsStill starPattern v i := by
  refine .firstOf (.or (.still ?_) (.or (.still ?_) .none_left))
  · exact .skip (.punct _) fun _ _ _ => .skip captureTarget_passes fun _ _ _ =>
      .ret ⟨rfl, by simp⟩
  · exact .skip (.punct _) fun _ _ _ => .skip (.softKeyword _) fun _ _ _ => .ret ⟨rfl, by simp⟩

theorem maybeStarPattern_still (hg : g.Lays) (i : ℕ) : ReadsStill (maybeStarPattern g) v i :=
  .firstOf (.or (hg.one .starPattern) (.or (hg.one .pattern) .none_left))

theorem patternElements_still (hg : g.Lays) : ReadsAllStill (patternElements g) v i :=
  (Reads.sepBy1 (maybeStarPattern_still hg) fun _ => .punct _).bind fun _ _ _ helements =>
    .skip (.opt (.punct _)) fun _ _ _ => .ret (all_of_row helements)

theorem openPatternElements_still (hg : g.Lays) : ReadsAllStill (openPatternElements g) v i := by
  refine (maybeStarPattern_still hg i).bind fun j first _ hfirst => .skip (.punct _) fun _ _ _ => ?_
  exact (Reads.opt (hg.many .patternElements)).bind fun _ others _ hothers =>
    .ret (List.forall_mem_cons.mpr ⟨hfirst, getD_still hothers⟩)

theorem sequencePattern_still (hg : g.Lays) : ReadsStill (sequencePattern g) v i := by
  have hfields {elements : Option (List Tree)}
      (h : ∀ ts ∈ elements, ∀ t ∈ ts, Still v.imports t) :
      Kind.matchSequence.declares = false ∧ ∀ f ∈ [elements.getD []], ∀ t ∈ f, Still v.imports t :=
    ⟨rfl, List.forall_mem_singleton.mpr (getD_still h)⟩
  refine .firstOf (.or (.still ?_) (.or (.still ?_) .none_left))
  · exact .skip (.punct _) fun _ _ _ => (Reads.opt (hg.many .patternElements)).bind
      fun _ _ _ h => .skip (.punct _) fun _ _ _ => .ret (hfields h)
  · exact .skip (.punct _) fun _ _ _ => (Reads.opt (hg.many .openPatternElements)).bind
      fun _ _ _ h => .skip (.punct _) fun _ _ _ => .ret (hfields h)

theorem patternEntry_still (hg : g.Lays) (i : ℕ) : (patternEntry g).Reads v i fun _ pair =>
    Still v.imports pair.1 ∧ Still v.imports pair.2 := by
  refine Reads.bind (.firstOf (.or (literalKey_still hg) (.or (dottedName_still hg) .none_left)))
    fun _ key _ hkey => .skip (.punct _) fun _ _ _ => ?_
  exact (hg.one .pattern).bind fun _ p _ hp => .ret ⟨hkey, hp⟩

theorem remainingEntries_passes : remainingEntries.Passes v i :=
  Reads.skip (.punct _) fun _ _ _ => captureTarget_passes

theorem mappingPattern_still (hg : g.Lays) : ReadsStill (mappingPattern g) v i := by
  have hentries (i : ℕ) := Reads.sepBy1 (v := v) (i := i) (patternEntry_still hg) fun _ => .punct ","
  -- Keys and patterns both declare nothing, in whatever order they are listed.
  have hfields {i j : ℕ} (rest : Option String) {entries : List (Tree × Tree)}
      (h : Row (fun _ _ pair => Still v.imports pair.1 ∧ Still v.imports pair.2) i j entries) :
      (Kind.matchMapping rest).declares = false ∧
        ∀ f ∈ [entries.map Prod.fst, entries.map Prod.snd], ∀ t ∈ f, Still v.imports t := by
    have hall := all_of_row h
    exact ⟨rfl, List.forall_mem_cons.mpr
      ⟨List.forall_mem_map.mpr fun pair hpair => (hall pair hpair).1,
        List.forall_mem_singleton.mpr
          (List.forall_mem_map.mpr fun pair hpair => (hall pair hpair).2)⟩⟩
  refine .firstOf (.or (.still ?_) (.or (.still ?_) (.or (.still ?_) (.or (.still ?_) .none_left))))
  · exact .skip (.punct _) fun _ _ _ => .skip (.punct _) fun _ _ _ => .ret ⟨rfl, by simp⟩
  · exact .skip (.punct _) fun _ _ _ => .skip remainingEntries_passes fun _ _ _ =>
      .skip (.opt (.punct _)) fun _ _ _ => .skip (.punct _) fun _ _ _ => .ret ⟨rfl, by simp⟩
  · exact .skip (.punct _) fun _ _ _ => (hentries _).bind fun _ entries _ h =>
      .skip (.punct _) fun _ _ _ => .skip remainingEntries_passes fun _ _ _ =>
        .skip (.opt (.punct _)) fun _ _ _ => .skip (.punct _) fun _ _ _ => .ret (hfields _ h)
  · exact .skip (.punct _) fun _ _ _ => (hentries _).bind fun _ entries _ h =>
      .skip (.opt (.punct _)) fun _ _ _ => .skip (.punct _) fun _ _ _ => .ret (hfields _ h)

theorem positionalPatterns_still (hg : g.Lays) : ReadsAllStill (positionalPatterns g) v i :=
  (Reads.sepBy1 (fun _ => hg.one .pattern) fun _ => .punct _).mono fun _ _ _ h => all_of_row h

theorem keywordPatterns_still (hg : g.Lays) : (keywordPatterns g).Reads v i fun _ named =>
    ∀ t ∈ named.map Prod.snd, Still v.imports t := by
  refine (Reads.sepBy1 (L := fun _ _ pair => Still v.imports pair.2) (fun i => ?_)
    fun _ => .punct _).mono fun _ named _ h => List.forall_mem_map.mpr (all_of_row h)
  exact .skip .identifier fun _ _ _ => .skip (.punct _) fun _ _ _ =>
    (hg.one .pattern).bind fun _ _ _ hp => .ret hp

theorem classPattern_still (hg : g.Lays) : ReadsStill (classPattern g) v i := by
  have hfields {cls : Tree} {positional : List Tree} {named : List (String × Tree)}
      (hcls : Still v.imports cls) (hpositional : ∀ t ∈ positional, Still v.imports t)
      (hnamed : ∀ t ∈ named.map Prod.snd, Still v.imports t) :
      (Kind.matchClass (named.map Prod.fst)).declares = false ∧
        ∀ f ∈ [[cls], positional, named.map Prod.snd], ∀ t ∈ f, Still v.imports t :=
    ⟨rfl, List.forall_mem_cons.mpr ⟨List.forall_mem_singleton.mpr hcls,
      List.forall_mem_cons.mpr ⟨hpositional, List.forall_mem_singleton.mpr hnamed⟩⟩⟩
  refine .firstOf (.or (.still ?_) (.or (.still ?_) (.or (.still ?_) (.or (.still ?_)
    (.or (.diagnose _) .none_left)))))
  · exact (hg.one .patternName).bind fun _ cls _ hcls => .skip (.punct _) fun _ _ _ =>
      .skip (.punct _) fun _ _ _ => .ret (hfields hcls (by simp) (by simp))
  · exact (hg.one .patternName).bind fun _ cls _ hcls => .skip (.punct _) fun _ _ _ =>
      (positionalPatterns_still hg).bind fun _ positional _ hpositional =>
        .skip (.opt (.punct _)) fun _ _ _ => .skip (.punct _) fun _ _ _ =>
          .ret (hfields hcls hpositional (by simp))
  · exact (hg.one .patternName).bind fun _ cls _ hcls => .skip (.punct _) fun _ _ _ =>
      (keywordPatterns_still hg).bind fun _ named _ hnamed =>
        .skip (.opt (.punct _)) fun _ _ _ => .skip (.punct _) fun _ _ _ =>
          .ret (hfields hcls (by simp) hnamed)
  · exact (hg.one .patternName).bind fun _ cls _ hcls => .skip (.punct _) fun _ _ _ =>
      (positionalPatterns_still hg).bind fun _ positional _ hpositional =>
        .skip (.punct _) fun _ _ _ => (keywordPatterns_still hg).bind fun _ named _ hnamed =>
          .skip (.opt (.punct _)) fun _ _ _ => .skip (.punct _) fun _ _ _ =>
            .ret (hfields hcls hpositional hnamed)

theorem closedPattern_still (hg : g.Lays) : ReadsStill (closedPattern g) v i := by
  refine .firstOf (.or (literalPattern_still hg) (.or (.still ?_) (.or (.still ?_)
    (.or (.still ?_) (.or ?_ (.or (sequencePattern_still hg) (.or (mappingPattern_still hg)
      (.or (classPattern_still hg) .none_left))))))))
  · exact .skip captureTarget_passes fun _ _ _ => .ret ⟨rfl, by simp⟩
  · exact .skip (.softKeyword _) fun _ _ _ => .ret ⟨rfl, by simp⟩
  · exact (dottedName_still hg).bind fun _ value _ hvalue =>
      .skip (.notLook nameGoesOn_passes) fun _ _ _ => .ret ⟨rfl, by simpa using hvalue⟩
  · exact .skip (.punct _) fun _ _ _ => (hg.one .pattern).bind fun _ _ _ hp =>
      .skip (.punct _) fun _ _ _ => .ret hp

/-! ## Patterns -/

theorem orPattern_still (hg : g.Lays) : ReadsStill (orPattern g) v i := by
  refine .peek fun start _ => Reads.seen (Reads.bind (.sepBy1 (fun _ => hg.one .closedPattern)
    fun _ => .punct _) fun _ alternatives _ halternatives => ?_)
  have hall := all_of_row halternatives
  split
  · exact .ret (hall _ List.mem_cons_self)
  · exact nodeFrom_still rfl (List.forall_mem_singleton.mpr hall)

theorem pattern_still (hg : g.Lays) : ReadsStill (pattern g) v i := by
  refine .firstOf (.or (.still ?_) (.or (.diagnose _) (.or (orPattern_still hg) .none_left)))
  exact (orPattern_still hg).bind fun _ p _ hp => .skip (.keyword _) fun _ _ _ =>
    .skip captureTarget_passes fun _ _ _ => .ret ⟨rfl, by simpa using hp⟩

theorem patterns_still (hg : g.Lays) : ReadsStill (patterns g) v i := by
  refine .firstOf (.or (.still ?_) (.or (hg.one .pattern) .none_left))
  exact (hg.many .openPatternElements).bind fun _ elements _ helements =>
    .ret ⟨rfl, List.forall_mem_singleton.mpr helements⟩

end SourceLoader.Grammar
