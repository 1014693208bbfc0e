import Mathlib.Data.Prod.Lex
import SourceLoader.Syntax.Lexer

/-!
# Tokens come in order

The lexer only moves on, so its tokens begin one after the other. Here the tokens of a source are
numbered, and for those that name something or are punctuation it is shown that a later one begins
no earlier (`Lexer.TokenAt.le`). Layout has no place of its own, and a string of several lines may
begin at a place that is not the lexer's: where such a text is shifted, the shift is that of the line
on which a token ends. Neither of them begins anything whose place matters here.
-/

namespace SourceLoader

/-- A place in a source: a line and a column. Places on an earlier line come first. -/
abbrev Place := ℕ ×ₗ ℕ

namespace Token

/-- A token that stands on one line, where the lexer meets it. -/
def isWord (t : Token) : Bool :=
  match t.kind with
  | .name | .keyword | .punct => true
  | _ => false

/-- Where a token begins. -/
def start (t : Token) : Place := toLex (t.line, t.column.getD 0)

end Token

namespace Lexer

/-! ## Moving on -/

/-- Where a word would begin that is read next. -/
def place (lx : Lexer) : Place :=
  toLex (lx.line, lx.column + if lx.line = lx.shiftedLine then lx.shift else 0)

/-- The lexer got from one state to another. -/
structure Reaches (lx lx' : Lexer) : Prop where
  ahead : lx.line < lx'.line ∨ lx.line = lx'.line ∧ lx.column ≤ lx'.column
  shiftedLine : lx'.shiftedLine = lx.shiftedLine
  shift : lx'.shift = lx.shift

namespace Reaches

variable {lx lx' lx'' : Lexer}

theorem refl (lx : Lexer) : lx.Reaches lx := ⟨.inr ⟨rfl, le_rfl⟩, rfl, rfl⟩

theorem trans (h : lx.Reaches lx') (h' : lx'.Reaches lx'') : lx.Reaches lx'' := by
  refine ⟨?_, h'.shiftedLine.trans h.shiftedLine, h'.shift.trans h.shift⟩
  have hfirst := h.ahead
  have hsecond := h'.ahead
  omega

/-- On the way the place goes up: the shift belongs to a line as a whole. -/
theorem place_le (h : lx.Reaches lx') : lx.place ≤ lx'.place := by
  rw [place, place, Prod.Lex.toLex_le_toLex]
  rcases h.ahead with hline | ⟨hline, hcolumn⟩
  · exact .inl hline
  · refine .inr ⟨hline, ?_⟩
    rw [h.shiftedLine, h.shift, hline]
    exact Nat.add_le_add_right hcolumn _

end Reaches

/-- The lexer stays on a line that is not read to its end. -/
structure Along (lx lx' : Lexer) : Prop where
  reaches : lx.Reaches lx'
  line : lx'.line = lx.line
  lineEnded : lx'.lineEnded = false

theorem Along.trans {lx lx' lx'' : Lexer} (h : lx.Along lx') (h' : lx'.Along lx'') :
    lx.Along lx'' :=
  ⟨h.reaches.trans h'.reaches, h'.line.trans h.line, h'.lineEnded⟩

theorem openLine_reaches (lx : Lexer) : lx.Reaches lx.openLine := by
  unfold openLine
  split
  · exact ⟨.inl (Nat.lt_succ_self _), rfl, rfl⟩
  · exact .refl lx

theorem openLine_of_within {lx : Lexer} (h : lx.lineEnded = false) : lx.openLine = lx := by
  simp [openLine, h]

theorem lineEnded_openLine {lx : Lexer} (h : lx.rest ≠ []) : lx.openLine.lineEnded = false := by
  unfold openLine
  split
  · rfl
  · next hopen => simpa [h] using hopen

theorem take_reaches (lx : Lexer) (c : Char) (rest : List Char) : lx.Reaches (lx.take c rest) := by
  refine (openLine_reaches lx).trans ⟨.inr ⟨rfl, ?_⟩, rfl, rfl⟩
  exact Nat.le_add_right _ _

theorem take_along {lx : Lexer} (h : lx.lineEnded = false) {c : Char} (hc : c ≠ '\n')
    (rest : List Char) : lx.Along (lx.take c rest) := by
  refine ⟨take_reaches lx c rest, ?_, ?_⟩
  · rw [take, openLine_of_within h]
  · simp [take, hc]

theorem skip_reaches (n : Nat) (lx : Lexer) : lx.Reaches (lx.skip n) := by
  induction n generalizing lx with
  | zero => exact .refl lx
  | succ n ih =>
      rw [skip]
      split
      · exact .refl lx
      · exact (take_reaches _ _ _).trans (ih _)

/-- Characters other than line ends are read without leaving the line. -/
theorem skip_along {n : Nat} {lx : Lexer} (h : lx.lineEnded = false)
    (hchars : ∀ c ∈ lx.rest.take n, c ≠ '\n') : lx.Along (lx.skip n) := by
  induction n generalizing lx with
  | zero => exact ⟨.refl lx, rfl, h⟩
  | succ n ih =>
      rw [skip]
      split
      · exact ⟨.refl lx, rfl, h⟩
      · next c rest hrest =>
        rw [hrest, List.take_succ_cons] at hchars
        have hfirst := take_along h (hchars c List.mem_cons_self) rest
        refine hfirst.trans (ih hfirst.lineEnded fun d hd => hchars d ?_)
        exact List.mem_cons_of_mem _ (by simpa [take] using hd)

theorem continueLine_reaches {lx lx' : Lexer} (h : lx.continueLine = .ok lx') :
    lx.Reaches lx' := by
  unfold continueLine at h
  split at h
  · cases h
  · dsimp only at h
    split at h
    · cases h
    · split at h
      · cases h
      · cases h
        exact (take_reaches _ _ _).trans (openLine_reaches _)

theorem measureIndent_reaches {ind ind' : Indentation} {cs : List Char} {lx lx' : Lexer}
    (h : measureIndent ind cs lx = .ok (ind', lx')) : lx.Reaches lx' := by
  fun_induction measureIndent ind cs lx with
  | case1 ind rest lx ih => exact (take_reaches _ _ _).trans (ih h)
  | case2 ind rest lx ih => exact (take_reaches _ _ _).trans (ih h)
  | case3 ind rest lx ih => exact (take_reaches _ _ _).trans (ih h)
  | case4 ind rest lx => cases h
  | case5 ind rest lx _ lx'' hline ih =>
      exact (take_reaches _ _ _).trans ((continueLine_reaches hline).trans (ih h))
  | case6 => cases h
  | case7 ind rest lx _ lx'' hline =>
      cases h
      exact (take_reaches _ _ _).trans (continueLine_reaches hline)
  | case8 =>
      cases h
      exact openLine_reaches _

theorem applyIndent_reaches {ind : Indentation} {lx lx' : Lexer}
    (h : applyIndent ind lx = .ok lx') : lx.Reaches lx' := by
  unfold applyIndent at h
  dsimp only at h
  repeat' split at h
  all_goals first
    | cases h; exact ⟨.inr ⟨rfl, le_rfl⟩, rfl, rfl⟩
    | cases h

theorem stringTail_reaches {quote : Char} {size seen : Nat} {cs : List Char} {lx lx' lx'' : Lexer}
    (h : stringTail quote size seen cs lx = (some lx', lx'')) : lx.Reaches lx' := by
  fun_induction stringTail quote size seen cs lx with
  | case1 => cases h
  | case2 => cases h
  | case3 =>
      rw [← Option.some.inj (congrArg Prod.fst h)]
      exact take_reaches _ _ _
  | case4 _ _ _ _ _ _ ih => exact (take_reaches _ _ _).trans (ih h)
  | case5 => cases h
  | case6 _ _ _ _ _ _ _ ih =>
      exact (take_reaches _ _ _).trans ((take_reaches _ _ _).trans (ih h))
  | case7 _ _ _ _ _ _ _ _ ih => exact (take_reaches _ _ _).trans (ih h)

/-! ## One token -/

/-- What a reading says about the tokens to come: the lexer moves on, and a word begins on its way. -/
def Hands (lx : Lexer) (read : Read) : Prop :=
  ∀ t, read.1 = .ok t → lx.Reaches read.2 ∧
    (t.isWord = true → lx.place ≤ t.start ∧ t.start ≤ read.2.place)

theorem hands_error (lx : Lexer) (stop : LexStop) (lx' : Lexer) :
    lx.Hands (.error stop, lx') := fun _ h => nomatch h

/-- Anything that is no word may begin where it likes. -/
theorem hands_other {lx lx' : Lexer} (h : lx.Reaches lx') {t : Token} (ht : t.isWord = false) :
    lx.Hands (.ok t, lx') := by
  intro u hu
  cases hu
  refine ⟨h, fun hword => ?_⟩
  rw [ht] at hword
  cases hword

theorem hands_word {start lx : Lexer} (h : start.Along lx) (k : TokenKind) (text : String) :
    start.Hands (.ok (lx.token start k text), lx) := by
  intro t ht
  cases ht
  have hplace : (lx.token start k text).start = start.place := by
    simp only [token, Token.start, place, Option.getD_some, h.line, h.reaches.shiftedLine,
      h.reaches.shift]
  rw [hplace]
  exact ⟨h.reaches, fun _ => ⟨le_rfl, h.reaches.place_le⟩⟩

theorem Hands.since {lx lx' : Lexer} {read : Read} (h : lx'.Hands read) (hto : lx.Reaches lx') :
    lx.Hands read := by
  intro t ht
  obtain ⟨hreaches, hword⟩ := h t ht
  exact ⟨hto.trans hreaches, fun hw => ⟨hto.place_le.trans (hword hw).1, (hword hw).2⟩⟩

theorem readString_hands {start lx : Lexer} (h : start.Reaches lx) :
    start.Hands (readString start lx) := by
  unfold readString
  split
  · split
    · exact hands_other (h.trans (skip_reaches _ _)) rfl
    · dsimp only
      split
      · next htail =>
        exact hands_other (h.trans ((skip_reaches _ _).trans (stringTail_reaches htail))) rfl
      · exact hands_error _ _ _
  · split
    · exact hands_other (h.trans (skip_reaches _ _)) rfl
    · exact hands_error _ _ _
  · exact hands_error _ _ _

theorem readName_hands {start : Lexer} (h : start.lineEnded = false) :
    start.Hands (readName start) := by
  unfold readName
  dsimp only
  split
  · exact hands_error _ _ _
  · refine hands_word (skip_along h fun c hc => ?_) _ _
    -- The characters of a name are none of layout.
    have hname : c ∈ start.rest.takeWhile continuesName := by
      rwa [← List.prefix_iff_eq_take.mp (List.takeWhile_prefix _)] at hc
    intro hline
    have hcontinues := List.all_eq_true.mp List.all_takeWhile c hname
    rw [hline] at hcontinues
    exact absurd hcontinues (by decide)

theorem readNumber_hands (start : Lexer) (measured : Except NumberFault Measured) :
    start.Hands (readNumber start measured) := by
  unfold readNumber
  split
  · split <;> exact hands_error _ _ _
  · next m =>
    dsimp only
    refine hands_other ?_ rfl
    split
    · exact ⟨(skip_reaches m.length start).ahead, (skip_reaches _ _).shiftedLine,
        (skip_reaches _ _).shift⟩
    · exact skip_reaches _ _

/-- Punctuation of several characters stands on one line. -/
theorem no_lineEnd_of_punct {text : String} {c : Char}
    (h : Token.twoChars.contains text ∨ Token.threeChars.contains text) (hc : c ∈ text.toList) :
    c ≠ '\n' := by
  have hall : ∀ text ∈ Token.twoChars ++ Token.threeChars, ∀ c ∈ text.toList, c ≠ '\n' := by
    simp [Token.twoChars, Token.threeChars]
  refine hall text (List.mem_append.mpr ?_) c hc
  simpa only [List.contains_iff_mem] using h

theorem readPunct_hands {start : Lexer} {c : Char} {rest : List Char}
    (hrest : start.rest = c :: rest) (h : start.lineEnded = false) (hc : c ≠ '\n') :
    start.Hands (readPunct start c rest) := by
  unfold readPunct
  dsimp only
  split
  · next htwo =>
    split
    · next hthree =>
      refine hands_word (skip_along h fun d hd => ?_) _ _
      refine no_lineEnd_of_punct (.inr hthree) ?_
      rw [hrest, List.take_succ_cons] at hd
      simpa using hd
    · refine hands_word (skip_along h fun d hd => ?_) _ _
      refine no_lineEnd_of_punct (.inl htwo) ?_
      rw [hrest, List.take_succ_cons] at hd
      simpa using hd
  · have halong := take_along h hc rest
    -- Opening and closing a parenthesis leaves the place as it is.
    have hdone (parens : List Paren) : start.Along { start.take c rest with parens } :=
      ⟨⟨halong.reaches.ahead, halong.reaches.shiftedLine, halong.reaches.shift⟩, halong.line,
        halong.lineEnded⟩
    split
    · split
      · exact hands_error _ _ _
      · exact hands_word (hdone _) _ _
    · split
      · split
        · exact hands_error _ _ _
        · split
          · exact hands_word (hdone _) _ _
          · exact hands_error _ _ _
      · split
        · exact hands_word halong _ _
        · exact hands_error _ _ _

/-! ## Looking for a token -/

theorem skipComment_reaches (cs : List Char) (lx : Lexer) : lx.Reaches (skipComment cs lx) := by
  induction cs generalizing lx with
  | nil => exact .refl lx
  | cons c rest ih =>
      rw [skipComment]
      split
      · exact .refl lx
      · exact (take_reaches _ _ _).trans (ih _)

/-- Behind a comment there is nothing but the end of its line. -/
theorem rest_skipComment {cs : List Char} (lx : Lexer) (hrest : lx.rest = cs) {c : Char}
    {rest : List Char} (hbehind : (skipComment cs lx).rest = c :: rest) : c = '\n' := by
  induction cs generalizing lx with
  | nil =>
      rw [skipComment, hrest] at hbehind
      cases hbehind
  | cons d ds ih =>
      rw [skipComment] at hbehind
      split at hbehind
      · next hd =>
        rw [hrest] at hbehind
        cases hbehind
        exact hd
      · exact ih (lx.take d ds) rfl hbehind

/-- Behind the blanks the lexer stands on the line of the next character. -/
theorem skipBlanks_spec {cs : List Char} (lx : Lexer) (hrest : lx.rest = cs) :
    lx.Reaches (skipBlanks cs lx)
    ∧ ((skipBlanks cs lx).rest ≠ [] → (skipBlanks cs lx).lineEnded = false) := by
  induction cs generalizing lx with
  | nil => exact ⟨.refl lx, fun h => absurd hrest h⟩
  | cons c rest ih =>
      rw [skipBlanks]
      split
      · obtain ⟨hreaches, hline⟩ := ih (lx.take c rest) rfl
        exact ⟨(take_reaches _ _ _).trans hreaches, hline⟩
      · exact ⟨openLine_reaches lx, fun _ => lineEnded_openLine (by simp [hrest])⟩

/-- What a look at the current line yields. -/
def Yields (lx : Lexer) : Scan → Prop
  | .done read => lx.Hands read
  | .continued lx' | .newLine lx' => lx.Reaches lx'

theorem Yields.since {lx lx' : Lexer} {scan : Scan} (h : lx'.Yields scan) (hto : lx.Reaches lx') :
    lx.Yields scan := by
  cases scan with
  | done read => exact Hands.since h hto
  | continued _ => exact hto.trans h
  | newLine _ => exact hto.trans h

theorem scanToken_yields (blank : Bool) (lx : Lexer) : lx.Yields (scanToken blank lx) := by
  unfold scanToken
  extract_lets first start behind
  obtain ⟨hblanks, hline⟩ := skipBlanks_spec { lx with inToken := false } rfl
  have hstart : lx.Reaches start := ⟨hblanks.ahead, hblanks.shiftedLine, hblanks.shift⟩
  -- What stands behind a comment can only be the end of its line.
  have hbehind : start.Reaches behind
      ∧ ∀ c rest, behind.rest = c :: rest → c ≠ '\n' → behind = start := by
    simp only [behind]
    split
    · exact ⟨skipComment_reaches _ _,
        fun c rest hrest hc => absurd (rest_skipComment _ rfl hrest) hc⟩
    · exact ⟨.refl _, fun _ _ _ _ => rfl⟩
  obtain ⟨hto, hcode⟩ := hbehind
  refine Yields.since ?_ hstart
  clear_value behind
  split
  · split
    · exact hands_other hto rfl
    · exact hands_error _ _ _
  · next rest hrest =>
    have htake := take_reaches behind '\n' rest
    have hended : start.Reaches
        { behind.take '\n' rest with atLineStart := true, inToken := false } :=
      hto.trans ⟨htake.ahead, htake.shiftedLine, htake.shift⟩
    split
    · exact hended
    · exact hands_other hended rfl
  · next c rest hc hrest =>
    -- This is no comment, so the token begins with `c`.
    have hsame := hcode c rest hrest hc
    rw [hsame] at hrest ⊢
    have hwithin : start.lineEnded = false := by
      refine hline fun hnone => ?_
      have hstop : start.rest = [] := hnone
      rw [hstop] at hrest
      cases hrest
    split
    · split
      · exact readString_hands (skip_reaches _ _)
      · exact readName_hands hwithin
    · split
      · split
        · split
          · exact readNumber_hands _ _
          · split
            · next more _ hdots =>
              refine hands_word (skip_along hwithin fun e he => ?_) _ _
              simp only [Bool.and_eq_true, decide_eq_true_eq] at hdots
              obtain ⟨more, rfl⟩ := List.head?_eq_some_iff.mp hdots.2
              have hpoints : e = c ∨ e = '.' := by
                rw [hrest, hdots.1] at he
                simpa using he
              rcases hpoints with rfl | rfl
              · exact hc
              · decide
            · exact readPunct_hands hrest hwithin hc
        · exact readPunct_hands hrest hwithin hc
      · split
        · exact readNumber_hands _ _
        · split
          · split
            · exact hands_error _ _ _
            · next hline =>
              exact (take_reaches _ _ _).trans (continueLine_reaches hline)
          · exact readPunct_hands hrest hwithin hc

theorem scan_hands (fuel : Nat) (blank : Bool) (lx : Lexer) : lx.Hands (scan fuel blank lx) := by
  induction fuel generalizing blank lx with
  | zero => exact hands_other (.refl lx) rfl
  | succ fuel ih =>
      unfold scan
      extract_lets begun
      -- Measuring the indentation only moves on.
      have hbegun : ∀ r, begun = .ok r → lx.Reaches r.2 := by
        intro r hr
        simp -zeta only [begun] at hr
        split at hr
        · split at hr
          · cases hr
          · next ind lx' hmeasure =>
            have hindent := measureIndent_reaches hmeasure
            have hto : lx.Reaches _ := ⟨hindent.ahead, hindent.shiftedLine, hindent.shift⟩
            extract_lets empty at hr
            split at hr
            · cases hr
              exact hto
            · cases happly : applyIndent ind lx' with
              | error stop => rw [happly] at hr; cases hr
              | ok lx'' =>
                  rw [happly] at hr
                  cases hr
                  exact hto.trans (applyIndent_reaches happly)
        · cases hr
          exact .refl lx
      clear_value begun
      split
      · exact hands_error _ _ _
      · next blank lx' =>
        have hto : lx.Reaches lx' := hbegun _ rfl
        have hstay (n m : Nat) :
            lx.Reaches { lx' with dedentsDue := n, indentsDue := m } :=
          ⟨hto.ahead, hto.shiftedLine, hto.shift⟩
        split
        · exact hands_other (hstay _ _) rfl
        · split
          · exact hands_other (hstay _ _) rfl
          · have hscan := scanToken_yields blank lx'
            split
            · next heq =>
              rw [heq] at hscan
              exact Hands.since hscan hto
            · next heq =>
              rw [heq] at hscan
              exact (ih _ _).since (hto.trans hscan)
            · next heq =>
              rw [heq] at hscan
              exact (ih _ _).since (hto.trans hscan)

theorem next_hands (lx : Lexer) : lx.Hands lx.next := scan_hands _ _ _

/-! ## The tokens of a source -/

/-- The lexer behind the first `n` tokens, if there are so many. -/
def after? (lx : Lexer) : Nat → Option Lexer
  | 0 => some lx
  | n + 1 =>
    match lx.after? n with
    | none => none
    | some lx' =>
      match lx'.next with
      | (.ok _, lx'') => some { lx'' with warnings := [] }
      | (.error _, _) => none

/-- The token with number `k`. -/
def TokenAt (lx : Lexer) (k : Nat) (t : Token) : Prop :=
  ∃ lx', lx.after? k = some lx' ∧ lx'.next.1 = .ok t

theorem after?_succ {lx lx' lx'' : Lexer} {n : Nat} {t : Token} (h : lx.after? n = some lx')
    (hnext : lx'.next = (.ok t, lx'')) :
    lx.after? (n + 1) = some { lx'' with warnings := [] } := by
  rw [after?, h]
  simp only [hnext]

theorem after?_reaches {lx lx' lx'' : Lexer} {m n : Nat} (hmn : m ≤ n)
    (hm : lx.after? m = some lx') (hn : lx.after? n = some lx'') : lx'.Reaches lx'' := by
  induction n, hmn using Nat.le_induction generalizing lx'' with
  | base =>
      obtain rfl : lx' = lx'' := Option.some.inj (hm.symm.trans hn)
      exact .refl _
  | succ n hmn ih =>
      rw [after?] at hn
      split at hn
      · cases hn
      · next hbefore =>
        split at hn
        · next hnext =>
          cases hn
          have hstep := ((next_hands _) _ (congrArg Prod.fst hnext)).1
          rw [hnext] at hstep
          exact (ih hbefore).trans ⟨hstep.ahead, hstep.shiftedLine, hstep.shift⟩
        · cases hn

theorem TokenAt.eq {lx : Lexer} {k : Nat} {t u : Token} (ht : lx.TokenAt k t)
    (hu : lx.TokenAt k u) : t = u := by
  obtain ⟨lx', hlx', ht⟩ := ht
  obtain ⟨lx'', hlx'', hu⟩ := hu
  obtain rfl := Option.some.inj (hlx'.symm.trans hlx'')
  exact Except.ok.inj (ht.symm.trans hu)

/-- **Of two words the later one begins no earlier.** -/
theorem TokenAt.le {lx : Lexer} {k l : Nat} {t u : Token} (hkl : k ≤ l) (ht : lx.TokenAt k t)
    (hu : lx.TokenAt l u) (htword : t.isWord = true) (huword : u.isWord = true) :
    t.start ≤ u.start := by
  rcases Nat.eq_or_lt_of_le hkl with rfl | hkl
  · rw [ht.eq hu]
  · obtain ⟨lx', hlx', ht⟩ := ht
    obtain ⟨lx'', hlx'', hu⟩ := hu
    have hend := (next_hands lx' t ht).2 htword
    have hstart := (next_hands lx'' u hu).2 huword
    have hnext := after?_succ hlx' (Prod.ext ht rfl)
    have hto := after?_reaches hkl hnext hlx''
    calc t.start ≤ lx'.next.2.place := hend.2
      _ ≤ lx''.place := hto.place_le
      _ ≤ u.start := hstart.1

end Lexer

end SourceLoader
