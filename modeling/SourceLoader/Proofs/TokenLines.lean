import SourceLoader.Proofs.Marks.Tokens

/-!
# Tokens stand on the lines of their source

The lexer opens a line when it looks at the first character of it. So the number of its line and the
line ends still to be read stay below the number of lines of the source (`Lexer.Inside`), and no
token begins behind the last line (`Lexer.next_inside`). Of a string the same holds of the line on
which it ends, since what is read of it later, the fields in it, stands on the lines between. And the
text of a name is made of characters that the lexer takes for those of names.
-/

namespace SourceLoader

/-- A token stands on one of the first `n` lines. If it is a string, it ends there, and if it is a
name, it consists of characters of names. -/
structure Token.Within (n : Nat) (t : Token) : Prop where
  pos : 1 ≤ t.line
  le : t.line ≤ n
  text : t.kind = .string → t.line + t.text.toList.count '\n' ≤ n
  name : t.kind = .name → ∀ c ∈ t.text.toList, Lexer.continuesName c = true

namespace Lexer

/-! ## Lines to come -/

/-- What is left of a source of `n` lines, each with its end. -/
structure Lines (n : Nat) (lx : Lexer) : Prop where
  count : lx.line + lx.rest.count '\n' ≤ n + if lx.lineEnded then 0 else 1
  ends : lx.rest.getLast? = some '\n' ∨ lx.rest = [] ∧ lx.lineEnded = true

/-- The lexer stands on one of the lines. -/
structure Inside (n : Nat) (lx : Lexer) : Prop extends lx.Lines n where
  pos : 1 ≤ lx.line

/-- The lexer stands on a line or at the start of the first one. -/
structure Begun (n : Nat) (lx : Lexer) : Prop extends lx.Lines n where
  start : 1 ≤ lx.line ∨ lx.atLineStart = true ∧ lx.lineEnded = true ∧ lx.rest ≠ []

variable {n : Nat} {lx lx' : Lexer}

theorem Lines.congr (h : lx.Lines n) (hline : lx'.line = lx.line) (hrest : lx'.rest = lx.rest)
    (hended : lx'.lineEnded = lx.lineEnded) : lx'.Lines n :=
  ⟨by rw [hline, hrest, hended]; exact h.count, by rw [hrest, hended]; exact h.ends⟩

theorem Inside.congr (h : lx.Inside n) (hline : lx'.line = lx.line) (hrest : lx'.rest = lx.rest)
    (hended : lx'.lineEnded = lx.lineEnded) : lx'.Inside n :=
  ⟨h.toLines.congr hline hrest hended, by rw [hline]; exact h.pos⟩

theorem Inside.begun (h : lx.Inside n) : lx.Begun n := ⟨h.toLines, .inl h.pos⟩

theorem count_pos_of_getLast? {cs : List Char} (h : cs.getLast? = some '\n') :
    0 < cs.count '\n' := List.count_pos_iff.mpr (List.mem_of_getLast? h)

/-- A line that is not read to its end has its end still to come. -/
theorem Lines.count_pos (h : lx.Lines n) (hrest : lx.rest ≠ []) : 0 < lx.rest.count '\n' :=
  count_pos_of_getLast? (h.ends.resolve_right fun hnone => hrest hnone.1)

theorem Lines.line_le (h : lx.Lines n) : lx.line ≤ n := by
  have hcount := h.count
  rcases h.ends with hlast | ⟨-, hended⟩
  · have hpos := count_pos_of_getLast? hlast
    split at hcount <;> omega
  · rw [if_pos hended] at hcount
    omega

/-! ## Moving on -/

theorem openLine_inside (h : lx.Lines n)
    (hstart : 1 ≤ lx.line ∨ lx.lineEnded = true ∧ lx.rest ≠ []) : lx.openLine.Inside n := by
  unfold openLine
  split
  · next hopen =>
    simp only [Bool.and_eq_true, Bool.not_eq_true', List.isEmpty_eq_false_iff] at hopen
    have hcount := h.count
    rw [if_pos hopen.1] at hcount
    refine ⟨⟨?_, .inl (h.ends.resolve_right fun hnone => hopen.2 hnone.1)⟩, Nat.succ_pos _⟩
    simp only [Bool.false_eq_true, if_false]
    omega
  · next hstay =>
    refine ⟨h, hstart.resolve_right fun ⟨hended, hrest⟩ => hstay ?_⟩
    simp [hended, hrest]

@[simp] theorem rest_openLine (lx : Lexer) : lx.openLine.rest = lx.rest := by
  unfold openLine
  split <;> rfl

theorem take_inside (h : lx.Lines n) (hpos : 1 ≤ lx.line ∨ lx.lineEnded = true) {c : Char}
    {rest : List Char} (hrest : lx.rest = c :: rest) : (lx.take c rest).Inside n := by
  have hsome : lx.rest ≠ [] := by simp [hrest]
  have hopen := openLine_inside h (hpos.imp id fun hended => ⟨hended, hsome⟩)
  have hcount := hopen.count
  have hends := hopen.ends
  rw [lineEnded_openLine hsome, rest_openLine, hrest] at hcount hends
  simp only [Bool.false_eq_true, if_false, and_false, or_false, List.count_cons] at hcount hends
  refine ⟨⟨?_, ?_⟩, hopen.pos⟩
  · by_cases hc : c = '\n'
    · simp only [take, hc, decide_true, if_true, beq_self_eq_true] at hcount ⊢
      omega
    · simp only [take, hc, decide_false, Bool.false_eq_true, if_false, beq_iff_eq] at hcount ⊢
      omega
  · simp only [take]
    cases rest with
    | nil => simpa using hends
    | cons d rest => exact .inl (by simpa using hends)

theorem Inside.take (h : lx.Inside n) {c : Char} {rest : List Char} (hrest : lx.rest = c :: rest) :
    (lx.take c rest).Inside n := take_inside h.toLines (.inl h.pos) hrest

theorem Inside.openLine (h : lx.Inside n) : lx.openLine.Inside n :=
  openLine_inside h.toLines (.inl h.pos)

theorem Inside.skip (h : lx.Inside n) (k : Nat) : (lx.skip k).Inside n := by
  induction k generalizing lx with
  | zero => exact h
  | succ k ih =>
      rw [Lexer.skip]
      split
      · exact h
      · next hrest => exact ih (h.take hrest)

theorem rest_skip (k : Nat) (lx : Lexer) : (lx.skip k).rest = lx.rest.drop k := by
  induction k generalizing lx with
  | zero => rfl
  | succ k ih =>
      rw [skip]
      split
      · next hrest => rw [hrest, List.drop_nil]
      · next hrest => rw [ih, hrest]; rfl

theorem rest_continueLine (hcontinue : lx.continueLine = .ok lx') :
    ∃ c, lx.rest = c :: lx'.rest := by
  unfold continueLine at hcontinue
  split at hcontinue
  · cases hcontinue
  · next c rest hrest =>
    dsimp only at hcontinue
    split at hcontinue
    · cases hcontinue
    · split at hcontinue
      · cases hcontinue
      · cases hcontinue
        exact ⟨c, by rw [rest_openLine, hrest]; rfl⟩

theorem Inside.continueLine (h : lx.Inside n) (hcontinue : lx.continueLine = .ok lx') :
    lx'.Inside n := by
  unfold Lexer.continueLine at hcontinue
  split at hcontinue
  · cases hcontinue
  · next hrest =>
    dsimp only at hcontinue
    split at hcontinue
    · cases hcontinue
    · split at hcontinue
      · cases hcontinue
      · cases hcontinue
        exact (h.take hrest).openLine

/-- Measuring the indentation of a line gets the lexer on that line. -/
theorem measureIndent_inside {ind ind' : Indentation} {cs : List Char} (h : lx.Lines n)
    (hstart : 1 ≤ lx.line ∨ lx.lineEnded = true ∧ lx.rest ≠ []) (hrest : lx.rest = cs)
    (hmeasure : measureIndent ind cs lx = .ok (ind', lx')) : lx'.Inside n := by
  have htake (c : Char) (rest : List Char) (hrest : lx.rest = c :: rest) :
      (lx.take c rest).Inside n := take_inside h (hstart.imp id And.left) hrest
  fun_induction measureIndent ind cs lx with
  | case1 ind rest lx ih =>
      have hnext := htake _ _ hrest
      exact ih hnext.toLines (.inl hnext.pos) rfl hmeasure (fun _ _ => hnext.take)
  | case2 ind rest lx ih =>
      have hnext := htake _ _ hrest
      exact ih hnext.toLines (.inl hnext.pos) rfl hmeasure (fun _ _ => hnext.take)
  | case3 ind rest lx ih =>
      have hnext := htake _ _ hrest
      exact ih hnext.toLines (.inl hnext.pos) rfl hmeasure (fun _ _ => hnext.take)
  | case4 ind rest lx => cases hmeasure
  | case5 ind rest lx _ lx'' hline ih =>
      have hnext := (htake _ _ hrest).continueLine hline
      obtain ⟨c, hbehind⟩ := rest_continueLine hline
      have hsame : lx''.rest = rest := (List.cons.inj hbehind).2.symm
      exact ih hnext.toLines (.inl hnext.pos) hsame hmeasure (fun _ _ => hnext.take)
  | case6 => cases hmeasure
  | case7 ind rest lx _ lx'' hline =>
      cases hmeasure
      exact (htake _ _ hrest).continueLine hline
  | case8 =>
      cases hmeasure
      exact openLine_inside h hstart

theorem Inside.applyIndent {ind : Indentation} (h : lx.Inside n)
    (happly : lx.applyIndent ind = .ok lx') : lx'.Inside n := by
  unfold Lexer.applyIndent at happly
  dsimp only at happly
  repeat' split at happly
  all_goals first
    | cases happly; exact h.congr rfl rfl rfl
    | cases happly

theorem Inside.skipBlanks {cs : List Char} (h : lx.Inside n) (hrest : lx.rest = cs) :
    (Lexer.skipBlanks cs lx).Inside n := by
  induction cs generalizing lx with
  | nil => exact h
  | cons c rest ih =>
      rw [Lexer.skipBlanks]
      split
      · exact ih (h.take hrest) rfl
      · exact h.openLine

theorem Inside.skipComment {cs : List Char} (h : lx.Inside n) (hrest : lx.rest = cs) :
    (Lexer.skipComment cs lx).Inside n := by
  induction cs generalizing lx with
  | nil => exact h
  | cons c rest ih =>
      rw [Lexer.skipComment]
      split
      · exact h
      · exact ih (h.take hrest) rfl

/-! ## Strings -/

/-- A prefix of a string literal stands in front of a quote. -/
theorem stringPrefix?_spec {b r u f : Bool} {cs : List Char} {k : Nat}
    (h : stringPrefix? b r u f cs = some k) :
    ∃ quote rest, cs.drop k = quote :: rest ∧ quote ≠ '\n' := by
  fun_induction stringPrefix? b r u f cs generalizing k with
  | case1 => cases h
  | case2 b r u f c rest hquote =>
      cases h
      refine ⟨c, rest, rfl, ?_⟩
      rintro rfl
      simp at hquote
  | case7 => cases h
  | _ =>
      rename_i ih
      obtain ⟨k', hk', rfl⟩ := Option.map_eq_some_iff.mp h
      exact ih hk'

/-- Behind a character that ends no line something is left. -/
theorem Inside.rest_ne_nil {c : Char} {rest : List Char} (h : (lx.take c rest).Inside n)
    (hc : c ≠ '\n') : rest ≠ [] := by
  rintro rfl
  rcases h.ends with hlast | ⟨-, hended⟩
  · simp [Lexer.take] at hlast
  · simp [Lexer.take, hc] at hended

/-- The rest of a string literal ends with its quote. -/
theorem stringTail_inside {quote : Char} {size seen : Nat} {cs : List Char} {lx'' : Lexer}
    (hquote : quote ≠ '\n') (h : lx.Inside n) (hrest : lx.rest = cs)
    (htail : stringTail quote size seen cs lx = (some lx', lx'')) :
    lx'.Inside n ∧ lx'.rest ≠ [] ∧ lx'.rest <:+ cs := by
  fun_induction stringTail quote size seen cs lx with
  | case1 => cases htail
  | case2 => cases htail
  | case3 =>
      rw [← Option.some.inj (congrArg Prod.fst htail)]
      exact ⟨h.take hrest, (h.take hrest).rest_ne_nil hquote, List.suffix_cons _ _⟩
  | case4 _ _ _ _ _ _ ih =>
      obtain ⟨hinside, hsome, hsuffix⟩ := ih (h.take hrest) rfl htail
      exact ⟨hinside, hsome, hsuffix.trans (List.suffix_cons _ _)⟩
  | case5 => cases htail
  | case6 _ _ _ _ _ _ _ ih =>
      obtain ⟨hinside, hsome, hsuffix⟩ := ih ((h.take hrest).take rfl) rfl htail
      exact ⟨hinside, hsome, hsuffix.trans
        ((List.suffix_cons _ _).trans (List.suffix_cons _ _))⟩
  | case7 _ _ _ _ _ _ _ _ ih =>
      obtain ⟨hinside, hsome, hsuffix⟩ := ih (h.take hrest) rfl htail
      exact ⟨hinside, hsome, hsuffix.trans (List.suffix_cons _ _)⟩

theorem count_textBetween {start : Lexer} (h : lx.rest <:+ start.rest) :
    (textBetween start lx).toList.count '\n' + lx.rest.count '\n' = start.rest.count '\n' := by
  obtain ⟨text, htext⟩ := h
  have htake : start.rest.take (start.rest.length - lx.rest.length) = text := by
    rw [← htext]
    simp
  rw [textBetween, String.toList_ofList, htake, ← htext, List.count_append]

/-! ## One token -/

/-- What a reading yields: the lexer stays inside, and so does the token. -/
def ReadInside (n : Nat) (read : Read) : Prop :=
  ∀ t, read.1 = .ok t → read.2.Inside n ∧ t.Within n

theorem readInside_error (stop : LexStop) (lx : Lexer) : ReadInside n (.error stop, lx) :=
  fun _ h => nomatch h

/-- A token other than a string or a name begins where the lexer stood. -/
theorem readInside_token {start : Lexer} (hstart : start.Inside n) (h : lx.Inside n)
    {k : TokenKind} (hk : k ≠ .string ∧ k ≠ .name) (text : String) :
    ReadInside n (.ok (lx.token start k text), lx) := by
  intro t ht
  cases ht
  exact ⟨h, hstart.pos, hstart.line_le, fun hstring => absurd hstring hk.1,
    fun hname => absurd hname hk.2⟩

theorem readInside_layout (h : lx.Inside n) (h' : lx'.Inside n) {k : TokenKind}
    (hk : k ≠ .string ∧ k ≠ .name) : ReadInside n (.ok (lx.layoutToken k), lx') := by
  intro t ht
  cases ht
  exact ⟨h', h.pos, h.line_le, fun hstring => absurd hstring hk.1, fun hname => absurd hname hk.2⟩

/-- A string ends on a line that is still to be read to its end. -/
theorem readInside_string {start : Lexer} (hstart : start.Inside n) (h : lx.Inside n)
    (hrest : lx.rest ≠ []) (hsuffix : lx.rest <:+ start.rest) :
    ReadInside n (.ok (lx.token start .string (textBetween start lx)), lx) := by
  intro t ht
  cases ht
  have hpos := h.count_pos hrest
  have htext := count_textBetween hsuffix
  have hcount := hstart.count
  refine ⟨h, hstart.pos, hstart.line_le, fun _ => ?_, nofun⟩
  show start.line + (textBetween start lx).toList.count '\n' ≤ n
  split at hcount <;> omega

theorem readString_inside {start : Lexer} (hstart : start.Inside n) {k : Nat}
    (hopen : stringPrefix? false false false false start.rest = some k) :
    ReadInside n (readString start (start.skip k)) := by
  obtain ⟨quote, rest, hdrop, hquote⟩ := stringPrefix?_spec hopen
  have hskip := hstart.skip k
  have hrest : (start.skip k).rest = quote :: rest := (rest_skip k start).trans hdrop
  have hbehind (j : Nat) : ((start.skip k).skip j).rest <:+ start.rest := by
    rw [rest_skip, rest_skip]
    exact (List.drop_suffix _ _).trans (List.drop_suffix _ _)
  unfold readString
  split
  · next q q2 q3 more hthree =>
    obtain ⟨rfl, -⟩ := List.cons.inj (hrest.symm.trans hthree)
    split
    · refine readInside_string hstart (hskip.skip 2) ?_ (hbehind 2)
      rw [rest_skip, hthree]
      simp
    · dsimp only
      split
      · next htail =>
        obtain ⟨hinside, hsome, hsuffix⟩ := stringTail_inside hquote (hskip.skip _) rfl htail
        exact readInside_string hstart hinside hsome (hsuffix.trans (hbehind _))
      · exact readInside_error _ _
  · next q q2 htwo =>
    obtain ⟨rfl, -⟩ := List.cons.inj (hrest.symm.trans htwo)
    split
    · next hsame =>
      -- The source would end with the quote.
      have hlast := hskip.ends.resolve_right fun hnone => by simp [hrest] at hnone
      rw [htwo, hsame] at hlast
      simp [hquote] at hlast
    · exact readInside_error _ _
  · exact readInside_error _ _

theorem readName_inside {start : Lexer} (hstart : start.Inside n) :
    ReadInside n (readName start) := by
  unfold readName
  dsimp only
  split
  · exact readInside_error _ _
  · intro t ht
    cases ht
    refine ⟨hstart.skip _, hstart.pos, hstart.line_le, fun hstring => ?_, fun _ c hc => ?_⟩
    · -- a word is a keyword or a name
      simp only [token] at hstring
      split at hstring <;> cases hstring
    · simp only [token, String.toList_ofList] at hc
      exact List.all_eq_true.mp List.all_takeWhile c hc

theorem readNumber_inside {start : Lexer} (hstart : start.Inside n)
    (measured : Except NumberFault Measured) : ReadInside n (readNumber start measured) := by
  unfold readNumber
  split
  · split <;> exact readInside_error _ _
  · next m =>
    dsimp only
    refine readInside_token hstart ?_ (by decide) _
    split
    · exact (hstart.skip m.length).congr rfl rfl rfl
    · exact hstart.skip _

theorem readPunct_inside {start : Lexer} (hstart : start.Inside n) {c : Char} {rest : List Char}
    (hrest : start.rest = c :: rest) : ReadInside n (readPunct start c rest) := by
  have hdone (lx : Lexer) (h : lx.Inside n) (text : String) :
      ReadInside n (.ok (lx.token start .punct text), lx) :=
    readInside_token hstart h (by decide) text
  have htake := hstart.take hrest
  -- Opening and closing a parenthesis leaves the lexer where it is.
  have hparens (parens : List Paren) : Lexer.Inside n { start.take c rest with parens } :=
    htake.congr rfl rfl rfl
  unfold readPunct
  dsimp only
  split
  · split
    · exact hdone _ (hstart.skip _) _
    · exact hdone _ (hstart.skip _) _
  · split
    · split
      · exact readInside_error _ _
      · exact hdone _ (hparens _) _
    · split
      · split
        · exact readInside_error _ _
        · split
          · exact hdone _ (hparens _) _
          · exact readInside_error _ _
      · split
        · exact hdone _ htake _
        · exact readInside_error _ _

/-! ## Looking for a token -/

/-- What a look at the current line yields. -/
def ScanInside (n : Nat) : Scan → Prop
  | .done read => ReadInside n read
  | .continued lx | .newLine lx => lx.Inside n

theorem scanToken_inside (blank : Bool) (h : lx.Inside n) : ScanInside n (scanToken blank lx) := by
  unfold scanToken
  extract_lets first start behind
  have hstart : start.Inside n :=
    have houtside : Inside n { lx with inToken := false } := h.congr rfl rfl rfl
    (houtside.skipBlanks rfl).congr rfl rfl rfl
  -- What stands behind a comment can only be the end of its line.
  have hbehind : behind.Inside n
      ∧ ∀ c rest, behind.rest = c :: rest → c ≠ '\n' → behind = start := by
    simp only [behind]
    split
    · exact ⟨hstart.skipComment rfl,
        fun c rest hrest hc => absurd (rest_skipComment _ rfl hrest) hc⟩
    · exact ⟨hstart, fun _ _ _ _ => rfl⟩
  obtain ⟨hinside, hcode⟩ := hbehind
  clear_value behind
  split
  · split
    · exact readInside_layout hinside hinside (by decide)
    · exact readInside_error _ _
  · next rest hrest =>
    have hended : Lexer.Inside n
        { behind.take '\n' rest with atLineStart := true, inToken := false } :=
      (hinside.take hrest).congr rfl rfl rfl
    split
    · exact hended
    · intro t ht
      cases ht
      exact ⟨hended, hstart.pos, hstart.line_le, nofun, nofun⟩
  · next c rest hc hrest =>
    -- This is no comment, so the token begins with `c`.
    have hsame := hcode c rest hrest hc
    rw [hsame] at hrest ⊢
    split
    · split
      · next hopen => exact readString_inside hstart hopen
      · exact readName_inside hstart
    · split
      · split
        · split
          · exact readNumber_inside hstart _
          · split
            · exact readInside_token hstart (hstart.skip 3) (by decide) _
            · exact readPunct_inside hstart hrest
        · exact readPunct_inside hstart hrest
      · split
        · exact readNumber_inside hstart _
        · split
          · split
            · exact readInside_error _ _
            · next hline => exact (hstart.take hrest).continueLine hline
          · exact readPunct_inside hstart hrest

/-- Without fuel the lexer has to stand on a line already. -/
theorem scan_inside (fuel : Nat) (blank : Bool) (h : lx.Begun n)
    (hfuel : fuel ≠ 0 ∨ 1 ≤ lx.line) : ReadInside n (scan fuel blank lx) := by
  induction fuel generalizing blank lx with
  | zero =>
      have hinside : lx.Inside n := ⟨h.toLines, hfuel.resolve_left fun hzero => hzero rfl⟩
      exact readInside_layout hinside hinside (by decide)
  | succ fuel ih =>
      unfold scan
      extract_lets begun
      have hbegun : ∀ r, begun = .ok r → r.2.Inside n := by
        intro r hr
        simp -zeta only [begun] at hr
        split at hr
        · split at hr
          · cases hr
          · next ind lx' hmeasure =>
            have hindent : lx'.Inside n := by
              have hlines : Lines n { lx with inToken := false, atLineStart := false } :=
                h.toLines.congr rfl rfl rfl
              exact measureIndent_inside hlines (h.start.imp id And.right) rfl hmeasure
            extract_lets empty at hr
            split at hr
            · cases hr
              exact hindent
            · cases happly : lx'.applyIndent ind with
              | error stop => rw [happly] at hr; cases hr
              | ok lx'' =>
                  rw [happly] at hr
                  cases hr
                  exact hindent.applyIndent happly
        · next hstart =>
          cases hr
          exact ⟨h.toLines, h.start.resolve_right fun hfirst => hstart hfirst.1⟩
      clear_value begun
      split
      · exact readInside_error _ _
      · next blank lx' =>
        have hinside : lx'.Inside n := hbegun _ rfl
        have hstay (m k : Nat) : Lexer.Inside n { lx' with dedentsDue := m, indentsDue := k } :=
          hinside.congr rfl rfl rfl
        split
        · exact readInside_layout hinside (hstay _ _) (by decide)
        · split
          · exact readInside_layout hinside (hstay _ _) (by decide)
          · have hscan := scanToken_inside blank hinside
            split
            · next heq => rwa [heq] at hscan
            · next heq =>
              rw [heq] at hscan
              exact ih _ hscan.begun (.inr hscan.pos)
            · next heq =>
              rw [heq] at hscan
              exact ih _ hscan.begun (.inr hscan.pos)

/-- **Tokens stand on the lines of their source.** -/
theorem next_inside (h : lx.Begun n) : ReadInside n lx.next :=
  scan_inside _ _ h (.inl (Nat.succ_ne_zero _))

/-! ## Whole sources -/

/-- A lexer in front of lines of which each has its end. -/
theorem begun_of_lines (hended : lx.lineEnded = true) (hstart : lx.atLineStart = true)
    (hlast : lx.rest.getLast? = some '\n') (hcount : lx.line + lx.rest.count '\n' ≤ n) :
    lx.Begun n := by
  refine ⟨⟨by rw [if_pos hended]; exact hcount, .inl hlast⟩, .inr ⟨hstart, hended, ?_⟩⟩
  intro hnone
  rw [hnone] at hlast
  cases hlast

/-- The number of lines of a source, as the lexer reads it. -/
def lineCount (source : String) : Nat := (ofSource source).rest.count '\n'

theorem ofSource_begun {source : String} (h : lineCount source ≤ n) :
    (ofSource source).Begun n := by
  refine begun_of_lines rfl rfl ?_ ((Nat.zero_add _).trans_le h)
  simp only [ofSource]
  split
  · assumption
  · exact List.getLast?_concat

/-- Without carriage returns there is one line more than there are line ends, or no more of them. -/
theorem lineCount_le {source : String} (h : '\r' ∉ source.toList) :
    lineCount source ≤ source.toList.count '\n' + 1 := by
  simp only [lineCount, ofSource, Text.unifyNewlines_eq_self h]
  split
  · exact Nat.le_succ _
  · simp

end Lexer

end SourceLoader
