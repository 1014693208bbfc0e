import Mathlib.Algebra.GroupWithZero.Nat
import SourceLoader.Proofs.TokenLines

/-!
# Where the words of a source stand

The lexer counts lines and, on a line, bytes. Both are a matter of the characters that it has read:
the line is one more than the line ends among them, the column is the size of those behind the last
line end (`Lexer.Stands`). A line counts from its first character on, so between two lines the
lexer still shows the one that has ended.

The invariant is kept by each step of the lexer, since every step is made of single characters
(`Stands.take`) and of the openings of lines (`Stands.openLine`). A name or a keyword is read from
where the lexer stands, so it stands in the source where it says (`TokenAt.standsIn`). Only tokens of
a source of its own may be shifted, and the lexer of a whole source shifts nothing.
-/

namespace SourceLoader

namespace Text

/-- The characters behind the last line end. -/
def lastLine (cs : List Char) : List Char := (cs.reverse.takeWhile (· ≠ '\n')).reverse

/-- The size of characters in bytes. -/
def byteSize (cs : List Char) : Nat := (cs.map Char.utf8Size).sum

@[simp] theorem lastLine_nil : lastLine [] = [] := rfl

theorem lastLine_concat (cs : List Char) (c : Char) :
    lastLine (cs ++ [c]) = if c = '\n' then [] else lastLine cs ++ [c] := by
  by_cases hc : c = '\n' <;> simp [lastLine, hc]

end Text

open Text

/-- Is the token a name or a keyword? -/
def Token.isName (t : Token) : Bool :=
  match t.kind with
  | .name | .keyword => true
  | _ => false

/-- A token stands in a text where it says: on the line behind as many line ends, and behind as many
bytes of that line. -/
def Token.StandsIn (t : Token) (chars : List Char) : Prop :=
  ∃ before after, chars = before ++ t.text.toList ++ after
    ∧ t.line = before.count '\n' + 1 ∧ t.column = some (byteSize (lastLine before))

namespace Lexer

/-- The lexer has read `before` of a text and counts accordingly. -/
structure Stands (chars before : List Char) (lx : Lexer) : Prop where
  split : chars = before ++ lx.rest
  line_eq : lx.line + (if lx.lineEnded then 1 else 0) = before.count '\n' + 1
  column_eq : (if lx.lineEnded then 0 else lx.column) = byteSize (lastLine before)
  /-- Nothing is shifted. -/
  shift_eq : lx.shift = 0

/-- The lexer has read some part of a text. -/
def StandsIn (chars : List Char) (lx : Lexer) : Prop := ∃ before, lx.Stands chars before

variable {chars before : List Char} {lx lx' : Lexer}

theorem StandsIn.congr (h : lx.StandsIn chars) (hrest : lx'.rest = lx.rest)
    (hline : lx'.line = lx.line) (hcolumn : lx'.column = lx.column)
    (hended : lx'.lineEnded = lx.lineEnded) (hshift : lx'.shift = lx.shift) :
    lx'.StandsIn chars := by
  obtain ⟨before, hsplit, hline', hcolumn', hshift'⟩ := h
  exact ⟨before, by rw [hrest, hsplit], by rw [hline, hended, hline'],
    by rw [hcolumn, hended, hcolumn'], by rw [hshift, hshift']⟩

/-! ## Moving on -/

theorem Stands.openLine (h : lx.Stands chars before) : lx.openLine.Stands chars before := by
  unfold Lexer.openLine
  split
  · next hopen =>
    obtain ⟨hsplit, hline, hcolumn, hshift⟩ := h
    rw [if_pos (Bool.and_eq_true_iff.mp hopen).1] at hline hcolumn
    exact ⟨hsplit, by simpa using hline, by simpa using hcolumn, hshift⟩
  · exact h

theorem Stands.take (h : lx.Stands chars before) {c : Char} {rest : List Char}
    (hrest : lx.rest = c :: rest) : (lx.take c rest).Stands chars (before ++ [c]) := by
  obtain ⟨hsplit, hline, hcolumn, hshift⟩ := h.openLine
  rw [rest_openLine, hrest] at hsplit
  rw [lineEnded_openLine (by simp [hrest])] at hline hcolumn
  simp only [Bool.false_eq_true, if_false, Nat.add_zero] at hline hcolumn
  refine ⟨by simpa [Lexer.take] using hsplit, ?_, ?_, hshift⟩
  · by_cases hc : c = '\n' <;> simp [Lexer.take, hline, hc]
  · by_cases hc : c = '\n'
    · simp [Lexer.take, lastLine_concat, hc, byteSize]
    · simp [Lexer.take, lastLine_concat, hc, hcolumn, byteSize]

theorem StandsIn.take (h : lx.StandsIn chars) {c : Char} {rest : List Char}
    (hrest : lx.rest = c :: rest) : (lx.take c rest).StandsIn chars := by
  obtain ⟨_, hstands⟩ := h
  exact ⟨_, hstands.take hrest⟩

theorem StandsIn.openLine (h : lx.StandsIn chars) : lx.openLine.StandsIn chars := by
  obtain ⟨_, hstands⟩ := h
  exact ⟨_, hstands.openLine⟩

theorem StandsIn.skip (h : lx.StandsIn chars) (k : Nat) : (lx.skip k).StandsIn chars := by
  induction k generalizing lx with
  | zero => exact h
  | succ k ih =>
      rw [Lexer.skip]
      split
      · exact h
      · next hrest => exact ih (h.take hrest)

theorem StandsIn.continueLine (h : lx.StandsIn chars) (hcontinue : lx.continueLine = .ok lx') :
    lx'.StandsIn chars := by
  unfold Lexer.continueLine at hcontinue
  split at hcontinue
  · cases hcontinue
  · next hrest =>
    dsimp only at hcontinue
    split at hcontinue
    · cases hcontinue
    · split at hcontinue
      · cases hcontinue
      · cases hcontinue
        exact (h.take hrest).openLine

theorem StandsIn.measureIndent {ind ind' : Indentation} {cs : List Char} (h : lx.StandsIn chars)
    (hrest : lx.rest = cs) (hmeasure : Lexer.measureIndent ind cs lx = .ok (ind', lx')) :
    lx'.StandsIn chars := by
  fun_induction Lexer.measureIndent ind cs lx with
  | case1 ind rest lx ih => exact ih (h.take hrest) rfl hmeasure
  | case2 ind rest lx ih => exact ih (h.take hrest) rfl hmeasure
  | case3 ind rest lx ih => exact ih (h.take hrest) rfl hmeasure
  | case4 ind rest lx => cases hmeasure
  | case5 ind rest lx _ lx'' hline ih =>
      obtain ⟨c, hbehind⟩ := rest_continueLine hline
      exact ih ((h.take hrest).continueLine hline) (List.cons.inj hbehind).2.symm hmeasure
  | case6 => cases hmeasure
  | case7 ind rest lx _ lx'' hline =>
      cases hmeasure
      exact (h.take hrest).continueLine hline
  | case8 =>
      cases hmeasure
      exact h.openLine

theorem StandsIn.applyIndent {ind : Indentation} (h : lx.StandsIn chars)
    (happly : lx.applyIndent ind = .ok lx') : lx'.StandsIn chars := by
  unfold Lexer.applyIndent at happly
  dsimp only at happly
  repeat' split at happly
  all_goals first
    | cases happly; exact h.congr rfl rfl rfl rfl rfl
    | cases happly

theorem StandsIn.skipBlanks {cs : List Char} (h : lx.StandsIn chars) (hrest : lx.rest = cs) :
    (Lexer.skipBlanks cs lx).StandsIn chars := by
  induction cs generalizing lx with
  | nil => exact h
  | cons c rest ih =>
      rw [Lexer.skipBlanks]
      split
      · exact ih (h.take hrest) rfl
      · exact h.openLine

theorem StandsIn.skipComment {cs : List Char} (h : lx.StandsIn chars) (hrest : lx.rest = cs) :
    (Lexer.skipComment cs lx).StandsIn chars := by
  induction cs generalizing lx with
  | nil => exact h
  | cons c rest ih =>
      rw [Lexer.skipComment]
      split
      · exact h
      · exact ih (h.take hrest) rfl

theorem StandsIn.stringTail {quote : Char} {size seen : Nat} {cs : List Char} {lx'' : Lexer}
    (h : lx.StandsIn chars) (hrest : lx.rest = cs)
    (htail : Lexer.stringTail quote size seen cs lx = (some lx', lx'')) : lx'.StandsIn chars := by
  fun_induction Lexer.stringTail quote size seen cs lx with
  | case1 => cases htail
  | case2 => cases htail
  | case3 =>
      rw [← Option.some.inj (congrArg Prod.fst htail)]
      exact h.take hrest
  | case4 _ _ _ _ _ _ ih => exact ih (h.take hrest) rfl htail
  | case5 => cases htail
  | case6 _ _ _ _ _ _ _ ih => exact ih ((h.take hrest).take rfl) rfl htail
  | case7 _ _ _ _ _ _ _ _ ih => exact ih (h.take hrest) rfl htail

/-! ## One token -/

/-- What a reading yields: the lexer goes on in the text, and a name or a keyword stands in it. -/
def ReadStands (chars : List Char) (read : Read) : Prop :=
  ∀ t, read.1 = .ok t → read.2.StandsIn chars
    ∧ (t.isName = true → t.StandsIn chars)

theorem readStands_error (stop : LexStop) (lx : Lexer) : ReadStands chars (.error stop, lx) :=
  fun _ h => nomatch h

theorem readStands_other (h : lx.StandsIn chars) {t : Token} (ht : t.isName = false) :
    ReadStands chars (.ok t, lx) := by
  intro u hu
  cases hu
  refine ⟨h, fun hname => ?_⟩
  rw [ht] at hname
  cases hname

theorem readString_stands {start lx : Lexer} (h : lx.StandsIn chars) :
    ReadStands chars (readString start lx) := by
  unfold readString
  split
  · split
    · exact readStands_other (h.skip _) rfl
    · dsimp only
      split
      · next htail =>
        exact readStands_other ((h.skip _).stringTail rfl htail) rfl
      · exact readStands_error _ _
  · split
    · exact readStands_other (h.skip _) rfl
    · exact readStands_error _ _
  · exact readStands_error _ _

/-- A word is read from where the lexer stands. -/
theorem readName_stands {start : Lexer} (h : start.StandsIn chars)
    (hwithin : start.lineEnded = false) : ReadStands chars (readName start) := by
  have hskip := h.skip (start.rest.takeWhile continuesName).length
  unfold readName
  dsimp only
  split
  · exact readStands_error _ _
  · intro t ht
    cases ht
    refine ⟨hskip, fun _ => ?_⟩
    obtain ⟨before, hsplit, hline, hcolumn, -⟩ := h
    obtain ⟨_, -, -, -, hshift⟩ := hskip
    rw [hwithin] at hline hcolumn
    simp only [Bool.false_eq_true, if_false, Nat.add_zero] at hline hcolumn
    refine ⟨before, start.rest.dropWhile continuesName, ?_, hline, ?_⟩
    · simp only [token, String.toList_ofList, List.append_assoc, List.takeWhile_append_dropWhile]
      exact hsplit
    · simp only [token, hshift, ite_self, Nat.add_zero, hcolumn]

theorem readNumber_stands {start : Lexer} (h : start.StandsIn chars)
    (measured : Except NumberFault Measured) : ReadStands chars (readNumber start measured) := by
  unfold readNumber
  split
  · split <;> exact readStands_error _ _
  · next m =>
    dsimp only
    refine readStands_other ?_ rfl
    split
    · exact (h.skip m.length).congr rfl rfl rfl rfl rfl
    · exact h.skip _

theorem readPunct_stands {start : Lexer} (h : start.StandsIn chars) {c : Char} {rest : List Char}
    (hrest : start.rest = c :: rest) : ReadStands chars (readPunct start c rest) := by
  have hdone (lx : Lexer) (h : lx.StandsIn chars) (text : String) :
      ReadStands chars (.ok (lx.token start .punct text), lx) :=
    readStands_other h rfl
  have htake := h.take hrest
  have hparens (parens : List Paren) : StandsIn chars { start.take c rest with parens } :=
    htake.congr rfl rfl rfl rfl rfl
  unfold readPunct
  dsimp only
  split
  · split
    · exact hdone _ (h.skip _) _
    · exact hdone _ (h.skip _) _
  · split
    · split
      · exact readStands_error _ _
      · exact hdone _ (hparens _) _
    · split
      · split
        · exact readStands_error _ _
        · split
          · exact hdone _ (hparens _) _
          · exact readStands_error _ _
      · split
        · exact hdone _ htake _
        · exact readStands_error _ _

/-! ## Looking for a token -/

/-- What a look at the current line yields. -/
def ScanStands (chars : List Char) : Scan → Prop
  | .done read => ReadStands chars read
  | .continued lx | .newLine lx => lx.StandsIn chars

theorem scanToken_stands (blank : Bool) (h : lx.StandsIn chars) :
    ScanStands chars (scanToken blank lx) := by
  unfold scanToken
  extract_lets first start behind
  have houtside : StandsIn chars { lx with inToken := false } := h.congr rfl rfl rfl rfl rfl
  have hstart : start.StandsIn chars := (houtside.skipBlanks rfl).congr rfl rfl rfl rfl rfl
  have hline := (skipBlanks_spec { lx with inToken := false } rfl).2
  -- What stands behind a comment can only be the end of its line.
  have hbehind : behind.StandsIn chars
      ∧ ∀ c rest, behind.rest = c :: rest → c ≠ '\n' → behind = start := by
    simp only [behind]
    split
    · exact ⟨hstart.skipComment rfl,
        fun c rest hrest hc => absurd (rest_skipComment _ rfl hrest) hc⟩
    · exact ⟨hstart, fun _ _ _ _ => rfl⟩
  obtain ⟨hstands, hcode⟩ := hbehind
  clear_value behind
  split
  · split
    · exact readStands_other hstands rfl
    · exact readStands_error _ _
  · next rest hrest =>
    have hended : StandsIn chars
        { behind.take '\n' rest with atLineStart := true, inToken := false } :=
      (hstands.take hrest).congr rfl rfl rfl rfl rfl
    split
    · exact hended
    · exact readStands_other hended rfl
  · next c rest hc hrest =>
    -- This is no comment, so the token begins with `c`.
    have hsame := hcode c rest hrest hc
    rw [hsame] at hrest ⊢
    have hwithin : start.lineEnded = false := by
      refine hline fun hnone => ?_
      have hstop : start.rest = [] := hnone
      rw [hstop] at hrest
      cases hrest
    split
    · split
      · exact readString_stands (hstart.skip _)
      · exact readName_stands hstart hwithin
    · split
      · split
        · split
          · exact readNumber_stands hstart _
          · split
            · exact readStands_other (hstart.skip 3) rfl
            · exact readPunct_stands hstart hrest
        · exact readPunct_stands hstart hrest
      · split
        · exact readNumber_stands hstart _
        · split
          · split
            · exact readStands_error _ _
            · next hcontinue => exact (hstart.take hrest).continueLine hcontinue
          · exact readPunct_stands hstart hrest

theorem scan_stands (fuel : Nat) (blank : Bool) (h : lx.StandsIn chars) :
    ReadStands chars (scan fuel blank lx) := by
  induction fuel generalizing blank lx with
  | zero => exact readStands_other h rfl
  | succ fuel ih =>
      unfold scan
      extract_lets begun
      have hbegun : ∀ r, begun = .ok r → r.2.StandsIn chars := by
        intro r hr
        simp -zeta only [begun] at hr
        split at hr
        · split at hr
          · cases hr
          · next ind lx' hmeasure =>
            have hfresh : StandsIn chars { lx with inToken := false, atLineStart := false } :=
              h.congr rfl rfl rfl rfl rfl
            have hindent := hfresh.measureIndent rfl hmeasure
            extract_lets empty at hr
            split at hr
            · cases hr
              exact hindent
            · cases happly : lx'.applyIndent ind with
              | error stop => rw [happly] at hr; cases hr
              | ok lx'' =>
                  rw [happly] at hr
                  cases hr
                  exact hindent.applyIndent happly
        · cases hr
          exact h
      clear_value begun
      split
      · exact readStands_error _ _
      · next blank lx' =>
        have hstands : lx'.StandsIn chars := hbegun _ rfl
        have hstay (m k : Nat) :
            StandsIn chars { lx' with dedentsDue := m, indentsDue := k } :=
          hstands.congr rfl rfl rfl rfl rfl
        split
        · exact readStands_other (hstay _ _) rfl
        · split
          · exact readStands_other (hstay _ _) rfl
          · have hscan := scanToken_stands blank hstands
            split
            · next heq => rwa [heq] at hscan
            · next heq =>
              rw [heq] at hscan
              exact ih _ hscan
            · next heq =>
              rw [heq] at hscan
              exact ih _ hscan

theorem next_stands (h : lx.StandsIn chars) : ReadStands chars lx.next := scan_stands _ _ h

/-! ## The tokens of a source -/

theorem after?_standsIn (h : lx.StandsIn chars) {n : Nat} (hn : lx.after? n = some lx') :
    lx'.StandsIn chars := by
  induction n generalizing lx' with
  | zero =>
      cases hn
      exact h
  | succ n ih =>
      rw [after?] at hn
      split at hn
      · cases hn
      · next hbefore =>
        split at hn
        · next hnext =>
          cases hn
          have hstands := (next_stands (ih hbefore) _ (congrArg Prod.fst hnext)).1
          rw [hnext] at hstands
          exact hstands.congr rfl rfl rfl rfl rfl
        · cases hn

/-- **A name or a keyword of a text stands where its place says.** -/
theorem TokenAt.standsIn (h : lx.StandsIn chars) {k : Nat} {t : Token} (ht : lx.TokenAt k t)
    (hname : t.isName = true) : t.StandsIn chars := by
  obtain ⟨lx', hafter, hnext⟩ := ht
  exact (next_stands (after?_standsIn h hafter) t hnext).2 hname

theorem ofSource_standsIn (source : String) :
    (ofSource source).StandsIn (ofSource source).rest := ⟨[], rfl, rfl, rfl, rfl⟩

end Lexer

end SourceLoader
