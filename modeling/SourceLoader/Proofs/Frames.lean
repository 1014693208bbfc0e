import SourceLoader.Proofs.SplitLines
import Mathlib.Data.List.DropRight
import Mathlib.Data.List.Forall2

/-!
# The frame of a diagnostic

A diagnostic is read by a person, in rows on a screen. So what is owed is about rows: which
numbers they have, that the numbers stand under each other, that one row alone is marked, and
that the caret stands under the column it points at, whatever the width of a tab.

**The rows.** `frame_eq` takes the frame apart into the rows up to the marked one, the caret
row, and the rows below; `splitLines_format` says that a reader who cuts the diagnostic into
lines gets these back, for no row holds a line break.

**The gutter.** No number of the window is longer than the last one, so every number fills its
field exactly (`numberField_alignRight`).

**The caret.** Two texts of one length with their tabs at the same places end at the same
column of the screen (`displayColumn_congr`). The padding is made for this.
-/

namespace SourceLoader.Diagnostic

open Text

/-! ## The window -/

/-- The line a diagnostic marks: the one asked for, or the nearest there is. -/
def markedLine (source : String) (line : Int) : Nat :=
  min (max line 1).toNat (sourceLines source).length

/-- The first number of the window. -/
def firstShown (marked : Nat) : Nat := max 1 (marked - 2)

/-- The last number of the window. -/
def lastShown (marked count : Nat) : Nat := min count (marked + 3)

theorem length_sourceLines_pos (source : String) : 0 < (sourceLines source).length := by
  unfold sourceLines
  split
  · simp
  · rename_i h
    exact List.length_pos_of_ne_nil h

theorem oneLine_of_mem_sourceLines {source line : String} (h : line ∈ sourceLines source) :
    OneLine line := by
  unfold sourceLines at h
  split at h
  · rw [List.mem_singleton.mp h]
    intro c hc
    simp at hc
  · exact oneLine_of_mem_splitLines h

theorem markedLine_pos (source : String) (line : Int) : 0 < markedLine source line := by
  have := length_sourceLines_pos source
  unfold markedLine
  omega

theorem markedLine_le (source : String) (line : Int) :
    markedLine source line ≤ (sourceLines source).length :=
  Nat.min_le_right _ _

/-- A line of the source is marked itself. -/
theorem markedLine_of_le {source : String} {line : Nat} (hpos : 0 < line)
    (hle : line ≤ (sourceLines source).length) : markedLine source line = line := by
  unfold markedLine
  omega

/-! ## The rows -/

/-- The width of the numbers in a window: that of the last one. -/
def numberWidth (lines : List String) (marked : Nat) : Nat :=
  (toString (lastShown marked lines.length)).length

/-- The row of a number. -/
def numbered (lines : List String) (marked number : Nat) : String :=
  row (numberWidth lines marked) (number = marked) number ((lines[number - 1]?).getD "")

/-- The rows of a window. -/
def numberedRows (lines : List String) (marked : Nat) : List String :=
  (List.range' (firstShown marked) (lastShown marked lines.length + 1 - firstShown marked)).map
    (numbered lines marked)

/-- The frame is the rows of the window, with the caret row below the marked one. -/
theorem frame_eq (message : String) (lines : List String) {marked : Nat} (column : Nat)
    (hpos : 0 < marked) (hle : marked ≤ lines.length) :
    frame message lines marked column
      = (numberedRows lines marked).take (marked + 1 - firstShown marked)
        ++ caretRow (numberWidth lines marked) ((lines[marked - 1]?).getD "") column message
        :: (numberedRows lines marked).drop (marked + 1 - firstShown marked) := by
  have hfirst : max (marked - linesAbove) 1 = firstShown marked := Nat.max_comm _ _
  have hlast : min (marked + linesBelow) lines.length = lastShown marked lines.length :=
    Nat.min_comm _ _
  have hle₁ : firstShown marked ≤ marked := by unfold firstShown; omega
  have hle₂ : marked ≤ lastShown marked lines.length := by unfold lastShown; omega
  have habove : List.range' (firstShown marked) (marked + 1 - firstShown marked)
      = List.range' (firstShown marked) (marked - firstShown marked) ++ [marked] := by
    rw [show marked + 1 - firstShown marked = marked - firstShown marked + 1 by omega,
      List.range'_concat, Nat.one_mul, Nat.add_sub_cancel' hle₁]
  have hall : List.range' (firstShown marked)
        (lastShown marked lines.length + 1 - firstShown marked)
      = List.range' (firstShown marked) (marked + 1 - firstShown marked)
        ++ List.range' (marked + 1) (lastShown marked lines.length - marked) := by
    rw [show lastShown marked lines.length + 1 - firstShown marked
      = (marked + 1 - firstShown marked) + (lastShown marked lines.length - marked) by omega,
      ← List.range'_append, Nat.one_mul,
      Nat.add_sub_cancel' (Nat.le_trans hle₁ (Nat.le_succ _))]
  -- A number other than the marked one gives its row alone.
  have hplain (numbers : List Nat) (hne : ∀ number ∈ numbers, number ≠ marked) :
      (numbers.flatMap fun number =>
        if number = marked then
          [row (numberWidth lines marked) true number ((lines[number - 1]?).getD ""),
            caretRow (numberWidth lines marked) ((lines[number - 1]?).getD "") column message]
        else [row (numberWidth lines marked) false number ((lines[number - 1]?).getD "")])
      = numbers.map (numbered lines marked) := by
    rw [List.map_eq_flatMap]
    refine List.flatMap_congr fun number hn => ?_
    rw [if_neg (hne number hn), numbered, decide_eq_false (hne number hn)]
  have htake : (numberedRows lines marked).take (marked + 1 - firstShown marked)
      = (List.range' (firstShown marked) (marked + 1 - firstShown marked)).map
        (numbered lines marked) := by
    rw [numberedRows, hall, List.map_append, List.take_left' (by simp)]
  have hdrop : (numberedRows lines marked).drop (marked + 1 - firstShown marked)
      = (List.range' (marked + 1) (lastShown marked lines.length - marked)).map
        (numbered lines marked) := by
    rw [numberedRows, hall, List.map_append, List.drop_left' (by simp)]
  rw [htake, hdrop]
  unfold frame
  rw [hfirst, hlast]
  dsimp only
  rw [hall, habove, List.append_assoc, List.flatMap_append, List.flatMap_append,
    List.flatMap_singleton, ← numberWidth, hplain, hplain]
  · simp [numbered]
  · intro number hn
    have := List.mem_range'_1.mp hn
    omega
  · intro number hn
    have := List.mem_range'_1.mp hn
    omega

/-! ## The gutter -/

theorem toList_trimEnd (s : String) :
    (trimEnd s).toList = s.toList.rdropWhile fun c => Unicode.isBlank c.toNat := by
  simp [trimEnd, List.rdropWhile]

/-- The number of a row, set at the right of its field. -/
structure NumberField (width number : Nat) (field : String) : Prop where
  /-- Blanks, then the number. -/
  right_aligned : ∃ blanks, field.toList = List.replicate blanks ' ' ++ (toString number).toList
  /-- It fills the field. -/
  length_eq : field.length = width

theorem length_toString_mono {m n : Nat} (h : m ≤ n) :
    (toString m).length ≤ (toString n).length := by
  have hpos : 0 < (toString n).length := Nat.length_repr_pos
  have hn : n < 10 ^ (toString n).length := (Nat.length_repr_le_iff hpos).mp (Nat.le_refl _)
  exact (Nat.length_repr_le_iff hpos).mpr (Nat.lt_of_le_of_lt h hn)

theorem numberField_alignRight {width number : Nat} (h : (toString number).length ≤ width) :
    NumberField width number (alignRight width (toString number)) := by
  refine ⟨⟨width - (toString number).length, by simp [alignRight]⟩, ?_⟩
  simp only [alignRight, String.length_append, String.length_ofList, List.length_replicate]
  omega

/-- A field holds blanks and digits only. -/
theorem NumberField.eq_blank_or_digit {width number : Nat} {field : String}
    (h : NumberField width number field) {c : Char} (hc : c ∈ field.toList) :
    c = ' ' ∨ c.isDigit = true := by
  obtain ⟨blanks, hfield⟩ := h.right_aligned
  rw [hfield, List.mem_append] at hc
  rcases hc with hc | hc
  · exact .inl (List.eq_of_mem_replicate hc)
  · refine .inr ?_
    rw [show toString number = number.repr from rfl, Nat.repr_eq_ofList_toDigits,
      String.toList_ofList] at hc
    exact Nat.isDigit_of_mem_toDigits (by decide) (by decide) hc

theorem ne_of_isDigit {c d : Char} (hc : c.isDigit = true) (hd : d.isDigit = false) : c ≠ d := by
  rintro rfl
  simp [hc] at hd

theorem isLineBreak_of_isDigit {c : Char} (hc : c.isDigit = true) : isLineBreak c = false := by
  simp [isLineBreak, ne_of_isDigit hc]

theorem NumberField.oneLine {width number : Nat} {field : String}
    (h : NumberField width number field) : OneLine field := by
  intro c hc
  rcases h.eq_blank_or_digit hc with rfl | hdigit
  · rfl
  · exact isLineBreak_of_isDigit hdigit

/-- A row before the blanks at its end are dropped. -/
def untrimmed (mark : Bool) (field text : String) : String :=
  (if mark then "> " else "  ") ++ field ++ " | " ++ text

theorem row_eq (width : Nat) (mark : Bool) (number : Nat) (text : String) :
    row width mark number text
      = trimEnd (untrimmed mark (alignRight width (toString number)) text) := rfl

theorem oneLine_untrimmed {width number : Nat} {field text : String} (mark : Bool)
    (hfield : NumberField width number field) (htext : OneLine text) :
    OneLine (untrimmed mark field text) := by
  have hmark : OneLine (if mark then "> " else "  ") := by
    cases mark <;> decide
  have hbar : OneLine " | " := by decide
  exact oneLine_append (oneLine_append (oneLine_append hmark hfield.oneLine) hbar) htext

theorem oneLine_trimEnd {s : String} (h : OneLine s) : OneLine (trimEnd s) := by
  intro c hc
  rw [toList_trimEnd] at hc
  exact h c ((List.rdropWhile_prefix _ _).subset hc)

/-- A row begins with the mark exactly if it is marked. -/
theorem head?_row (width : Nat) (mark : Bool) (number : Nat) (text : String) :
    (row width mark number text).toList.head? = some '>' ↔ mark = true := by
  obtain ⟨cs, hcs⟩ : ∃ cs, (untrimmed mark (alignRight width (toString number)) text).toList
      = (if mark then '>' else ' ') :: cs := by
    cases mark <;> simp [untrimmed, String.toList_append]
  have hpre := List.rdropWhile_prefix (fun c => Unicode.isBlank c.toNat)
    ((if mark then '>' else ' ') :: cs)
  rw [row_eq, toList_trimEnd, hcs]
  cases mark with
  | false =>
    generalize List.rdropWhile _ _ = kept at hpre
    cases kept with
    | nil => simp
    | cons c kept =>
      rw [List.head?_cons, (List.cons_prefix_cons.mp hpre).1]
      simp
  | true =>
    have hne : List.rdropWhile (fun c => Unicode.isBlank c.toNat) ('>' :: cs) ≠ [] := by
      rw [Ne, List.rdropWhile_eq_nil_iff]
      exact fun h => absurd (h '>' (by simp))
        (by simp [Unicode.isBlank, Unicode.blank, Unicode.Ranges.contains])
    obtain ⟨c, kept, hkept⟩ := List.exists_cons_of_ne_nil hne
    simp only [if_true] at hpre ⊢
    rw [hkept] at hpre ⊢
    rw [List.head?_cons, (List.cons_prefix_cons.mp hpre).1]
    simp

/-! ## The caret -/

/-- The column of the screen behind some characters: a tab goes to the next stop, every other
character takes one column. -/
def displayColumn (tab : Nat) : Nat → List Char → Nat
  | column, [] => column
  | column, c :: cs =>
    displayColumn tab (if c = '\t' then (column / tab + 1) * tab else column + 1) cs

/-- Tabs stand at the same places. -/
def SameTabs : List Char → List Char → Prop := List.Forall₂ fun c d => c = '\t' ↔ d = '\t'

theorem displayColumn_congr (tab column : Nat) {cs ds : List Char} (h : SameTabs cs ds) :
    displayColumn tab column cs = displayColumn tab column ds := by
  induction h generalizing column with
  | nil => rfl
  | cons hcd _ ih =>
    simp only [displayColumn, hcd]
    exact ih _

theorem sameTabs_of_none {cs ds : List Char} (hlen : cs.length = ds.length)
    (hcs : '\t' ∉ cs) (hds : '\t' ∉ ds) : SameTabs cs ds := by
  induction cs generalizing ds with
  | nil =>
    rw [List.eq_nil_of_length_eq_zero hlen.symm]
    exact .nil
  | cons c cs ih =>
    cases ds with
    | nil => simp at hlen
    | cons d ds =>
      rw [List.mem_cons, not_or] at hcs hds
      refine .cons ⟨fun h => absurd h.symm hcs.1, fun h => absurd h.symm hds.1⟩ ?_
      exact ih (by simpa using hlen) hcs.2 hds.2

theorem NumberField.tab_not_mem {width number : Nat} {field : String}
    (h : NumberField width number field) : '\t' ∉ field.toList := by
  intro hmem
  rcases h.eq_blank_or_digit hmem with h | h <;> exact absurd h (by decide)

/-- What stands before the caret, in front of the message. -/
def beforeCaret (width : Nat) (text : String) (column : Nat) : String :=
  "  " ++ alignRight width "" ++ " | " ++ padding text column

/-- The caret behind `before` stands under a column of a row. A column past the end is the one
behind the text. -/
structure CaretUnder (width column : Nat) (field text before : String) : Prop where
  /-- As many characters as the row has before that column. -/
  length_eq : before.length = width + 5 + (min column (text.length + 1) - 1)
  /-- The row is that long. -/
  length_le : before.length ≤ (untrimmed true field text).length
  /-- The gutter is as wide as that of the row, with no number in it. -/
  gutter_eq : before.toList.take (width + 5)
    = [' ', ' '] ++ List.replicate width ' ' ++ [' ', '|', ' ']
  /-- Beyond the gutter there are tabs where the text has them, and blanks elsewhere. -/
  padding_eq : ∀ i, width + 5 ≤ i → i < before.length → before.toList[i]?
    = some (if (untrimmed true field text).toList[i]? = some '\t' then '\t' else ' ')
  /-- However wide a tab is, the caret and that column of the row are one column of the
  screen. -/
  display_eq : ∀ tab, displayColumn tab 0 before.toList
    = displayColumn tab 0 ((untrimmed true field text).toList.take before.length)

theorem caretUnder_beforeCaret {width number column : Nat} {field text : String}
    (hcolumn : 0 < column) (hfield : NumberField width number field) :
    CaretUnder width column field text (beforeCaret width text column) := by
  have hbefore : (beforeCaret width text column).toList
      = ([' ', ' '] ++ List.replicate width ' ' ++ [' ', '|', ' '])
        ++ (text.toList.take (column - 1)).map fun c => if c = '\t' then c else ' ' := by
    simp [beforeCaret, alignRight, padding, String.toList_append]
  have hrow : (untrimmed true field text).toList
      = (['>', ' '] ++ field.toList ++ [' ', '|', ' ']) ++ text.toList := by
    simp [untrimmed, String.toList_append]
  have hwidth : field.toList.length = width := by
    rw [String.length_toList, hfield.length_eq]
  have hblank : ([' ', ' '] ++ List.replicate width ' ' ++ [' ', '|', ' ']).length = width + 5 := by
    simp
  have hgutter : (['>', ' '] ++ field.toList ++ [' ', '|', ' ']).length = width + 5 := by
    simp [hwidth]
  have hlen : (beforeCaret width text column).length
      = width + 5 + (min column (text.length + 1) - 1) := by
    rw [← String.length_toList, hbefore, List.length_append, hblank, List.length_map,
      List.length_take, String.length_toList]
    omega
  refine ⟨hlen, ?_, ?_, fun i hi hlt => ?_, fun tab => ?_⟩
  · rw [hlen, ← String.length_toList (s := untrimmed true field text), hrow, List.length_append,
      hgutter, String.length_toList]
    omega
  · rw [hbefore, List.take_left' hblank]
  · have hi' : i - (width + 5) < text.toList.length := by
      rw [String.length_toList]
      omega
    rw [hbefore, hrow, List.getElem?_append_right (by omega),
      List.getElem?_append_right (by omega), hblank, hgutter, List.getElem?_map,
      List.getElem?_take_of_lt (by omega), List.getElem?_eq_getElem hi', Option.map_some,
      Option.some_inj]
    by_cases htab : text.toList[i - (width + 5)] = '\t' <;> simp [htab]
  · refine displayColumn_congr tab 0 ?_
    have hnone : SameTabs ([' ', ' '] ++ List.replicate width ' ' ++ [' ', '|', ' '])
        (['>', ' '] ++ field.toList ++ [' ', '|', ' ']) := by
      refine sameTabs_of_none (hblank.trans hgutter.symm) (by simp) ?_
      simp [hfield.tab_not_mem]
    have htext : text.toList.take (min column (text.length + 1) - 1)
        = text.toList.take (column - 1) := by
      rw [List.take_eq_take_iff, String.length_toList]
      omega
    rw [hbefore, hrow, hlen, List.take_append, hgutter, List.take_of_length_le
      (Nat.le_trans (Nat.le_of_eq hgutter) (Nat.le_add_right _ _)), Nat.add_sub_cancel_left, htext]
    refine List.rel_append hnone ?_
    rw [List.forall₂_map_left_iff, List.forall₂_same]
    intro c _
    split <;> simp_all

theorem oneLine_beforeCaret {width : Nat} {text : String} (column : Nat) (htext : OneLine text) :
    OneLine (beforeCaret width text column) := by
  have hblank : OneLine (alignRight width "") := by
    intro c hc
    simp only [alignRight, String.append_empty, String.toList_ofList] at hc
    rw [List.eq_of_mem_replicate hc]
    rfl
  have hpadding : OneLine (padding text column) := by
    intro c hc
    rw [padding, String.toList_ofList, List.mem_map] at hc
    obtain ⟨d, hd, rfl⟩ := hc
    split
    · exact htext d (List.mem_of_mem_take hd)
    · rfl
  have hmark : OneLine "  " := by decide
  have hbar : OneLine " | " := by decide
  exact oneLine_append (oneLine_append (oneLine_append hmark hblank) hbar) hpadding

/-! ## The diagnostic as lines -/

theorem join_newlines {rows : List String} (h : rows ≠ []) :
    String.join (rows.map (· ++ "\n")) = "\n".intercalate rows ++ "\n" := by
  induction rows with
  | nil => exact absurd rfl h
  | cons row rows ih =>
    cases rows with
    | nil => simp
    | cons row' rows =>
      rw [List.map_cons, String.join_cons, ih (by simp), String.intercalate_cons_cons]
      simp only [String.append_assoc]

theorem oneLine_getD {lines : List String} (hlines : ∀ line ∈ lines, OneLine line) (i : Nat) :
    OneLine ((lines[i]?).getD "") := by
  cases hget : lines[i]? with
  | none =>
    intro c hc
    simp at hc
  | some line => exact hlines line (List.mem_of_getElem? hget)

/-- No row holds a line break. -/
theorem oneLine_of_mem_frame {message : String} {lines : List String} {marked column : Nat}
    (hpos : 0 < marked) (hle : marked ≤ lines.length) (hmessage : OneLine message)
    (hlines : ∀ line ∈ lines, OneLine line) :
    ∀ row ∈ frame message lines marked column, OneLine row := by
  have hnumbered : ∀ row ∈ numberedRows lines marked, OneLine row := by
    intro row hrow
    obtain ⟨number, hmem, rfl⟩ := List.mem_map.mp hrow
    have hnumber : number ≤ lastShown marked lines.length := by
      have := List.mem_range'_1.mp hmem
      omega
    exact oneLine_trimEnd (oneLine_untrimmed _
      (numberField_alignRight (length_toString_mono hnumber)) (oneLine_getD hlines _))
  have hcaret : OneLine "^ " := by decide
  intro row hrow
  rw [frame_eq _ _ _ hpos hle, List.mem_append, List.mem_cons] at hrow
  rcases hrow with hrow | rfl | hrow
  · exact hnumbered row (List.mem_of_mem_take hrow)
  · exact oneLine_append
      (oneLine_append (oneLine_beforeCaret _ (oneLine_getD hlines _)) hcaret) hmessage
  · exact hnumbered row (List.mem_of_mem_drop hrow)

theorem format_eq_join (message path source : String) (line column : Int) :
    format message path source line column
      = String.join (("" :: path :: frame message (sourceLines source) (markedLine source line)
        (max column 1).toNat).map (· ++ "\n")) := by
  have hne : frame message (sourceLines source) (markedLine source line) (max column 1).toNat
      ≠ [] := by
    rw [frame_eq _ _ _ (markedLine_pos source line) (markedLine_le source line)]
    simp
  rw [List.map_cons, List.map_cons, String.join_cons, String.join_cons, join_newlines hne,
    String.empty_append]
  unfold format
  simp only [String.append_assoc, markedLine]

/-- What a diagnostic owes its reader: the rows of the window around the marked line, and in
front of the caret, `before`. -/
structure Framed (lines : List String) (marked column width : Nat) (rows : List String)
    (before : String) : Prop where
  /-- One row for each number of the window. -/
  length_eq : rows.length = lastShown marked lines.length + 1 - firstShown marked
  /-- The marked line is one of them. -/
  marked_mem : firstShown marked ≤ marked ∧ marked < firstShown marked + rows.length
  /-- They stand in order, each with its number in a field of one width and the text of its line;
  the caret stands under the marked one. -/
  row_eq : ∀ i (hi : i < rows.length), ∃ field text, lines[firstShown marked + i - 1]? = some text
    ∧ NumberField width (firstShown marked + i) field
    ∧ rows[i] = trimEnd (untrimmed (firstShown marked + i = marked) field text)
    ∧ (firstShown marked + i = marked → CaretUnder width column field text before)
  /-- One of them alone is marked. -/
  marked_iff : ∀ i (hi : i < rows.length),
    rows[i].toList.head? = some '>' ↔ firstShown marked + i = marked

theorem framed_numberedRows {lines : List String} {marked column : Nat} (hpos : 0 < marked)
    (hle : marked ≤ lines.length) (hcolumn : 0 < column) :
    Framed lines marked column (numberWidth lines marked) (numberedRows lines marked)
      (beforeCaret (numberWidth lines marked) ((lines[marked - 1]?).getD "") column) := by
  have hlen : (numberedRows lines marked).length
      = lastShown marked lines.length + 1 - firstShown marked := by
    simp [numberedRows]
  have hrow (i : Nat) (hi : i < (numberedRows lines marked).length) :
      (numberedRows lines marked)[i] = numbered lines marked (firstShown marked + i) := by
    simp [numberedRows]
  have hfirst : 0 < firstShown marked ∧ firstShown marked ≤ marked := by
    unfold firstShown
    omega
  have hlast : marked ≤ lastShown marked lines.length
      ∧ lastShown marked lines.length ≤ lines.length := by
    unfold lastShown
    omega
  refine ⟨hlen, by omega, fun i hi => ?_, fun i hi => ?_⟩
  · have hnumber : firstShown marked + i ≤ lastShown marked lines.length := by omega
    have hget : firstShown marked + i - 1 < lines.length := by omega
    have hfield := numberField_alignRight (length_toString_mono hnumber)
    refine ⟨_, lines[firstShown marked + i - 1], List.getElem?_eq_getElem hget, hfield, ?_,
      fun hmarked => ?_⟩
    · rw [hrow i hi, numbered, Diagnostic.row_eq, List.getElem?_eq_getElem hget, Option.getD_some]
      rfl
    · have hindex : marked - 1 = firstShown marked + i - 1 := by omega
      rw [hindex, List.getElem?_eq_getElem hget, Option.getD_some]
      exact caretUnder_beforeCaret hcolumn hfield
  · rw [hrow i hi, numbered, head?_row, decide_eq_true_iff]

/-- A diagnostic is an empty line, the path, and the rows of its frame with the caret row behind the
marked one. -/
theorem format_framed (message path source : String) (line column : Int) :
    ∃ (rows : List String) (width : Nat) (before : String),
      format message path source line column
        = String.join (("" :: path :: (rows.take
            (markedLine source line + 1 - firstShown (markedLine source line))
          ++ (before ++ "^ " ++ message) :: rows.drop
            (markedLine source line + 1 - firstShown (markedLine source line)))).map (· ++ "\n"))
      ∧ Framed (sourceLines source) (markedLine source line) (max column 1).toNat width rows
        before := by
  have hpos := markedLine_pos source line
  have hle := markedLine_le source line
  have hcolumn : 0 < (max column 1).toNat := by omega
  refine ⟨_, _, _, ?_, framed_numberedRows hpos hle hcolumn⟩
  rw [format_eq_join, frame_eq _ _ _ hpos hle]
  rfl

/-- A diagnostic, read as lines, is an empty line, the path, and the rows of its frame: one for
each number from two above the marked line to three below, as far as there are such lines, and the
caret row behind the marked one. -/
theorem splitLines_format (message path source : String) (line column : Int)
    (hmessage : OneLine message) (hpath : OneLine path) :
    ∃ (rows : List String) (width : Nat) (before : String),
      splitLines (format message path source line column)
        = "" :: path :: (rows.take
            (markedLine source line + 1 - firstShown (markedLine source line))
          ++ (before ++ "^ " ++ message) :: rows.drop
            (markedLine source line + 1 - firstShown (markedLine source line)))
      ∧ Framed (sourceLines source) (markedLine source line) (max column 1).toNat width rows
        before := by
  have hpos := markedLine_pos source line
  have hle := markedLine_le source line
  have hcolumn : 0 < (max column 1).toNat := by omega
  have hframed := framed_numberedRows hpos hle hcolumn
  refine ⟨_, _, _, ?_, hframed⟩
  rw [format_eq_join, splitLines_join, frame_eq _ _ _ hpos hle]
  · rfl
  · intro row hrow
    rcases List.mem_cons.mp hrow with rfl | hrow
    · intro c hc
      simp at hc
    · rcases List.mem_cons.mp hrow with rfl | hrow
      · exact hpath
      · exact oneLine_of_mem_frame hpos hle hmessage (fun _ => oneLine_of_mem_sourceLines) row hrow

/-- A tab stands before the place, and the line after it is shown too. -/
theorem splitLines_format_tabbed :
    OneLine "invalid syntax" ∧ OneLine "/app/main.py"
      ∧ ∃ (rows : List String) (width : Nat) (before : String),
        splitLines (format "invalid syntax" "/app/main.py" "x = 1\n\ty = )\nz = 2\n" 2 6)
          = "" :: "/app/main.py" :: (rows.take 2 ++ (before ++ "^ " ++ "invalid syntax")
            :: rows.drop 2)
        ∧ Framed ["x = 1", "\ty = )", "z = 2"] 2 6 width rows before := by
  have hmessage : OneLine "invalid syntax" := by decide
  have hpath : OneLine "/app/main.py" := by decide
  exact ⟨hmessage, hpath, splitLines_format _ _ "x = 1\n\ty = )\nz = 2\n" 2 6 hmessage hpath⟩

end SourceLoader.Diagnostic

/-!
## The line a diagnostic shows

A fault comes with the number of its line as the parser counts them, and the diagnostic looks
this number up among lines that it counts itself. Each row then shows a piece of some line of
the parser. It is the line of the row's number, and the whole of it, exactly if no line up to it
holds a break that the parser does not know (`format_shows`). With such a break above, the row
shows a piece of an earlier line: the number is spent on the pieces before it.
-/

namespace SourceLoader.Text

/-- Where the first lines hold no foreign break, the two ways to count go together. -/
theorem min_length_sourceLines {s : String} {k : Nat}
    (h : ∀ line ∈ (parserLines s).take k, foreignBreaks line = 0) :
    min (Diagnostic.sourceLines s).length k = min (parserLines s).length k := by
  obtain ⟨hpre, hlen⟩ := sourceLines_flatMap_pieces s
  by_cases hk : k < (parserLines s).length
  · omega
  · have hall : (parserLines s).flatMap pieces = parserLines s := by
      rw [List.take_of_length_le (by omega)] at h
      rw [List.flatMap_congr fun line hline => pieces_of_foreignBreaks_eq_zero (h line hline)]
      exact List.flatMap_singleton' _
    have := hpre.length_le
    rw [hall] at this
    omega

end SourceLoader.Text

namespace SourceLoader.Diagnostic

open Text

/-- What the rows of a diagnostic show of the parser's lines. -/
structure ShowsLines (source : String) (marked width : Nat) (rows : List String) : Prop where
  /-- A row shows a piece `j` of some line `l`. The piece is the whole line of the row's number
  exactly if no line up to it holds a foreign break. -/
  row_eq : ∀ i (hi : i < rows.length), ∃ l j field text,
    PieceAt source (firstShown marked + i) l j text
    ∧ NumberField width (firstShown marked + i) field
    ∧ rows[i] = trimEnd (untrimmed (firstShown marked + i = marked) field text)
    ∧ ((l + 1 = firstShown marked + i ∧ (parserLines source)[l]? = some text)
      ↔ ∀ line ∈ (parserLines source).take (firstShown marked + i), foreignBreaks line = 0)
  /-- Where no line of the window or above holds one, it ends with the parser's lines. -/
  length_eq : (∀ line ∈ (parserLines source).take (marked + 3), foreignBreaks line = 0) →
    rows.length = lastShown marked (parserLines source).length + 1 - firstShown marked

/-- The diagnostic for line `n` of the parser marks line `n` of its own count. This is the
parser's exactly if no line up to it holds a foreign break, and likewise for the rows around. -/
theorem format_shows (message path source : String) (n : Nat) (column : Int) (hpos : 0 < n)
    (hn : n ≤ (parserLines source).length) :
    ∃ (rows : List String) (width : Nat) (before : String),
      format message path source n column
        = String.join (("" :: path :: (rows.take (n + 1 - firstShown n)
          ++ (before ++ "^ " ++ message) :: rows.drop (n + 1 - firstShown n))).map (· ++ "\n"))
      ∧ Framed (sourceLines source) n (max column 1).toNat width rows before
      ∧ ShowsLines source n width rows := by
  have hle : n ≤ (sourceLines source).length := Nat.le_trans hn (sourceLines_flatMap_pieces source).2
  obtain ⟨rows, width, before, hformat, hframed⟩ := format_framed message path source n column
  rw [markedLine_of_le hpos hle] at hformat hframed
  refine ⟨rows, width, before, hformat, hframed, fun i hi => ?_, fun hnone => ?_⟩
  · obtain ⟨field, text, htext, hfield, hrow, -⟩ := hframed.row_eq i hi
    obtain ⟨hlt, rfl⟩ := List.getElem?_eq_some_iff.mp htext
    obtain ⟨l, j, hpiece⟩ := exists_piece hlt
    have hnumber : firstShown n + i - 1 + 1 = firstShown n + i := by
      have : 0 < firstShown n := by unfold firstShown; omega
      omega
    rw [hnumber] at hpiece
    exact ⟨l, j, field, _, hpiece, hfield, hrow, hpiece.whole_iff⟩
  · have := min_length_sourceLines hnone
    rw [hframed.length_eq]
    unfold lastShown
    omega

/-- A form feed in the comment above: the mark is on the piece behind it. -/
theorem format_shows_formFeed :
    0 < 2 ∧ 2 ≤ (parserLines "# \x0c\nx = (\n").length
      ∧ foreignBreaks "# \x0c" = 1
      ∧ PieceAt "# \x0c\nx = (\n" 2 0 1 ""
      ∧ ∃ (rows : List String) (width : Nat) (before : String),
        format "'(' was never closed" "/app/main.py" "# \x0c\nx = (\n" 2 5
          = String.join (("" :: "/app/main.py" :: (rows.take 2
            ++ (before ++ "^ " ++ "'(' was never closed") :: rows.drop 2)).map (· ++ "\n"))
        ∧ Framed ["# ", "", "x = ("] 2 5 width rows before
        ∧ ShowsLines "# \x0c\nx = (\n" 2 width rows := by
  have hlines : parserLines "# \x0c\nx = (\n" = ["# \x0c", "x = ("] := by decide
  have hn : 2 ≤ (parserLines "# \x0c\nx = (\n").length := by
    rw [hlines]
    decide
  refine ⟨by decide, hn, by decide, ⟨by decide, by decide, by decide⟩, ?_⟩
  exact format_shows "'(' was never closed" "/app/main.py" "# \x0c\nx = (\n" 2 5 (by decide) hn

end SourceLoader.Diagnostic
