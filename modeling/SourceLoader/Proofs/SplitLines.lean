import SourceLoader.Diagnostic
import Mathlib.Algebra.GroupWithZero.Nat
import Mathlib.Data.List.Basic
import Mathlib.Tactic.Common

/-!
# Two ways to count lines

The parser ends a line at a line feed, at a carriage return, and at the two in a row. A reader
of diagnostics breaks a line at seven more characters. So a line of the parser may be several
lines of a diagnostic: the pieces between its foreign breaks.

**The lines of a diagnostic** are the pieces of the lines of the parser, one after another
(`flatMap_pieces`); after a foreign break at the very end of the text there is no further one.

**Where a line stands.** What a diagnostic calls line `number` is piece `j` of the parser's line
`i`, where `number` counts the lines above and the foreign breaks in them (`exists_piece`).
The two counts agree on a line exactly where nothing up to its end is a foreign break
(`whole_iff`).
-/

namespace SourceLoader.Text

/-! ## Cutting a list -/

section Cut

variable {α : Type} {p q : α → Bool}

theorem splitOnP_or (xs : List α) :
    xs.splitOnP (fun x => p x || q x) = (xs.splitOnP p).flatMap fun l => l.splitOnP q := by
  induction xs with
  | nil => simp
  | cons x xs ih =>
    obtain ⟨head, tail, hp⟩ := List.exists_cons_of_ne_nil (List.splitOnP_ne_nil p xs)
    simp only [List.splitOnP_cons_eq_if_modifyHead, ih, hp]
    by_cases hx : p x
    · simp [hx]
    · by_cases hy : q x
      · simp [hx, hy, List.splitOnP_cons_eq_if_modifyHead]
      · obtain ⟨head', tail', hq⟩ := List.exists_cons_of_ne_nil (List.splitOnP_ne_nil q head)
        simp [hx, hy, List.splitOnP_cons_eq_if_modifyHead, hq]

theorem length_splitOnP (xs : List α) : (xs.splitOnP p).length = xs.countP p + 1 := by
  induction xs with
  | nil => simp
  | cons x xs ih =>
    rw [List.splitOnP_cons_eq_if_modifyHead, List.countP_cons]
    by_cases hx : p x <;> simp [hx, ih]

theorem not_of_mem_splitOnP {xs l : List α} (hl : l ∈ xs.splitOnP p) : ∀ x ∈ l, p x = false := by
  induction xs generalizing l with
  | nil => simp_all
  | cons x xs ih =>
    obtain ⟨head, tail, hp⟩ := List.exists_cons_of_ne_nil (List.splitOnP_ne_nil p xs)
    rw [List.splitOnP_cons_eq_if_modifyHead, hp] at hl
    rw [hp] at ih
    by_cases hx : p x
    · rw [if_pos hx] at hl
      rcases List.mem_cons.mp hl with rfl | hl
      · simp
      · exact ih hl
    · rw [if_neg hx, List.modifyHead_cons] at hl
      rcases List.mem_cons.mp hl with rfl | hl
      · intro y hy
        rcases List.mem_cons.mp hy with rfl | hy
        · simpa using hx
        · exact ih (by simp) y hy
      · exact ih (by simp [hl])

/-- Drops a last part that is empty: an end closes what stands before it. -/
def dropOpenEnd (parts : List (List α)) : List (List α) :=
  match parts.getLast? with
  | some [] => parts.dropLast
  | _ => parts

theorem dropOpenEnd_append_nil (parts : List (List α)) : dropOpenEnd (parts ++ [[]]) = parts := by
  simp [dropOpenEnd]

theorem dropOpenEnd_append_cons (parts : List (List α)) (x : α) (xs : List α) :
    dropOpenEnd (parts ++ [x :: xs]) = parts ++ [x :: xs] := by
  simp [dropOpenEnd]

theorem mem_of_mem_dropOpenEnd {part : List α} {parts : List (List α)}
    (h : part ∈ dropOpenEnd parts) : part ∈ parts := by
  unfold dropOpenEnd at h
  split at h
  · exact (List.dropLast_sublist _).subset h
  · exact h

/-- A part that is not empty stays. -/
theorem getElem?_dropOpenEnd {parts : List (List α)} {i : Nat} {part : List α}
    (h : parts[i]? = some part) (hpart : part ≠ []) : (dropOpenEnd parts)[i]? = some part := by
  have hparts : parts ≠ [] := by
    rintro rfl
    simp at h
  obtain ⟨init, last, rfl⟩ : ∃ init last, parts = init ++ [last] :=
    ⟨_, _, (List.dropLast_concat_getLast hparts).symm⟩
  cases last with
  | nil =>
    rw [dropOpenEnd_append_nil]
    by_cases hi : i < init.length
    · rwa [List.getElem?_append_left hi] at h
    · rw [List.getElem?_append_right (by omega), List.getElem?_singleton] at h
      split at h
      · exact absurd (Option.some.inj h).symm hpart
      · cases h
  | cons x xs => rwa [dropOpenEnd_append_cons]

theorem dropOpenEnd_eq_nil_iff {parts : List (List α)} (h : parts ≠ []) :
    dropOpenEnd parts = [] ↔ parts = [[]] := by
  obtain ⟨init, last, rfl⟩ : ∃ init last, parts = init ++ [last] :=
    ⟨_, _, (List.dropLast_concat_getLast h).symm⟩
  cases last with
  | nil => simp [dropOpenEnd_append_nil]
  | cons x xs =>
    rw [dropOpenEnd_append_cons]
    refine ⟨fun hnil => absurd hnil h, fun hone => ?_⟩
    have hlast := congrArg List.getLast? hone
    simp at hlast

theorem dropOpenEnd_cons (part : List α) {parts : List (List α)} (h : parts ≠ []) :
    dropOpenEnd (part :: parts) = part :: dropOpenEnd parts := by
  obtain ⟨init, last, rfl⟩ : ∃ init last, parts = init ++ [last] :=
    ⟨_, _, (List.dropLast_concat_getLast h).symm⟩
  cases last with
  | nil => rw [← List.cons_append, dropOpenEnd_append_nil, dropOpenEnd_append_nil]
  | cons x xs => rw [← List.cons_append, dropOpenEnd_append_cons, dropOpenEnd_append_cons]; rfl

theorem length_le_length_flatMap {β : Type} {f : α → List β} {xs : List α}
    (h : ∀ x ∈ xs, 1 ≤ (f x).length) : xs.length ≤ (xs.flatMap f).length := by
  induction xs with
  | nil => simp
  | cons x xs ih =>
    have hx : 1 ≤ (f x).length := h x (by simp)
    have hxs : xs.length ≤ (xs.flatMap f).length := ih fun y hy => h y (by simp [hy])
    rw [List.flatMap_cons, List.length_append, List.length_cons]
    omega

/-- Cutting the parts further: an open end stays one, and only a separator at the very end makes
a new one. -/
theorem dropOpenEnd_flatMap_splitOnP {parts : List (List α)} (h : parts ≠ []) :
    dropOpenEnd (parts.flatMap fun l => l.splitOnP q)
        <+: (dropOpenEnd parts).flatMap (fun l => l.splitOnP q)
      ∧ (dropOpenEnd parts).length
        ≤ (dropOpenEnd (parts.flatMap fun l => l.splitOnP q)).length := by
  have hlen (ls : List (List α)) : ls.length ≤ (ls.flatMap fun l => l.splitOnP q).length :=
    length_le_length_flatMap fun l _ => by rw [length_splitOnP]; omega
  obtain ⟨init, last, rfl⟩ : ∃ init last, parts = init ++ [last] :=
    ⟨_, _, (List.dropLast_concat_getLast h).symm⟩
  rw [List.flatMap_append, List.flatMap_singleton]
  cases last with
  | nil =>
    rw [List.splitOnP_nil, dropOpenEnd_append_nil, dropOpenEnd_append_nil]
    exact ⟨List.prefix_rfl, hlen init⟩
  | cons x xs =>
    obtain ⟨inner, final, hcut⟩ : ∃ inner final, (x :: xs).splitOnP q = inner ++ [final] :=
      ⟨_, _, (List.dropLast_concat_getLast (List.splitOnP_ne_nil q _)).symm⟩
    rw [dropOpenEnd_append_cons, List.flatMap_append, List.flatMap_singleton, hcut,
      ← List.append_assoc]
    have hinit := hlen init
    cases final with
    | nil =>
      -- A single empty part would come from an empty list.
      have hinner : inner ≠ [] := by
        rintro rfl
        have hcount : (x :: xs).countP q = 0 := by
          have := length_splitOnP (p := q) (x :: xs)
          rw [hcut] at this
          simpa using this
        rw [List.splitOnP_eq_singleton fun y hy => by
          simpa using List.countP_eq_zero.mp hcount y hy] at hcut
        simp at hcut
      have hpos : 0 < inner.length := List.length_pos_of_ne_nil hinner
      rw [dropOpenEnd_append_nil]
      refine ⟨List.prefix_append _ _, ?_⟩
      simp only [List.length_append, List.length_singleton]
      omega
    | cons y ys =>
      rw [dropOpenEnd_append_cons]
      refine ⟨List.prefix_rfl, ?_⟩
      simp only [List.length_append, List.length_singleton]
      omega

theorem getElem?_flatMap_of {β : Type} {f : α → List β} {xs : List α} {m : Nat} {b : β}
    (h : (xs.flatMap f)[m]? = some b) :
    ∃ (i j : Nat) (hi : i < xs.length), m = ((xs.take i).map fun x => (f x).length).sum + j
      ∧ (f xs[i])[j]? = some b := by
  induction xs generalizing m with
  | nil => simp at h
  | cons x xs ih =>
    rw [List.flatMap_cons] at h
    by_cases hm : m < (f x).length
    · rw [List.getElem?_append_left hm] at h
      exact ⟨0, m, by simp, by simp, h⟩
    · rw [List.getElem?_append_right (by omega)] at h
      obtain ⟨i, j, hi, hsum, hb⟩ := ih h
      refine ⟨i + 1, j, by simpa using hi, ?_, by simpa using hb⟩
      simp only [List.take_succ_cons, List.map_cons, List.sum_cons]
      omega

end Cut

/-! ## The lines of a diagnostic -/

/-- The lines of a text are what stands between its breaks, the two-letter line end read as one
break. -/
theorem splitLinesFrom_eq (line cs : List Char) :
    splitLinesFrom line (!line.isEmpty) cs
      = (dropOpenEnd ((unifyNewlines cs).splitOnPPrepend isLineBreak line)).map String.ofList := by
  -- A break closes the line in hand on both sides.
  have hbreak (line rest : List Char) {c : Char} (hc : isLineBreak c = true)
      (ih : ∀ line, splitLinesFrom line (!line.isEmpty) rest
        = (dropOpenEnd ((unifyNewlines rest).splitOnPPrepend isLineBreak line)).map
          String.ofList) :
      String.ofList line.reverse :: splitLinesFrom [] false rest
        = (dropOpenEnd ((c :: unifyNewlines rest).splitOnPPrepend isLineBreak line)).map
          String.ofList := by
    rw [List.splitOnPPrepend_cons_pos hc, dropOpenEnd_cons _ (List.splitOnP_ne_nil _ _),
      List.map_cons]
    exact congrArg _ (ih [])
  fun_induction unifyNewlines cs generalizing line with
  | case1 =>
    cases line with
    | nil => rfl
    | cons c line => simp [splitLinesFrom, dropOpenEnd]
  | case2 rest ih => exact hbreak line rest rfl ih
  | case3 rest hpair ih =>
    rw [splitLinesFrom]
    · exact hbreak line rest rfl ih
    · intro rest' _ h
      exact hpair rest' h
  | case4 c rest hpair hc ih =>
    have hr : c ≠ '\r' := fun h => hc h
    rw [splitLinesFrom]
    · by_cases hbr : isLineBreak c = true
      · rw [if_pos hbr]
        exact hbreak line rest hbr ih
      · rw [if_neg hbr, List.splitOnPPrepend_cons_neg (by simpa using hbr), ← ih]
        rfl
    · intro rest' h _
      exact hr h

theorem splitLines_eq (s : String) :
    splitLines s
      = (dropOpenEnd ((unifyNewlines s.toList).splitOnP isLineBreak)).map String.ofList :=
  splitLinesFrom_eq [] s.toList

theorem splitLines_ne_nil {s : String} (h : unifyNewlines s.toList ≠ []) : splitLines s ≠ [] := by
  rw [splitLines_eq, Ne, List.map_eq_nil_iff, dropOpenEnd_eq_nil_iff (List.splitOnP_ne_nil _ _)]
  intro hparts
  have hcount := length_splitOnP (p := isLineBreak) (unifyNewlines s.toList)
  rw [hparts] at hcount
  have hnone : (unifyNewlines s.toList).countP isLineBreak = 0 := by simpa using hcount
  rw [List.splitOnP_eq_singleton fun c hc => by
    simpa using List.countP_eq_zero.mp hnone c hc] at hparts
  exact h (by simpa using hparts)

/-- A text that is one line: no break in it. -/
def OneLine (s : String) : Prop := ∀ c ∈ s.toList, isLineBreak c = false

instance (s : String) : Decidable (OneLine s) :=
  List.decidableBAll (fun c => isLineBreak c = false) s.toList

theorem oneLine_append {s t : String} (hs : OneLine s) (ht : OneLine t) : OneLine (s ++ t) := by
  intro c hc
  rw [String.toList_append, List.mem_append] at hc
  exact hc.elim (hs c) (ht c)

theorem oneLine_of_mem_splitLines {s line : String} (h : line ∈ splitLines s) : OneLine line := by
  rw [splitLines_eq, List.mem_map] at h
  obtain ⟨part, hpart, rfl⟩ := h
  intro c hc
  exact not_of_mem_splitOnP (mem_of_mem_dropOpenEnd hpart) c (by simpa using hc)

/-- Lines that are each closed by a line feed are read back. -/
theorem splitLines_join {lines : List String} (h : ∀ line ∈ lines, OneLine line) :
    splitLines (String.join (lines.map (· ++ "\n"))) = lines := by
  have hfrom (line rest : List Char) (cs : List Char) (hcs : ∀ c ∈ cs, isLineBreak c = false)
      (isOpen : Bool) :
      splitLinesFrom line isOpen (cs ++ '\n' :: rest)
        = String.ofList (line.reverse ++ cs) :: splitLinesFrom [] false rest := by
    induction cs generalizing line isOpen with
    | nil => simp [splitLinesFrom, isLineBreak]
    | cons c cs ih =>
      have hc : isLineBreak c = false := hcs c (by simp)
      rw [List.cons_append, splitLinesFrom]
      · rw [if_neg (by simp [hc]), ih _ (fun d hd => hcs d (by simp [hd]))]
        simp
      · rintro _ rfl
        simp [isLineBreak] at hc
  unfold splitLines
  induction lines with
  | nil => rfl
  | cons line lines ih =>
    simp only [List.map_cons, String.join_cons, String.toList_append, List.append_assoc]
    rw [show "\n".toList = ['\n'] from rfl, List.singleton_append, hfrom _ _ _ (h line (by simp)),
      ih fun l hl => h l (by simp [hl])]
    simp

/-! ## The lines of the parser -/

/-- The lines of a text as the parser counts them. The empty text has one. -/
def parserLines (s : String) : List String :=
  match dropOpenEnd ((unifyNewlines s.toList).splitOnP (· == '\n')) with
  | [] => [""]
  | lines => lines.map String.ofList

/-- A break of a diagnostic that is no line feed; inside a line of the parser, one that the
parser does not know. -/
def isForeignBreak (c : Char) : Bool := isLineBreak c && c != '\n'

/-- The lines of a diagnostic that a line of the parser is shown as. -/
def pieces (line : String) : List String :=
  (line.toList.splitOnP isForeignBreak).map String.ofList

/-- How many breaks a line holds that the parser does not know. -/
def foreignBreaks (line : String) : Nat := line.toList.countP isForeignBreak

theorem length_pieces (line : String) : (pieces line).length = foreignBreaks line + 1 := by
  rw [pieces, List.length_map, length_splitOnP, foreignBreaks]

theorem pieces_of_foreignBreaks_eq_zero {line : String} (h : foreignBreaks line = 0) :
    pieces line = [line] := by
  rw [pieces, List.splitOnP_eq_singleton fun c hc => by simpa using List.countP_eq_zero.mp h c hc]
  simp

theorem foreignBreaks_of_mem_pieces {line piece : String} (h : piece ∈ pieces line) :
    foreignBreaks piece = 0 := by
  obtain ⟨part, hpart, rfl⟩ := List.mem_map.mp h
  rw [foreignBreaks, String.toList_ofList, List.countP_eq_zero]
  intro c hc
  simp [not_of_mem_splitOnP hpart c hc]

theorem isLineBreak_eq (c : Char) : isLineBreak c = (c == '\n' || isForeignBreak c) := by
  by_cases h : c = '\n'
  · simp [h, isLineBreak]
  · have hne : (c == '\n') = false := by simpa using h
    simp [isForeignBreak, bne, hne]

/-- The parts between all breaks are the pieces of the parts between the line feeds. -/
theorem splitOnP_isLineBreak (cs : List Char) :
    cs.splitOnP isLineBreak
      = (cs.splitOnP (· == '\n')).flatMap fun part => part.splitOnP isForeignBreak := by
  rw [show isLineBreak = fun c => c == '\n' || isForeignBreak c from funext isLineBreak_eq,
    splitOnP_or]

/-- A diagnostic shows the pieces of the parser's lines, and no empty piece behind a foreign
break at the very end. -/
theorem sourceLines_flatMap_pieces (s : String) :
    Diagnostic.sourceLines s <+: (parserLines s).flatMap pieces
      ∧ (parserLines s).length ≤ (Diagnostic.sourceLines s).length := by
  obtain ⟨hpre, hlen⟩ := dropOpenEnd_flatMap_splitOnP (q := isForeignBreak)
    (List.splitOnP_ne_nil (· == '\n') (unifyNewlines s.toList))
  rw [← splitOnP_isLineBreak] at hpre hlen
  unfold Diagnostic.sourceLines parserLines
  rw [splitLines_eq]
  generalize dropOpenEnd ((unifyNewlines s.toList).splitOnP isLineBreak) = shown at hpre hlen
  generalize dropOpenEnd ((unifyNewlines s.toList).splitOnP (· == '\n')) = parsed at hpre hlen
  cases parsed with
  | nil =>
    have hshown : shown = [] := by simpa using hpre
    subst hshown
    exact ⟨List.prefix_rfl, Nat.le_refl _⟩
  | cons line lines =>
    cases shown with
    | nil => simp at hlen
    | cons line' lines' =>
      refine ⟨?_, by simpa using hlen⟩
      have hmap := hpre.map String.ofList
      simp only [List.map_flatMap] at hmap
      change (line' :: lines').map String.ofList
        <+: ((line :: lines).map String.ofList).flatMap pieces
      simpa only [List.flatMap_map, pieces, String.toList_ofList] using hmap

/-! ## Where a line stands -/

/-- The text that a diagnostic shows as line `number` of a source is piece `j` of line `i` (from
zero) of the parser. -/
structure PieceAt (s : String) (number i j : Nat) (text : String) : Prop where
  /-- There is such a line. -/
  line_lt : i < (parserLines s).length
  /-- The lines above it, the foreign breaks in them, and the pieces before this one. -/
  number_eq : number = i + (((parserLines s).take i).map foreignBreaks).sum + j + 1
  /-- Its text. -/
  piece_eq : (pieces (parserLines s)[i])[j]? = some text

theorem exists_piece {s : String} {k : Nat} (hk : k < (Diagnostic.sourceLines s).length) :
    ∃ i j, PieceAt s (k + 1) i j (Diagnostic.sourceLines s)[k] := by
  have hget : ((parserLines s).flatMap pieces)[k]? = some (Diagnostic.sourceLines s)[k] := by
    have hpre := (sourceLines_flatMap_pieces s).1
    rw [List.getElem?_eq_getElem (Nat.lt_of_lt_of_le hk hpre.length_le), hpre.getElem hk]
  obtain ⟨i, j, hi, hsum, hpiece⟩ := getElem?_flatMap_of hget
  have hcount (ls : List String) :
      (ls.map fun l => (pieces l).length).sum = ls.length + (ls.map foreignBreaks).sum := by
    induction ls with
    | nil => rfl
    | cons l ls ih =>
      rw [List.map_cons, List.sum_cons, ih, length_pieces, List.map_cons, List.sum_cons,
        List.length_cons]
      omega
  rw [hcount, List.length_take, Nat.min_eq_left (by omega)] at hsum
  exact ⟨i, j, hi, by omega, hpiece⟩

/-- A line of the diagnostic is the parser's line of that number exactly if no line up to it
holds a foreign break. -/
theorem PieceAt.whole_iff {s : String} {number i j : Nat} {text : String}
    (h : PieceAt s number i j text) :
    (i + 1 = number ∧ (parserLines s)[i]? = some text)
      ↔ ∀ line ∈ (parserLines s).take number, foreignBreaks line = 0 := by
  obtain ⟨hi, hnumber, hpiece⟩ := h
  rw [List.getElem?_eq_getElem hi, Option.some_inj]
  constructor
  · rintro ⟨hline, htext⟩ line hmem
    have hsum : (((parserLines s).take i).map foreignBreaks).sum = 0 := by omega
    rw [← hline, List.take_succ_eq_append_getElem hi, List.mem_append, List.mem_singleton] at hmem
    rcases hmem with hmem | rfl
    · exact List.sum_eq_zero_iff_forall_eq_nat.mp hsum _ (List.mem_map_of_mem hmem)
    · rw [htext]
      exact foreignBreaks_of_mem_pieces (List.mem_of_getElem? hpiece)
  · intro hnone
    have hlt : i < number := by omega
    have hself : foreignBreaks (parserLines s)[i] = 0 :=
      hnone _ (List.mem_of_getElem? (by rw [List.getElem?_take_of_lt hlt]; simp))
    have hsum : (((parserLines s).take i).map foreignBreaks).sum = 0 := by
      rw [List.sum_eq_zero_iff_forall_eq_nat]
      intro n hn
      obtain ⟨line, hmem, rfl⟩ := List.mem_map.mp hn
      exact hnone line (List.take_subset_take_left _ (Nat.le_of_lt hlt) hmem)
    rw [pieces_of_foreignBreaks_eq_zero hself, List.getElem?_singleton] at hpiece
    split at hpiece
    · exact ⟨by omega, Option.some.inj hpiece⟩
    · simp at hpiece

end SourceLoader.Text
