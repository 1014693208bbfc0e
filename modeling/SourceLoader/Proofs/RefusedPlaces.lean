import SourceLoader.Compile.Transform
import SourceLoader.Proofs.Frames
import SourceLoader.Proofs.Marks.Rules
import SourceLoader.Proofs.Rebuilt
import SourceLoader.Proofs.RenamedLowered
import SourceLoader.Proofs.TokenPlaces

/-!
# Where refused imports stand

A diagnostic for an import that cannot be lowered should point at the first character of the
statement. The place comes a long way: from the lexer over the tree to the error, and then the
diagnostic counts lines and columns by itself.

**From the lexer to the tree.** An import is read from its keyword on (`Laid.imports`), and the
keyword stands in the source where it says (`TokenAt.standsIn`). The marks say nothing of what is
inside of f-strings, but no import stands there (`unquoted_of_isWellFormed`).

**From the tree to the error.** The line is the parser's, but the column of a node counts bytes, and
the error takes it for one that counts characters. They are the same exactly behind characters of
ASCII (`byteSize_eq_length_iff`). The text is looked up among the lines of a diagnostic
(`PieceAt.whole_iff` says when this is the line of the parser).

**From the error to the diagnostic.** The caret stands under the column of the offset, or behind the
text if there is no such column. So it stands under the keyword exactly in these cases
(`Refused.caret_iff`).
-/

namespace SourceLoader

/-! ## Imports begin with a keyword -/

open Dependencies (Unquoted)

/-- No import stands below what holds no statements. -/
theorem Tree.imports_eq_nil {t : Tree} (hformed : t.isWellFormed = true)
    (hholds : t.category.holdsStatements = false) : t.imports = [] := by
  induction t using Tree.induction with
  | h t ih =>
    obtain ⟨k, s, fs⟩ := t
    have hown : k.isImport = false := by
      cases k <;> first | rfl | cases hholds
    rw [Tree.imports_eq, if_neg (by simp [Tree.kind, hown])]
    refine List.flatMap_eq_nil_iff.mpr fun c hc => ?_
    obtain ⟨f, hf, hcf⟩ := List.mem_flatten.mp hc
    obtain ⟨slot, hslot, hfilled⟩ :=
      Slot.AllFilled.mem ((Tree.isWellFormed_iff k s fs).mp hformed).2 f hf
    have hflat := List.all_eq_true.mp (Kind.isFlat_of_category hholds) slot hslot
    rcases hfilled.is c hcf with his | his
    · exact ih c hc his.2 (by rw [his.1]; simpa using hflat)
    · exact ih c hc his.2 (by rw [his.1]; rfl)

/-- F-strings hold expressions, and those hold no imports. -/
theorem unquoted_of_isWellFormed {t : Tree} (h : t.isWellFormed = true) : Unquoted t := by
  intro n hn hkind
  refine Tree.imports_eq_nil (Tree.isWellFormed_of_mem_nodes t h n hn) ?_
  rw [Tree.category, hkind]
  rfl

/-- An import of a source begins, at its place, with the keyword of imports. -/
theorem Source.import_standsIn {source : String} {t n : Tree} {warnings : List Warning}
    (h : Source.parse source = .ok (t, warnings)) (hn : n ∈ t.nodes)
    (himport : n.kind.isImport = true) :
    ∃ token : Token, token.StandsIn (Lexer.ofSource source).rest
      ∧ (token.text = "import" ∨ token.text = "from") ∧ token.start = n.start := by
  obtain ⟨j, hlaid⟩ := Source.parse_laid h true
  have hunquoted := unquoted_of_isWellFormed (Source.parse_is h).2
  obtain ⟨k, token, htoken, hkind, htext, hstart⟩ :=
    hlaid.imports hunquoted n (List.mem_filter.mpr ⟨hn, himport⟩)
  refine ⟨token, htoken.standsIn (Lexer.ofSource_standsIn source) ?_, htext, hstart⟩
  rw [Token.isName, hkind]

end SourceLoader

namespace SourceLoader.Text

/-! ## The line of a place -/

theorem lastLine_spec (cs : List Char) :
    '\n' ∉ lastLine cs
      ∧ (cs.count '\n' = 0 ∧ cs = lastLine cs
        ∨ ∃ above, cs.count '\n' = above.count '\n' + 1 ∧ cs = above ++ '\n' :: lastLine cs) := by
  induction cs using List.reverseRecOn with
  | nil => exact ⟨by simp, .inl ⟨rfl, rfl⟩⟩
  | append_singleton cs c ih =>
    obtain ⟨hnone, hcs⟩ := ih
    rw [lastLine_concat]
    by_cases hc : c = '\n'
    · rw [if_pos hc, hc]
      exact ⟨by simp, .inr ⟨cs, by simp, rfl⟩⟩
    · rw [if_neg hc]
      have hcount : (cs ++ [c]).count '\n' = cs.count '\n' := by
        rw [List.count_append, List.count_singleton, if_neg (by simpa using hc), Nat.add_zero]
      refine ⟨by simpa using ⟨hnone, fun h => hc h.symm⟩, ?_⟩
      rcases hcs with ⟨hzero, heq⟩ | ⟨above, hsucc, heq⟩
      · exact .inl ⟨hcount.trans hzero, by rw [← heq]⟩
      · refine .inr ⟨above, hcount.trans hsucc, ?_⟩
        rw [← List.cons_append, ← List.append_assoc, ← heq]

/-- Up to a line end nothing is cut. -/
theorem splitOnP_head {p : Char → Bool} {word : List Char} (hword : ∀ c ∈ word, p c = false)
    (rest : List Char) :
    ∃ behind parts, (word ++ rest).splitOnP p = (word ++ behind) :: parts := by
  induction word with
  | nil =>
    obtain ⟨behind, parts, hparts⟩ :=
      List.exists_cons_of_ne_nil (List.splitOnP_ne_nil p rest)
    exact ⟨behind, parts, hparts⟩
  | cons c word ih =>
    obtain ⟨behind, parts, hparts⟩ := ih fun d hd => hword d (by simp [hd])
    refine ⟨behind, parts, ?_⟩
    rw [List.cons_append, List.splitOnP_cons_eq_if_modifyHead,
      if_neg (by simp [hword c (by simp)]), hparts]
    rfl

/-- A word that stands in a text stands on a line of the parser: the one behind as many line ends,
and behind the same part of it. -/
theorem getElem?_parserLines {s : String} {before word after : List Char}
    (hsplit : unifyNewlines s.toList = before ++ word ++ after) (hword : word ≠ [])
    (hline : '\n' ∉ word) :
    ∃ line, (parserLines s)[before.count '\n']? = some line
      ∧ lastLine before ++ word <+: line.toList := by
  obtain ⟨hnone, hbefore⟩ := lastLine_spec before
  have hclear : ∀ c ∈ lastLine before ++ word, (c == '\n') = false := by
    intro c hc
    rw [beq_eq_false_iff_ne]
    rintro rfl
    exact (List.mem_append.mp hc).elim hnone hline
  obtain ⟨behind, parts, hparts⟩ := splitOnP_head hclear after
  have hcut : ∃ above, above.length = before.count '\n'
      ∧ (unifyNewlines s.toList).splitOnP (· == '\n')
        = above ++ (lastLine before ++ word ++ behind) :: parts := by
    rcases hbefore with ⟨hzero, heq⟩ | ⟨above, hsucc, heq⟩
    · refine ⟨[], hzero.symm, ?_⟩
      rw [hsplit]
      conv_lhs => rw [heq]
      rw [hparts]
      rfl
    · refine ⟨above.splitOnP (· == '\n'), ?_, ?_⟩
      · rw [length_splitOnP, hsucc, List.count]
      · rw [hsplit]
        conv_lhs => rw [heq]
        rw [List.append_assoc, List.append_assoc, List.cons_append,
          List.splitOnP_append_cons _ _ (by simp), ← List.append_assoc, hparts]
  obtain ⟨above, hlength, hcut⟩ := hcut
  have hfound : (dropOpenEnd ((unifyNewlines s.toList).splitOnP (· == '\n')))[before.count '\n']?
      = some (lastLine before ++ word ++ behind) := by
    refine getElem?_dropOpenEnd ?_ (by simp [hword])
    rw [hcut, ← hlength, List.getElem?_append_right (Nat.le_refl _), Nat.sub_self]
    rfl
  refine ⟨String.ofList (lastLine before ++ word ++ behind), ?_, ?_⟩
  · unfold parserLines
    generalize dropOpenEnd ((unifyNewlines s.toList).splitOnP (· == '\n')) = lines at hfound
    cases lines with
    | nil => simp at hfound
    | cons line lines => rw [List.getElem?_map, hfound, Option.map_some]
  · rw [String.toList_ofList]
    exact List.prefix_append _ _

end SourceLoader.Text

namespace SourceLoader.Text

/-! ## Bytes and characters -/

theorem length_le_byteSize (cs : List Char) : cs.length ≤ byteSize cs := by
  induction cs with
  | nil => exact Nat.le_refl _
  | cons c cs ih =>
    have := c.utf8Size_pos
    simp only [byteSize, List.map_cons, List.sum_cons, List.length_cons] at ih ⊢
    omega

/-- Bytes and characters are as many exactly if all characters are from ASCII. -/
theorem byteSize_eq_length_iff (cs : List Char) :
    byteSize cs = cs.length ↔ ∀ c ∈ cs, c.toNat < 128 := by
  induction cs with
  | nil => simp [byteSize]
  | cons c cs ih =>
    have hpos := c.utf8Size_pos
    have hle := length_le_byteSize cs
    have hone : c.utf8Size = 1 ↔ c.toNat < 128 := by
      rw [Char.utf8Size_eq_one_iff, UInt32.le_iff_toNat_le]
      exact Nat.lt_succ_iff.symm
    rw [List.forall_mem_cons, ← ih, ← hone]
    simp only [byteSize, List.map_cons, List.sum_cons, List.length_cons] at hle ⊢
    omega

end SourceLoader.Text

namespace SourceLoader.Lowering

open Text Diagnostic

/-! ## The error of an import -/

/-- What the error of an import says that stands behind `before` and begins with `word`. -/
structure Refused (source : String) (e : SyntaxError) (before word after : List Char) : Prop where
  /-- The statement stands there, and this is its keyword. -/
  split : unifyNewlines source.toList = before ++ word ++ after
  keyword : word = "import".toList ∨ word = "from".toList
  /-- The line is that of the parser. -/
  line_eq : e.line = some ((before.count '\n' + 1 : Nat) : Int)
  /-- The offset counts the bytes before the statement on its line. -/
  offset_eq : e.offset = some ((byteSize (lastLine before) + 1 : Nat) : Int)
  /-- So it is the column exactly if these are as many as the characters. -/
  offset_iff : e.offset = some (((lastLine before).length + 1 : Nat) : Int)
    ↔ ∀ c ∈ lastLine before, c.toNat < 128
  /-- The text is that line of a diagnostic. It is the parser's exactly if no line up to it holds a
  foreign break. -/
  text_eq : ∃ i j text, e.text = some text ∧ PieceAt source (before.count '\n' + 1) i j text
    ∧ ((i = before.count '\n' ∧ (parserLines source)[i]? = some text)
      ↔ ∀ line ∈ (parserLines source).take (before.count '\n' + 1), foreignBreaks line = 0)
  /-- The diagnostic marks that line, and the caret stands under the column of the offset. -/
  report_eq : ∀ req : CompileRequest, req.source = source → ∀ step,
    ∃ (rows : List String) (width : Nat) (caret : String) (log : Effect),
      Compile.report req step e = Compile.toSink req ["error", step,
        String.join (("" :: req.file :: (rows.take
            (before.count '\n' + 2 - firstShown (before.count '\n' + 1))
          ++ (caret ++ "^ " ++ e.fault.message) :: rows.drop
            (before.count '\n' + 2 - firstShown (before.count '\n' + 1)))).map (· ++ "\n"))]
        ++ [log]
      ∧ Framed (sourceLines source) (before.count '\n' + 1) (byteSize (lastLine before) + 1) width
        rows caret
  /-- On the parser's line the statement begins with its keyword behind the characters before it, and
  the column of the caret is that of the keyword exactly if these are all from ASCII. -/
  caret_iff : (∀ line ∈ (parserLines source).take (before.count '\n' + 1), foreignBreaks line = 0) →
    ∀ text, e.text = some text → lastLine before ++ word <+: text.toList
      ∧ (min (byteSize (lastLine before) + 1) (text.length + 1) = (lastLine before).length + 1
        ↔ ∀ c ∈ lastLine before, c.toNat < 128)

theorem keyword_ne_nil {word : List Char} (h : word = "import".toList ∨ word = "from".toList) :
    word ≠ [] ∧ '\n' ∉ word := by
  rcases h with rfl | rfl <;> decide

/-- The text of an error is the line of the diagnostic. -/
theorem text_refuse {source file : String} {span : Span} {line : Nat} (fault : Fault)
    (hspan : span.line = line + 1) (hsome : unifyNewlines source.toList ≠ []) :
    (refuse ⟨file, source⟩ (some span) fault).text = (sourceLines source)[line]? := by
  have hlines : sourceLines source = splitLines source := by
    unfold sourceLines
    split
    · next hnil => exact absurd hnil (splitLines_ne_nil hsome)
    · rfl
  simp only [refuse, Option.getD_some, hspan, Nat.succ_ne_zero, if_false, hlines,
    Nat.add_sub_cancel]

theorem refused_of_split {source file : String} {span : Span} {fault : Fault}
    {before word after : List Char}
    (hsplit : unifyNewlines source.toList = before ++ word ++ after)
    (hkeyword : word = "import".toList ∨ word = "from".toList)
    (hline : span.line = before.count '\n' + 1)
    (hcolumn : span.column = byteSize (lastLine before)) :
    Refused source (refuse ⟨file, source⟩ (some span) fault) before word after := by
  obtain ⟨hword, hword'⟩ := keyword_ne_nil hkeyword
  have hsome : unifyNewlines source.toList ≠ [] := by simp [hsplit, hword]
  obtain ⟨line, hparsed, hpre⟩ := getElem?_parserLines hsplit hword hword'
  have hlt : before.count '\n' < (parserLines source).length := (List.getElem?_eq_some_iff.mp hparsed).1
  have hshown : before.count '\n' < (sourceLines source).length :=
    Nat.lt_of_lt_of_le hlt (sourceLines_flatMap_pieces source).2
  have htext : (refuse ⟨file, source⟩ (some span) fault).text
      = some (sourceLines source)[before.count '\n'] := by
    rw [text_refuse fault hline hsome, List.getElem?_eq_getElem hshown]
  have hrefusedLine : (refuse ⟨file, source⟩ (some span) fault).line
      = some ((before.count '\n' + 1 : Nat) : Int) := by
    simp [refuse, hline]
  have hoffset : (refuse ⟨file, source⟩ (some span) fault).offset
      = some ((byteSize (lastLine before) + 1 : Nat) : Int) := by
    simp [refuse, hcolumn]
  obtain ⟨i, j, hpiece⟩ := exists_piece hshown
  have hwhole : (i = before.count '\n' ∧ (parserLines source)[i]?
        = some (sourceLines source)[before.count '\n'])
      ↔ ∀ line ∈ (parserLines source).take (before.count '\n' + 1), foreignBreaks line = 0 := by
    rw [← hpiece.whole_iff, Nat.succ_inj]
  refine ⟨hsplit, hkeyword, hrefusedLine, hoffset, ?_, ⟨i, j, _, htext, hpiece, hwhole⟩, ?_, ?_⟩
  · rw [hoffset, ← byteSize_eq_length_iff, Option.some_inj]
    omega
  · rintro req rfl step
    obtain ⟨rows, width, caret, hformat, hframed⟩ := format_framed
      (refuse ⟨file, req.source⟩ (some span) fault).fault.message req.file req.source
      ((before.count '\n' + 1 : Nat) : Int) ((byteSize (lastLine before) + 1 : Nat) : Int)
    rw [markedLine_of_le (Nat.succ_pos _) hshown] at hformat hframed
    have hcolumn : (max ((byteSize (lastLine before) + 1 : Nat) : Int) 1).toNat
        = byteSize (lastLine before) + 1 := by omega
    rw [hcolumn] at hframed
    refine ⟨rows, width, caret, ?log, ?report, hframed⟩
    case report =>
      rw [← hformat, Compile.report, hrefusedLine, hoffset]
      rfl
  · intro hnone text htext'
    rw [htext'] at htext
    cases htext
    obtain ⟨rfl, hsame⟩ := hwhole.mpr hnone
    rw [hparsed] at hsame
    cases hsame
    refine ⟨hpre, ?_⟩
    have hlength := hpre.length_le
    have hpos := List.length_pos_of_ne_nil hword
    have hbytes := length_le_byteSize (lastLine before)
    rw [List.length_append, String.length_toList] at hlength
    rw [← byteSize_eq_length_iff]
    omega

/-- A fault is one of an import, which has a place. -/
theorem isImport_of_fault? {n : Tree} {fault : Fault} (h : fault? n = some fault) :
    n.kind.isImport = true ∧ n.kind.hasSpan = true := by
  unfold fault? at h
  split at h
  · exact ⟨rfl, rfl⟩
  · exact ⟨rfl, rfl⟩
  · cases h

/-- The line end that the lexer adds to a source is behind its words. -/
theorem split_of_ofSource {source : String} {before word after : List Char}
    (h : (Lexer.ofSource source).rest = before ++ word ++ after) (hword : word ≠ [])
    (hline : '\n' ∉ word) : ∃ after', unifyNewlines source.toList = before ++ word ++ after' := by
  simp only [Lexer.ofSource] at h
  split at h
  · exact ⟨after, h⟩
  · obtain ⟨after', last, rfl⟩ : ∃ after' last, after = after' ++ [last] := by
      refine ⟨_, _, (List.dropLast_concat_getLast ?_).symm⟩
      rintro rfl
      obtain ⟨init, last, rfl⟩ : ∃ init last, word = init ++ [last] :=
        ⟨_, _, (List.dropLast_concat_getLast hword).symm⟩
      rw [List.append_nil, ← List.append_assoc] at h
      obtain rfl := (List.cons.inj (List.append_inj' h rfl).2).1
      exact hline (by simp)
    rw [← List.append_assoc] at h
    exact ⟨after', (List.append_inj' h rfl).1⟩

/-- **Where a refused import stands.** The error comes from a statement of the source that has a
fault. It names the statement's line as the parser counts, for the column the bytes before it, and for
the text the line of that number as a diagnostic counts. Renaming dynamic imports before changes
nothing of it. -/
theorem refused_at {source file : String} {t : Tree} {warnings : List Warning} {e : SyntaxError}
    (hparse : Source.parse source = .ok (t, warnings))
    (hlower : lower ⟨file, source⟩ t = .error e
      ∨ lower ⟨file, source⟩ (DynamicImport.rename t) = .error e) :
    ∃ n ∈ t.nodes, ∃ before word after, fault? n = some e.fault ∧ e.file = some file
      ∧ n.start = toLex (before.count '\n' + 1, byteSize (lastLine before))
      ∧ Refused source e before word after := by
  have his := Source.parse_is hparse
  have hfirst : lower ⟨file, source⟩ t = .error e := by
    refine hlower.elim id fun hrenamed => ?_
    rw [DynamicImport.rename_eq_renamed (Tree.placed_of_isWellFormed his.2), lower,
      DynamicImport.lowerTree_renamed t his.2] at hrenamed
    cases hresult : lower ⟨file, source⟩ t with
    | error e' =>
      rw [lower] at hresult
      rw [hresult] at hrenamed
      exact hrenamed
    | ok t' =>
      rw [lower] at hresult
      rw [hresult] at hrenamed
      cases hrenamed
  have hanswers := lower_answers ⟨file, source⟩ his
  rw [hfirst] at hanswers
  cases hrefusal : firstRefusal? ⟨file, source⟩ t.nodes with
  | none =>
    rw [hrefusal] at hanswers
    obtain ⟨t', hok, -⟩ := hanswers
    cases hok
  | some e' =>
    rw [hrefusal] at hanswers
    cases hanswers
    obtain ⟨_, n, _, fault, hnodes, -, hfault, rfl⟩ := (firstRefusal?_eq_some_iff _ _).mp hrefusal
    have hn : n ∈ t.nodes := by simp [hnodes]
    obtain ⟨himport, hhas⟩ := isImport_of_fault? hfault
    obtain ⟨token, ⟨before, after, hsplit, hline, hcolumn⟩, htext, hstart⟩ :=
      Source.import_standsIn hparse hn himport
    have hkeyword : token.text.toList = "import".toList ∨ token.text.toList = "from".toList :=
      htext.imp (congrArg String.toList) (congrArg String.toList)
    obtain ⟨hword, hword'⟩ := keyword_ne_nil hkeyword
    obtain ⟨after', hsource⟩ := split_of_ofSource hsplit hword hword'
    have hplace : n.start = toLex (before.count '\n' + 1, byteSize (lastLine before)) := by
      rw [← hstart, Token.start, hline, hcolumn, Option.getD_some]
    obtain ⟨span, hspan⟩ : ∃ span, n.span? = some span := by
      rw [← Option.isSome_iff_exists, Tree.placed_of_isWellFormed his.2 n hn, hhas]
    have hstart' : (span.line, span.column) = (before.count '\n' + 1, byteSize (lastLine before)) := by
      have := hplace
      rw [Tree.start, Tree.span, hspan, Option.getD_some] at this
      exact toLex.injective this
    obtain ⟨hspanLine, hspanColumn⟩ := Prod.mk.inj hstart'
    rw [hspan]
    exact ⟨n, hn, before, _, after', hfault, rfl, hplace,
      refused_of_split hsource hkeyword hspanLine hspanColumn⟩

/-- An import behind a letter of two bytes. -/
def accented : String := "x = '\u00e9'; import a.b\n"

/-- The tree of a source and the error with which its lowering is refused, told of the source. -/
def refusedIn? (file source : String) : Option (Tree × SyntaxError) :=
  match Source.parse source with
  | .ok (t, _) =>
    match lower ⟨file, source⟩ t with
    | .ok _ => none
    | .error e => some (t, e)
  | .error _ => none

/-- The offset is 11, and the statement begins at column 10. -/
theorem refused_at_accented :
    ∃ t warnings e, Source.parse accented = .ok (t, warnings)
      ∧ lower ⟨"/a.py", accented⟩ t = .error e
      ∧ e.offset = some 11
      ∧ ∃ n ∈ t.nodes, ∃ before word after, fault? n = some e.fault ∧ e.file = some "/a.py"
        ∧ n.start = toLex (before.count '\n' + 1, byteSize (lastLine before))
        ∧ Refused accented e before word after := by
  have hoffset : (refusedIn? "/a.py" accented).map (fun found => found.2.offset)
      = some (some 11) := by decide +kernel
  obtain ⟨⟨t, e⟩, hrefused, heleven⟩ := Option.map_eq_some_iff.mp hoffset
  unfold refusedIn? at hrefused
  split at hrefused
  · next u warnings hparse =>
    split at hrefused
    · cases hrefused
    · next hlower =>
      cases hrefused
      exact ⟨t, warnings, e, hparse, hlower, heleven, refused_at hparse (.inl hlower)⟩
  · cases hrefused

end SourceLoader.Lowering
