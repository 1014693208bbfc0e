import SourceLoader.Syntax.Lexer

/-!
# Names stay names when they are normalised

Normalisation takes the characters of a name apart and puts them together again. Each step yields
only what can stand in a name (`Unicode.isNamePart_of_mem_normalize`), so no other character gets
into a name that the lexer has read (`Text.not_mem_normalizeName`). A name that is imported is
therefore a single word, never a path or a star.
-/

namespace SourceLoader.Text.Unicode

variable {a b c d : Nat} {cs marks : List Nat}

theorem isNamePart_of_le (h : 128 ≤ c) : isNamePart c = true := by
  simp [isNamePart, h]

/-! ## One character -/

theorem isNamePart_of_mem_decompose (hc : isNamePart c = true) (hd : d ∈ decompose c) :
    isNamePart d = true := by
  unfold decompose at hd
  split at hd
  · -- a Hangul syllable is taken apart into letters
    refine isNamePart_of_le ?_
    dsimp only at hd
    split at hd <;> simp only [List.mem_cons, List.not_mem_nil, or_false] at hd <;> omega
  · cases hparts : (decompositions.get? c).filter fun parts => parts.all isNamePart with
    | none =>
        rw [hparts, Option.getD_none, List.mem_singleton] at hd
        exact hd ▸ hc
    | some parts =>
        rw [hparts, Option.getD_some] at hd
        exact List.all_eq_true.mp (Option.filter_eq_some_iff.mp hparts).2 d hd

theorem isNamePart_of_composite? (h : composite? a b = some c) : isNamePart c = true := by
  unfold composite? at h
  split at h
  · rw [← Option.some.inj h]
    exact isNamePart_of_le (by unfold hangulBase; omega)
  · split at h
    · next hsyllable =>
      rw [← Option.some.inj h]
      exact isNamePart_of_le (by unfold hangulBase at hsyllable; omega)
    · exact (Option.filter_eq_some_iff.mp h).2

/-! ## Texts -/

theorem mem_insertMark : d ∈ insertMark c marks ↔ d = c ∨ d ∈ marks := by
  induction marks with
  | nil => simp [insertMark]
  | cons m marks ih =>
      rw [insertMark]
      split
      · rw [List.mem_cons, ih, List.mem_cons, or_left_comm]
      · rw [List.mem_cons]

/-- Sorting loses nothing and adds nothing. -/
theorem mem_sortMarks : d ∈ sortMarks marks cs ↔ d ∈ marks ∨ d ∈ cs := by
  induction cs generalizing marks with
  | nil => simp [sortMarks]
  | cons c cs ih =>
      rw [sortMarks]
      split
      · simp [ih]
      · rw [ih, mem_insertMark, List.mem_cons, or_assoc, or_left_comm]

/-- Of a starter, the marks behind it and the rest, all may stand in a name. -/
theorem isNamePart_of_mem_composeFrom (hstarter : isNamePart a = true)
    (hmarks : ∀ m ∈ marks, isNamePart m = true) (hcs : ∀ c ∈ cs, isNamePart c = true) :
    ∀ d ∈ composeFrom a marks cs, isNamePart d = true := by
  induction cs generalizing a marks with
  | nil =>
      intro d hd
      rcases List.mem_cons.mp hd with rfl | hd
      · exact hstarter
      · exact hmarks d (List.mem_reverse.mp hd)
  | cons c cs ih =>
      have hc := hcs c List.mem_cons_self
      have hrest : ∀ c ∈ cs, isNamePart c = true := fun c hc => hcs c (List.mem_cons_of_mem _ hc)
      unfold composeFrom
      extract_lets blocked
      clear_value blocked
      split
      · next whole hwhole =>
        obtain ⟨-, hwhole⟩ := Option.ite_none_left_eq_some.mp hwhole
        exact ih (isNamePart_of_composite? hwhole) hmarks hrest
      · split
        · intro d hd
          rcases List.mem_cons.mp hd with rfl | hd
          · exact hstarter
          · rcases List.mem_append.mp hd with hd | hd
            · exact hmarks d (List.mem_reverse.mp hd)
            · exact ih hc (fun m hm => absurd hm List.not_mem_nil) hrest d hd
        · exact ih hstarter (List.forall_mem_cons.mpr ⟨hc, hmarks⟩) hrest

theorem isNamePart_of_mem_compose (hcs : ∀ c ∈ cs, isNamePart c = true) :
    ∀ d ∈ compose cs, isNamePart d = true := by
  induction cs with
  | nil => exact hcs
  | cons c cs ih =>
      obtain ⟨hc, hrest⟩ := List.forall_mem_cons.mp hcs
      rw [compose]
      split
      · exact isNamePart_of_mem_composeFrom hc (fun m hm => absurd hm List.not_mem_nil) hrest
      · exact List.forall_mem_cons.mpr ⟨hc, ih hrest⟩

/-- **What may stand in a name still does when it is normalised.** -/
theorem isNamePart_of_mem_normalize (hcs : ∀ c ∈ cs, isNamePart c = true) :
    ∀ d ∈ normalize cs, isNamePart d = true := by
  refine isNamePart_of_mem_compose fun d hd => ?_
  obtain ⟨c, hc, hd⟩ := List.mem_flatMap.mp ((mem_sortMarks.mp hd).resolve_left List.not_mem_nil)
  exact isNamePart_of_mem_decompose (hcs c hc) hd

/-! ## The characters of a name as the lexer reads it -/

theorem isUpper_iff_toNat {c : Char} :
    c.isUpper = true ↔ 'A'.toNat ≤ c.toNat ∧ c.toNat ≤ 'Z'.toNat :=
  decide_eq_true_iff

theorem isLower_iff_toNat {c : Char} :
    c.isLower = true ↔ 'a'.toNat ≤ c.toNat ∧ c.toNat ≤ 'z'.toNat :=
  Bool.and_eq_true_iff.trans (and_congr decide_eq_true_iff decide_eq_true_iff)

theorem isAlpha_iff {c : Char} : c.isAlpha = true ↔ c.isUpper = true ∨ c.isLower = true :=
  Bool.or_eq_true_iff

/-- The lexer takes for characters of names only what may stand in one. -/
theorem isNamePart_of_continuesName {c : Char} (h : Lexer.continuesName c = true) :
    isNamePart c.toNat = true := by
  simp only [Lexer.continuesName, Lexer.startsName, Bool.or_eq_true, decide_eq_true_eq,
    isAlpha_iff, isUpper_iff_toNat, isLower_iff_toNat, Char.isDigit_iff_toNat] at h
  simp only [isNamePart, Bool.or_eq_true, Bool.and_eq_true, decide_eq_true_eq]
  rcases h with (((hupper | hlower) | rfl) | hbeyond) | hdigit
  · exact .inl (.inr hupper)
  · exact .inr hlower
  · decide
  · exact .inl (.inl (.inl (.inl hbeyond)))
  · exact .inl (.inl (.inr hdigit))

end SourceLoader.Text.Unicode

namespace SourceLoader.Text

/-- A number that is no code point becomes the character zero. -/
theorem toNat_ofNat {n : Nat} (h : (Char.ofNat n).toNat ≠ 0) : (Char.ofNat n).toNat = n := by
  by_cases hvalid : n.isValidChar
  · have hpos : Char.ofNat n = Char.ofNatAux n hvalid := dif_pos hvalid
    exact congrArg Char.toNat hpos
  · have hneg : Char.ofNat n = '\x00' := dif_neg hvalid
    exact absurd (congrArg Char.toNat hneg) h

/-- **No character that cannot stand in a name gets into one.** -/
theorem not_mem_normalizeName {s : String} {d : Char}
    (hs : ∀ c ∈ s.toList, Lexer.continuesName c = true) (hd : Unicode.isNamePart d.toNat = false)
    (hzero : d.toNat ≠ 0) : d ∉ (normalizeName s).toList := by
  have hparts : ∀ c ∈ ofString s, Unicode.isNamePart c = true := by
    intro c hc
    obtain ⟨char, hchar, rfl⟩ := List.mem_map.mp hc
    exact Unicode.isNamePart_of_continuesName (hs char hchar)
  unfold normalizeName
  split
  · intro hmem
    rw [hparts _ (List.mem_map_of_mem hmem)] at hd
    cases hd
  · rw [String.toList_ofList]
    intro hmem
    obtain ⟨n, hn, rfl⟩ := List.mem_map.mp hmem
    rw [toNat_ofNat hzero, Unicode.isNamePart_of_mem_normalize hparts n hn] at hd
    cases hd

end SourceLoader.Text
