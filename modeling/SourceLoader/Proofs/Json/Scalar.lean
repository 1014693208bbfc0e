import SourceLoader.Json.Reading
import SourceLoader.Json.Writing

/-!
# Texts and numbers in JSON

A character that is written between quotes is read again: most as themselves, some after a
backslash with a letter or with the digits of a UTF-16 unit, and those outside of the first plane
as two units. The readers take fuel for each character, and no character is written as nothing, so
the length of the text is fuel enough.

The digits of a number are read up to the first character behind it that is no digit; behind a
value stands a comma, the end of something or nothing.
-/

namespace SourceLoader

/-! ## Digits -/

namespace Number

open Text.Unicode (hexDigit?)

theorem hexDigit?_digitChar : ∀ d < 16, hexDigit? d.digitChar = some d := by decide

theorem ofDigits_concat (base : Nat) (cs : List Char) {c : Char} {d : Nat}
    (hc : hexDigit? c = some d) : ofDigits base (cs ++ [c]) = ofDigits base cs * base + d := by
  simp only [ofDigits, List.foldl_append, List.foldl_cons, List.foldl_nil, hc]

section Digits

variable {b : Nat} (hbase : 1 < b) (hle : b ≤ 16)

include hbase hle

/-- **The digits of a number stand for it.** -/
theorem ofDigits_toDigits (n : Nat) : ofDigits b (Nat.toDigits b n) = n := by
  induction n using Nat.strongRecOn with
  | ind n ih =>
      rw [Nat.toDigits_eq_if hbase]
      split
      · have hdigit := ofDigits_concat b [] (hexDigit?_digitChar n (by omega))
        simpa [ofDigits] using hdigit
      · have hless : n / b < n := Nat.div_lt_self (by omega) hbase
        have hmod : n % b < b := Nat.mod_lt n (by omega)
        rw [ofDigits_concat _ _ (hexDigit?_digitChar _ (by omega)), ih _ hless,
          Nat.mul_comm, Nat.div_add_mod]

theorem isSome_hexDigit?_of_mem_toDigits {n : Nat} {c : Char} (hc : c ∈ Nat.toDigits b n) :
    (hexDigit? c).isSome := by
  induction n using Nat.strongRecOn with
  | ind n ih =>
      rw [Nat.toDigits_eq_if hbase] at hc
      split at hc
      · obtain rfl := List.mem_singleton.mp hc
        rw [hexDigit?_digitChar n (by omega)]
        rfl
      · rcases List.mem_append.mp hc with hc | hc
        · exact ih _ (Nat.div_lt_self (by omega) hbase) hc
        · have hmod : n % b < b := Nat.mod_lt n (by omega)
          obtain rfl := List.mem_singleton.mp hc
          rw [hexDigit?_digitChar _ (by omega)]
          rfl

/-- The first digit of a number is a zero for zero only. -/
theorem head_toDigits {n : Nat} (hn : 0 < n) :
    ∃ c cs, Nat.toDigits b n = c :: cs ∧ c ≠ '0' := by
  induction n using Nat.strongRecOn with
  | ind n ih =>
      rw [Nat.toDigits_eq_if hbase]
      split
      · exact ⟨_, [], rfl, by simpa using by omega⟩
      · obtain ⟨c, cs, heq, hc⟩ := ih (n / b) (Nat.div_lt_self (by omega) hbase)
          (Nat.div_pos (by omega) (by omega))
        exact ⟨c, _, by rw [heq]; rfl, hc⟩

end Digits

theorem ofDigits_zeros (base k : Nat) (cs : List Char) :
    ofDigits base (List.replicate k '0' ++ cs) = ofDigits base cs := by
  have hzeros : ofDigits base (List.replicate k '0') = 0 := by
    induction k with
    | zero => rfl
    | succ k ih =>
        rw [List.replicate_succ', ofDigits_concat base _ (d := 0) (by decide), ih]
        simp
  rw [ofDigits, List.foldl_append]
  rw [ofDigits] at hzeros
  rw [hzeros]
  rfl

end Number

namespace Json

open Text.Unicode (hexDigit?)

theorem toList_hex (width n : Nat) : (Text.hex width n).toList
    = List.replicate (width - (Nat.toDigits 16 n).length) '0' ++ Nat.toDigits 16 n := by
  simp [Text.hex]

/-- Four digits stand for a unit. -/
theorem unit?_hex {n : Nat} (hn : n < 0x10000) : unit? (Text.hex 4 n).toList = some n := by
  have hlength : (Nat.toDigits 16 n).length ≤ 4 :=
    (Nat.length_toDigits_le_iff (by decide) (by decide)).mpr hn
  rw [toList_hex]
  have hall : (List.replicate (4 - (Nat.toDigits 16 n).length) '0' ++ Nat.toDigits 16 n).all
      (fun c => (hexDigit? c).isSome) = true := by
    rw [List.all_append, Bool.and_eq_true, List.all_eq_true, List.all_eq_true]
    refine ⟨fun c hc => ?_, fun c hc =>
      Number.isSome_hexDigit?_of_mem_toDigits (by decide) (by decide) hc⟩
    rw [(List.mem_replicate.mp hc).2]
    decide
  have hcount : (List.replicate (4 - (Nat.toDigits 16 n).length) '0'
      ++ Nat.toDigits 16 n).length = 4 := by
    simp only [List.length_append, List.length_replicate]
    omega
  rw [unit?, hall, hcount, Number.ofDigits_zeros,
    Number.ofDigits_toDigits (by decide) (by decide)]
  rfl

theorem length_hex (width : Nat) (hwidth : 0 < width) {n : Nat} (hn : n < Nat.pow 16 width) :
    (Text.hex width n).toList.length = width := by
  have hlength : (Nat.toDigits 16 n).length ≤ width :=
    (Nat.length_toDigits_le_iff (by decide) hwidth).mpr hn
  rw [toList_hex, List.length_append, List.length_replicate]
  omega

namespace Rest

/-- What is left behind some characters. -/
theorem drop_append {cs : List Char} {n : Nat} (hn : cs.length = n) (rest : List Char)
    (place : Nat) : (⟨cs ++ rest, place⟩ : Rest).drop n = ⟨rest, place + n⟩ := by
  rw [drop, List.drop_left' hn]

end Rest

/-! ## Texts -/

/-- Enough fuel is some fuel. -/
theorem exists_fuel {length fuel : Nat} (hfuel : length < fuel) : ∃ n, fuel = n + 1 :=
  Nat.exists_eq_add_one_of_ne_zero (Nat.ne_of_gt (Nat.zero_lt_of_lt hfuel))

section Unit

variable {rest : List Char} (hrest : rest ≠ [])

include hrest

/-- The escaped unit of a character is read as the character, which is no half of a pair. -/
theorem readUnit_char {c : Char} (hc : c.toNat < 0x10000) (place : Nat) :
    readUnit ⟨(Text.hex 4 c.toNat).toList ++ rest, place⟩ = .ok (c, ⟨rest, place + 4⟩) := by
  have hlength := length_hex 4 (by decide) hc
  have hpositive := List.length_pos_iff.mpr hrest
  have hlone := Text.not_isSurrogate c
  have hchar : charOfUnit c.toNat = c := by
    rw [charOfUnit, hlone, Char.ofNat_toNat]
    rfl
  have hhigh : (0xD800 ≤ c.toNat && c.toNat ≤ 0xDBFF) = false := by
    simp only [Text.isSurrogate, Bool.and_eq_false_iff, decide_eq_false_iff_not] at hlone ⊢
    exact hlone.imp_right fun h h' => h (Nat.le_trans h' (by decide))
  simp only [readUnit, List.length_append, hlength, List.take_left' hlength, unit?_hex hc,
    Rest.drop_append hlength, hchar, hhigh, Bool.false_and]
  -- what follows may look like another unit, but there is no first half to join it to
  rw [if_neg (by omega)]
  split <;> rfl

/-- Two escaped halves of a pair are read as one character. -/
theorem readUnit_pair {v : Nat} (hv : v < 0x100000) (place : Nat) :
    readUnit ⟨(Text.hex 4 (0xD800 + v / 0x400)).toList
        ++ ('\\' :: 'u' :: (Text.hex 4 (0xDC00 + v % 0x400)).toList ++ rest), place⟩
      = .ok (Char.ofNat (0x10000 + v), ⟨rest, place + 10⟩) := by
  have hfirst : 0xD800 + v / 0x400 < 0x10000 := by omega
  have hsecond : 0xDC00 + v % 0x400 < 0x10000 := by omega
  have hlength := length_hex 4 (by decide) hfirst
  have hlength' := length_hex 4 (by decide) hsecond
  have hpositive := List.length_pos_iff.mpr hrest
  have hrange : (0xD800 ≤ 0xD800 + v / 0x400 && 0xD800 + v / 0x400 ≤ 0xDBFF) = true := by
    simp only [Bool.and_eq_true, decide_eq_true_eq]
    omega
  have hrange' : 0xDC00 ≤ 0xDC00 + v % 0x400 ∧ 0xDC00 + v % 0x400 ≤ 0xDFFF := by omega
  have hvalue : 0x10000 + (0xD800 + v / 0x400 - 0xD800) * 0x400 + (0xDC00 + v % 0x400 - 0xDC00)
      = 0x10000 + v := by
    rw [Nat.add_sub_cancel_left, Nat.add_sub_cancel_left]
    omega
  have hsix : ('\\' :: 'u' :: (Text.hex 4 (0xDC00 + v % 0x400)).toList).length = 6 := by
    simp [hlength']
  have hafter : (⟨'\\' :: 'u' :: ((Text.hex 4 (0xDC00 + v % 0x400)).toList ++ rest), place + 4⟩
      : Rest).drop 6 = ⟨rest, place + 10⟩ := Rest.drop_append hsix rest (place + 4)
  simp only [readUnit, List.length_append, hlength, List.take_left' hlength, unit?_hex hfirst,
    Rest.drop_append hlength, hrange, List.take_left' hlength', unit?_hex hsecond, hvalue, hafter,
    hlength', List.cons_append, List.length_cons, Bool.true_and, decide_eq_true_eq]
  rw [if_neg (by omega), if_pos (by omega)]
  rw [if_pos (by simpa using hrange')]

end Unit

/-- After the letter of an escaped unit the unit is read. -/
theorem readText_unit (start fuel : Nat) (read : List Char) {cs : List Char} {place : Nat}
    {c : Char} {rest : Rest} (hunit : readUnit ⟨cs, place + 2⟩ = .ok (c, rest)) :
    readText start (fuel + 1) read ⟨'\\' :: 'u' :: cs, place⟩
      = readText start fuel (c :: read) rest := by
  have hdrop : (⟨'\\' :: 'u' :: cs, place⟩ : Rest).drop 2 = ⟨cs, place + 2⟩ := rfl
  rw [readText]
  simp only [hdrop, hunit]

theorem readText_plain (start fuel : Nat) (read : List Char) {c : Char} (hquote : c ≠ '"')
    (hslash : c ≠ '\\') (hc : 32 ≤ c.toNat) (rest : List Char) (place : Nat) :
    readText start (fuel + 1) read ⟨c :: rest, place⟩
      = readText start fuel (c :: read) ⟨rest, place + 1⟩ := by
  have hdrop : (⟨c :: rest, place⟩ : Rest).drop 1 = ⟨rest, place + 1⟩ := rfl
  rw [readText]
  split
  case h_6 heq =>
    obtain ⟨rfl, rfl⟩ := List.cons.inj heq
    rw [if_neg (by omega), hdrop]
  all_goals simp_all

theorem toList_escapedUnit (n : Nat) :
    (escapedUnit n).toList = '\\' :: 'u' :: (Text.hex 4 n).toList := by
  simp [escapedUnit]

/-- A character outside of the first plane is written as a pair. -/
theorem escapedChar_pair {c : Char} {v : Nat} (hc : c.toNat = 0x10000 + v) :
    escapedChar c = escapedUnit (0xD800 + v / 0x400) ++ escapedUnit (0xDC00 + v % 0x400) := by
  have hne : ∀ d : Char, d.toNat < 0x10000 → c ≠ d := by
    rintro d hd rfl
    omega
  have hplain : (32 ≤ c.toNat && c.toNat < 127) = false := by simp; omega
  rw [escapedChar, if_neg (hne _ (by decide)), if_neg (hne _ (by decide)),
    if_neg (hne _ (by decide)), if_neg (hne _ (by decide)), if_neg (hne _ (by decide)),
    if_neg (hne _ (by decide)), if_neg (hne _ (by decide)), hplain, if_neg (by simp),
    if_neg (by omega), hc, Nat.add_sub_cancel_left]

theorem readText_pair (start fuel : Nat) (read : List Char) {c : Char} {v : Nat}
    (hc : c.toNat = 0x10000 + v) {rest : List Char} (hrest : rest ≠ []) (place : Nat) :
    readText start (fuel + 1) read ⟨(escapedChar c).toList ++ rest, place⟩
      = readText start fuel (c :: read) ⟨rest, place + (escapedChar c).toList.length⟩ := by
  have hv : v < 0x100000 := by
    rcases c.valid with hlow | ⟨_, hhigh⟩
    · exact absurd hlow (by change ¬ c.toNat < _; omega)
    · have : c.toNat < 0x110000 := hhigh
      omega
  have hread := readUnit_pair hrest hv (place + 2)
  rw [← hc, Char.ofNat_toNat] at hread
  have hfirst := length_hex 4 (by decide) (show 0xD800 + v / 0x400 < 0x10000 by omega)
  have hsecond := length_hex 4 (by decide) (show 0xDC00 + v % 0x400 < 0x10000 by omega)
  rw [escapedChar_pair hc]
  simp only [String.toList_append, toList_escapedUnit, List.cons_append, List.append_assoc,
    List.length_cons, List.length_append, hfirst, hsecond]
  simp only [List.cons_append] at hread
  rw [readText_unit start fuel read hread]

/-- A character that is written is read again. -/
theorem readText_escapedChar (start fuel : Nat) (read : List Char) (c : Char) {rest : List Char}
    (hrest : rest ≠ []) (place : Nat) :
    readText start (fuel + 1) read ⟨(escapedChar c).toList ++ rest, place⟩
      = readText start fuel (c :: read) ⟨rest, place + (escapedChar c).toList.length⟩ := by
  rcases Nat.lt_or_ge c.toNat 0x10000 with hunit | hbig
  case inr =>
    obtain ⟨v, hv⟩ := Nat.exists_eq_add_of_le hbig
    exact readText_pair start fuel read hv hrest place
  unfold escapedChar
  -- the quote, the backslash and five control characters have an escape of their own
  iterate 7
    split
    · subst c; rfl
  split
  · rename_i hquote hslash _ _ _ _ _ hplain
    have hc : 32 ≤ c.toNat ∧ c.toNat < 127 := by simpa using hplain
    simpa using readText_plain start fuel read hquote hslash hc.1 rest place
  · have hread := readUnit_char hrest hunit (place + 2)
    rw [toList_escapedUnit, List.cons_append, List.cons_append,
      readText_unit start fuel read hread, List.length_cons, List.length_cons,
      length_hex 4 (by decide) hunit]

/-- The characters of a text between its quotes. -/
def inQuotes (cs : List Char) : List Char := cs.flatMap fun c => (escapedChar c).toList

theorem escapedChar_ne_nil (c : Char) : (escapedChar c).toList ≠ [] := by
  intro hnil
  -- else a text would go on behind its closing quote
  have hread := readText_escapedChar 0 0 [] c (List.cons_ne_nil '"' []) 0
  rw [hnil] at hread
  simp [readText] at hread

theorem length_le_inQuotes (cs : List Char) : cs.length ≤ (inQuotes cs).length := by
  induction cs with
  | nil => exact Nat.le_refl _
  | cons c cs ih =>
      have hc := List.length_pos_iff.mpr (escapedChar_ne_nil c)
      rw [inQuotes, List.flatMap_cons, ← inQuotes, List.length_append, List.length_cons]
      omega

/-- Characters that are written are read again, up to the closing quote. -/
theorem readText_inQuotes (start : Nat) (cs read rest : List Char) {fuel : Nat}
    (hfuel : cs.length < fuel) (place : Nat) :
    readText start fuel read ⟨inQuotes cs ++ '"' :: rest, place⟩
      = .ok (String.ofList (read.reverse ++ cs), ⟨rest, place + (inQuotes cs).length + 1⟩) := by
  induction cs generalizing fuel read place with
  | nil =>
      obtain ⟨fuel, rfl⟩ := exists_fuel hfuel
      simp [readText, inQuotes, Rest.drop]
  | cons c cs ih =>
      obtain ⟨fuel, rfl⟩ := exists_fuel hfuel
      have hcons : inQuotes (c :: cs) = (escapedChar c).toList ++ inQuotes cs := rfl
      rw [hcons, List.append_assoc, readText_escapedChar _ _ _ _ (by simp),
        ih _ (by simpa using hfuel)]
      simp [Nat.add_assoc]

theorem toList_quoted (s : String) : (quoted s).toList = '"' :: (inQuotes s.toList ++ ['"']) := by
  simp [quoted, inQuotes, List.flatMap_map]

/-- A text is read up to its closing quote. -/
theorem readText_quoted (s : String) (rest : List Char) (start place : Nat) :
    readText start ((inQuotes s.toList ++ '"' :: rest).length + 1) []
        ⟨inQuotes s.toList ++ '"' :: rest, place⟩
      = .ok (s, ⟨rest, place + (inQuotes s.toList).length + 1⟩) := by
  have hlength := length_le_inQuotes s.toList
  rw [readText_inQuotes start s.toList [] rest (by rw [List.length_append]; omega) place]
  simp

/-! ## Numbers -/

/-- What may stand behind a value. -/
def Stops (rest : List Char) : Prop :=
  ∀ c, rest.head? = some c → c = ',' ∨ c = ']' ∨ c = '\x7d'

theorem stops_nil : Stops [] := fun _ h => by cases h

theorem stops_cons {c : Char} (hc : c = ',' ∨ c = ']' ∨ c = '\x7d') (rest : List Char) :
    Stops (c :: rest) := by
  rintro d ⟨⟩
  exact hc

theorem length_toDigits_le {n k : Nat} (hk : 0 < k) (hn : n < Nat.pow 10 k) :
    ¬ (Nat.toDigits 10 n).length > k :=
  Nat.not_lt.mpr ((Nat.length_toDigits_le_iff (by decide) hk).mpr hn)

/-- A number begins with a digit. -/
theorem exists_toDigits (n : Nat) :
    ∃ c cs, Nat.toDigits 10 n = c :: cs ∧ c.isDigit = true := by
  obtain ⟨c, cs, heq⟩ := List.exists_cons_of_ne_nil (Nat.toDigits_ne_nil (n := n) (b := 10))
  have hmem : c ∈ Nat.toDigits 10 n := heq ▸ List.mem_cons_self
  exact ⟨c, cs, heq, Nat.isDigit_of_mem_toDigits (by decide) (by decide) hmem⟩

theorem toList_negSucc (n : Nat) :
    (toString (Int.negSucc n)).toList = '-' :: Nat.toDigits 10 (n + 1) := by
  rw [Int.toString_eq_repr, Int.repr_eq_if]
  simp [Int.neg_negSucc]

/-- The digits of a number do not begin with a sign. -/
theorem toDigits_append_ne (n : Nat) (rest tail : List Char) :
    Nat.toDigits 10 n ++ rest ≠ '-' :: tail := by
  intro h
  obtain ⟨c, cs, heq, hc⟩ := exists_toDigits n
  rw [heq, List.cons_append] at h
  rw [(List.cons.inj h).1] at hc
  exact absurd hc (by decide)

section Number

variable {rest : List Char} (hrest : Stops rest)

include hrest

theorem digitCount_stops : digitCount rest = 0 := by
  cases rest with
  | nil => rfl
  | cons c cs =>
      have hc : c.isDigit = false := by
        rcases hrest c rfl with rfl | rfl | rfl <;> decide
      simp [digitCount, hc]

theorem fractionCount_stops : fractionCount rest = 0 := by
  cases rest with
  | nil => rfl
  | cons c cs => rcases hrest c rfl with rfl | rfl | rfl <;> rfl

theorem exponentCount_stops : exponentCount rest = 0 := by
  cases rest with
  | nil => rfl
  | cons c cs => rcases hrest c rfl with rfl | rfl | rfl <;> rfl

/-- All digits of a number are its whole part. -/
theorem wholeCount_toDigits (n : Nat) :
    wholeCount (Nat.toDigits 10 n ++ rest) = (Nat.toDigits 10 n).length := by
  rcases Nat.eq_zero_or_pos n with rfl | hn
  · rw [Nat.toDigits_zero]
    rfl
  · obtain ⟨c, cs, heq, hc⟩ := Number.head_toDigits (b := 10) (by decide) (by decide) hn
    have hdigits : ∀ d ∈ Nat.toDigits 10 n, d.isDigit = true := fun d hd =>
      Nat.isDigit_of_mem_toDigits (by decide) (by decide) hd
    have hwhole : wholeCount (Nat.toDigits 10 n ++ rest)
        = digitCount (Nat.toDigits 10 n ++ rest) := by
      rw [heq, List.cons_append, wholeCount]
      intro tail h
      exact hc (List.cons.inj h).1
    have hcount := digitCount_stops hrest
    rw [digitCount, List.length_eq_zero_iff] at hcount
    rw [hwhole, digitCount, List.takeWhile_append_of_pos hdigits, hcount, List.append_nil]

theorem readNumber_natural {n : Nat} (hn : n < Nat.pow 10 Number.maxDigits) (place : Nat) :
    readNumber ⟨Nat.toDigits 10 n ++ rest, place⟩
      = .ok (.int n, ⟨rest, place + (Nat.toDigits 10 n).length⟩) := by
  have hpositive : (Nat.toDigits 10 n).length ≠ 0 := Nat.ne_of_gt Nat.length_toDigits_pos
  have hdrop := Rest.drop_append (rfl : (Nat.toDigits 10 n).length = _) rest place
  have hvalue := Number.ofDigits_toDigits (b := 10) (by decide) (by decide) n
  rw [readNumber]
  split
  · rename_i tail hminus
    exact absurd hminus (toDigits_append_ne n rest tail)
  · simp only [List.drop_zero, wholeCount_toDigits hrest, if_neg hpositive,
      List.drop_left, fractionCount_stops hrest, exponentCount_stops hrest, Nat.add_zero,
      List.take_left, Nat.zero_add, if_true, if_neg (length_toDigits_le (by decide) hn), hvalue, hdrop]
    rfl

theorem readNumber_negative {n : Nat} (hn : n < Nat.pow 10 Number.maxDigits) (place : Nat) :
    readNumber ⟨'-' :: Nat.toDigits 10 n ++ rest, place⟩
      = .ok (.int (-n), ⟨rest, place + (1 + (Nat.toDigits 10 n).length)⟩) := by
  have hpositive : (Nat.toDigits 10 n).length ≠ 0 := Nat.ne_of_gt Nat.length_toDigits_pos
  have hlength : ('-' :: Nat.toDigits 10 n).length = 1 + (Nat.toDigits 10 n).length := by
    rw [List.length_cons, Nat.add_comm]
  have hdrop := Rest.drop_append hlength rest place
  have hvalue := Number.ofDigits_toDigits (b := 10) (by decide) (by decide) n
  simp only [readNumber, List.cons_append, List.drop_succ_cons, List.drop_zero,
    wholeCount_toDigits hrest, if_neg hpositive, List.drop_left, fractionCount_stops hrest,
    exponentCount_stops hrest, Nat.add_zero, List.take_left, if_true,
    if_neg (length_toDigits_le (by decide) hn), hvalue]
  rw [List.cons_append] at hdrop
  rw [hdrop]

end Number

end Json

end SourceLoader
