import Mathlib.Data.List.Forall2
import Mathlib.Data.Nat.Init
import SourceLoader.Proofs.Json.Scalar

/-!
# What is written as JSON can be read

A value that JSON has a form of its own for is written as a text, and when the text is read the
value is back. Numbers with a point are left out.

`Spelled d s` says that both directions agree on the text `s` of the value `d`, whatever stands
behind it, and with any fuel that the length of the text bounds. It is proved form by form; a
sequence is read item by item, and a mapping member by member.
-/

namespace SourceLoader

/-- A value that JSON has a form of its own for, numbers with a point apart. -/
inductive Data.Native : Data → Prop where
  | none : Native .none
  | bool (b : Bool) : Native (.bool b)
  | int (n : Int) (short : n.natAbs < Nat.pow 10 Number.maxDigits) : Native (.int n)
  | text (s : String) : Native (.text s)
  | list (items : List Data) (each : ∀ d ∈ items, Native d) : Native (.list items)
  | record (fields : List (String × Data)) (distinct : (fields.map Prod.fst).Nodup)
      (each : ∀ f ∈ fields, Native f.2) : Native (.dict (fields.map fun f => (.text f.1, f.2)))

namespace Json

/-! ## Values of one part -/

/-- A text that does not begin with a blank or with the end of something. -/
def Opens (cs : List Char) : Prop :=
  ∃ c tail, cs = c :: tail ∧ isBlank c = false ∧ c ≠ ']' ∧ c ≠ '\x7d' ∧ c ≠ '\uFEFF'

/-- A value is written as a text, and the text is read as the value. -/
structure Spelled (d : Data) (s : String) : Prop where
  written : write .spaced d = .ok s
  opens : Opens s.toList
  read : ∀ {fuel : Nat} {rest : List Char} (place : Nat), s.toList.length ≤ fuel →
    Stops rest → readValue fuel ⟨s.toList ++ rest, place⟩ = .ok (d, ⟨rest, place + s.toList.length⟩)

theorem spelled_of_plain {d : Data} {s : String} (hwritten : write .spaced d = .ok s)
    {c : Char} {tail : List Char} (hs : s.toList = c :: tail) (hopens : Opens (c :: tail))
    (hother : c ≠ '"' ∧ c ≠ '\x7b' ∧ c ≠ '[')
    (hread : ∀ {rest : List Char} (place : Nat), Stops rest →
      readPlain ⟨s.toList ++ rest, place⟩ = .ok (d, ⟨rest, place + s.toList.length⟩)) :
    Spelled d s where
  written := hwritten
  opens := hs ▸ hopens
  read := by
    intro fuel rest place hfuel hrest
    have hlength : 0 < s.toList.length := by rw [hs, List.length_cons]; omega
    obtain ⟨fuel, rfl⟩ := exists_fuel (Nat.lt_of_lt_of_le hlength hfuel)
    rw [← hread place hrest, readValue]
    split
    · rename_i h
      rw [hs, List.cons_append] at h
      exact absurd (List.cons.inj h).1 hother.1
    · rename_i h
      rw [hs, List.cons_append] at h
      exact absurd (List.cons.inj h).1 hother.2.1
    · rename_i h
      rw [hs, List.cons_append] at h
      exact absurd (List.cons.inj h).1 hother.2.2
    · rfl

theorem spelled_none : Spelled .none "null" :=
  spelled_of_plain rfl rfl ⟨_, _, rfl, by decide⟩ (by decide) fun _ _ => rfl

theorem spelled_bool (b : Bool) : Spelled (.bool b) (boolText b) := by
  cases b with
  | false => exact spelled_of_plain rfl rfl ⟨_, _, rfl, by decide⟩ (by decide) fun _ _ => rfl
  | true => exact spelled_of_plain rfl rfl ⟨_, _, rfl, by decide⟩ (by decide) fun _ _ => rfl

/-- A word is no number. -/
theorem readPlain_of_no_word {cs : List Char} (place : Nat)
    (hcs : ∀ w ∈ words, ¬ w.1.toList <+: cs) : readPlain ⟨cs, place⟩ = readNumber ⟨cs, place⟩ := by
  have hnone : (words.find? fun w => w.1.toList.isPrefixOf cs) = none := by
    rw [List.find?_eq_none]
    intro w hw h
    exact hcs w hw <| List.isPrefixOf_iff_prefix.mp h
  rw [readPlain]
  simp only [hnone]

/-- A number is not taken for a word: no word has a digit in its first two places. -/
theorem not_word_of_digit {w : String × Data} (hw : w ∈ words) {c : Char} (hc : c.isDigit = true)
    (sign tail : List Char) (hsign : sign.length ≤ 1) : ¬ w.1.toList <+: sign ++ c :: tail := by
  have hwords : (words.all fun w => 2 ≤ w.1.toList.length
      && (w.1.toList.take 2).all fun c => !c.isDigit) = true := by decide
  have hword := List.all_eq_true.mp hwords w hw
  simp only [Bool.and_eq_true, decide_eq_true_eq, List.all_eq_true] at hword
  intro hbegins
  have hat : (sign ++ c :: tail)[sign.length]? = some c := by simp
  have hmem : c ∈ w.1.toList.take 2 := by
    rw [List.prefix_iff_eq_take.mp hbegins, List.take_take, Nat.min_eq_left hword.1]
    exact List.mem_of_getElem? ((List.getElem?_take_of_lt (by omega)).trans hat)
  simpa [hc] using hword.2 c hmem

theorem written_int {n : Int} (hn : n.natAbs < Nat.pow 10 Number.maxDigits) :
    write .spaced (.int n) = .ok (toString n) := by
  rw [write, intText, if_neg (Nat.not_le.mpr hn)]

theorem spelled_natural {n : Nat} (hn : n < Nat.pow 10 Number.maxDigits) :
    Spelled (.int n) (toString n) := by
  obtain ⟨c, cs, heq, hc⟩ := exists_toDigits n
  have hs : (toString n).toList = Nat.toDigits 10 n := Nat.toList_repr
  have hne : ∀ d : Char, d.isDigit = false → c ≠ d := by
    rintro d hd rfl
    rw [hc] at hd
    cases hd
  have hblank : isBlank c = false := by
    simp [isBlank, hne ' ' (by decide), hne '\t' (by decide), hne '\n' (by decide),
      hne '\r' (by decide)]
  refine spelled_of_plain (written_int hn) (hs.trans heq)
    ⟨c, cs, rfl, hblank, hne _ (by decide), hne _ (by decide), hne _ (by decide)⟩
    ⟨hne _ (by decide), hne _ (by decide), hne _ (by decide)⟩ fun place hrest => ?_
  rw [readPlain_of_no_word, hs, readNumber_natural hrest hn]
  intro w hw
  rw [hs, heq]
  exact not_word_of_digit hw hc [] _ (by decide)

theorem spelled_negative {n : Nat} (hn : n + 1 < Nat.pow 10 Number.maxDigits) :
    Spelled (.int (.negSucc n)) (toString (Int.negSucc n)) := by
  obtain ⟨c, cs, heq, hc⟩ := exists_toDigits (n + 1)
  have hs := toList_negSucc n
  refine spelled_of_plain (written_int hn) hs ⟨_, _, rfl, by decide⟩ (by decide)
    fun place hrest => ?_
  rw [readPlain_of_no_word, hs, readNumber_negative hrest hn]
  · rw [List.length_cons, Nat.add_comm 1]
    rfl
  · intro w hw
    rw [hs, heq]
    exact not_word_of_digit hw hc ['-'] _ (by decide)

theorem spelled_int {n : Int} (hn : n.natAbs < Nat.pow 10 Number.maxDigits) :
    Spelled (.int n) (toString n) := by
  cases n with
  | ofNat n => exact spelled_natural hn
  | negSucc n => exact spelled_negative hn

theorem spelled_text (s : String) : Spelled (.text s) (quoted s) where
  written := by rw [write]
  opens := ⟨'"', _, toList_quoted s, by decide⟩
  read := by
    intro fuel rest place hfuel hrest
    rw [toList_quoted] at hfuel ⊢
    obtain ⟨fuel, rfl⟩ := exists_fuel hfuel
    have hdrop : (⟨'"' :: (inQuotes s.toList ++ '"' :: rest), place⟩ : Rest).drop 1
        = ⟨inQuotes s.toList ++ '"' :: rest, place + 1⟩ := rfl
    have hread := readText_quoted s rest place (place + 1)
    simp only [List.cons_append, List.append_assoc, List.nil_append]
    rw [readValue]
    simp only [hdrop, hread, bind, Except.bind, pure, Except.pure]
    rw [show place + 1 + (inQuotes s.toList).length + 1
      = place + ('"' :: (inQuotes s.toList ++ ['"'])).length by simp; omega]

/-! ## Sequences -/

theorem Rest.skipBlanks_cons {c : Char} (hc : isBlank c = false) (rest : List Char)
    (place : Nat) : (⟨c :: rest, place⟩ : Rest).skipBlanks = ⟨c :: rest, place⟩ := by
  rw [Rest.skipBlanks, List.takeWhile_cons_of_neg (by simp [hc])]
  rfl

theorem Opens.skipBlanks {cs : List Char} (hcs : Opens cs) (rest : List Char) (place : Nat) :
    (⟨cs ++ rest, place⟩ : Rest).skipBlanks = ⟨cs ++ rest, place⟩ := by
  obtain ⟨c, tail, rfl, hc, _⟩ := hcs
  exact Rest.skipBlanks_cons hc _ _

theorem Opens.skipBlanks_blank {cs : List Char} (hcs : Opens cs) (rest : List Char)
    (place : Nat) :
    (⟨' ' :: (cs ++ rest), place⟩ : Rest).skipBlanks = ⟨cs ++ rest, place + 1⟩ := by
  obtain ⟨c, tail, rfl, hc, _⟩ := hcs
  rw [Rest.skipBlanks, List.takeWhile_cons_of_pos (by decide), List.cons_append,
    List.takeWhile_cons_of_neg (by simp [hc])]
  rfl

/-- Texts with a comma and a blank between them. -/
def commaed (ss : List String) : List Char := (Layout.spaced.item.intercalate ss).toList

theorem commaed_singleton (s : String) : commaed [s] = s.toList := by
  rw [commaed, String.intercalate_singleton]

theorem commaed_cons_cons (s t : String) (ss : List String) :
    commaed (s :: t :: ss) = s.toList ++ ',' :: ' ' :: commaed (t :: ss) := by
  simp [commaed, String.intercalate_cons_cons, Layout.spaced]

theorem opens_commaed {s : String} (hs : Opens s.toList) (ss : List String) :
    Opens (commaed (s :: ss)) := by
  cases ss with
  | nil => rwa [commaed_singleton]
  | cons t ss =>
      obtain ⟨c, tail, hc, hrest⟩ := hs
      exact ⟨c, _, by rw [commaed_cons_cons, hc, List.cons_append], hrest⟩

/-- Items that are spelled are read up to the end of the array. -/
theorem readItems_spelled {items : List Data} {ss : List String} {d : Data} {s : String}
    (hitems : List.Forall₂ Spelled (d :: items) (s :: ss)) {fuel : Nat} (rest : List Char)
    (place : Nat) (hfuel : (commaed (s :: ss)).length < fuel) :
    readItems fuel ⟨commaed (s :: ss) ++ ']' :: rest, place⟩
      = .ok (d :: items, ⟨rest, place + (commaed (s :: ss)).length + 1⟩) := by
  induction ss generalizing items d s fuel place with
  | nil =>
      obtain ⟨fuel, rfl⟩ := exists_fuel hfuel
      obtain ⟨hd, hnil⟩ := List.forall₂_cons.mp hitems
      obtain rfl := List.forall₂_nil_right_iff.mp hnil
      rw [commaed_singleton] at hfuel ⊢
      have hread := hd.read place (Nat.le_of_lt_succ hfuel)
        (stops_cons (Or.inr (Or.inl rfl)) rest)
      rw [readItems]
      simp only [hread, bind, Except.bind, pure, Except.pure]
      rw [Rest.skipBlanks_cons (by decide)]
      rfl
  | cons t ss ih =>
      obtain ⟨fuel, rfl⟩ := exists_fuel hfuel
      obtain ⟨hd, htail⟩ := List.forall₂_cons.mp hitems
      obtain ⟨e, items, he, hothers, rfl⟩ := List.forall₂_cons_right_iff.mp htail
      rw [commaed_cons_cons] at hfuel ⊢
      simp only [List.length_append, List.length_cons] at hfuel
      have hread := hd.read place (show s.toList.length ≤ fuel by omega)
        (stops_cons (Or.inl rfl) (' ' :: (commaed (t :: ss) ++ ']' :: rest)))
      -- the comma and its blank take two places
      have hothers := ih htail (place + s.toList.length + 1 + 1)
        (show (commaed (t :: ss)).length < fuel by omega)
      rw [readItems]
      simp only [List.append_assoc, List.cons_append, hread, bind, Except.bind, pure, Except.pure]
      rw [Rest.skipBlanks_cons (by decide)]
      have hdrop : (⟨',' :: ' ' :: (commaed (t :: ss) ++ ']' :: rest), place + s.toList.length⟩
          : Rest).drop 1
          = ⟨' ' :: (commaed (t :: ss) ++ ']' :: rest), place + s.toList.length + 1⟩ := rfl
      have hskip : (⟨' ' :: (commaed (t :: ss) ++ ']' :: rest), place + s.toList.length + 1⟩
          : Rest).skipBlanks
          = ⟨commaed (t :: ss) ++ ']' :: rest, place + s.toList.length + 1 + 1⟩ :=
        (opens_commaed he.opens ss).skipBlanks_blank _ _
      have hplace : place + (s.toList ++ ',' :: ' ' :: commaed (t :: ss)).length
          = place + s.toList.length + 1 + 1 + (commaed (t :: ss)).length := by
        simp only [List.length_append, List.length_cons]
        omega
      simp only [hdrop, hskip, hothers, hplace]

theorem spelled_list {items : List Data} {ss : List String}
    (hitems : List.Forall₂ Spelled items ss) :
    Spelled (.list items) ("[" ++ Layout.spaced.item.intercalate ss ++ "]") := by
  have hwritten : writeAll .spaced items = .ok ss := by
    induction hitems with
    | nil => rfl
    | cons hd _ ih =>
        rw [writeAll, hd.written, ih]
        rfl
  have hs : ("[" ++ Layout.spaced.item.intercalate ss ++ "]").toList
      = '[' :: (commaed ss ++ [']']) := by
    simp [commaed]
  refine ⟨by rw [write, hwritten]; rfl, ⟨'[', _, hs, by decide⟩, ?_⟩
  intro fuel rest place hfuel hrest
  rw [hs] at hfuel ⊢
  obtain ⟨fuel, rfl⟩ := exists_fuel hfuel
  simp only [List.length_cons, List.length_append, List.length_nil] at hfuel
  have hstart : (⟨'[' :: (commaed ss ++ ']' :: rest), place⟩ : Rest).drop 1
      = ⟨commaed ss ++ ']' :: rest, place + 1⟩ := rfl
  simp only [List.cons_append, List.append_assoc, List.nil_append]
  rw [readValue]
  simp only [hstart]
  cases hitems with
  | nil => rfl
  | @cons d s items ss hd hothers =>
      have hopens := opens_commaed hd.opens ss
      have hread := readItems_spelled (.cons hd hothers) rest (place + 1)
        (show (commaed (s :: ss)).length < fuel by omega)
      have hplace : place + ('[' :: (commaed (s :: ss) ++ [']'])).length
          = place + 1 + (commaed (s :: ss)).length + 1 := by
        simp only [List.length_append, List.length_cons, List.length_nil]
        omega
      rw [hopens.skipBlanks, hread, hplace]
      obtain ⟨c, tail, hc, _, hclose, _⟩ := hopens
      split
      · rename_i h
        rw [hc, List.cons_append] at h
        exact absurd (List.cons.inj h).1 hclose
      · rfl

/-! ## Mappings -/

/-- An entry of a mapping with texts as keys. -/
def entryOf (f : String × Data) : Data × Data := (.text f.1, f.2)

/-- A key that is not there yet is put at the end. -/
theorem insertEntry_of_new {key : String} (value : Data) {fields : List (String × Data)}
    (hkey : key ∉ fields.map Prod.fst) :
    Data.insertEntry (.text key) value (fields.map entryOf)
      = (fields ++ [(key, value)]).map entryOf := by
  induction fields with
  | nil => rfl
  | cons f fields ih =>
      simp only [List.map_cons, List.mem_cons, not_or] at hkey
      have hother : Data.same (.text f.1) (.text key) = false := by
        simp [Data.same, Ne.symm hkey.1]
      simp only [List.map_cons, List.cons_append, entryOf, Data.insertEntry, hother]
      exact congrArg (List.cons _) (ih hkey.2)

/-- A member of an object is its name and the text of its value. -/
def IsMember (f : String × Data) (m : String) : Prop :=
  ∃ s, m = quoted f.1 ++ Layout.spaced.key ++ s ∧ Spelled f.2 s

theorem IsMember.opens {f : String × Data} {m : String} (hm : IsMember f m) :
    Opens m.toList := by
  obtain ⟨s, rfl, _⟩ := hm
  exact ⟨'"', inQuotes f.1.toList ++ '"' :: (Layout.spaced.key.toList ++ s.toList),
    by simp [toList_quoted], by decide⟩

/-- A member is read and put behind those before it, and the object goes on or ends. -/
theorem readMembers_member {f : String × Data} {m : String} (hm : IsMember f m)
    {before : List (String × Data)} (hnew : f.1 ∉ before.map Prod.fst) {fuel : Nat}
    {rest : List Char} (hrest : Stops rest) (place : Nat) (hfuel : m.toList.length ≤ fuel) :
    readMembers (fuel + 1) (before.map entryOf) ⟨m.toList ++ rest, place⟩
      = match rest with
        | '\x7d' :: tail => .ok ((before ++ [f]).map entryOf, ⟨tail, place + m.toList.length + 1⟩)
        | ',' :: tail => readMembers fuel ((before ++ [f]).map entryOf)
            (⟨tail, place + m.toList.length + 1⟩ : Rest).skipBlanks
        | tail => (⟨tail, place + m.toList.length⟩ : Rest).skipBlanks.refuse .expectedComma := by
  obtain ⟨s, rfl, hs⟩ := hm
  obtain ⟨name, value⟩ := f
  have hm : (quoted name ++ Layout.spaced.key ++ s).toList
      = '"' :: (inQuotes name.toList ++ '"' :: ':' :: ' ' :: s.toList) := by
    simp [toList_quoted, Layout.spaced]
  rw [hm] at hfuel ⊢
  simp only [List.length_cons, List.length_append] at hfuel
  simp only [List.cons_append, List.append_assoc]
  have hname := readText_quoted name (':' :: ' ' :: (s.toList ++ rest)) place (place + 1)
  have hvalue := hs.read (place + 1 + (inQuotes name.toList).length + 1 + 1 + 1)
    (show s.toList.length ≤ fuel by omega) hrest
  have hskip := hs.opens.skipBlanks_blank rest
    (place + 1 + (inQuotes name.toList).length + 1 + 1)
  have hplace : place + ('"' :: (inQuotes name.toList ++ '"' :: ':' :: ' ' :: s.toList)).length
      = place + 1 + (inQuotes name.toList).length + 1 + 1 + 1 + s.toList.length := by
    simp only [List.length_append, List.length_cons]
    omega
  have hinsert := insertEntry_of_new value hnew
  rw [readMembers, hplace]
  simp only [Rest.drop, List.drop_succ_cons, List.drop_zero, hname, bind, Except.bind, pure,
    Except.pure]
  rw [Rest.skipBlanks_cons (by decide)]
  simp only [List.drop_succ_cons, List.drop_zero, hskip, hvalue, hinsert]
  -- none of the characters a value may stop at is a blank
  cases rest with
  | nil => rfl
  | cons c rest =>
      rcases hrest c rfl with rfl | rfl | rfl
      · rw [Rest.skipBlanks_cons (by decide)]
        rfl
      · rw [Rest.skipBlanks_cons (by decide)]
        rfl
      · rw [Rest.skipBlanks_cons (by decide)]
        rfl

theorem new_of_nodup {before fields : List (String × Data)} {f : String × Data}
    (hdistinct : ((before ++ f :: fields).map Prod.fst).Nodup) : f.1 ∉ before.map Prod.fst := by
  simp only [List.map_append, List.map_cons, List.nodup_append, List.mem_cons] at hdistinct
  exact fun h => hdistinct.2.2 _ h _ (Or.inl rfl) rfl

/-- Members are read up to the end of the object. -/
theorem readMembers_spelled {fields : List (String × Data)} {ms : List String}
    {f : String × Data} {m : String} (hms : List.Forall₂ IsMember (f :: fields) (m :: ms))
    (before : List (String × Data)) (hdistinct : ((before ++ f :: fields).map Prod.fst).Nodup)
    {fuel : Nat} (rest : List Char) (place : Nat) (hfuel : (commaed (m :: ms)).length < fuel) :
    readMembers fuel (before.map entryOf) ⟨commaed (m :: ms) ++ '\x7d' :: rest, place⟩
      = .ok ((before ++ f :: fields).map entryOf,
          ⟨rest, place + (commaed (m :: ms)).length + 1⟩) := by
  induction ms generalizing fields f m before fuel place with
  | nil =>
      obtain ⟨fuel, rfl⟩ := exists_fuel hfuel
      obtain ⟨hm, hnil⟩ := List.forall₂_cons.mp hms
      obtain rfl := List.forall₂_nil_right_iff.mp hnil
      rw [commaed_singleton] at hfuel ⊢
      exact readMembers_member hm (new_of_nodup hdistinct) (stops_cons (Or.inr (Or.inr rfl)) rest)
        place (Nat.le_of_lt_succ hfuel)
  | cons n ms ih =>
      obtain ⟨fuel, rfl⟩ := exists_fuel hfuel
      obtain ⟨hm, htail⟩ := List.forall₂_cons.mp hms
      obtain ⟨g, fields, hg, hothers, rfl⟩ := List.forall₂_cons_right_iff.mp htail
      rw [commaed_cons_cons] at hfuel ⊢
      simp only [List.length_append, List.length_cons] at hfuel
      have hmore : before ++ f :: g :: fields = (before ++ [f]) ++ g :: fields := by simp
      have hread := readMembers_member hm (new_of_nodup hdistinct)
        (stops_cons (Or.inl rfl) (' ' :: (commaed (n :: ms) ++ '\x7d' :: rest)))
        place (show m.toList.length ≤ fuel by omega)
      have hskip : (⟨' ' :: (commaed (n :: ms) ++ '\x7d' :: rest), place + m.toList.length + 1⟩
          : Rest).skipBlanks
          = ⟨commaed (n :: ms) ++ '\x7d' :: rest, place + m.toList.length + 1 + 1⟩ :=
        (opens_commaed hg.opens ms).skipBlanks_blank _ _
      have hplace : place + (m.toList ++ ',' :: ' ' :: commaed (n :: ms)).length
          = place + m.toList.length + 1 + 1 + (commaed (n :: ms)).length := by
        simp only [List.length_append, List.length_cons]
        omega
      rw [hmore] at hdistinct ⊢
      rw [List.append_assoc, List.cons_append, List.cons_append, hread, hplace]
      simp only [hskip]
      exact ih (.cons hg hothers) (before ++ [f]) hdistinct (place + m.toList.length + 1 + 1)
        (show (commaed (n :: ms)).length < fuel by omega)

theorem spelled_record {fields : List (String × Data)} {ms : List String}
    (hms : List.Forall₂ IsMember fields ms) (hdistinct : (fields.map Prod.fst).Nodup) :
    Spelled (.dict (fields.map entryOf))
      ("\x7b" ++ Layout.spaced.item.intercalate ms ++ "\x7d") := by
  have hwritten : writeEntries .spaced (fields.map entryOf) = .ok ms := by
    clear hdistinct
    induction hms with
    | nil => rfl
    | cons hm _ ih =>
        obtain ⟨s, rfl, hs⟩ := hm
        rw [List.map_cons, entryOf, writeEntries, hs.written, ih]
        rfl
  have hs : ("\x7b" ++ Layout.spaced.item.intercalate ms ++ "\x7d").toList
      = '\x7b' :: (commaed ms ++ ['\x7d']) := by
    simp [commaed]
  refine ⟨by rw [write, hwritten]; rfl, ⟨'\x7b', _, hs, by decide⟩, ?_⟩
  intro fuel rest place hfuel hrest
  rw [hs] at hfuel ⊢
  obtain ⟨fuel, rfl⟩ := exists_fuel hfuel
  simp only [List.length_cons, List.length_append, List.length_nil] at hfuel
  have hstart : (⟨'\x7b' :: (commaed ms ++ '\x7d' :: rest), place⟩ : Rest).drop 1
      = ⟨commaed ms ++ '\x7d' :: rest, place + 1⟩ := rfl
  simp only [List.cons_append, List.append_assoc, List.nil_append]
  rw [readValue]
  simp only [hstart]
  cases hms with
  | nil => rfl
  | @cons f m fields ms hm hothers =>
      have hopens := opens_commaed hm.opens ms
      have hread := readMembers_spelled (.cons hm hothers) [] hdistinct rest
        (place + 1) (show (commaed (m :: ms)).length < fuel by omega)
      rw [List.map_nil, List.nil_append] at hread
      have hplace : place + ('\x7b' :: (commaed (m :: ms) ++ ['\x7d'])).length
          = place + 1 + (commaed (m :: ms)).length + 1 := by
        simp only [List.length_append, List.length_cons, List.length_nil]
        omega
      rw [hopens.skipBlanks, hread, hplace]
      obtain ⟨c, tail, hc, _, _, hclose, _⟩ := hopens
      split
      · rename_i h
        rw [hc, List.cons_append] at h
        exact absurd (List.cons.inj h).1 hclose
      · rfl

/-! ## Whole texts -/

theorem Spelled.read_eq {d : Data} {s : String} (hs : Spelled d s) : Json.read s = .ok d := by
  obtain ⟨c, tail, hc, _, _, _, hmark⟩ := hs.opens
  have hstart := hs.opens.skipBlanks [] 0
  have hread := hs.read 0 (show s.toList.length ≤ 2 * s.toList.length + 2 by omega) stops_nil
  rw [List.append_nil] at hstart hread
  unfold Json.read
  split
  · rename_i h
    rw [hc] at h
    exact absurd (List.cons.inj h).1 hmark
  · simp only [hstart, hread, bind, Except.bind]
    rfl

theorem exists_forall₂ {α β : Type} {R : α → β → Prop} {as : List α}
    (h : ∀ a ∈ as, ∃ b, R a b) : ∃ bs, List.Forall₂ R as bs := by
  induction as with
  | nil => exact ⟨[], .nil⟩
  | cons a as ih =>
      obtain ⟨b, hb⟩ := h a List.mem_cons_self
      obtain ⟨bs, hbs⟩ := ih fun a ha => h a (List.mem_cons_of_mem _ ha)
      exact ⟨b :: bs, .cons hb hbs⟩

/-- Every value that JSON has a form for is spelled by some text. -/
theorem exists_spelled {d : Data} (hd : d.Native) : ∃ s, Spelled d s := by
  induction hd with
  | none => exact ⟨_, spelled_none⟩
  | bool b => exact ⟨_, spelled_bool b⟩
  | int n hn => exact ⟨_, spelled_int hn⟩
  | text s => exact ⟨_, spelled_text s⟩
  | list items _ ih =>
      obtain ⟨ss, hss⟩ := exists_forall₂ ih
      exact ⟨_, spelled_list hss⟩
  | record fields hdistinct _ ih =>
      have hmembers : ∀ f ∈ fields, ∃ m, IsMember f m := fun f hf =>
        (ih f hf).elim fun s hs => ⟨_, s, rfl, hs⟩
      obtain ⟨ms, hms⟩ := exists_forall₂ hmembers
      exact ⟨_, spelled_record hms hdistinct⟩

/-- **What is written as JSON is read as the same value.** -/
theorem read_write {d : Data} (hd : d.Native) :
    ∃ s, write .spaced d = .ok s ∧ Json.read s = .ok d := by
  obtain ⟨s, hs⟩ := exists_spelled hd
  exact ⟨s, hs.written, hs.read_eq⟩

end Json

end SourceLoader
