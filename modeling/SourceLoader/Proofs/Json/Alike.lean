import Mathlib.Data.List.Forall2
import SourceLoader.Proofs.Json.Scalar
import Std.Data.String.ToInt

/-!
# What is written alike

Values may be equal and still be written as different texts, and different values may be written
as one text. `Data.alike` tells which values are written as the same text: numbers of one type
with the same digits, sequences place by place whether they are lists or tuples, and mappings
entry by entry in the order of their entries, keys by their texts.

**One text comes from values that are alike** (`write_eq_iff`). A text without blanks tells where
its value ends: a text at its closing quote, a sequence or a mapping at its closing bracket, and a
number or a word at the first character that cannot belong to one (`Unique`). Which of them it is,
its first character tells (`form?`). Among numbers and words the digits alone tell a whole number,
and a point, a signed exponent or a capital letter any other number.
-/

namespace SourceLoader

/-! ## Alike -/

/-- Do two keys have the same text? -/
def Json.keysAlike (k l : Data) : Bool :=
  match keyText k, keyText l with
  | .ok s, .ok t => s = t
  | _, _ => false

namespace Data

mutual

/-- Are two values written alike? -/
def alike : Data → Data → Bool
  | none, none => true
  | bool a, bool b => a = b
  | int m, int n => m = n
  | float x, float y => Json.floatText x = Json.floatText y
  | text s, text t => s = t
  | list xs, list ys => alikeAll xs ys
  | list xs, tuple ys => alikeAll xs ys
  | tuple xs, list ys => alikeAll xs ys
  | tuple xs, tuple ys => alikeAll xs ys
  | dict es, dict fs => alikeEntries es fs
  | _, _ => false

/-- Are the values at equal places alike? -/
def alikeAll : List Data → List Data → Bool
  | [], [] => true
  | x :: xs, y :: ys => alike x y && alikeAll xs ys
  | _, _ => false

/-- Are the entries at equal places alike? -/
def alikeEntries : List (Data × Data) → List (Data × Data) → Bool
  | [], [] => true
  | (k, v) :: es, (l, w) :: fs => Json.keysAlike k l && alike v w && alikeEntries es fs
  | _, _ => false

end

end Data

namespace Json

theorem keyText_eq_of_keysAlike {k l : Data} (h : keysAlike k l = true) :
    ∃ s, keyText k = .ok s ∧ keyText l = .ok s := by
  unfold keysAlike at h
  split at h
  · rename_i s t hk hl
    obtain rfl : s = t := by simpa using h
    exact ⟨s, hk, hl⟩
  · cases h

mutual

/-- Values that are alike are written as one text, or for neither there is one. -/
theorem write_eq_of_alike (layout : Layout) (a b : Data) (h : a.alike b = true) :
    write layout a = write layout b := by
  cases a <;> cases b <;> simp only [Data.alike, decide_eq_true_eq, Bool.false_eq_true] at h
  case none.none => rfl
  case bool.bool => rw [h]
  case int.int => rw [h]
  case float.float => rw [write, write, h]
  case text.text => rw [h]
  case dict.dict es fs => rw [write, write, writeEntries_eq_of_alike layout es fs h]
  all_goals rw [write, write, writeAll_eq_of_alike layout _ _ h]

theorem writeAll_eq_of_alike (layout : Layout) (xs ys : List Data)
    (h : Data.alikeAll xs ys = true) : writeAll layout xs = writeAll layout ys := by
  cases xs <;> cases ys <;> simp only [Data.alikeAll, Bool.and_eq_true, Bool.false_eq_true] at h
  case nil.nil => rfl
  case cons.cons x xs y ys =>
      rw [writeAll, writeAll, write_eq_of_alike layout x y h.1,
        writeAll_eq_of_alike layout xs ys h.2]

theorem writeEntries_eq_of_alike (layout : Layout) (es fs : List (Data × Data))
    (h : Data.alikeEntries es fs = true) :
    writeEntries layout es = writeEntries layout fs := by
  cases es <;> cases fs
  case nil.nil => rfl
  case cons.cons e es f fs =>
      obtain ⟨k, v⟩ := e
      obtain ⟨l, w⟩ := f
      simp only [Data.alikeEntries, Bool.and_eq_true] at h
      obtain ⟨s, hk, hl⟩ := keyText_eq_of_keysAlike h.1.1
      rw [writeEntries, writeEntries, hk, hl, write_eq_of_alike layout v w h.1.2,
        writeEntries_eq_of_alike layout es fs h.2]
  all_goals simp [Data.alikeEntries] at h

end

/-! ## Words and numbers -/

/-- What words and numbers are made of. -/
def isPlain (c : Char) : Bool := c.isAlphanum || c = '.' || c = '+' || c = '-'

/-- A text that is made of nothing else. -/
def AllPlain (s : String) : Prop := ∀ c ∈ s.toList, isPlain c = true

instance (s : String) : Decidable (AllPlain s) :=
  decidable_of_iff (s.toList.all isPlain = true) List.all_eq_true

/-- A point, a capital letter or a signed exponent: every number that need not be whole has one of
them, and no whole number and no word has. -/
def Marked (cs : List Char) : Prop :=
  '.' ∈ cs ∨ 'N' ∈ cs ∨ 'I' ∈ cs ∨ 'e' ∈ cs ∧ ('+' ∈ cs ∨ '-' ∈ cs)

instance (cs : List Char) : Decidable (Marked cs) :=
  inferInstanceAs (Decidable ('.' ∈ cs ∨ 'N' ∈ cs ∨ 'I' ∈ cs ∨ 'e' ∈ cs ∧ ('+' ∈ cs ∨ '-' ∈ cs)))

theorem isPlain_of_isDigit {c : Char} (h : c.isDigit = true) : isPlain c = true := by
  simp [isPlain, Char.isAlphanum, h]

theorem AllPlain.append {s t : String} (hs : AllPlain s) (ht : AllPlain t) : AllPlain (s ++ t) := by
  intro c hc
  rw [String.toList_append, List.mem_append] at hc
  exact hc.elim (hs c) (ht c)

theorem allPlain_digits {cs : List Char} (h : ∀ c ∈ cs, c.isDigit = true) :
    AllPlain (String.ofList cs) := by
  intro c hc
  rw [String.toList_ofList] at hc
  exact isPlain_of_isDigit (h c hc)

theorem Marked.append_left {cs : List Char} (h : Marked cs) (ds : List Char) :
    Marked (ds ++ cs) := by
  unfold Marked at *
  simp only [List.mem_append]
  grind

section Whole

theorem isDigit_of_mem_toDigits {n : Nat} {c : Char} (hc : c ∈ Nat.toDigits 10 n) :
    c.isDigit = true := Nat.isDigit_of_mem_toDigits (by decide) (by decide) hc

theorem isDigit_of_mem_natural {n : Nat} {c : Char} (hc : c ∈ (toString n).toList) :
    c.isDigit = true := by
  rw [show (toString n).toList = Nat.toDigits 10 n from Nat.toList_repr] at hc
  exact isDigit_of_mem_toDigits hc

theorem isDigit_of_mem_int {n : Int} {c : Char} (hc : c ∈ (toString n).toList) :
    c.isDigit = true ∨ c = '-' := by
  cases n with
  | ofNat n => exact .inl (isDigit_of_mem_natural hc)
  | negSucc n =>
      rw [toList_negSucc] at hc
      exact (List.mem_cons.mp hc).symm.imp_left isDigit_of_mem_toDigits

theorem not_marked_int (n : Int) : ¬ Marked (toString n).toList := by
  have hnot : ∀ c : Char, c.isDigit = false → c ≠ '-' → c ∉ (toString n).toList := by
    intro c hdigit hsign hc
    rcases isDigit_of_mem_int hc with hc | hc
    · rw [hdigit] at hc
      cases hc
    · exact hsign hc
  rintro (hc | hc | hc | ⟨hc, _⟩)
  · exact hnot _ (by decide) (by decide) hc
  · exact hnot _ (by decide) (by decide) hc
  · exact hnot _ (by decide) (by decide) hc
  · exact hnot _ (by decide) (by decide) hc

theorem allPlain_int (n : Int) : AllPlain (toString n) := by
  intro c hc
  rcases isDigit_of_mem_int hc with hc | rfl
  · exact isPlain_of_isDigit hc
  · decide

end Whole

section Float

theorem isDigit_of_mem_shortest {x : Double} {c : Char} (hc : c ∈ (Number.shortest x).1) :
    c.isDigit = true := by
  unfold Number.shortest at hc
  have hmem := (List.dropWhile_sublist _).mem (List.mem_reverse.mp hc)
  exact isDigit_of_mem_toDigits (List.mem_reverse.mp hmem)

theorem isDigit_of_mem_zeros {n : Nat} {c : Char} (hc : c ∈ List.replicate n '0') :
    c.isDigit = true := by
  rw [(List.mem_replicate.mp hc).2]
  decide

theorem allPlain_layout {digits : List Char} (hdigits : ∀ c ∈ digits, c.isDigit = true)
    (power : Int) : AllPlain (Number.layout digits power true) := by
  have hpoint : ∀ n, AllPlain ("." ++ String.ofList (digits.drop n)) := fun n =>
    .append (by decide) (allPlain_digits fun c hc => hdigits c (List.mem_of_mem_drop hc))
  have hfirst : ∀ n, ∀ c ∈ digits.take n, c.isDigit = true := fun n c hc =>
    hdigits c (List.mem_of_mem_take hc)
  have hnatural : ∀ n : Nat, AllPlain (toString n) := fun n c hc =>
    isPlain_of_isDigit (isDigit_of_mem_natural hc)
  unfold Number.layout
  dsimp only
  split
  · split
    · refine .append (by decide) (allPlain_digits fun c hc => ?_)
      exact (List.mem_append.mp hc).elim isDigit_of_mem_zeros (hdigits c)
    · refine .append (allPlain_digits fun c hc => ?_) ?_
      · exact (List.mem_append.mp hc).elim (hfirst _ c) isDigit_of_mem_zeros
      · split
        · decide
        · exact hpoint _
  · refine .append (.append (.append (.append (allPlain_digits (hfirst 1)) ?_) ?_) ?_) ?_
    · split
      · decide
      · exact hpoint 1
    · decide
    · split <;> decide
    · split
      · exact .append (by decide) (hnatural _)
      · exact hnatural _

theorem marked_layout (digits : List Char) (power : Int) :
    Marked (Number.layout digits power true).toList := by
  unfold Number.layout Marked
  dsimp only
  split
  · left
    split
    · simp
    · split <;> simp
  · right; right; right
    by_cases hsign : power < 0 <;> simp [hsign]

theorem allPlain_floatText (x : Double) : AllPlain (floatText x) := by
  have hsign : AllPlain (if x.isNegative then "-" else "") := by split <;> decide
  unfold floatText Number.textOf
  dsimp only
  split
  · decide
  · split
    · split
      · exact hsign.append (by decide)
      · split
        · exact (hsign.append (by decide)).append (by decide)
        · exact hsign.append (allPlain_layout (fun _ => isDigit_of_mem_shortest) _)
    · split <;> decide

theorem marked_floatText (x : Double) : Marked (floatText x).toList := by
  unfold floatText Number.textOf
  dsimp only
  split
  · decide
  · split
    · rename_i hfinite
      rw [if_neg (by simpa using hfinite)]
      split
      · exact .inl (by simp)
      · rw [String.toList_append]
        exact (marked_layout _ _).append_left _
    · split <;> decide

end Float

/-- A value that is written as a word or a number. -/
inductive IsWord : Data → String → Prop
  | none : IsWord .none "null"
  | bool (b : Bool) : IsWord (.bool b) (boolText b)
  | int (n : Int) : IsWord (.int n) (toString n)
  | float (x : Double) : IsWord (.float x) (floatText x)

namespace IsWord

variable {d e : Data} {s : String}

theorem allPlain (h : IsWord d s) : AllPlain s := by
  cases h with
  | none => decide
  | bool b => cases b <;> decide
  | int n => exact allPlain_int n
  | float x => exact allPlain_floatText x

theorem ne_nil (h : IsWord d s) : s.toList ≠ [] := by
  cases h with
  | none => decide
  | bool b => cases b <;> decide
  | int n =>
      cases n with
      | ofNat n =>
          rw [show (toString (Int.ofNat n)).toList = Nat.toDigits 10 n from Nat.toList_repr]
          exact Nat.toDigits_ne_nil
      | negSucc n =>
          rw [toList_negSucc]
          exact List.cons_ne_nil _ _
  | float x =>
      intro hnil
      have hmarked := marked_floatText x
      rw [hnil] at hmarked
      exact absurd hmarked (by decide)

/-- A word has a letter that no whole number has. -/
theorem ne_int {w : String} (hw : w ∈ ["null", "true", "false"]) (n : Int) : w ≠ toString n := by
  have hletter : ∀ w ∈ ["null", "true", "false"],
      w.toList.any (fun c => !c.isDigit && c != '-') = true := by decide
  obtain ⟨c, hc, hother⟩ := List.any_eq_true.mp (hletter w hw)
  rintro rfl
  rcases isDigit_of_mem_int hc with h | rfl
  · simp [h] at hother
  · simp at hother

theorem ne_float {w : String} (hw : ¬ Marked w.toList) (x : Double) : w ≠ floatText x := by
  rintro rfl
  exact hw (marked_floatText x)

theorem boolText_mem (b : Bool) : boolText b ∈ ["null", "true", "false"] := by
  cases b <;> decide

theorem not_marked_boolText (b : Bool) : ¬ Marked (boolText b).toList := by
  cases b <;> decide

/-- One word stands for values that are alike. -/
theorem alike {t : String} (hd : IsWord d s) (he : IsWord e t) (hst : s = t) :
    d.alike e = true := by
  cases hd with
  | none =>
      cases he with
      | none => rfl
      | bool b => cases b <;> exact absurd hst (by decide)
      | int n => exact absurd hst (ne_int (by decide) n)
      | float x => exact absurd hst (ne_float (by decide) x)
  | bool b =>
      cases he with
      | none => cases b <;> exact absurd hst (by decide)
      | bool c => cases b <;> cases c <;> first | rfl | exact absurd hst (by decide)
      | int n => exact absurd hst (ne_int (boolText_mem b) n)
      | float x => exact absurd hst (ne_float (not_marked_boolText b) x)
  | int m =>
      cases he with
      | none => exact absurd hst.symm (ne_int (by decide) m)
      | bool b => exact absurd hst.symm (ne_int (boolText_mem b) m)
      | int n => simpa [Data.alike] using Int.repr_injective hst
      | float x => exact absurd hst (ne_float (not_marked_int m) x)
  | float x =>
      cases he with
      | none => exact absurd hst.symm (ne_float (by decide) x)
      | bool b => exact absurd hst.symm (ne_float (not_marked_boolText b) x)
      | int n => exact absurd hst.symm (ne_float (not_marked_int n) x)
      | float y => simpa [Data.alike] using hst

end IsWord

/-! ## Where a value ends -/

/-- The kinds of texts that values are written as. -/
inductive Form where
  | word
  | text
  | array
  | object

/-- What a value is written as. -/
inductive Wrote : Form → Data → String → Prop
  | word {d : Data} {s : String} (word : IsWord d s) : Wrote .word d s
  | text (s : String) : Wrote .text (.text s) (quoted s)
  | array {d : Data} {xs : List Data} {ss : List String} (items : d = .list xs ∨ d = .tuple xs)
      (written : writeAll .compact xs = .ok ss) :
      Wrote .array d ("[" ++ ",".intercalate ss ++ "]")
  | object {es : List (Data × Data)} {ms : List String}
      (written : writeEntries .compact es = .ok ms) :
      Wrote .object (.dict es) ("\x7b" ++ ",".intercalate ms ++ "\x7d")

theorem wrote_of_write {d : Data} {s : String} (h : write .compact d = .ok s) :
    ∃ f, Wrote f d s := by
  have hitems : ∀ {d xs}, d = .list xs ∨ d = .tuple xs →
      (writeAll .compact xs).map (fun ss => "[" ++ ",".intercalate ss ++ "]") = .ok s →
      Wrote .array d s := by
    intro d xs hd hs
    cases hw : writeAll .compact xs with
    | error o => rw [hw] at hs; cases hs
    | ok ss => rw [hw] at hs; cases hs; exact .array hd hw
  cases d <;> rw [write] at h
  case none => cases h; exact ⟨_, .word .none⟩
  case bool b => cases h; exact ⟨_, .word (.bool b)⟩
  case int n =>
      unfold intText at h
      split at h
      · cases h
      · cases h; exact ⟨_, .word (.int n)⟩
  case float x => cases h; exact ⟨_, .word (.float x)⟩
  case text t => cases h; exact ⟨_, .text t⟩
  case list xs => exact ⟨_, hitems (.inl rfl) h⟩
  case tuple xs => exact ⟨_, hitems (.inr rfl) h⟩
  case dict es =>
      cases hw : writeEntries .compact es with
      | error o => rw [hw] at h; cases h
      | ok ms => rw [hw] at h; cases h; exact ⟨_, .object hw⟩
  all_goals cases h

/-- The form that begins with a character. -/
def form? (c : Char) : Option Form :=
  if isPlain c then some .word
  else if c = '"' then some .text
  else if c = '[' then some .array
  else if c = '\x7b' then some .object
  else none

/-- A text begins like a value of some form. -/
def Begins (s : String) (f : Form) : Prop := ∃ c cs, s.toList = c :: cs ∧ form? c = some f

theorem begins_quoted (key t : String) : Begins (quoted key ++ t) .text :=
  ⟨'"', inQuotes key.toList ++ '"' :: t.toList, by simp [toList_quoted], rfl⟩

theorem Wrote.begins {f : Form} {d : Data} {s : String} (h : Wrote f d s) : Begins s f := by
  cases h with
  | word hd =>
      obtain ⟨c, cs, hs⟩ := List.exists_cons_of_ne_nil hd.ne_nil
      have hplain := hd.allPlain c (hs ▸ List.mem_cons_self)
      exact ⟨c, cs, hs, by rw [form?, if_pos hplain]⟩
  | text t => exact ⟨'"', _, toList_quoted t, rfl⟩
  | @array _ _ ss _ _ => exact ⟨'[', (",".intercalate ss ++ "]").toList, by simp, rfl⟩
  | @object _ ms _ => exact ⟨'\x7b', (",".intercalate ms ++ "\x7d").toList, by simp, rfl⟩

/-- The first character tells the form. -/
theorem Begins.unique {s t : String} {f g : Form} {r r' : List Char} (hs : Begins s f)
    (ht : Begins t g) (h : s.toList ++ r = t.toList ++ r') : f = g := by
  obtain ⟨c, cs, hc, hf⟩ := hs
  obtain ⟨c', cs', hc', hg⟩ := ht
  rw [hc, hc', List.cons_append, List.cons_append] at h
  rw [(List.cons.inj h).1, hg] at hf
  exact (Option.some.inj hf).symm

/-- Words and numbers that end where something stops are the same. -/
theorem plain_cut {s t : String} {r r' : List Char} (hs : AllPlain s) (ht : AllPlain t)
    (hr : Stops r) (hr' : Stops r') (h : s.toList ++ r = t.toList ++ r') : s = t ∧ r = r' := by
  have htake : ∀ {s : String} {r : List Char}, AllPlain s → Stops r →
      (s.toList ++ r).takeWhile isPlain = s.toList := by
    intro s r hs hr
    have hstop : r.takeWhile isPlain = [] := by
      cases r with
      | nil => rfl
      | cons c r =>
          have hc : isPlain c = false := by rcases hr c rfl with rfl | rfl | rfl <;> decide
          rw [List.takeWhile_cons_of_neg (by simp [hc])]
    rw [List.takeWhile_append_of_pos hs, hstop, List.append_nil]
  have hst : s.toList = t.toList := by rw [← htake hs hr, h, htake ht hr']
  rw [hst] at h
  exact ⟨String.toList_inj.mp hst, List.append_cancel_left h⟩

/-- Texts that end at their closing quotes are the same. -/
theorem quoted_cut {s t : String} {r r' : List Char}
    (h : (quoted s).toList ++ r = (quoted t).toList ++ r') : s = t ∧ r = r' := by
  simp only [toList_quoted, List.cons_append, List.append_assoc, List.nil_append,
    List.cons.injEq, true_and] at h
  have hs := readText_quoted s r 0 0
  rw [h, readText_quoted t r' 0 0] at hs
  simp only [Except.ok.injEq, Prod.mk.injEq, Rest.mk.injEq] at hs
  exact ⟨hs.1.symm, hs.2.1.symm⟩

/-! ## Sequences of parts -/

/-- What stands behind the first of some parts: the others, each behind a comma, the closing
bracket and the rest. -/
def behind (close : Char) (rest : List Char) : List String → List Char
  | [] => close :: rest
  | s :: ss => ',' :: (s.toList ++ behind close rest ss)

/-- Parts up to the closing bracket, and the rest. -/
def joined (close : Char) (rest : List Char) : List String → List Char
  | [] => close :: rest
  | s :: ss => s.toList ++ behind close rest ss

theorem toList_intercalate (close : Char) (rest : List Char) (ss : List String) :
    (",".intercalate ss).toList ++ close :: rest = joined close rest ss := by
  cases ss with
  | nil => simp [joined]
  | cons s ss =>
      rw [joined]
      induction ss generalizing s with
      | nil => simp [behind]
      | cons t ss ih =>
          rw [String.intercalate_cons_cons, behind, ← ih t]
          simp

theorem toList_brackets {opening closing : String} {close : Char}
    (hclosing : closing.toList = [close]) (rest : List Char) (ss : List String) :
    (opening ++ ",".intercalate ss ++ closing).toList ++ rest
      = opening.toList ++ joined close rest ss := by
  rw [String.toList_append, String.toList_append, hclosing, List.append_assoc, List.append_assoc,
    List.singleton_append, toList_intercalate]

section Parts

variable {α : Type} {IsText : α → String → Prop} {Alike : α → α → Prop} {close : Char}

/-- A part ends where another one does only if the two are alike. -/
def Unique (IsText : α → String → Prop) (Alike : α → α → Prop) (a : α) : Prop :=
  ∀ {b : α} {s t : String} {r r' : List Char}, IsText a s → IsText b t → Stops r → Stops r' →
    s.toList ++ r = t.toList ++ r' → Alike a b ∧ r = r'

theorem stops_behind (hclose : close = ']' ∨ close = '\x7d') (rest : List Char)
    (ss : List String) : Stops (behind close rest ss) := by
  cases ss with
  | nil => exact stops_cons (hclose.elim (fun h => .inr (.inl h)) fun h => .inr (.inr h)) rest
  | cons s ss => exact stops_cons (.inl rfl) _

theorem behind_unique (hclose : close = ']' ∨ close = '\x7d') {as bs : List α}
    {ss ts : List String} {r r' : List Char} (has : List.Forall₂ IsText as ss)
    (hbs : List.Forall₂ IsText bs ts) (hunique : ∀ a ∈ as, Unique IsText Alike a)
    (h : behind close r ss = behind close r' ts) : List.Forall₂ Alike as bs ∧ r = r' := by
  -- a comma goes on and the bracket ends: neither side can do one where the other does the other
  have hcomma : close ≠ ',' := by rcases hclose with rfl | rfl <;> decide
  induction has generalizing bs ts with
  | nil =>
      cases hbs with
      | nil => exact ⟨.nil, (List.cons.inj h).2⟩
      | cons _ _ => exact absurd (List.cons.inj h).1 hcomma
  | @cons a s as ss ha _ ih =>
      cases hbs with
      | nil => exact absurd (List.cons.inj h).1.symm hcomma
      | @cons b t bs ts hb hbs =>
          obtain ⟨hab, hrest⟩ := hunique a List.mem_cons_self ha hb (stops_behind hclose r ss)
            (stops_behind hclose r' ts) (List.cons.inj h).2
          obtain ⟨hothers, hr⟩ :=
            ih hbs (fun a ha => hunique a (List.mem_cons_of_mem _ ha)) hrest
          exact ⟨.cons hab hothers, hr⟩

/-- Sequences that end where their brackets close have parts that are alike. -/
theorem joined_unique (hclose : close = ']' ∨ close = '\x7d') {as bs : List α}
    {ss ts : List String} {r r' : List Char} (has : List.Forall₂ IsText as ss)
    (hbs : List.Forall₂ IsText bs ts) (hunique : ∀ a ∈ as, Unique IsText Alike a)
    (hbegins : ∀ {a s}, IsText a s → ∃ f, Begins s f)
    (h : joined close r ss = joined close r' ts) : List.Forall₂ Alike as bs ∧ r = r' := by
  have hother : ∀ {a s r cs}, IsText a s → s.toList ++ r ≠ close :: cs := by
    intro a s r cs ha heq
    obtain ⟨f, c, cs', hs, hf⟩ := hbegins ha
    rw [hs, List.cons_append] at heq
    have hnone : form? close = none := by rcases hclose with rfl | rfl <;> rfl
    rw [(List.cons.inj heq).1, hnone] at hf
    cases hf
  cases has with
  | nil =>
      cases hbs with
      | nil => exact ⟨.nil, (List.cons.inj h).2⟩
      | cons hb _ => exact absurd h.symm (hother hb)
  | @cons a s as ss ha has =>
      cases hbs with
      | nil => exact absurd h (hother ha)
      | @cons b t bs ts hb hbs =>
          obtain ⟨hab, hrest⟩ := hunique a List.mem_cons_self ha hb (stops_behind hclose r ss)
            (stops_behind hclose r' ts) h
          obtain ⟨hothers, hr⟩ := behind_unique hclose has hbs
            (fun a ha => hunique a (List.mem_cons_of_mem _ ha)) hrest
          exact ⟨.cons hab hothers, hr⟩

end Parts

/-! ## Values -/

/-- A value is written as a text. -/
def IsValue (d : Data) (s : String) : Prop := write .compact d = .ok s

/-- An entry is written as a key and a value. -/
def IsEntry (e : Data × Data) (m : String) : Prop :=
  ∃ key s, keyText e.1 = .ok key ∧ IsValue e.2 s ∧ m = quoted key ++ ":" ++ s

/-- Two values are written alike. -/
def AlikeValues (a b : Data) : Prop := a.alike b = true

/-- Two entries are written alike. -/
def AlikeEntries (e f : Data × Data) : Prop :=
  keysAlike e.1 f.1 = true ∧ AlikeValues e.2 f.2

theorem forall₂_of_writeAll {xs : List Data} {ss : List String}
    (h : writeAll .compact xs = .ok ss) : List.Forall₂ IsValue xs ss := by
  induction xs generalizing ss with
  | nil => cases h; exact .nil
  | cons x xs ih =>
      rw [writeAll] at h
      cases hx : write .compact x with
      | error o => rw [hx] at h; cases h
      | ok s =>
          cases hxs : writeAll .compact xs with
          | error o => rw [hx, hxs] at h; cases h
          | ok ss' => rw [hx, hxs] at h; cases h; exact .cons hx (ih hxs)

theorem forall₂_of_writeEntries {es : List (Data × Data)} {ms : List String}
    (h : writeEntries .compact es = .ok ms) : List.Forall₂ IsEntry es ms := by
  induction es generalizing ms with
  | nil => cases h; exact .nil
  | cons e es ih =>
      obtain ⟨k, v⟩ := e
      rw [writeEntries] at h
      cases hk : keyText k with
      | error o => rw [hk] at h; cases h
      | ok key =>
          cases hv : write .compact v with
          | error o => rw [hk, hv] at h; cases h
          | ok s =>
              cases hes : writeEntries .compact es with
              | error o => rw [hk, hv, hes] at h; cases h
              | ok ms' =>
                  rw [hk, hv, hes] at h
                  cases h
                  exact .cons ⟨key, s, hk, hv, rfl⟩ (ih hes)

theorem alikeAll_of_forall₂ {xs ys : List Data} (h : List.Forall₂ AlikeValues xs ys) :
    Data.alikeAll xs ys = true := by
  induction h with
  | nil => rfl
  | cons hxy _ ih => rw [Data.alikeAll, hxy, ih]; rfl

theorem alikeEntries_of_forall₂ {es fs : List (Data × Data)}
    (h : List.Forall₂ AlikeEntries es fs) : Data.alikeEntries es fs = true := by
  induction h with
  | nil => rfl
  | cons hef _ ih => rw [Data.alikeEntries, hef.1, hef.2, ih]; rfl

theorem begins_of_entry {e : Data × Data} {m : String} (h : IsEntry e m) : Begins m .text := by
  obtain ⟨key, t, _, _, rfl⟩ := h
  rw [String.append_assoc]
  exact begins_quoted key _

/-- An entry ends where its value does. -/
theorem unique_entry {e : Data × Data} (hvalue : Unique IsValue AlikeValues e.2) :
    Unique IsEntry AlikeEntries e := by
  rintro f m n r r' ⟨key, s, hk, hs, rfl⟩ ⟨key', t, hl, ht, rfl⟩ hr hr' h
  simp only [String.toList_append, List.append_assoc] at h
  obtain ⟨rfl, hbehind⟩ := quoted_cut h
  obtain ⟨halike, hrest⟩ := hvalue hs ht hr hr' (List.append_cancel_left hbehind)
  exact ⟨⟨by simp [keysAlike, hk, hl], halike⟩, hrest⟩

theorem alike_of_items {d e : Data} {xs ys : List Data} (hd : d = .list xs ∨ d = .tuple xs)
    (he : e = .list ys ∨ e = .tuple ys) (h : Data.alikeAll xs ys = true) : AlikeValues d e := by
  rcases hd with rfl | rfl <;> rcases he with rfl | rfl <;> simpa [AlikeValues, Data.alike] using h

/-- A value ends where it does if its parts do. -/
theorem unique_of_parts {d : Data}
    (hitems : ∀ xs, d = .list xs ∨ d = .tuple xs → ∀ x ∈ xs, Unique IsValue AlikeValues x)
    (hentries : ∀ es, d = .dict es → ∀ e ∈ es, Unique IsValue AlikeValues e.2) :
    Unique IsValue AlikeValues d := by
  intro e s t r r' hs ht hr hr' h
  obtain ⟨f, hd⟩ := wrote_of_write hs
  obtain ⟨g, he⟩ := wrote_of_write ht
  -- both are of one form, so only four of the sixteen cases are left
  obtain rfl : f = g := hd.begins.unique he.begins h
  cases hd with
  | word hd =>
      cases he with
      | word he =>
          obtain ⟨hst, hrest⟩ := plain_cut hd.allPlain he.allPlain hr hr' h
          exact ⟨hd.alike he hst, hrest⟩
  | text s =>
      cases he with
      | text t =>
          obtain ⟨rfl, hrest⟩ := quoted_cut h
          exact ⟨by simp [AlikeValues, Data.alike], hrest⟩
  | @array _ xs ss hd hxs =>
      cases he with
      | @array _ ys ts he hys =>
          rw [toList_brackets rfl, toList_brackets rfl] at h
          obtain ⟨halike, hrest⟩ := joined_unique (.inl rfl) (forall₂_of_writeAll hxs)
            (forall₂_of_writeAll hys) (hitems xs hd)
            (fun hx => (wrote_of_write hx).imp fun _ hx => hx.begins) (List.append_cancel_left h)
          exact ⟨alike_of_items hd he (alikeAll_of_forall₂ halike), hrest⟩
  | @object es ms hes =>
      cases he with
      | @object fs ns hfs =>
          rw [toList_brackets rfl, toList_brackets rfl] at h
          obtain ⟨halike, hrest⟩ := joined_unique (.inr rfl) (forall₂_of_writeEntries hes)
            (forall₂_of_writeEntries hfs) (fun e he => unique_entry (hentries es rfl e he))
            (fun he => ⟨_, begins_of_entry he⟩) (List.append_cancel_left h)
          exact ⟨by simpa [AlikeValues, Data.alike] using alikeEntries_of_forall₂ halike, hrest⟩

mutual

/-- A value ends where another one does only if the two are alike. -/
theorem unique_value (d : Data) : Unique IsValue AlikeValues d := by
  cases d with
  | list xs =>
      refine unique_of_parts (fun ys hys => ?_) (by rintro _ ⟨⟩)
      obtain ⟨⟨⟩⟩ | ⟨⟨⟩⟩ := hys
      exact unique_values xs
  | tuple xs =>
      refine unique_of_parts (fun ys hys => ?_) (by rintro _ ⟨⟩)
      obtain ⟨⟨⟩⟩ | ⟨⟨⟩⟩ := hys
      exact unique_values xs
  | dict es =>
      refine unique_of_parts (by rintro _ (⟨⟨⟩⟩ | ⟨⟨⟩⟩)) ?_
      rintro _ ⟨⟩
      exact unique_entries es
  | _ => exact unique_of_parts (by rintro _ (⟨⟨⟩⟩ | ⟨⟨⟩⟩)) (by rintro _ ⟨⟩)

theorem unique_values (xs : List Data) : ∀ x ∈ xs, Unique IsValue AlikeValues x := by
  cases xs with
  | nil => exact fun _ h => nomatch h
  | cons x xs => exact List.forall_mem_cons.mpr ⟨unique_value x, unique_values xs⟩

theorem unique_entries (es : List (Data × Data)) :
    ∀ e ∈ es, Unique IsValue AlikeValues e.2 := by
  cases es with
  | nil => exact fun _ h => nomatch h
  | cons e es =>
      obtain ⟨k, v⟩ := e
      exact List.forall_mem_cons.mpr ⟨unique_value v, unique_entries es⟩

end

/-- **One text comes from values that are alike.** -/
theorem write_eq_iff {a b : Data} {s t : String} (ha : write .compact a = .ok s)
    (hb : write .compact b = .ok t) : s = t ↔ a.alike b = true := by
  constructor
  · intro hst
    exact (unique_value a ha hb stops_nil stops_nil (by rw [hst])).1
  · intro halike
    rw [write_eq_of_alike .compact a b halike, hb] at ha
    exact (Except.ok.inj ha).symm

end Json

end SourceLoader
