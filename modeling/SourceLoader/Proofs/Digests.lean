import SourceLoader.Fingerprint
import SourceLoader.Proofs.Json.Alike

/-!
# Fingerprints of equal values

A fingerprint is taken of texts, and equal values need not be written as the same text: `1`, `1.0`
and the truth value are equal, so are the two zeros, and so are two mappings with the same entries
in different orders. Equal values that can be written have fingerprints; values that are also alike
have the same one, and at each place where two equal values are not alike the texts that are
digested differ (`fingerprint_of_equal`). What may still agree there are the texts one after the
other, for nothing stands between them, and the few digits that are kept.

Of equal numbers those of one type are alike, but for zeros of different signs
(`alike_numbers_iff`).
-/

namespace SourceLoader

/-! ## Equal numbers -/

namespace Double

theorem ext_bits {x y : Double} (h : x.bits = y.bits) : x = y := by
  cases x
  cases y
  exact congrArg _ h

end Double

namespace Data

/-- Of equal floats the zeros of different signs are not alike. -/
theorem alike_floats_iff {x y : Double} (h : x.equals y = true) :
    (float x).alike (float y) = true ↔ x.isNegative = y.isNegative := by
  simp only [Double.equals, Bool.and_eq_true, Bool.not_eq_true', Bool.or_eq_true,
    decide_eq_true_eq] at h
  obtain ⟨⟨hx, hy⟩, hbits | ⟨⟨⟨hfinite, hfinite'⟩, hzero⟩, hzero'⟩⟩ := h
  · obtain rfl := Double.ext_bits hbits
    simp [alike]
  · have htext : ∀ {z : Double}, z.isNaN = false → z.isFinite = true → z.mantissa = 0 →
        Json.floatText z = if z.isNegative then "-0.0" else "0.0" := by
      intro z hnan hfinite hzero
      cases hsign : z.isNegative <;>
        simp [Json.floatText, Number.textOf, hnan, hfinite, hzero, hsign]
    rw [alike, decide_eq_true_eq, htext hx hfinite hzero, htext hy hfinite' hzero']
    cases x.isNegative <;> cases y.isNegative <;> decide

/-- Of equal numbers those of one type are alike, but for the zeros of different signs. -/
theorem alike_numbers_iff {a b : Data} (h : sameNumber? a b = some true) :
    a.alike b = true ↔ a.typeName = b.typeName
      ∧ ∀ x y, a = float x → b = float y → x.isNegative = y.isNegative := by
  cases a <;> cases b <;> simp only [sameNumber?, int?, Option.some.injEq, reduceCtorEq] at h
  case float.float x y =>
      rw [alike_floats_iff h]
      simp [typeName]
  case bool.bool p q => cases p <;> cases q <;> simp_all [alike, typeName]
  case int.int m n => simpa [alike, typeName] using h
  all_goals simp [alike, typeName]

end Data

/-! ## Digits -/

namespace Md5

theorem length_littleEndian (count n : Nat) : (littleEndian count n).length = count := by
  induction count generalizing n with
  | zero => rfl
  | succ count ih => rw [littleEndian, List.length_cons, ih]

theorem length_digest (message : List UInt8) : (digest message).length = 16 := by
  simp [digest, length_littleEndian]

end Md5

namespace Fingerprint

theorem length_join_hex (bytes : List UInt8) :
    (String.join (bytes.map fun b => Text.hex 2 b.toNat)).toList.length = 2 * bytes.length := by
  induction bytes with
  | nil => rfl
  | cons b bytes ih =>
      have hb := Json.length_hex 2 (by decide) (show b.toNat < Nat.pow 16 2 from b.toNat_lt)
      rw [List.map_cons, String.join_cons, String.toList_append, List.length_append, hb, ih,
        List.length_cons]
      omega

theorem length_ofText (s : String) : (ofText s).length = length := by
  rw [ofText, ← String.length_toList, String.toList_ofList, List.length_take, length_join_hex,
    Md5.length_digest]
  rfl

/-! ## Texts -/

/-- A value that is no text adds its JSON. -/
theorem part_of_written {d : Data} {s : String} (hd : ∀ t, d ≠ .text t)
    (h : Json.write .compact d = .ok s) : part d = .ok s := by
  cases d with
  | text t => exact absurd rfl (hd t)
  | _ => simp only [part, h]

/-- Only a text equals a text. -/
theorem text_iff_of_same {a b : Data} (h : a.same b = true) (s : String) :
    a = .text s ↔ b = .text s := by
  cases a <;> cases b <;> simp_all [Data.same, Data.sameNumber?, Data.int?]

/-- Equal values add the same text exactly if they are alike. -/
theorem part_eq_iff {a b : Data} (hequal : a.same b = true)
    (ha : ∃ s, Json.write .compact a = .ok s) (hb : ∃ s, Json.write .compact b = .ok s) :
    part a = part b ↔ a.alike b = true := by
  by_cases htext : ∃ t, a = .text t
  · obtain ⟨t, rfl⟩ := htext
    obtain rfl := (text_iff_of_same hequal t).mp rfl
    simp [Data.alike]
  · obtain ⟨s, ha⟩ := ha
    obtain ⟨t, hb⟩ := hb
    rw [part_of_written (fun t h => htext ⟨t, h⟩) ha,
      part_of_written (fun t h => htext ⟨t, (text_iff_of_same hequal t).mpr h⟩) hb,
      ← Json.write_eq_iff ha hb, Except.ok.injEq]

section Lists

variable {xs ys : List Data}

/-- Some values that can be written have texts to be digested. -/
theorem exists_parts (h : ∀ x ∈ xs, ∃ s, Json.write .compact x = .ok s) :
    ∃ ss, xs.mapM part = .ok ss := by
  induction xs with
  | nil => exact ⟨[], rfl⟩
  | cons x xs ih =>
      obtain ⟨ss, hss⟩ := ih fun y hy => h y (List.mem_cons_of_mem _ hy)
      have hx : ∃ s, part x = .ok s := by
        by_cases htext : ∃ t, x = .text t
        · obtain ⟨t, rfl⟩ := htext
          exact ⟨t, rfl⟩
        · obtain ⟨s, hs⟩ := h x List.mem_cons_self
          exact ⟨s, part_of_written (fun t h => htext ⟨t, h⟩) hs⟩
      obtain ⟨s, hs⟩ := hx
      exact ⟨s :: ss, by rw [List.mapM_cons, hs, hss]; rfl⟩

theorem fingerprint_of_parts {ss : List String} (h : xs.mapM part = .ok ss) :
    fingerprint xs = .ok (ofText (String.join ss)) := by
  rw [fingerprint, message, h]
  rfl

theorem parts_eq (h : List.Forall₂ (fun x y => part x = part y) xs ys) :
    xs.mapM part = ys.mapM part := by
  induction h with
  | nil => rfl
  | cons hxy _ ih => rw [List.mapM_cons, List.mapM_cons, hxy, ih]

theorem forall₂_part_eq_iff (hequal : List.Forall₂ (fun x y => x.same y = true) xs ys)
    (hxs : ∀ x ∈ xs, ∃ s, Json.write .compact x = .ok s)
    (hys : ∀ y ∈ ys, ∃ s, Json.write .compact y = .ok s) :
    List.Forall₂ (fun x y => part x = part y ↔ x.alike y = true) xs ys := by
  induction hequal with
  | nil => exact .nil
  | cons hxy _ ih =>
      rw [List.forall_mem_cons] at hxs hys
      exact .cons (part_eq_iff hxy hxs.1 hys.1) (ih hxs.2 hys.2)

end Lists

end Fingerprint

/-! ## Equal values -/

/-- **Equal values that are written alike have one fingerprint.** Values that can be written have
a fingerprint. At each place where two equal values are not alike, other texts are digested. -/
theorem fingerprint_of_equal {xs ys : List Data}
    (hequal : List.Forall₂ (fun x y => x.same y = true) xs ys)
    (hxs : ∀ x ∈ xs, ∃ s, Json.write .compact x = .ok s)
    (hys : ∀ y ∈ ys, ∃ s, Json.write .compact y = .ok s) :
    ∃ k l, fingerprint xs = .ok k ∧ fingerprint ys = .ok l
      ∧ k.length = Fingerprint.length ∧ l.length = Fingerprint.length
      ∧ List.Forall₂ (fun x y => Fingerprint.part x = Fingerprint.part y ↔ x.alike y = true) xs ys
      ∧ (List.Forall₂ (fun x y => x.alike y = true) xs ys → k = l) := by
  obtain ⟨ss, hss⟩ := Fingerprint.exists_parts hxs
  obtain ⟨ts, hts⟩ := Fingerprint.exists_parts hys
  have hplaces := Fingerprint.forall₂_part_eq_iff hequal hxs hys
  refine ⟨_, _, Fingerprint.fingerprint_of_parts hss, Fingerprint.fingerprint_of_parts hts,
    Fingerprint.length_ofText _, Fingerprint.length_ofText _, hplaces, fun halike => ?_⟩
  have heq := Fingerprint.parts_eq (hplaces.mp (fun _ _ hiff => hiff.mpr) halike)
  rw [hss, hts] at heq
  rw [Except.ok.inj heq]

/-- One mapping in two orders has two fingerprints. -/
theorem fingerprint_of_equal_reordered :
    let x := Data.dict [(.text "a", .int 1), (.text "b", .int 2)]
    let y := Data.dict [(.text "b", .int 2), (.text "a", .int 1)]
    x.same y = true ∧ x.alike y = false
      ∧ ∃ k l, fingerprint [x] = .ok k ∧ fingerprint [y] = .ok l ∧ k.length = l.length ∧ k ≠ l := by
  intro x y
  have hequal : x.same y = true := by
    simp [x, y, Data.same, Data.entriesWithin, Data.sameNumber?, Data.int?]
  have hx : Json.write .compact x = .ok "\x7b\"a\":1,\"b\":2\x7d" := by decide +kernel
  have hy : Json.write .compact y = .ok "\x7b\"b\":2,\"a\":1\x7d" := by decide +kernel
  obtain ⟨k, l, hk, hl, hlength, hlength', _, _⟩ := fingerprint_of_equal
    (.cons hequal .nil) (List.forall_mem_singleton.mpr ⟨_, hx⟩)
    (List.forall_mem_singleton.mpr ⟨_, hy⟩)
  refine ⟨hequal, by decide +kernel, k, l, hk, hl, hlength.trans hlength'.symm, ?_⟩
  have hpart : ∀ {d s}, Fingerprint.part d = .ok s → [d].mapM Fingerprint.part = .ok [s] := by
    intro d s hd
    rw [List.mapM_cons, hd]
    rfl
  rw [Fingerprint.fingerprint_of_parts
    (hpart (Fingerprint.part_of_written (fun t ht => by simp [x] at ht) hx))] at hk
  rw [Fingerprint.fingerprint_of_parts
    (hpart (Fingerprint.part_of_written (fun t ht => by simp [y] at ht) hy))] at hl
  rw [← Except.ok.inj hk, ← Except.ok.inj hl]
  decide +kernel

end SourceLoader
