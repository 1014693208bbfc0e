import Mathlib.Data.List.TakeWhile
import SourceLoader.Path

/-!
# Paths as lists of components

An absolute path in normal form is one or two slashes and a list of components, none of which is
empty, `.` or `..` (`isNormal_iff`). On such lists the functions on paths are those on lists: the
directory of a path drops the last component, and joining adds one. So what is said about texts with
slashes in them can be shown about lists, where normalising a path is a stack machine that pushes
components and pops one at each `..` (`normalizeChars_folder`).

Normalising ends a path at a NUL character. What holds of all paths is therefore said of the path up
to there.
-/

namespace SourceLoader.Path

/-! ## Taking apart and putting together -/

section

variable {sep : Char}

theorem parts_ne_nil (cs : List Char) : parts sep cs ≠ [] := by
  cases cs with
  | nil => simp [parts]
  | cons c cs =>
      unfold parts
      split
      · simp
      · split <;> simp

theorem parts_of_notMem {p : List Char} (h : sep ∉ p) : parts sep p = [p] := by
  induction p with
  | nil => rfl
  | cons c cs ih =>
      rw [List.mem_cons, not_or] at h
      rw [parts, if_neg (Ne.symm h.1), ih h.2]

theorem parts_append {p : List Char} (h : sep ∉ p) (rest : List Char) :
    parts sep (p ++ sep :: rest) = p :: parts sep rest := by
  induction p with
  | nil => simp [parts]
  | cons c cs ih =>
      rw [List.mem_cons, not_or] at h
      rw [List.cons_append, parts, if_neg (Ne.symm h.1), ih h.2]

theorem parts_unparts {ps : List (List Char)} (hne : ps ≠ []) (h : ∀ p ∈ ps, sep ∉ p) :
    parts sep (unparts sep ps) = ps := by
  induction ps with
  | nil => exact absurd rfl hne
  | cons p ps ih =>
      have hp : sep ∉ p := h p List.mem_cons_self
      cases ps with
      | nil => exact parts_of_notMem hp
      | cons q qs =>
          rw [unparts.eq_3 _ _ _ (by simp), parts_append hp,
            ih (List.cons_ne_nil _ _) fun p hp => h p (List.mem_cons_of_mem _ hp)]

/-- The parts of a text are made of its characters, the separator apart. -/
theorem mem_of_mem_parts {cs p : List Char} (hp : p ∈ parts sep cs) {c : Char} (hc : c ∈ p) :
    c ∈ cs ∧ c ≠ sep := by
  induction cs generalizing p with
  | nil => simp only [parts, List.mem_singleton] at hp; subst hp; cases hc
  | cons d ds ih =>
      have hlater {q : List Char} (hq : q ∈ parts sep ds) (hc : c ∈ q) : c ∈ d :: ds ∧ c ≠ sep :=
        ⟨List.mem_cons_of_mem _ (ih hq hc).1, (ih hq hc).2⟩
      unfold parts at hp
      split at hp
      · rcases List.mem_cons.mp hp with rfl | hp
        · cases hc
        · exact hlater hp hc
      · next hd =>
        split at hp
        · next q qs hparts =>
          rcases List.mem_cons.mp hp with rfl | hp
          · rcases List.mem_cons.mp hc with rfl | hc
            · exact ⟨List.mem_cons_self, hd⟩
            · exact hlater (hparts ▸ List.mem_cons_self) hc
          · exact hlater (hparts ▸ List.mem_cons_of_mem _ hp) hc
        · next hparts => exact absurd hparts (parts_ne_nil ds)

theorem notMem_of_mem_parts {cs p : List Char} (hp : p ∈ parts sep cs) : sep ∉ p :=
  fun hsep => (mem_of_mem_parts hp hsep).2 rfl

theorem mem_unparts {c : Char} {ps : List (List Char)} (h : c ∈ unparts sep ps) :
    c = sep ∨ ∃ p ∈ ps, c ∈ p := by
  fun_induction unparts sep ps with
  | case1 => cases h
  | case2 p => exact .inr ⟨p, List.mem_cons_self, h⟩
  | case3 p ps _ ih =>
      rcases List.mem_append.mp h with h | h
      · exact .inr ⟨p, List.mem_cons_self, h⟩
      · rcases List.mem_cons.mp h with h | h
        · exact .inl h
        · refine (ih h).imp_right fun ⟨q, hq, hc⟩ => ⟨q, List.mem_cons_of_mem _ hq, hc⟩

theorem mem_unparts_of_mem {c : Char} {p : List Char} {ps : List (List Char)} (hp : p ∈ ps)
    (hc : c ∈ p) : c ∈ unparts sep ps := by
  fun_induction unparts sep ps with
  | case1 => cases hp
  | case2 q => cases List.mem_singleton.mp hp; exact hc
  | case3 q ps _ ih =>
      rcases List.mem_cons.mp hp with rfl | hp
      · exact List.mem_append_left _ hc
      · exact List.mem_append_right _ (List.mem_cons_of_mem _ (ih hp))

theorem unparts_concat (ps : List (List Char)) (p : List Char) :
    unparts sep (ps ++ [p]) = ps.flatMap (· ++ [sep]) ++ p := by
  induction ps with
  | nil => rfl
  | cons q qs ih =>
      rw [List.cons_append, unparts.eq_3 _ _ _ (by simp), ih]
      simp

end

/-! ## Components -/

/-- A part of a path that stays when the path is normalised. -/
structure IsComponent (part : List Char) : Prop where
  ne_nil : part ≠ []
  ne_point : part ≠ ['.']
  ne_up : part ≠ ['.', '.']
  whole : '/' ∉ part

/-- An absolute path with some components. -/
def absolute (root : Nat) (components : List (List Char)) : List Char :=
  List.replicate root '/' ++ unparts '/' components

/-- The same path with a slash behind it. -/
def folder (root : Nat) (components : List (List Char)) : List Char :=
  List.replicate root '/' ++ components.flatMap (· ++ ['/'])

/-- A path begins with one slash or with two. -/
def IsRoot (root : Nat) : Prop := root = 1 ∨ root = 2

theorem IsRoot.pos {root : Nat} (h : IsRoot root) : 0 < root := by
  rcases h with rfl | rfl <;> decide

section

variable {root : Nat} {cs : List (List Char)} {c x : List Char}

theorem absolute_concat (root : Nat) (cs : List (List Char)) (c : List Char) :
    absolute root (cs ++ [c]) = folder root cs ++ c := by
  rw [absolute, folder, unparts_concat, List.append_assoc]

theorem absolute_nil (root : Nat) : absolute root [] = folder root [] := rfl

theorem folder_concat (root : Nat) (cs : List (List Char)) (c : List Char) :
    folder root (cs ++ [c]) = folder root cs ++ c ++ ['/'] := by
  simp [folder]

theorem folder_append (root : Nat) (cs ds : List (List Char)) :
    folder root (cs ++ ds) = folder root cs ++ ds.flatMap (· ++ ['/']) := by
  simp [folder]

/-- A folder ends in a slash. -/
theorem folder_eq_concat (hroot : IsRoot root) (cs : List (List Char)) :
    ∃ x, folder root cs = x ++ ['/'] := by
  rcases List.eq_nil_or_concat cs with rfl | ⟨ds, d, rfl⟩
  · rcases hroot with rfl | rfl
    · exact ⟨[], rfl⟩
    · exact ⟨['/'], rfl⟩
  · rw [List.concat_eq_append, folder_concat]
    exact ⟨_, rfl⟩

/-- Behind a folder a path without slashes is its last component. -/
theorem split_folder_append (hroot : IsRoot root) (cs : List (List Char)) (hx : '/' ∉ x) :
    split (folder root cs ++ x) = (folder root cs, x) := by
  obtain ⟨y, hy⟩ := folder_eq_concat hroot cs
  have hname : (((y ++ ['/']) ++ x).reverse.takeWhile (· ≠ '/')).reverse = x := by
    have hall : ∀ d ∈ x.reverse, decide (d ≠ '/') = true := by
      intro d hd
      have hne : d ≠ '/' := fun h => hx (h ▸ List.mem_reverse.mp hd)
      simpa using hne
    rw [List.reverse_append, List.reverse_append, List.takeWhile_append_of_pos hall]
    simp
  rw [hy, split, hname, List.length_append, Nat.add_sub_cancel, List.take_left]

theorem trimSlashes_folder (hcs : ∀ c ∈ cs, IsComponent c) :
    trimSlashes (folder root cs) = absolute root cs := by
  rcases List.eq_nil_or_concat cs with rfl | ⟨ds, d, rfl⟩
  · simp [trimSlashes, folder, absolute, unparts]
  · rw [List.concat_eq_append] at hcs ⊢
    have hd := hcs d (by simp)
    obtain ⟨last, rest, hlast⟩ :=
      List.exists_cons_of_ne_nil (mt List.reverse_eq_nil_iff.mp hd.ne_nil)
    have hne : last ≠ '/' := by
      rintro rfl
      exact hd.whole (List.mem_reverse.mp (hlast ▸ List.mem_cons_self))
    have hsome : ((folder root ds ++ d) ++ ['/']).all (· = '/') = false := by
      refine List.all_eq_false.mpr ⟨last, ?_, by simpa using hne⟩
      have hmem : last ∈ d := List.mem_reverse.mp (hlast ▸ List.mem_cons_self)
      simp [hmem]
    have hreverse : ((folder root ds ++ d) ++ ['/']).reverse
        = '/' :: last :: (rest ++ (folder root ds).reverse) := by simp [hlast]
    rw [folder_concat, trimSlashes, hsome, if_neg Bool.false_ne_true, hreverse, absolute_concat,
      List.dropWhile_cons_of_pos (by simp), List.dropWhile_cons_of_neg (by simpa using hne)]
    have hback : last :: (rest ++ (folder root ds).reverse) = (folder root ds ++ d).reverse := by
      simp [hlast]
    rw [hback, List.reverse_reverse]

/-- The directory of a path drops the last component. There is none above the root. -/
theorem directoryChars_absolute (hroot : IsRoot root) (hcs : ∀ c ∈ cs, IsComponent c) :
    directoryChars (absolute root cs) = absolute root cs.dropLast := by
  rcases List.eq_nil_or_concat cs with rfl | ⟨ds, d, rfl⟩
  · have hsplit := split_folder_append (x := []) hroot [] List.not_mem_nil
    rw [List.append_nil] at hsplit
    rw [absolute_nil, directoryChars, hsplit, trimSlashes_folder (by simp)]
    rfl
  · rw [List.concat_eq_append] at hcs ⊢
    rw [absolute_concat, directoryChars, split_folder_append hroot ds (hcs d (by simp)).whole,
      trimSlashes_folder fun c hc => hcs c (by simp [hc]), List.dropLast_concat]

/-- What is joined to a path stands behind a slash. -/
theorem joinChars_absolute (hroot : IsRoot root) (hcs : ∀ c ∈ cs, IsComponent c)
    (hx : x.head? ≠ some '/') : joinChars (absolute root cs) x = folder root cs ++ x := by
  have hjoin (base : List Char) : joinChars base x
      = if base.isEmpty || base.getLast? = some '/' then base ++ x else base ++ '/' :: x := by
    unfold joinChars
    split
    · simp at hx
    · rfl
  rw [hjoin]
  rcases List.eq_nil_or_concat cs with rfl | ⟨ds, d, rfl⟩
  · obtain ⟨y, hy⟩ := folder_eq_concat hroot []
    rw [absolute_nil, hy, if_pos (by simp)]
  · rw [List.concat_eq_append] at hcs ⊢
    have hd := hcs d (by simp)
    have hlast : (folder root ds ++ d).getLast? ≠ some '/' := by
      rw [List.getLast?_append, Option.or_eq_left_of_isSome (by simpa using hd.ne_nil)]
      exact fun h => hd.whole (List.mem_of_getLast? h)
    rw [absolute_concat, folder_concat, if_neg (by simpa [hd.ne_nil] using hlast)]
    simp

theorem joinChars_folder (hroot : IsRoot root) (cs : List (List Char)) (hx : x.head? ≠ some '/') :
    joinChars (folder root cs) x = folder root cs ++ x := by
  obtain ⟨y, hy⟩ := folder_eq_concat hroot cs
  unfold joinChars
  split
  · simp at hx
  · rw [hy, if_pos (by simp)]

end

/-! ## Normalising -/

section

variable {root : Nat} {cs ds kept : List (List Char)} {x path : List Char}

/-- Of a path that begins with slashes, all but two are passed over. -/
theorem rootLength_replicate (hroot : IsRoot root) (hx : x.head? ≠ some '/') :
    rootLength (List.replicate root '/' ++ x) = root := by
  cases x with
  | nil => rcases hroot with rfl | rfl <;> rfl
  | cons c cs =>
      have hc : c ≠ '/' := by simpa using hx
      rcases hroot with rfl | rfl <;> simp [rootLength, List.replicate, hc]

theorem isRoot_rootLength (h : path.head? = some '/') : IsRoot (rootLength path) := by
  obtain ⟨rest, rfl⟩ := List.head?_eq_some_iff.mp h
  unfold rootLength IsRoot
  split <;> simp_all

theorem parts_replicate (root : Nat) (x : List Char) :
    parts '/' (List.replicate root '/' ++ x) = List.replicate root [] ++ parts '/' x := by
  induction root with
  | zero => rfl
  | succ n ih =>
      rw [List.replicate_succ, List.cons_append, parts, if_pos rfl, ih]
      rfl

theorem parts_flatMap (hds : ∀ d ∈ ds, '/' ∉ d) (x : List Char) :
    parts '/' (ds.flatMap (· ++ ['/']) ++ x) = ds ++ parts '/' x := by
  induction ds with
  | nil => rfl
  | cons d ds ih =>
      have hd : '/' ∉ d := hds d List.mem_cons_self
      have hsplit : (d :: ds).flatMap (· ++ ['/']) ++ x
          = d ++ '/' :: (ds.flatMap (· ++ ['/']) ++ x) := by simp
      rw [hsplit, parts_append hd, ih fun e he => hds e (List.mem_cons_of_mem _ he)]
      rfl

theorem addPart_component {c : List Char} (hc : IsComponent c) (kept : List (List Char)) :
    addPart true kept c = c :: kept := by
  unfold addPart
  rw [if_neg (by simp [hc.ne_nil, hc.ne_point]), if_neg hc.ne_up]

theorem foldl_addPart_components (hcs : ∀ c ∈ cs, IsComponent c) (kept : List (List Char)) :
    cs.foldl (addPart true) kept = cs.reverse ++ kept := by
  induction cs generalizing kept with
  | nil => rfl
  | cons c cs ih =>
      rw [List.foldl_cons, addPart_component (hcs c List.mem_cons_self),
        ih fun d hd => hcs d (List.mem_cons_of_mem _ hd)]
      simp

theorem foldl_addPart_empty (root : Nat) (kept : List (List Char)) :
    (List.replicate root []).foldl (addPart true) kept = kept := by
  induction root with
  | zero => rfl
  | succ n ih =>
      rw [List.replicate_succ, List.foldl_cons]
      exact ih

/-- Each step up takes back one component, as long as there is one. -/
theorem foldl_addPart_up (n : Nat) (hkept : ∀ c ∈ kept, IsComponent c) :
    (List.replicate n ['.', '.']).foldl (addPart true) kept = kept.drop n := by
  induction n generalizing kept with
  | zero => rfl
  | succ n ih =>
      rw [List.replicate_succ, List.foldl_cons]
      cases kept with
      | nil =>
          have hstay : addPart true [] ['.', '.'] = [] := by decide
          rw [hstay, ih hkept, List.drop_nil, List.drop_nil]
      | cons c cs =>
          have hpop : addPart true (c :: cs) ['.', '.'] = cs := by
            simp [addPart, (hkept c List.mem_cons_self).ne_up]
          rw [hpop, ih fun d hd => hkept d (List.mem_cons_of_mem _ hd), List.drop_succ_cons]

/-- Whatever parts are added below a root, what is kept are components. -/
theorem foldl_addPart_isComponent {ps : List (List Char)} (hps : ∀ p ∈ ps, '/' ∉ p)
    (hkept : ∀ c ∈ kept, IsComponent c) :
    ∀ c ∈ ps.foldl (addPart true) kept, IsComponent c := by
  induction ps generalizing kept with
  | nil => exact hkept
  | cons p ps ih =>
      refine ih (fun q hq => hps q (List.mem_cons_of_mem _ hq)) fun c hc => ?_
      unfold addPart at hc
      split at hc
      · exact hkept c hc
      · next hpoint =>
        simp only [Bool.or_eq_true, decide_eq_true_eq, not_or] at hpoint
        split at hc
        · cases kept with
          | nil => cases hc
          | cons last rest =>
              dsimp only at hc
              rw [if_neg (hkept last List.mem_cons_self).ne_up] at hc
              exact hkept c (List.mem_cons_of_mem _ hc)
        · next hup =>
          rcases List.mem_cons.mp hc with rfl | hc
          · exact ⟨hpoint.1, hpoint.2, hup, hps _ List.mem_cons_self⟩
          · exact hkept c hc

/-- Every character that is kept was in some part. -/
theorem mem_foldl_addPart {ps : List (List Char)} {c : List Char}
    (hc : c ∈ ps.foldl (addPart true) kept) : c ∈ kept ∨ c ∈ ps := by
  induction ps generalizing kept with
  | nil => exact .inl hc
  | cons p ps ih =>
      rcases ih hc with hc | hc
      · have hadd : c ∈ kept ∨ c = p := by
          unfold addPart at hc
          split at hc
          · exact .inl hc
          · split at hc
            · cases kept with
              | nil => cases hc
              | cons last rest =>
                  dsimp only at hc
                  split at hc
                  · exact (List.mem_cons.mp hc).symm
                  · exact .inl (List.mem_cons_of_mem _ hc)
            · exact (List.mem_cons.mp hc).symm
        exact hadd.imp_right fun h => List.mem_cons.mpr (.inl h)
      · exact .inr (List.mem_cons_of_mem _ hc)

theorem unparts_head? (hcs : ∀ c ∈ cs, IsComponent c) : (unparts '/' cs).head? ≠ some '/' := by
  cases cs with
  | nil => simp [unparts]
  | cons c cs =>
      have hc := hcs c List.mem_cons_self
      obtain ⟨d, ds, rfl⟩ := List.exists_cons_of_ne_nil hc.ne_nil
      have hd : d ≠ '/' := fun h => hc.whole (h ▸ List.mem_cons_self)
      cases cs with
      | nil => simpa [unparts] using hd
      | cons e es => simpa [unparts] using hd

theorem head?_absolute (hroot : IsRoot root) (cs : List (List Char)) :
    (absolute root cs).head? = some '/' := by
  rcases hroot with rfl | rfl <;> rfl

theorem head?_folder_append (hroot : IsRoot root) (cs : List (List Char)) (x : List Char) :
    (folder root cs ++ x).head? = some '/' := by
  rcases hroot with rfl | rfl <;> rfl

/-- A path that begins with a slash is normalised by keeping components; it ends at a NUL. -/
theorem normalizeChars_of_head? (h : path.head? = some '/') :
    normalizeChars path = (absolute (rootLength path)
      ((parts '/' path).foldl (addPart true) []).reverse).takeWhile (· ≠ '\x00') := by
  have hroot := isRoot_rootLength h
  unfold normalizeChars
  dsimp only
  rw [decide_eq_true hroot.pos, if_neg ?_]
  · rfl
  · rcases hroot with hroot | hroot <;> simp [hroot, List.replicate]

/-- **Below a root, normalising runs through the parts as a stack.** -/
theorem normalizeChars_folder (hroot : IsRoot root) (hds : ∀ d ∈ ds, '/' ∉ d)
    (hx : (ds.flatMap (· ++ ['/']) ++ x).head? ≠ some '/') :
    normalizeChars (folder root ds ++ x) = (absolute root
      ((ds ++ parts '/' x).foldl (addPart true) []).reverse).takeWhile (· ≠ '\x00') := by
  have hsplit : folder root ds ++ x
      = List.replicate root '/' ++ (ds.flatMap (· ++ ['/']) ++ x) := by
    rw [folder, List.append_assoc]
  rw [normalizeChars_of_head? (head?_folder_append hroot ds x), hsplit,
    rootLength_replicate hroot hx, parts_replicate, parts_flatMap hds, List.foldl_append,
    foldl_addPart_empty]

end

/-! ## Paths in normal form -/

/-- The path is absolute, and normalising leaves it as it is. -/
structure IsNormal (path : List Char) : Prop where
  absolute : path.head? = some '/'
  normalized : normalizeChars path = path

section

variable {path : List Char} {root : Nat} {cs : List (List Char)}

theorem takeWhile_eq_self {x : List Char} (h : '\x00' ∉ x) : x.takeWhile (· ≠ '\x00') = x := by
  refine List.takeWhile_eq_self_iff.mpr fun c hc => ?_
  have hne : c ≠ '\x00' := fun hnul => h (hnul ▸ hc)
  simpa using hne

theorem nul_notMem_normalizeChars (path : List Char) : '\x00' ∉ normalizeChars path := by
  unfold normalizeChars
  dsimp only
  split
  · decide
  · intro h
    have hpasses := List.mem_takeWhile_imp h
    simp at hpasses

theorem nul_notMem_absolute (hcs : ∀ c ∈ cs, '\x00' ∉ c) : '\x00' ∉ absolute root cs := by
  intro h
  rcases List.mem_append.mp h with h | h
  · exact absurd (List.eq_of_mem_replicate h) (by decide)
  · rcases mem_unparts h with h | ⟨c, hc, hnul⟩
    · exact absurd h (by decide)
    · exact hcs c hc hnul

/-- A list of components makes a path in normal form. -/
theorem isNormal_absolute (hroot : IsRoot root) (hcs : ∀ c ∈ cs, IsComponent c)
    (hnul : ∀ c ∈ cs, '\x00' ∉ c) : IsNormal (absolute root cs) := by
  refine ⟨head?_absolute hroot cs, ?_⟩
  have hkept : (parts '/' (absolute root cs)).foldl (addPart true) [] = cs.reverse := by
    rw [absolute, parts_replicate, List.foldl_append, foldl_addPart_empty]
    by_cases hempty : cs = []
    · subst hempty
      rfl
    · rw [parts_unparts hempty fun c hc => (hcs c hc).whole, foldl_addPart_components hcs,
        List.append_nil]
  have hlength : rootLength (absolute root cs) = root :=
    rootLength_replicate hroot (unparts_head? hcs)
  rw [normalizeChars_of_head? (head?_absolute hroot cs), hkept, List.reverse_reverse, hlength,
    takeWhile_eq_self (nul_notMem_absolute hnul)]

/-- An absolute path without NUL is normalised to a list of components. -/
theorem exists_normalizeChars (h : path.head? = some '/') (hnul : '\x00' ∉ path) :
    ∃ root cs, IsRoot root ∧ (∀ c ∈ cs, IsComponent c ∧ '\x00' ∉ c)
      ∧ normalizeChars path = absolute root cs := by
  have hkept : ∀ c ∈ ((parts '/' path).foldl (addPart true) []).reverse,
      IsComponent c ∧ '\x00' ∉ c := by
    intro c hc
    rw [List.mem_reverse] at hc
    refine ⟨foldl_addPart_isComponent (fun p hp => notMem_of_mem_parts hp) (by simp) c hc, ?_⟩
    have hpart : c ∈ parts '/' path := (mem_foldl_addPart hc).resolve_left List.not_mem_nil
    exact fun hn => hnul (mem_of_mem_parts hpart hn).1
  refine ⟨_, _, isRoot_rootLength h, hkept, ?_⟩
  rw [normalizeChars_of_head? h, takeWhile_eq_self]
  exact nul_notMem_absolute fun c hc => (hkept c hc).2

/-- **A path in normal form is a root and a list of components.** -/
theorem isNormal_iff : IsNormal path ↔ ∃ root cs, IsRoot root
    ∧ (∀ c ∈ cs, IsComponent c ∧ '\x00' ∉ c) ∧ path = absolute root cs := by
  constructor
  · intro h
    have hnul : '\x00' ∉ path := h.normalized ▸ nul_notMem_normalizeChars path
    obtain ⟨root, cs, hroot, hcs, hnormalized⟩ := exists_normalizeChars h.absolute hnul
    exact ⟨root, cs, hroot, hcs, h.normalized ▸ hnormalized⟩
  · rintro ⟨root, cs, hroot, hcs, rfl⟩
    exact isNormal_absolute hroot (fun c hc => (hcs c hc).1) fun c hc => (hcs c hc).2

end

end SourceLoader.Path
