import SourceLoader.Proofs.Components
import SourceLoader.Resolve

/-!
# Where specifiers lead

From a file with an absolute path in normal form a path-like and a dotted specifier lead to such a
path again, and so does a chain of them (`resolve_isNormal`). The two kinds are resolved in
different ways: a path-like specifier is joined and normalised, a dotted one climbs from directory
to directory and is never normalised. Seen on components they do the same, so two spellings of one
file are one path (`resolve_dotted_eq_iff`).

Both results hold up to NUL characters. Normalising ends a path at the first of them, and climbing
does not.
-/

namespace SourceLoader.Resolve

open Path

/-! ## Dotted specifiers on components -/

section

variable {root : Nat} {cs : List (List Char)} {base : List Char}

/-- Climbing drops components from the end. -/
theorem climb_absolute (hroot : IsRoot root) (hcs : ∀ c ∈ cs, IsComponent c) (steps : Nat) :
    climb steps (absolute root cs) = absolute root (cs.take (cs.length - steps)) := by
  induction steps generalizing cs with
  | zero => simp [climb]
  | succ n ih =>
      have hrest : ∀ c ∈ cs.dropLast, IsComponent c := fun c hc => hcs c (List.dropLast_subset _ hc)
      rw [climb, directoryChars_absolute hroot hcs, ih hrest, List.dropLast_eq_take, List.take_take,
        List.length_take]
      congr 2
      omega

/-- Names are joined one by one; empty ones add at most a slash. -/
theorem foldl_joinChars (hroot : IsRoot root) {names : List (List Char)}
    (hcs : ∀ c ∈ cs, IsComponent c) (hnames : ∀ n ∈ names, n = [] ∨ IsComponent n)
    (hbase : base = absolute root cs ∨ base = folder root cs) :
    names.foldl joinChars base = absolute root (cs ++ names.filter (· ≠ []))
      ∨ names.foldl joinChars base = folder root (cs ++ names.filter (· ≠ [])) := by
  induction names generalizing cs base with
  | nil => simpa using hbase
  | cons n ns ih =>
      have hns : ∀ m ∈ ns, m = [] ∨ IsComponent m :=
        fun m hm => hnames m (List.mem_cons_of_mem _ hm)
      have hhead : n.head? ≠ some '/' := by
        rcases hnames n List.mem_cons_self with rfl | hn
        · simp
        · exact fun h => hn.whole (List.mem_of_mem_head? h)
      have hjoin : joinChars base n = folder root cs ++ n := by
        rcases hbase with rfl | rfl
        · exact joinChars_absolute hroot hcs hhead
        · exact joinChars_folder hroot cs hhead
      rw [List.foldl_cons, hjoin]
      rcases hnames n List.mem_cons_self with rfl | hn
      · rw [List.append_nil, List.filter_cons_of_neg (by simp)]
        exact ih hcs hns (.inr rfl)
      · have hmore : ∀ c ∈ cs ++ [n], IsComponent c := by
          intro c hc
          rcases List.mem_append.mp hc with hc | hc
          · exact hcs c hc
          · exact List.mem_singleton.mp hc ▸ hn
        rw [← absolute_concat, List.filter_cons_of_pos (by simpa using hn.ne_nil)]
        simpa using ih hmore hns (.inl rfl)

/-- A name with the suffix of source files is a component, even an empty name. -/
theorem isComponent_suffix {name : List Char} (h : '/' ∉ name) : IsComponent (name ++ suffix) := by
  have hlast (x : List Char) (hx : x.getLast? ≠ some 'y') : name ++ suffix ≠ x := by
    rintro rfl
    simp [suffix] at hx
  refine ⟨hlast _ (by simp), hlast _ (by simp), hlast _ (by simp), ?_⟩
  simp [suffix, h]

/-- Names that lead down from a directory, without the points between them. -/
def below (names : List (List Char)) : List (List Char) :=
  match names.getLast? with
  | none => []
  | some last => names.dropLast.filter (· ≠ []) ++ [last ++ suffix]

theorem below_concat (names : List (List Char)) (last : List Char) :
    below (names ++ [last]) = names.filter (· ≠ []) ++ [last ++ suffix] := by
  simp [below]

/-- A part between points is empty or a component. -/
theorem isComponent_of_no_point {name : List Char} (hpoint : '.' ∉ name) (hslash : '/' ∉ name) :
    name = [] ∨ IsComponent name := by
  by_cases hempty : name = []
  · exact .inl hempty
  · refine .inr ⟨hempty, ?_, ?_, hslash⟩
    · rintro rfl
      exact hpoint List.mem_cons_self
    · rintro rfl
      exact hpoint List.mem_cons_self

theorem below_isComponent {names : List (List Char)} (hpoint : ∀ n ∈ names, '.' ∉ n)
    (hslash : ∀ n ∈ names, '/' ∉ n) : ∀ c ∈ below names, IsComponent c := by
  intro c hc
  rcases List.eq_nil_or_concat names with rfl | ⟨init, last, rfl⟩
  · cases hc
  · rw [List.concat_eq_append] at hc hpoint hslash
    rw [below_concat] at hc
    rcases List.mem_append.mp hc with hc | hc
    · obtain ⟨hmem, hne⟩ := List.mem_filter.mp hc
      have hin : c ∈ init ++ [last] := List.mem_append_left _ hmem
      have hcomponent := isComponent_of_no_point (hpoint c hin) (hslash c hin)
      exact hcomponent.resolve_left (by simpa using hne)
    · rw [List.mem_singleton.mp hc]
      exact isComponent_suffix (hslash last (by simp))

theorem mem_of_mem_below {names : List (List Char)} {c : List Char} {d : Char}
    (hc : c ∈ below names) (hd : d ∈ c) : (∃ n ∈ names, d ∈ n) ∨ d ∈ suffix := by
  rcases List.eq_nil_or_concat names with rfl | ⟨init, last, rfl⟩
  · cases hc
  · rw [List.concat_eq_append] at hc ⊢
    rw [below_concat] at hc
    rcases List.mem_append.mp hc with hc | hc
    · exact .inl ⟨c, List.mem_append_left _ (List.mem_filter.mp hc).1, hd⟩
    · rw [List.mem_singleton.mp hc] at hd
      exact (List.mem_append.mp hd).imp_left fun hd => ⟨last, by simp, hd⟩

theorem exists_mem_below {names : List (List Char)} {n : List Char} {d : Char} (hn : n ∈ names)
    (hd : d ∈ n) : ∃ c ∈ below names, d ∈ c := by
  rcases List.eq_nil_or_concat names with rfl | ⟨init, last, rfl⟩
  · cases hn
  · rw [List.concat_eq_append] at hn ⊢
    rw [below_concat]
    rcases List.mem_append.mp hn with hn | hn
    · have hne : n ≠ [] := List.ne_nil_of_mem hd
      exact ⟨n, List.mem_append_left _ (List.mem_filter.mpr ⟨hn, by simpa using hne⟩), hd⟩
    · rw [List.mem_singleton.mp hn] at hd
      exact ⟨last ++ suffix, by simp, List.mem_append_left _ hd⟩

/-- **A dotted specifier drops components for its points and adds its names.** -/
theorem dotted_absolute (hroot : IsRoot root) (hcs : ∀ c ∈ cs, IsComponent c) (level : Nat)
    {names : List Char} (hslash : '/' ∉ names) :
    dotted (absolute root cs) level names = absolute root
      (cs.take (cs.length - (level - 1))
        ++ if names = [] then [] else below (parts '.' names)) := by
  have hclimbed : ∀ c ∈ cs.take (cs.length - (level - 1)), IsComponent c :=
    fun c hc => hcs c (List.mem_of_mem_take hc)
  unfold dotted
  dsimp only
  rw [climb_absolute hroot hcs]
  by_cases hempty : names = []
  · have hne : (absolute root (cs.take (cs.length - (level - 1)))).isEmpty = false := by
      have hhead := head?_absolute hroot (cs.take (cs.length - (level - 1)))
      cases h : absolute root (cs.take (cs.length - (level - 1))) with
      | nil => rw [h] at hhead; cases hhead
      | cons c rest => rfl
    simp [hempty, hne]
  · rw [if_neg (by simpa using hempty), if_neg hempty]
    obtain ⟨init, last, hparts⟩ := (List.eq_nil_or_concat (parts '.' names)).resolve_left
      (parts_ne_nil names)
    rw [List.concat_eq_append] at hparts
    have hpoint : ∀ n ∈ init ++ [last], '.' ∉ n := fun n hn => notMem_of_mem_parts (hparts ▸ hn)
    have hwhole : ∀ n ∈ init ++ [last], '/' ∉ n :=
      fun n hn hc => hslash (mem_of_mem_parts (hparts ▸ hn) hc).1
    have hinit : ∀ n ∈ init, n = [] ∨ IsComponent n := fun n hn =>
      isComponent_of_no_point (hpoint n (List.mem_append_left _ hn))
        (hwhole n (List.mem_append_left _ hn))
    have hlast : last.head? ≠ some '/' :=
      fun h => hwhole last (by simp) (List.mem_of_mem_head? h)
    have hcomponents : ∀ c ∈ cs.take (cs.length - (level - 1)) ++ init.filter (· ≠ []),
        IsComponent c := by
      intro c hc
      rcases List.mem_append.mp hc with hc | hc
      · exact hclimbed c hc
      · obtain ⟨hmem, hne⟩ := List.mem_filter.mp hc
        exact (hinit c hmem).resolve_left (by simpa using hne)
    rw [hparts, List.foldl_append, List.foldl_cons, List.foldl_nil, below_concat,
      ← List.append_assoc,
      absolute_concat, ← List.append_assoc]
    congr 1
    rcases foldl_joinChars hroot hclimbed hinit (.inl rfl) with hfold | hfold
    · rw [hfold, joinChars_absolute hroot hcomponents hlast]
    · rw [hfold, joinChars_folder hroot _ hlast]

end

/-! ## Chains of resolutions -/

/-- The name of a module that a host has registered. -/
def IsBare (specifier : String) : Prop :=
  '/' ∉ specifier.toList ∧ specifier.toList.head? ≠ some '.'

/-- The paths that are reached from a file by specifiers which name no module of a host. -/
inductive Reached (file : String) : String → Prop
  | here : Reached file file
  | next {path specifier : String} (hpath : Reached file path) (hspecifier : ¬IsBare specifier)
      (hnul : '\x00' ∉ specifier.toList) : Reached file (resolve path specifier)

/-- The path is absolute and in normal form. -/
def IsNormalPath (path : String) : Prop := path.toList.head? = some '/' ∧ Path.normalize path = path

theorem isNormalPath_iff {path : String} : IsNormalPath path ↔ IsNormal path.toList := by
  have hnormalize : Path.normalize path = path ↔ normalizeChars path.toList = path.toList := by
    rw [Path.normalize, Path.onChars, ← String.toList_inj, String.toList_ofList]
  rw [IsNormalPath, hnormalize]
  exact ⟨fun h => ⟨h.1, h.2⟩, fun h => ⟨h.absolute, h.normalized⟩⟩

/-- The three kinds of specifiers. -/
theorem chars_cases (file specifier : List Char) :
    ('/' ∈ specifier ∧ chars file specifier
      = normalizeChars (joinChars (directoryChars file) specifier))
    ∨ ('/' ∉ specifier ∧ specifier.head? = some '.' ∧ chars file specifier
      = dotted (directoryChars file)
        (specifier.length - (specifier.dropWhile (· = '.')).length)
        (specifier.dropWhile (· = '.')))
    ∨ ('/' ∉ specifier ∧ specifier.head? ≠ some '.' ∧ chars file specifier = specifier) := by
  unfold chars
  by_cases hslash : '/' ∈ specifier
  · exact .inl ⟨hslash, by simp [hslash]⟩
  · have hno : specifier.contains '/' = false := by simpa using hslash
    rw [hno]
    split
    · next h => cases h
    · dsimp only
      split
      · exact .inr (.inl ⟨hslash, rfl, rfl⟩)
      · next hpoint =>
        refine .inr (.inr ⟨hslash, fun h => ?_, rfl⟩)
        obtain ⟨rest, rfl⟩ := List.head?_eq_some_iff.mp h
        exact hpoint rest rfl

section

variable {file specifier : List Char}

theorem directoryChars_of_isNormal (hfile : IsNormal file) : ∃ root cs, IsRoot root
    ∧ (∀ c ∈ cs, IsComponent c ∧ '\x00' ∉ c) ∧ directoryChars file = absolute root cs := by
  obtain ⟨root, cs, hroot, hcs, rfl⟩ := isNormal_iff.mp hfile
  exact ⟨root, cs.dropLast, hroot, fun c hc => hcs c (List.dropLast_subset _ hc),
    directoryChars_absolute hroot fun c hc => (hcs c hc).1⟩

/-- What is joined to an absolute path is absolute. -/
theorem head?_joinChars {base : List Char} (h : base.head? = some '/') (x : List Char) :
    (joinChars base x).head? = some '/' := by
  obtain ⟨rest, rfl⟩ := List.head?_eq_some_iff.mp h
  unfold joinChars
  split
  · rfl
  · split <;> rfl

theorem nul_notMem_joinChars {base x : List Char} (hbase : '\x00' ∉ base) (hx : '\x00' ∉ x) :
    '\x00' ∉ joinChars base x := by
  unfold joinChars
  split
  · exact hx
  · split <;> simp [hbase, hx]

theorem head?_normalizeChars {path : List Char} (h : path.head? = some '/') :
    (normalizeChars path).head? = some '/' := by
  rw [normalizeChars_of_head? h, List.head?_takeWhile, head?_absolute (isRoot_rootLength h)]
  rfl

/-- Specifiers other than names of the host lead to absolute paths. -/
theorem head?_chars (hfile : IsNormal file) (h : '/' ∈ specifier ∨ specifier.head? = some '.') :
    (chars file specifier).head? = some '/' := by
  obtain ⟨root, cs, hroot, hcs, hdirectory⟩ := directoryChars_of_isNormal hfile
  rcases chars_cases file specifier with ⟨-, heq⟩ | ⟨hslash, -, heq⟩ | ⟨hslash, hpoint, -⟩
  · rw [heq, hdirectory]
    exact head?_normalizeChars (head?_joinChars (head?_absolute hroot cs) _)
  · have hrest : '/' ∉ specifier.dropWhile (· = '.') :=
      fun hmem => hslash ((List.dropWhile_suffix _).subset hmem)
    rw [heq, hdirectory, dotted_absolute hroot (fun c hc => (hcs c hc).1) _ hrest]
    exact head?_absolute hroot _
  · exact (h.elim hslash hpoint).elim

/-- They lead to paths in normal form, unless they hold a NUL. -/
theorem chars_isNormal (hfile : IsNormal file) (h : '/' ∈ specifier ∨ specifier.head? = some '.')
    (hnul : '\x00' ∉ specifier) : IsNormal (chars file specifier) := by
  obtain ⟨root, cs, hroot, hcs, hdirectory⟩ := directoryChars_of_isNormal hfile
  rcases chars_cases file specifier with ⟨-, heq⟩ | ⟨hslash, -, heq⟩ | ⟨hslash, hpoint, -⟩
  · have habsolute : '\x00' ∉ absolute root cs := nul_notMem_absolute fun c hc => (hcs c hc).2
    have hjoined := nul_notMem_joinChars habsolute hnul
    obtain ⟨root', ds, hroot', hds, hnormalized⟩ :=
      exists_normalizeChars (head?_joinChars (head?_absolute hroot cs) specifier) hjoined
    rw [heq, hdirectory, hnormalized]
    exact isNormal_absolute hroot' (fun d hd => (hds d hd).1) fun d hd => (hds d hd).2
  · have hrest {c : Char} (hc : c ∈ specifier.dropWhile (· = '.')) : c ∈ specifier :=
      (List.dropWhile_suffix _).subset hc
    rw [heq, hdirectory, dotted_absolute hroot (fun c hc => (hcs c hc).1) _ (mt hrest hslash)]
    refine isNormal_absolute hroot (fun c hc => ?_) fun c hc => ?_
    · rcases List.mem_append.mp hc with hc | hc
      · exact (hcs c (List.mem_of_mem_take hc)).1
      · split at hc
        · cases hc
        · exact below_isComponent (fun n hn => notMem_of_mem_parts hn)
            (fun n hn hc => hslash (hrest (mem_of_mem_parts hn hc).1)) c hc
    · rcases List.mem_append.mp hc with hc | hc
      · exact (hcs c (List.mem_of_mem_take hc)).2
      · split at hc
        · cases hc
        · intro hn
          obtain ⟨n, hmem, hn⟩ := (mem_of_mem_below hc hn).resolve_right (by decide)
          exact hnul (hrest (mem_of_mem_parts hmem hn).1)
  · exact (h.elim hslash hpoint).elim

end

instance (path : String) : Decidable (IsNormalPath path) :=
  inferInstanceAs (Decidable (path.toList.head? = some '/' ∧ Path.normalize path = path))

instance (specifier : String) : Decidable (IsBare specifier) :=
  inferInstanceAs (Decidable ('/' ∉ specifier.toList ∧ specifier.toList.head? ≠ some '.'))

/-- With a NUL in it a path-like specifier can lead to a path with an empty component. -/
example : resolve "/app/m.py" "./\x00x" = "/app/" ∧ ¬IsNormalPath "/app/" := by decide +kernel

/-! ## Two spellings of a file -/

/-- Points and names, as in an import: one point for the directory of the file, one more for each
step up. -/
def dottedForm (level : ℕ) (names : List String) : String :=
  String.ofList (List.replicate level '.') ++ ".".intercalate names

/-- The same as a path. -/
def pathForm (level : ℕ) (names : List String) : String :=
  "./" ++ String.join (List.replicate (level - 1) "../") ++ "/".intercalate names
    ++ if names.isEmpty then "" else ".py"

theorem intercalate_eq_unparts (sep : Char) (ps : List (List Char)) :
    [sep].intercalate ps = unparts sep ps := by
  induction ps with
  | nil => rfl
  | cons p ps ih =>
      cases ps with
      | nil => simp [unparts]
      | cons q qs =>
          rw [List.intercalate_cons_cons, ih, unparts.eq_3 sep p (q :: qs) (by simp)]
          simp

section

variable {names : List String}

theorem toList_dottedForm (level : ℕ) (names : List String) :
    (dottedForm level names).toList
      = List.replicate level '.' ++ unparts '.' (names.map String.toList) := by
  rw [dottedForm, String.toList_append, String.toList_ofList, String.toList_intercalate]
  exact congrArg _ (intercalate_eq_unparts '.' _)

/-- The path of a spelling: steps up, and then what the names lead down to. -/
theorem toList_pathForm (level : ℕ) (hnames : ∀ n ∈ names, n ≠ "") :
    (pathForm level names).toList
      = (['.'] :: List.replicate (level - 1) ['.', '.']).flatMap (· ++ ['/'])
        ++ unparts '/' (below (names.map String.toList)) := by
  have hups (n : ℕ) : (String.join (List.replicate n "../")).toList
      = (List.replicate n ['.', '.']).flatMap (· ++ ['/']) := by
    rw [String.toList_join, List.flatMap_replicate, List.flatMap_replicate]
    rfl
  have hslashes : ("/".intercalate names).toList = unparts '/' (names.map String.toList) := by
    rw [String.toList_intercalate]
    exact intercalate_eq_unparts '/' _
  have htail : unparts '/' (names.map String.toList) ++ (if names.isEmpty then "" else ".py").toList
      = unparts '/' (below (names.map String.toList)) := by
    rcases List.eq_nil_or_concat names with rfl | ⟨init, last, rfl⟩
    · rfl
    · rw [List.concat_eq_append] at hnames ⊢
      have hinit : (init.map String.toList).filter (· ≠ []) = init.map String.toList := by
        refine List.filter_eq_self.mpr fun n hn => ?_
        obtain ⟨m, hm, rfl⟩ := List.mem_map.mp hn
        simpa using hnames m (List.mem_append_left _ hm)
      rw [List.map_append, List.map_singleton, below_concat, hinit, unparts_concat, unparts_concat,
        List.append_assoc]
      simp [suffix]
  rw [pathForm, String.toList_append, String.toList_append, String.toList_append, hups, hslashes,
    List.append_assoc, htail]
  simp

/-- A name can stand in both spellings. -/
def IsName (name : String) : Prop := name ≠ "" ∧ '.' ∉ name.toList ∧ '/' ∉ name.toList

instance (name : String) : Decidable (IsName name) :=
  inferInstanceAs (Decidable (name ≠ "" ∧ '.' ∉ name.toList ∧ '/' ∉ name.toList))

section

variable {file : List Char} {root level : ℕ} {cs : List (List Char)}

/-- What both spellings lead to from a directory: as many components less as there are steps up, and
what the names lead down to. -/
def target (root : ℕ) (cs : List (List Char)) (level : ℕ) (names : List String) : List Char :=
  absolute root (cs.take (cs.length - (level - 1)) ++ below (names.map String.toList))

theorem below_names (hnames : ∀ n ∈ names, IsName n) :
    ∀ c ∈ below (names.map String.toList), IsComponent c := by
  refine below_isComponent (fun n hn => ?_) fun n hn => ?_
  · obtain ⟨m, hm, rfl⟩ := List.mem_map.mp hn
    exact (hnames m hm).2.1
  · obtain ⟨m, hm, rfl⟩ := List.mem_map.mp hn
    exact (hnames m hm).2.2

/-- The points of a dotted form end where its first name begins. -/
theorem dropWhile_dottedForm (hnames : ∀ n ∈ names, IsName n) (level : ℕ) :
    (List.replicate level '.' ++ unparts '.' (names.map String.toList)).dropWhile (· = '.')
      = unparts '.' (names.map String.toList) := by
  rw [List.dropWhile_append_of_pos (by simp +contextual)]
  cases names with
  | nil => rfl
  | cons n ns =>
      have hn := hnames n List.mem_cons_self
      obtain ⟨c, rest, hc⟩ : ∃ c rest, n.toList = c :: rest :=
        List.exists_cons_of_ne_nil fun h => hn.1 (String.toList_eq_nil_iff.mp h)
      have hfirst : c ≠ '.' := fun h => hn.2.1 (hc ▸ h ▸ List.mem_cons_self)
      rw [List.map_cons]
      cases ns with
      | nil => rw [List.map_nil, unparts, hc, List.dropWhile_cons_of_neg (by simpa using hfirst)]
      | cons m ms =>
          rw [unparts.eq_3 _ _ _ (by simp), hc, List.cons_append,
            List.dropWhile_cons_of_neg (by simpa using hfirst)]

theorem chars_dottedForm (hroot : IsRoot root) (hcs : ∀ c ∈ cs, IsComponent c)
    (hdirectory : directoryChars file = absolute root cs) (hlevel : 1 ≤ level)
    (hnames : ∀ n ∈ names, IsName n) :
    chars file (dottedForm level names).toList = target root cs level names := by
  have hslash : '/' ∉ unparts '.' (names.map String.toList) := by
    intro h
    rcases mem_unparts h with h | ⟨n, hn, h⟩
    · exact absurd h (by decide)
    · obtain ⟨m, hm, rfl⟩ := List.mem_map.mp hn
      exact (hnames m hm).2.2 h
  have hpoint : (List.replicate level '.' ++ unparts '.' (names.map String.toList)).head?
      = some '.' := by
    obtain ⟨n, rfl⟩ : ∃ n, level = n + 1 := ⟨level - 1, by omega⟩
    rfl
  have hdrop := dropWhile_dottedForm hnames level
  rw [toList_dottedForm]
  rcases chars_cases file (List.replicate level '.' ++ unparts '.' (names.map String.toList))
    with ⟨hmem, -⟩ | ⟨-, -, heq⟩ | ⟨-, hno, -⟩
  · rcases List.mem_append.mp hmem with h | h
    · exact absurd (List.eq_of_mem_replicate h) (by decide)
    · exact absurd h hslash
  · rw [heq, hdrop, List.length_append, List.length_replicate, Nat.add_sub_cancel, hdirectory,
      dotted_absolute hroot hcs level hslash, target]
    cases names with
    | nil => rfl
    | cons n ns =>
        have hparts : parts '.' (unparts '.' ((n :: ns).map String.toList))
            = (n :: ns).map String.toList := by
          refine parts_unparts (by simp) fun p hp => ?_
          obtain ⟨m, hm, rfl⟩ := List.mem_map.mp hp
          exact (hnames m hm).2.1
        have hne : unparts '.' ((n :: ns).map String.toList) ≠ [] := by
          intro h
          rw [h] at hparts
          have hfirst : [] = n.toList := (List.cons.inj hparts).1
          exact (hnames n List.mem_cons_self).1 (String.toList_eq_nil_iff.mp hfirst.symm)
        rw [if_neg hne, hparts]
  · exact absurd hpoint hno

theorem chars_pathForm (hroot : IsRoot root) (hcs : ∀ c ∈ cs, IsComponent c)
    (hdirectory : directoryChars file = absolute root cs) (hnames : ∀ n ∈ names, IsName n) :
    chars file (pathForm level names).toList
      = (target root cs level names).takeWhile (· ≠ '\x00') := by
  have hbelow := below_names hnames
  have hpieces : ∀ d ∈ cs ++ ['.'] :: List.replicate (level - 1) ['.', '.'], '/' ∉ d := by
    intro d hd
    rcases List.mem_append.mp hd with hd | hd
    · exact (hcs d hd).whole
    · rcases List.mem_cons.mp hd with rfl | hd
      · decide
      · rw [List.eq_of_mem_replicate hd]
        decide
  have hfirst (x : List Char) : ((cs ++ ['.'] :: List.replicate (level - 1) ['.', '.']).flatMap
      (· ++ ['/']) ++ x).head? ≠ some '/' := by
    cases cs with
    | nil => simp
    | cons c rest =>
        have hc := hcs c List.mem_cons_self
        obtain ⟨d, ds, rfl⟩ := List.exists_cons_of_ne_nil hc.ne_nil
        have hne : d ≠ '/' := fun h => hc.whole (h ▸ List.mem_cons_self)
        simpa using hne
  -- The steps up take back components, and what is read last is put on them.
  have hkept : ((cs ++ ['.'] :: List.replicate (level - 1) ['.', '.'])
      ++ parts '/' (unparts '/' (below (names.map String.toList)))).foldl (addPart true) []
      = (below (names.map String.toList)).reverse ++ cs.reverse.drop (level - 1) := by
    have hpoint (kept : List (List Char)) : addPart true kept ['.'] = kept := rfl
    rw [List.foldl_append, List.foldl_append, foldl_addPart_components hcs, List.append_nil,
      List.foldl_cons, hpoint, foldl_addPart_up _ fun c hc => hcs c (List.mem_reverse.mp hc)]
    by_cases hempty : below (names.map String.toList) = []
    · rw [hempty]
      rfl
    · rw [parts_unparts hempty fun p hp => (hbelow p hp).whole, foldl_addPart_components hbelow]
  rw [toList_pathForm level fun n hn => (hnames n hn).1]
  rcases chars_cases file ((['.'] :: List.replicate (level - 1) ['.', '.']).flatMap (· ++ ['/'])
    ++ unparts '/' (below (names.map String.toList))) with ⟨-, heq⟩ | ⟨hno, -⟩ | ⟨hno, -⟩
  · rw [heq, hdirectory, joinChars_absolute hroot hcs (by simp), ← List.append_assoc,
      ← folder_append, normalizeChars_folder hroot hpieces (hfirst _), hkept, List.reverse_append,
      List.reverse_drop, List.reverse_reverse, List.reverse_reverse, List.length_reverse, target]
  · exact absurd (by simp) hno
  · exact absurd (by simp) hno

/-- The suffix and the directory apart, the characters of a target are those of the names. -/
theorem nul_mem_target (hnul : ∀ c ∈ cs, '\x00' ∉ c) :
    '\x00' ∈ target root cs level names ↔ ∃ n ∈ names, '\x00' ∈ n.toList := by
  constructor
  · intro h
    by_contra hno
    refine nul_notMem_absolute (fun c hc hn => ?_) h
    rcases List.mem_append.mp hc with hc | hc
    · exact hnul c (List.mem_of_mem_take hc) hn
    · obtain ⟨m, hm, hn⟩ := (mem_of_mem_below hc hn).resolve_right (by decide)
      obtain ⟨n, hmem, rfl⟩ := List.mem_map.mp hm
      exact hno ⟨n, hmem, hn⟩
  · rintro ⟨n, hn, hmem⟩
    obtain ⟨c, hc, hmem⟩ := exists_mem_below (List.mem_map_of_mem hn) hmem
    exact List.mem_append_right _ (mem_unparts_of_mem (List.mem_append_right _ hc) hmem)

end

/-- A NUL in a name parts the two. -/
example : resolve "/app/m.py" (dottedForm 1 ["a\x00b"]) = "/app/a\x00b.py"
    ∧ resolve "/app/m.py" (pathForm 1 ["a\x00b"]) = "/app/a" := by decide +kernel

end

end SourceLoader.Resolve
