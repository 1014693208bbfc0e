import SourceLoader.Proofs.Marks.Order
import SourceLoader.Syntax.Parser

/-!
# Trees between marks

A tree that is read between two marks declares nothing but what begins at tokens between them
(`Laid`). If the parts of a node are read one after the other (`Row`), they are in order, since tokens
are. Put together from its parts in the order of its fields, a tree is therefore arranged: each of
its nodes has its parts in order, unless its kind reorders them or an f-string declares something in
it.
-/

namespace SourceLoader

/-! ## Rows -/

/-- A list whose members lie one behind the other between two marks. -/
inductive Row {α : Type} (P : ℕ → ℕ → α → Prop) : ℕ → ℕ → List α → Prop
  | nil {i j : ℕ} (h : i ≤ j) : Row P i j []
  | step {i i' k j : ℕ} {a : α} {as : List α} (hi : i ≤ i') (ha : P i' k a) (hk : i' ≤ k)
      (has : Row P k j as) : Row P i j (a :: as)

namespace Row

variable {α β : Type} {P : ℕ → ℕ → α → Prop} {i i' j j' k k' : ℕ} {a : α} {as bs : List α}

theorem le (h : Row P i j as) : i ≤ j := by
  induction h with
  | nil h => exact h
  | step hi ha hk has ih => omega

theorem mono (h : Row P i j as) (hi : i' ≤ i) (hj : j ≤ j') : Row P i' j' as := by
  induction h generalizing i' with
  | nil h => exact .nil (by omega)
  | step hi' ha hk has ih => exact .step (by omega) ha hk (ih le_rfl hj)

theorem append (h : Row P i k as) (h' : Row P k' j bs) (hk : k ≤ k') :
    Row P i j (as ++ bs) := by
  induction h with
  | nil h => exact h'.mono (by omega) le_rfl
  | step hi ha hk' has ih => exact .step hi ha hk' (ih hk)

theorem flatten {ass : List (List α)} (h : Row (Row P) i j ass) : Row P i j ass.flatten := by
  induction h with
  | nil h => exact .nil h
  | step hi has hk hass ih => exact (has.mono hi le_rfl).append ih le_rfl

theorem one (ha : P i j a) (hij : i ≤ j) : Row P i j [a] := .step le_rfl ha hij (.nil le_rfl)

/-- Two parts of a row, each up to a condition on its marks. The conditions of a whole row are
gathered in this way and shown at its end. -/
theorem cons {c c' : Prop} (ha : c → P i' k a) (has : c' → Row P k j as) :
    i ≤ i' ∧ i' ≤ k ∧ c ∧ c' → Row P i j (a :: as) :=
  fun ⟨hi, hk, hc, hc'⟩ => .step hi (ha hc) hk (has hc')

/-- As a part of a row a row has a condition, too. -/
theorem whole (h : Row P i j as) : i ≤ j → Row P i j as := fun _ => h

theorem push (ha : P i k a) (has : Row P k' j as) : i ≤ k ∧ k ≤ k' → Row P i j (a :: as) :=
  fun ⟨hk, hk'⟩ => .step le_rfl ha hk (has.mono hk' le_rfl)

theorem none (i : ℕ) : Row P i i [] := .nil le_rfl

theorem map {Q : ℕ → ℕ → β → Prop} {f : α → β} (h : Row P i j as)
    (hf : ∀ i j a, P i j a → Q i j (f a)) : Row Q i j (as.map f) := by
  induction h with
  | nil h => exact .nil h
  | step hi ha hk has ih => exact .step hi (hf _ _ _ ha) hk ih

theorem mem (h : Row P i j as) (ha : a ∈ as) : ∃ i' j', i ≤ i' ∧ i' ≤ j' ∧ j' ≤ j ∧ P i' j' a := by
  induction h with
  | nil h => cases ha
  | step hi hb hk has ih =>
      have hend := has.le
      rcases List.mem_cons.mp ha with rfl | ha
      · exact ⟨_, _, hi, hk, hend, hb⟩
      · obtain ⟨i', j', hi', hj', hj, hp⟩ := ih ha
        exact ⟨i', j', by omega, hj', hj, hp⟩

/-- Members may begin behind the mark where they are looked for. -/
theorem of_later (h : Row (fun i j a => ∃ i', i ≤ i' ∧ i' ≤ j ∧ P i' j a) i j as) :
    Row P i j as := by
  induction h with
  | nil h => exact .nil h
  | step hi ha hk has ih =>
      obtain ⟨i', hi', hj', ha⟩ := ha
      exact .step (hi.trans hi') ha hj' ih

theorem toList {o : Option α} (h : ∀ a ∈ o, P i j a) (hij : i ≤ j) :
    Row P i j o.toList := by
  cases o with
  | none => exact .nil hij
  | some a => exact .one (h a rfl) hij

theorem getD {o : Option (List α)} (h : ∀ as ∈ o, Row P i j as) (hij : i ≤ j) :
    Row P i j (o.getD []) := by
  cases o with
  | none => exact .nil hij
  | some as => exact h as rfl

end Row

namespace Dependencies

variable {b : Bool}

/-! ## F-strings apart -/

/-- No f-string in the tree declares anything. -/
def Plain (b : Bool) (t : Tree) : Prop :=
  ∀ n ∈ t.nodes, n.kind = .joinedStr → declarations b n = []

/-- The parts of each node are in order, unless the kind of the node reorders them or an f-string in
it declares something. -/
def Arranged (b : Bool) (t : Tree) : Prop :=
  ∀ n ∈ t.nodes, Plain b n → n.kind.reorders = false → PartsInOrder b n

theorem plain_iff {t : Tree} : Plain b t ↔
    (t.kind = .joinedStr → declarations b t = []) ∧ ∀ c ∈ t.children, Plain b c := by
  constructor
  · intro h
    exact ⟨h t (Tree.self_mem_nodes t),
      fun c hc n hn => h n (Tree.mem_nodes_iff.mpr (.inr ⟨c, hc, hn⟩))⟩
  · rintro ⟨hhere, hbelow⟩ n hn
    rcases Tree.mem_nodes_iff.mp hn with rfl | ⟨c, hc, hn⟩
    · exact hhere
    · exact hbelow c hc n hn

theorem arranged_iff {t : Tree} : Arranged b t ↔
    (Plain b t → t.kind.reorders = false → PartsInOrder b t) ∧ ∀ c ∈ t.children, Arranged b c := by
  constructor
  · intro h
    exact ⟨h t (Tree.self_mem_nodes t),
      fun c hc n hn => h n (Tree.mem_nodes_iff.mpr (.inr ⟨c, hc, hn⟩))⟩
  · rintro ⟨hhere, hbelow⟩ n hn
    rcases Tree.mem_nodes_iff.mp hn with rfl | ⟨c, hc, hn⟩
    · exact hhere
    · exact hbelow c hc n hn

/-- No f-string in the tree holds an import. -/
def Unquoted (t : Tree) : Prop := ∀ n ∈ t.nodes, n.kind = .joinedStr → n.imports = []

theorem unquoted_iff {t : Tree} : Unquoted t ↔
    (t.kind = .joinedStr → t.imports = []) ∧ ∀ c ∈ t.children, Unquoted c := by
  constructor
  · intro h
    exact ⟨h t (Tree.self_mem_nodes t),
      fun c hc n hn => h n (Tree.mem_nodes_iff.mpr (.inr ⟨c, hc, hn⟩))⟩
  · rintro ⟨hhere, hbelow⟩ n hn
    rcases Tree.mem_nodes_iff.mp hn with rfl | ⟨c, hc, hn⟩
    · exact hhere
    · exact hbelow c hc n hn

theorem imports_node {k : Kind} (hk : k.declares = false) (s : Option Span)
    (fs : List (List Tree)) :
    (Tree.node k s fs).imports = fs.flatten.flatMap Tree.imports := by
  rw [Tree.imports_eq, if_neg (by simp [Tree.kind, Kind.isImport_of_declares hk])]
  rfl

theorem declarations_node {k : Kind} (hk : k.declares = false) (s : Option Span)
    (fs : List (List Tree)) :
    declarations b (.node k s fs) = fs.flatten.flatMap (declarations b) := by
  rw [declarations_eq, ofNode_eq_nil hk]
  rfl

/-! ## Trees that declare nothing -/

/-- A tree that declares nothing, except in f-strings. -/
structure Still (b : Bool) (t : Tree) : Prop where
  arranged : Arranged b t
  silent : Plain b t → declarations b t = []
  importless : Unquoted t → t.imports = []

theorem Still.node {k : Kind} {fs : List (List Tree)} (hk : k.declares = false)
    (h : ∀ f ∈ fs, ∀ t ∈ f, Still b t) (s : Option Span) : Still b (.node k s fs) := by
  have hparts : ∀ c ∈ fs.flatten, Still b c := by
    intro c hc
    obtain ⟨f, hf, hc⟩ := List.mem_flatten.mp hc
    exact h f hf c hc
  have hsilent : Plain b (.node k s fs) → declarations b (.node k s fs) = [] := by
    intro hplain
    rw [declarations_node hk]
    exact List.flatMap_eq_nil_iff.mpr fun c hc => (hparts c hc).silent ((plain_iff.mp hplain).2 c hc)
  refine ⟨arranged_iff.mpr ⟨fun hplain _ => partsInOrder_of_nil (hsilent hplain),
    fun c hc => (hparts c hc).arranged⟩, hsilent, fun hunquoted => ?_⟩
  rw [imports_node hk]
  exact List.flatMap_eq_nil_iff.mpr fun c hc =>
    (hparts c hc).importless ((unquoted_iff.mp hunquoted).2 c hc)

/-- An f-string, whatever its fields declare. -/
theorem Still.joined {parts : List Tree} (h : ∀ t ∈ parts, Arranged b t) (s : Option Span) :
    Still b (.node .joinedStr s [parts]) := by
  have hsilent : Plain b (.node .joinedStr s [parts]) →
      declarations b (.node .joinedStr s [parts]) = [] := fun hplain => (plain_iff.mp hplain).1 rfl
  refine ⟨arranged_iff.mpr ⟨fun hplain _ => partsInOrder_of_nil (hsilent hplain), fun c hc => ?_⟩,
    hsilent, fun hunquoted => (unquoted_iff.mp hunquoted).1 rfl⟩
  exact h c (by simpa [Tree.children, Tree.fields] using hc)

end Dependencies

open Dependencies

/-! ## Trees between marks -/

/-- What declarations are measured against: the tokens of a lexer, and whether imports count. -/
structure Survey where
  lexer : Lexer
  imports : Bool

namespace Survey

/-- A word begins at a place, and it is the token with number `k`. -/
def Begins (v : Survey) (k : ℕ) (p : Place) : Prop :=
  ∃ t, v.lexer.TokenAt k t ∧ t.isWord = true ∧ t.start = p

theorem Begins.le {v : Survey} {k l : ℕ} {p q : Place} (hp : v.Begins k p) (hq : v.Begins l q)
    (hkl : k ≤ l) : p ≤ q := by
  obtain ⟨t, ht, htword, rfl⟩ := hp
  obtain ⟨u, hu, huword, rfl⟩ := hq
  exact ht.le hkl hu htword huword

/-- An import begins at a place with the keyword of imports. -/
def Imports (v : Survey) (n : Tree) : Prop :=
  ∃ k t, v.lexer.TokenAt k t ∧ t.kind = .keyword ∧ (t.text = "import" ∨ t.text = "from")
    ∧ t.start = n.start

end Survey

variable {v : Survey} {i i' j j' : ℕ}

/-- A tree that was read between two marks: what it declares begins there, f-strings apart, and
imports begin with a keyword. -/
structure Laid (v : Survey) (i j : ℕ) (t : Tree) : Prop where
  arranged : Arranged v.imports t
  between : Plain v.imports t →
    ∀ d ∈ declarations v.imports t, ∃ k, i ≤ k ∧ k < j ∧ v.Begins k d.2
  imports : Unquoted t → ∀ n ∈ t.imports, v.Imports n

theorem Laid.mono {t : Tree} (h : Laid v i j t) (hi : i' ≤ i) (hj : j ≤ j') : Laid v i' j' t := by
  refine ⟨h.arranged, fun hplain d hd => ?_, h.imports⟩
  obtain ⟨k, hik, hkj, hbegins⟩ := h.between hplain d hd
  exact ⟨k, by omega, by omega, hbegins⟩

theorem Dependencies.Still.laid {t : Tree} (h : Still v.imports t) (i j : ℕ) : Laid v i j t := by
  refine ⟨h.arranged, fun hplain d hd => ?_, fun hunquoted n hn => ?_⟩
  · rw [h.silent hplain] at hd
    cases hd
  · rw [h.importless hunquoted] at hn
    cases hn

/-- What is read later stands no earlier. -/
theorem Laid.noLater {t u : Tree} (ht : Laid v i j t) (hu : Laid v i' j' u) (hle : j ≤ i')
    (htplain : Plain v.imports t) (huplain : Plain v.imports u) :
    NoLater (declarations v.imports t) (declarations v.imports u) := by
  intro d hd e he
  obtain ⟨k, hik, hkj, hbegins⟩ := ht.between htplain d hd
  obtain ⟨l, hil, hlj, hbegins'⟩ := hu.between huplain e he
  exact hbegins.le hbegins' (by omega)

theorem Row.noLater {ts : List Tree} (h : Row (Laid v) i j ts)
    (hplain : ∀ t ∈ ts, Plain v.imports t) :
    ts.Pairwise fun t u => NoLater (declarations v.imports t) (declarations v.imports u) := by
  induction h with
  | nil => exact .nil
  | step hi ha hk has ih =>
      refine .cons (fun u hu => ?_) (ih fun t ht => hplain t (List.mem_cons_of_mem _ ht))
      obtain ⟨i', j', hi', -, -, hlaid⟩ := has.mem hu
      exact ha.noLater hlaid hi' (hplain _ List.mem_cons_self) (hplain u (List.mem_cons_of_mem _ hu))

/-- Trees that lie between two marks in whatever order. -/
abbrev AllLaid (v : Survey) (i j : ℕ) (ts : List Tree) : Prop := ∀ t ∈ ts, Laid v i j t

theorem AllLaid.mono {ts : List Tree} (h : AllLaid v i j ts) (hi : i' ≤ i)
    (hj : j ≤ j') : AllLaid v i' j' ts := fun t ht => (h t ht).mono hi hj

theorem AllLaid.append {ts us : List Tree} (h : AllLaid v i j ts) (h' : AllLaid v i j us) :
    AllLaid v i j (ts ++ us) := fun t ht => (List.mem_append.mp ht).elim (h t) (h' t)

theorem Row.laid {ts : List Tree} (h : Row (Laid v) i j ts) : AllLaid v i j ts := by
  intro t ht
  obtain ⟨i', j', hi', -, hj', hlaid⟩ := h.mem ht
  exact hlaid.mono hi' hj'

/-- Trees that declare nothing lie one behind the other anywhere. -/
theorem Row.still {ts : List Tree} (h : ∀ t ∈ ts, Still v.imports t) (hij : i ≤ j) :
    Row (Laid v) i j ts := by
  induction ts with
  | nil => exact .nil hij
  | cons t ts ih =>
      have ht : Laid v i i t := (h t List.mem_cons_self).laid i i
      exact .step le_rfl ht le_rfl (ih fun u hu => h u (List.mem_cons_of_mem t hu))

/-- A node with its parts between two marks. What it declares itself begins there, too, and if it is
an import, it begins with a keyword. -/
theorem Laid.node {k : Kind} {s : Option Span} {fs : List (List Tree)}
    (hown : ∀ specifier ∈ ofNode v.imports (.node k s fs),
      ∃ l, i ≤ l ∧ l < j ∧ v.Begins l (Tree.node k s fs).start)
    (himport : k.isImport = true → v.Imports (.node k s fs))
    (hparts : ∀ f ∈ fs, AllLaid v i j f)
    (horder : k.reorders = false → Row (Row (Laid v)) i j fs) : Laid v i j (.node k s fs) := by
  have hall : ∀ c ∈ fs.flatten, Laid v i j c := by
    intro c hc
    obtain ⟨f, hf, hc⟩ := List.mem_flatten.mp hc
    exact hparts f hf c hc
  refine ⟨arranged_iff.mpr ⟨fun hplain hk => ?_, fun c hc => (hall c hc).arranged⟩,
    fun hplain d hd => ?_, fun hunquoted n hn => ?_⟩
  · exact (horder hk).flatten.noLater (plain_iff.mp hplain).2
  · rw [declarations_eq] at hd
    rcases List.mem_append.mp hd with hd | hd
    · obtain ⟨specifier, hspecifier, rfl⟩ := List.mem_map.mp hd
      exact hown specifier hspecifier
    · obtain ⟨c, hc, hd⟩ := List.mem_flatMap.mp hd
      exact (hall c hc).between ((plain_iff.mp hplain).2 c hc) d hd
  · rw [Tree.imports_eq] at hn
    rcases List.mem_append.mp hn with hn | hn
    · split at hn
      · next hk =>
        rw [List.mem_singleton.mp hn]
        exact himport hk
      · cases hn
    · obtain ⟨c, hc, hn⟩ := List.mem_flatMap.mp hn
      exact (hall c hc).imports ((unquoted_iff.mp hunquoted).2 c hc) n hn

/-- A kind and fields from which a node between two marks can be made. -/
structure Makes (v : Survey) (i j : ℕ) (r : Kind × List (List Tree)) : Prop where
  declares : r.1.declares = false
  parts : ∀ f ∈ r.2, AllLaid v i j f
  order : r.1.reorders = false → Row (Row (Laid v)) i j r.2

theorem Makes.laid {r : Kind × List (List Tree)} (h : Makes v i j r) (s : Option Span) :
    Laid v i j (.node r.1 s r.2) := by
  refine .node (fun specifier hspecifier => ?_) (fun himport => ?_) h.parts h.order
  · rw [ofNode_eq_nil h.declares] at hspecifier
    cases hspecifier
  · rw [Kind.isImport_of_declares h.declares] at himport
    cases himport

theorem Makes.mono {r : Kind × List (List Tree)} (h : Makes v i j r) (hi : i' ≤ i) (hj : j ≤ j') :
    Makes v i' j' r :=
  ⟨h.declares, fun f hf => (h.parts f hf).mono hi hj, fun hk => (h.order hk).mono hi hj⟩

/-- The fields stand in the order in which they were read. -/
theorem Makes.row {c : Prop} {k : Kind} {fs : List (List Tree)} (hk : k.declares = false)
    (h : c → Row (Row (Laid v)) i j fs) (hc : c) : Makes v i j (k, fs) :=
  ⟨hk, fun _ hf t ht => (h hc).flatten.laid t (List.mem_flatten.mpr ⟨_, hf, ht⟩), fun _ => h hc⟩

/-- The fields stand in some other order. -/
theorem Makes.reordered {k : Kind} {fs : List (List Tree)} (hk : k.declares = false)
    (hreorders : k.reorders = true) (h : ∀ f ∈ fs, AllLaid v i j f) : Makes v i j (k, fs) :=
  ⟨hk, h, fun hno => absurd (hreorders.symm.trans hno) (by decide)⟩

/-! ## Usage -/

namespace Dependencies

variable {b : Bool}

/-- The trees declare the same and hold the same imports, and one is arranged if the other is. -/
structure Alike (b : Bool) (t t' : Tree) : Prop where
  declarations_eq : declarations b t' = declarations b t
  plain : Plain b t' ↔ Plain b t
  arranged : Arranged b t → Arranged b t'
  imports_eq : t'.imports = t.imports
  unquoted : Unquoted t' ↔ Unquoted t

theorem Alike.refl (b : Bool) (t : Tree) : Alike b t t := ⟨rfl, .rfl, id, rfl, .rfl⟩

theorem Alike.node {k k' : Kind} (hk : k.declares = false) (hk' : k'.declares = false)
    (hreorders : k'.reorders = k.reorders) (hjoined : k' = .joinedStr ↔ k = .joinedStr)
    (s : Option Span) {fs fs' : List (List Tree)} {f : Tree → Tree} (hfs : fs'.flatten = fs.flatten.map f)
    (h : ∀ c ∈ fs.flatten, Alike b c (f c)) : Alike b (.node k s fs) (.node k' s fs') := by
  have hsame : declarations b (.node k' s fs') = declarations b (.node k s fs) := by
    rw [declarations_node hk', declarations_node hk, hfs, List.flatMap_map]
    exact List.flatMap_congr fun c hc => (h c hc).declarations_eq
  have hplain : Plain b (.node k' s fs') ↔ Plain b (.node k s fs) := by
    rw [plain_iff, plain_iff, hsame]
    simp only [Tree.kind, hjoined, Tree.children, Tree.fields, hfs, List.forall_mem_map]
    exact and_congr .rfl (forall₂_congr fun c hc => (h c hc).plain)
  have himports : (Tree.node k' s fs').imports = (Tree.node k s fs).imports := by
    rw [imports_node hk', imports_node hk, hfs, List.flatMap_map]
    exact List.flatMap_congr fun c hc => (h c hc).imports_eq
  have hunquoted : Unquoted (.node k' s fs') ↔ Unquoted (.node k s fs) := by
    rw [unquoted_iff, unquoted_iff, himports]
    simp only [Tree.kind, hjoined, Tree.children, Tree.fields, hfs, List.forall_mem_map]
    exact and_congr .rfl (forall₂_congr fun c hc => (h c hc).unquoted)
  refine ⟨hsame, hplain, fun harranged => ?_, himports, hunquoted⟩
  rw [arranged_iff] at harranged ⊢
  refine ⟨fun hp hr => ?_, ?_⟩
  · have hparts := harranged.1 (hplain.mp hp) (hreorders.symm.trans hr)
    simp only [PartsInOrder, Tree.children, Tree.fields, hfs, List.pairwise_map] at hparts ⊢
    refine hparts.imp_of_mem fun {c d} hc hd hle => ?_
    rw [(h c hc).declarations_eq, (h d hd).declarations_eq]
    exact hle
  · simp only [Tree.children, Tree.fields, hfs, List.forall_mem_map]
    exact fun c hc => (h c hc).arranged (harranged.2 c hc)

theorem withUsageAll_eq_map (usage : Usage) (ts : List Tree) :
    Tree.withUsage.withUsageAll usage ts = ts.map (Tree.withUsage usage) := by
  induction ts with
  | nil => rfl
  | cons t ts ih => rw [Tree.withUsage.withUsageAll, ih, List.map_cons]

theorem alike_withUsage (b : Bool) (usage : Usage) (t : Tree) : Alike b t (t.withUsage usage) := by
  induction t using Tree.induction with
  | h t ih =>
  have hsame (k k' : Kind) (hk : k.declares = false) (hk' : k'.declares = false)
      (hreorders : k'.reorders = k.reorders) (hjoined : k' = .joinedStr ↔ k = .joinedStr)
      (s : Option Span) (fs : List (List Tree)) : Alike b (.node k s fs) (.node k' s fs) :=
    .node hk hk' hreorders hjoined s (f := id) (List.map_id _).symm fun c _ => .refl b c
  unfold Tree.withUsage
  split
  · exact hsame _ _ (by rfl) (by rfl) (by rfl) (by simp) _ _
  · exact hsame _ _ (by rfl) (by rfl) (by rfl) (by simp) _ _
  · exact hsame _ _ (by rfl) (by rfl) (by rfl) (by simp) _ _
  · refine .node (f := Tree.withUsage usage) (by rfl) (by rfl) (by rfl) (by simp) _ (by rfl)
      fun c hc => ?_
    exact ih c (by simpa [Tree.children, Tree.fields] using hc)
  · refine .node (f := Tree.withUsage usage) (by rfl) (by rfl) (by rfl) (by simp) _
      (by simp [withUsageAll_eq_map]) fun c hc => ?_
    exact ih c (by simpa [Tree.children, Tree.fields] using hc)
  · refine .node (f := Tree.withUsage usage) (by rfl) (by rfl) (by rfl) (by simp) _
      (by simp [withUsageAll_eq_map]) fun c hc => ?_
    exact ih c (by simpa [Tree.children, Tree.fields] using hc)
  · exact .refl b _

end Dependencies

theorem Laid.withUsage {t : Tree} (h : Laid v i j t) (usage : Usage) :
    Laid v i j (t.withUsage usage) := by
  have halike := alike_withUsage v.imports usage t
  refine ⟨halike.arranged h.arranged, fun hplain d hd => ?_, fun hunquoted n hn => ?_⟩
  · rw [halike.declarations_eq] at hd
    exact h.between (halike.plain.mp hplain) d hd
  · rw [halike.imports_eq] at hn
    exact h.imports (halike.unquoted.mp hunquoted) n hn

end SourceLoader
