import Mathlib.Data.List.Forall2
import SourceLoader.Compile.Scope

/-!
# Scopes that say no more than others

Two readings of scopes are compared by what they have noted. The first one covers the second one
(`BlockCovers`) if the same names are declared and bound in the same blocks. Where it is `loose`,
the second one may have noted fewer uses of other sorts and fewer inner blocks.

Names that are covered by sound ones are sound (`BlockCovers.check`): what is said of a name that is
nonlocal or global is the same, and no fewer names can be seen.
-/

namespace SourceLoader

namespace Scope

/-! ## Uses that say no more -/

namespace Uses

/-- The first uses say no more than the second ones. What is declared, and whether the name is bound
in some way, is the same. -/
structure AtMost (v u : Uses) : Prop where
  isGlobal : v.isGlobal = u.isGlobal
  isNonlocal : v.isNonlocal = u.isNonlocal
  isParameter : v.isParameter = u.isParameter
  isLocal : v.isLocal = u.isLocal
  isBound : v.isBound = true → u.isBound = true
  isRead : v.isRead = true → u.isRead = true
  isAnnotated : v.isAnnotated = true → u.isAnnotated = true
  isIterated : v.isIterated = true → u.isIterated = true

theorem AtMost.refl (u : Uses) : u.AtMost u := ⟨rfl, rfl, rfl, rfl, id, id, id, id⟩

theorem AtMost.trans {w v u : Uses} (h : w.AtMost v) (h' : v.AtMost u) : w.AtMost u where
  isGlobal := h.isGlobal.trans h'.isGlobal
  isNonlocal := h.isNonlocal.trans h'.isNonlocal
  isParameter := h.isParameter.trans h'.isParameter
  isLocal := h.isLocal.trans h'.isLocal
  isBound := h'.isBound ∘ h.isBound
  isRead := h'.isRead ∘ h.isRead
  isAnnotated := h'.isAnnotated ∘ h.isAnnotated
  isIterated := h'.isIterated ∘ h.isIterated

theorem isLocal_union (a b : Uses) : (a.union b).isLocal = (a.isLocal || b.isLocal) := by
  simp only [isLocal, union]
  ac_rfl

theorem AtMost.union {v u v' u' : Uses} (h : v.AtMost u) (h' : v'.AtMost u') :
    (v.union v').AtMost (u.union u') := by
  have hor : ∀ {a b a' b' : Bool}, (a = true → b = true) → (a' = true → b' = true) →
      (a || a') = true → (b || b') = true := by
    intro a b a' b' hab hab' ha
    exact Bool.or_eq_true_iff.mpr ((Bool.or_eq_true_iff.mp ha).imp hab hab')
  constructor
  · simp only [Uses.union, h.isGlobal, h'.isGlobal]
  · simp only [Uses.union, h.isNonlocal, h'.isNonlocal]
  · simp only [Uses.union, h.isParameter, h'.isParameter]
  · simp only [isLocal_union, h.isLocal, h'.isLocal]
  · exact hor h.isBound h'.isBound
  · exact hor h.isRead h'.isRead
  · exact hor h.isAnnotated h'.isAnnotated
  · exact hor h.isIterated h'.isIterated

/-- A variable of a comprehension, as well. -/
theorem AtMost.iterated {v u : Uses} (h : v.AtMost u) :
    { v with isIterated := true }.AtMost { u with isIterated := true } :=
  { h with isIterated := fun _ => rfl }

/-- The first uses say as much as the second ones, and more only if these are loose. -/
def Covers (loose : Prop) (u v : Uses) : Prop := v.AtMost u ∧ (u.AtMost v ∨ loose)

namespace Covers

variable {loose : Prop} {u v u' v' : Uses}

theorem refl (u : Uses) : Covers loose u u := ⟨.refl u, .inl (.refl u)⟩

theorem symm (h : Covers False u v) : Covers False v u := ⟨h.2.resolve_right id, .inl h.1⟩

theorem union (h : Covers loose u v) (h' : Covers loose u' v') :
    Covers loose (u.union u') (v.union v') :=
  ⟨h.1.union h'.1, h.2.elim (fun huv => h'.2.imp_left huv.union) .inr⟩

theorem iterated (h : Covers loose u v) :
    Covers loose { u with isIterated := true } { v with isIterated := true } :=
  ⟨h.1.iterated, h.2.imp_left AtMost.iterated⟩

end Covers

end Uses

/-! ## Names -/

/-- How a name is used, among all names of a block. -/
def usesIn (names : List (String × Uses)) (name : String) : Uses := (names.lookup name).getD {}

/-- The names of one block cover those of another one. -/
structure NamesCover (loose : Prop) (names names' : List (String × Uses)) : Prop where
  uses : ∀ name, Uses.Covers loose (usesIn names name) (usesIn names' name)
  nodup : (names.map Prod.fst).Nodup
  nodup' : (names'.map Prod.fst).Nodup

theorem NamesCover.symm {names names' : List (String × Uses)} (h : NamesCover False names names') :
    NamesCover False names' names := ⟨fun name => (h.uses name).symm, h.nodup', h.nodup⟩

theorem lookup_isSome_iff {names : List (String × Uses)} {name : String} :
    (names.lookup name).isSome ↔ name ∈ names.map Prod.fst := by
  induction names with
  | nil => simp
  | cons n names ih =>
      rw [List.lookup_cons, List.map_cons, List.mem_cons]
      by_cases h : name = n.1
      · simp [h]
      · simp [beq_false_of_ne h, h, ih]

/-- Where each name occurs once, looking a name up finds it. -/
theorem mem_iff_lookup {names : List (String × Uses)} (h : (names.map Prod.fst).Nodup)
    {name : String} {u : Uses} : (name, u) ∈ names ↔ names.lookup name = some u := by
  induction names with
  | nil => simp
  | cons n names ih =>
      obtain ⟨first, w⟩ := n
      rw [List.map_cons, List.nodup_cons] at h
      rw [List.lookup_cons, List.mem_cons, ih h.2, Prod.mk.injEq]
      by_cases hname : name = first
      · subst hname
        have hnone : names.lookup name = none := by
          rw [← Option.not_isSome_iff_eq_none, lookup_isSome_iff]
          exact h.1
        simp [hnone, eq_comm]
      · simp [beq_false_of_ne hname, hname]

theorem usesIn_of_mem {names : List (String × Uses)} (h : (names.map Prod.fst).Nodup)
    {n : String × Uses} (hn : n ∈ names) : usesIn names n.1 = n.2 := by
  rw [usesIn, (mem_iff_lookup h).mp hn]
  rfl

/-- What a name is used for is said of it among the names. -/
theorem mem_of_usesIn {names : List (String × Uses)} (h : (names.map Prod.fst).Nodup)
    {name : String} (hne : (names.lookup name).isSome) : (name, usesIn names name) ∈ names := by
  obtain ⟨u, hu⟩ := Option.isSome_iff_exists.mp hne
  rw [mem_iff_lookup h, usesIn, hu]
  rfl

theorem usesIn_of_none {names : List (String × Uses)} {name : String}
    (h : ¬(names.lookup name).isSome) : usesIn names name = {} := by
  rw [usesIn, Option.not_isSome_iff_eq_none.mp h]
  rfl

/-! ## Blocks -/

mutual

/-- One block covers another one of the same kind. -/
inductive BlockCovers (loose : Prop) : Block → Block → Prop
  | mk {kind : BlockKind} {names names' : List (String × Uses)}
      {declared declared' : List (String × Span)} {inner inner' : List Block}
      (hnames : NamesCover loose names names') (hinner : BlocksCover loose inner inner') :
      BlockCovers loose (.mk kind names declared inner) (.mk kind names' declared' inner')

/-- The same in a row. Blocks may be left out on the loose side. -/
inductive BlocksCover (loose : Prop) : List Block → List Block → Prop
  | nil : BlocksCover loose [] []
  | cons {b b' : Block} {bs bs' : List Block} (hhead : BlockCovers loose b b')
      (htail : BlocksCover loose bs bs') : BlocksCover loose (b :: bs) (b' :: bs')
  | extra {b : Block} {bs bs' : List Block} (hloose : loose) (htail : BlocksCover loose bs bs') :
      BlocksCover loose (b :: bs) bs'

end

mutual

theorem BlockCovers.symm : {b b' : Block} → BlockCovers False b b' → BlockCovers False b' b
  | _, _, .mk hnames hinner => .mk hnames.symm hinner.symm

theorem BlocksCover.symm : {bs bs' : List Block} → BlocksCover False bs bs' →
    BlocksCover False bs' bs
  | _, _, .nil => .nil
  | _, _, .cons hhead htail => .cons hhead.symm htail.symm
  | _, _, .extra hloose _ => hloose.elim

end

theorem BlocksCover.append {loose : Prop} {bs bs' cs cs' : List Block}
    (h : BlocksCover loose bs bs') (h' : BlocksCover loose cs cs') :
    BlocksCover loose (bs ++ cs) (bs' ++ cs') := by
  induction bs generalizing bs' with
  | nil => cases h; exact h'
  | cons b bs ih =>
      cases h with
      | cons hhead htail => exact .cons hhead (ih htail)
      | extra hloose htail => exact .extra hloose (ih htail)

/-- One block that is being read covers another one. -/
structure OpenBlock.Covers (loose : Prop) (b c : OpenBlock) : Prop where
  kind : c.kind = b.kind
  inTarget : c.inTarget = b.inTarget
  iterables : c.iterables = b.iterables
  names : NamesCover loose b.names c.names
  inner : BlocksCover loose b.inner c.inner

namespace OpenBlock

variable {loose : Prop} {b c b' c' : OpenBlock}

@[simp] theorem kind_put (b : OpenBlock) (name : String) (uses : Uses) :
    (b.put name uses).kind = b.kind := by
  unfold put
  split <;> rfl

theorem inTarget_put (b : OpenBlock) (name : String) (uses : Uses) :
    (b.put name uses).inTarget = b.inTarget := by
  unfold put
  split <;> rfl

theorem iterables_put (b : OpenBlock) (name : String) (uses : Uses) :
    (b.put name uses).iterables = b.iterables := by
  unfold put
  split <;> rfl

theorem inner_put (b : OpenBlock) (name : String) (uses : Uses) :
    (b.put name uses).inner = b.inner := by
  unfold put
  split <;> rfl

theorem lookup_map (names : List (String × Uses)) (name : String) (uses : Uses) (other : String) :
    (names.map fun (n, u) => (n, if n = name then uses else u)).lookup other
      = (names.lookup other).map fun u => if other = name then uses else u := by
  induction names with
  | nil => rfl
  | cons n names ih =>
      rw [List.map_cons, List.lookup_cons, List.lookup_cons, ih]
      by_cases h : other = n.1
      · simp [h]
      · simp [beq_false_of_ne h]

theorem uses_put (b : OpenBlock) (name : String) (uses : Uses) (other : String) :
    usesIn (b.put name uses).names other
      = if other = name then uses else usesIn b.names other := by
  unfold put
  split
  · next hsome =>
    simp only [usesIn, lookup_map]
    by_cases h : other = name
    · subst h
      obtain ⟨u, hu⟩ := Option.isSome_iff_exists.mp hsome
      simp [hu]
    · simp [h]
  · next hnone =>
    rw [Option.not_isSome_iff_eq_none] at hnone
    simp only [usesIn, List.lookup_append]
    by_cases h : other = name
    · subst h
      simp [hnone]
    · rw [if_neg h, List.lookup_cons, beq_false_of_ne h, List.lookup_nil, Option.or_none]

theorem nodup_put {name : String} {uses : Uses} (h : (b.names.map Prod.fst).Nodup) :
    ((b.put name uses).names.map Prod.fst).Nodup := by
  unfold put
  split
  · simpa [Function.comp_def] using h
  · next hnone =>
    rw [lookup_isSome_iff] at hnone
    rw [List.map_append, List.nodup_append]
    refine ⟨h, by simp, ?_⟩
    rintro x hx y hy rfl
    cases List.mem_singleton.mp hy
    exact hnone hx

namespace Covers

theorem symm (h : Covers False b c) : Covers False c b :=
  ⟨h.kind.symm, h.inTarget.symm, h.iterables.symm, h.names.symm, h.inner.symm⟩

theorem fresh (kind : BlockKind) (iterables : Nat) :
    Covers loose { kind, iterables } { kind, iterables } :=
  ⟨rfl, rfl, rfl, ⟨fun _ => .refl _, .nil, .nil⟩, .nil⟩

theorem put (h : Covers loose b c) {name : String} {u v : Uses} (huv : Uses.Covers loose u v) :
    Covers loose (b.put name u) (c.put name v) where
  kind := by rw [kind_put, kind_put, h.kind]
  inTarget := by rw [inTarget_put, inTarget_put, h.inTarget]
  iterables := by rw [iterables_put, iterables_put, h.iterables]
  names := by
    refine ⟨fun other => ?_, nodup_put h.names.nodup, nodup_put h.names.nodup'⟩
    rw [uses_put, uses_put]
    split
    · exact huv
    · exact h.names.uses other
  inner := by rw [inner_put, inner_put]; exact h.inner

theorem declare (h : Covers loose b c) (declared declared' : List (String × Span)) :
    Covers loose { b with declared } { c with declared := declared' } :=
  ⟨h.kind, h.inTarget, h.iterables, h.names, h.inner⟩

theorem close (h : Covers loose b c) : BlockCovers loose b.close c.close := by
  rw [OpenBlock.close, OpenBlock.close, h.kind]
  exact .mk h.names h.inner

theorem around (h : Covers loose b c) (h' : Covers loose b' c') :
    Covers loose { b with inner := b.inner ++ [b'.close] }
      { c with inner := c.inner ++ [c'.close] } :=
  ⟨h.kind, h.inTarget, h.iterables, h.names, h.inner.append (.cons h'.close .nil)⟩

end Covers

end OpenBlock

/-! ## Nonlocal names -/

/-- The names that are visible, none where there are no blocks around. -/
def seen (visible : Option (List String)) : List String := visible.getD []

/-- A name is declared in one way at most, and if it is nonlocal it is visible. -/
def Sound (visible : Option (List String)) (name : String) (u : Uses) : Prop :=
  (u.isGlobal = true → u.isNonlocal = false)
    ∧ (u.isNonlocal = true → name ∈ seen visible)

/-- The name is bound in the block itself. -/
def Own (u : Uses) : Prop := u.isGlobal = false ∧ u.isNonlocal = false ∧ u.isLocal = true

section

variable {declared : List (String × Span)} {visible remaining : Option (List String)}
  {bound own : List String} {names : List (String × Uses)}

theorem mem_seen_filter {p : String → Bool} {name : String} :
    name ∈ seen (visible.map (List.filter p)) ↔ name ∈ seen visible ∧ p name = true := by
  cases visible <;> simp [seen]

/-- A name that is not among those that are hidden stays as sound as it was. -/
theorem sound_filter {name hidden : String} (hne : name ≠ hidden) (u : Uses) :
    Sound (visible.map (List.filter (· ≠ hidden))) name u ↔ Sound visible name u := by
  simp [Sound, mem_seen_filter, hne]

theorem checkNames_sound (hnodup : (names.map Prod.fst).Nodup)
    (h : checkNames declared visible bound names = .ok (remaining, own)) :
    (∀ n ∈ names, Sound visible n.1 n.2)
    ∧ (∀ x, x ∈ seen remaining ↔ x ∈ seen visible ∧ ∀ n ∈ names, n.1 = x → n.2.isGlobal = false)
    ∧ ∀ x, x ∈ own ↔ x ∈ bound ∨ ∃ n ∈ names, n.1 = x ∧ Own n.2 := by
  fun_induction checkNames declared visible bound names
  case case1 =>
    cases h
    simp
  case case2 => cases h
  case case3 visible bound name uses names hglobal hnonlocal ih =>
    rw [List.map_cons, List.nodup_cons] at hnodup
    obtain ⟨hsound, hremaining, hown⟩ := ih hnodup.2 h
    refine ⟨?_, fun x => ?_, fun x => ?_⟩
    · rintro n (_ | ⟨_, hn⟩)
      · exact ⟨fun _ => Bool.not_eq_true _ ▸ hnonlocal, fun h => (hnonlocal h).elim⟩
      · refine (sound_filter (fun heq => hnodup.1 ?_) n.2).mp (hsound n hn)
        exact List.mem_map.mpr ⟨n, hn, heq⟩
    · rw [hremaining, mem_seen_filter]
      simp only [List.forall_mem_cons, hglobal, decide_eq_true_eq]
      grind
    · rw [hown]
      simp [Own, hglobal]
  case case4 => cases h
  case case5 bound name uses names hglobal hnonlocal v hv ih =>
    rw [List.map_cons, List.nodup_cons] at hnodup
    obtain ⟨hsound, hremaining, hown⟩ := ih hnodup.2 h
    refine ⟨List.forall_mem_cons.mpr ⟨⟨fun h => (hglobal h).elim, fun _ => ?_⟩, hsound⟩,
      fun x => ?_, fun x => ?_⟩
    · simpa [seen] using hv
    · simp [hremaining, hglobal]
    · simp [hown, Own, hnonlocal]
  case case6 => cases h
  case case7 visible bound name uses names hglobal hnonlocal ih =>
    rw [List.map_cons, List.nodup_cons] at hnodup
    obtain ⟨hsound, hremaining, hown⟩ := ih hnodup.2 h
    refine ⟨List.forall_mem_cons.mpr ⟨⟨fun h => (hglobal h).elim, fun h => (hnonlocal h).elim⟩,
      hsound⟩, fun x => ?_, fun x => ?_⟩
    · simp [hremaining, hglobal]
    · have hname : Own uses ↔ uses.isLocal = true := by simp [Own, hglobal, hnonlocal]
      rw [hown]
      by_cases hlocal : uses.isLocal = true
      · simp [hname, hlocal, eq_comm (a := x), or_left_comm, or_assoc]
      · simp [hname, hlocal]

theorem checkNames_of_sound (hnodup : (names.map Prod.fst).Nodup)
    (h : ∀ n ∈ names, Sound visible n.1 n.2) :
    ∃ r, checkNames declared visible bound names = .ok r := by
  fun_induction checkNames declared visible bound names
  case case1 => exact ⟨_, rfl⟩
  case case2 hglobal hnonlocal =>
    have hsound := (h _ List.mem_cons_self).1 hglobal
    rw [hnonlocal] at hsound
    cases hsound
  case case3 ih =>
    rw [List.map_cons, List.nodup_cons] at hnodup
    refine ih hnodup.2 fun n hn => (sound_filter (fun heq => hnodup.1 ?_) n.2).mpr
      (h n (List.mem_cons_of_mem _ hn))
    exact List.mem_map.mpr ⟨n, hn, heq⟩
  case case4 hnonlocal =>
    cases (h _ List.mem_cons_self).2 hnonlocal
  case case5 ih =>
    rw [List.map_cons, List.nodup_cons] at hnodup
    exact ih hnodup.2 fun n hn => h n (List.mem_cons_of_mem _ hn)
  case case6 hnonlocal v hv =>
    have hseen := (h _ List.mem_cons_self).2 hnonlocal
    exact absurd (by simpa [seen] using hseen) hv
  case case7 ih =>
    rw [List.map_cons, List.nodup_cons] at hnodup
    exact ih hnodup.2 fun n hn => h n (List.mem_cons_of_mem _ hn)

end

/-- What holds of the uses of each name that is there holds of the uses of every name. -/
theorem forall_usesIn {names : List (String × Uses)} (hnodup : (names.map Prod.fst).Nodup)
    {P : String → Uses → Prop} (hnone : ∀ name, P name {}) :
    (∀ n ∈ names, P n.1 n.2) ↔ ∀ name, P name (usesIn names name) := by
  constructor
  · intro h name
    by_cases hsome : (names.lookup name).isSome
    · exact h _ (mem_of_usesIn hnodup hsome)
    · rw [usesIn_of_none hsome]
      exact hnone name
  · intro h n hn
    rw [← usesIn_of_mem hnodup hn]
    exact h n.1

section

variable {loose : Prop} {visible visible' : Option (List String)} {u v : Uses} {name : String}

theorem Uses.Covers.sound (h : Uses.Covers loose u v) (hseen : seen visible ⊆ seen visible')
    (hsound : Sound visible name u) : Sound visible' name v := by
  rw [Sound, h.1.isGlobal, h.1.isNonlocal]
  exact ⟨hsound.1, fun hnonlocal => hseen (hsound.2 hnonlocal)⟩

theorem Uses.Covers.own (h : Uses.Covers loose u v) : Own v ↔ Own u := by
  rw [Own, Own, h.1.isGlobal, h.1.isNonlocal, h.1.isLocal]

/-- Names that are covered are sound, and leave no less to be seen inside. -/
theorem NamesCover.checkNames {names names' : List (String × Uses)}
    {declared : List (String × Span)} (declared' : List (String × Span))
    {remaining : Option (List String)} {own : List String} (h : NamesCover loose names names')
    (hseen : seen visible ⊆ seen visible')
    (hok : checkNames declared visible [] names = .ok (remaining, own)) :
    ∃ remaining' own', Scope.checkNames declared' visible' [] names' = .ok (remaining', own')
      ∧ seen remaining ⊆ seen remaining' ∧ own ⊆ own' := by
  obtain ⟨hsound, hremaining, hown⟩ := checkNames_sound h.nodup hok
  have hnone : ∀ name, Sound visible name {} := fun _ => ⟨nofun, nofun⟩
  have hnone' : ∀ name, Sound visible' name {} := fun _ => ⟨nofun, nofun⟩
  have hall := (forall_usesIn h.nodup hnone).mp hsound
  obtain ⟨⟨remaining', own'⟩, hok'⟩ :
      ∃ r, Scope.checkNames declared' visible' [] names' = .ok r :=
    checkNames_of_sound h.nodup'
      ((forall_usesIn h.nodup' hnone').mpr fun name => (h.uses name).sound hseen (hall name))
  obtain ⟨-, hremaining', hown'⟩ := checkNames_sound h.nodup' hok'
  refine ⟨remaining', own', hok', fun x hx => ?_, fun x hx => ?_⟩
  · obtain ⟨hvisible, hhidden⟩ := (hremaining x).mp hx
    refine (hremaining' x).mpr ⟨hseen hvisible, ?_⟩
    have hother := (forall_usesIn h.nodup
      (P := fun name u => name = x → u.isGlobal = false) fun _ _ => rfl).mp hhidden
    refine (forall_usesIn h.nodup'
      (P := fun name u => name = x → u.isGlobal = false) fun _ _ => rfl).mpr fun name hname => ?_
    rw [(h.uses name).1.isGlobal]
    exact hother name hname
  · obtain ⟨n, hn, rfl, hn'⟩ := ((hown x).mp hx).resolve_left List.not_mem_nil
    have hown'' : Own (usesIn names' n.1) := by
      rw [(h.uses n.1).own, usesIn_of_mem h.nodup hn]
      exact hn'
    refine (hown' n.1).mpr (.inr ⟨_, mem_of_usesIn h.nodup' ?_, rfl, hown''⟩)
    by_contra hnone
    rw [usesIn_of_none hnone] at hown''
    cases hown''.2.2

mutual

/-- A block that is covered by a sound one is sound. -/
theorem BlockCovers.check : {b b' : Block} → BlockCovers loose b b' →
    ∀ {visible visible' : Option (List String)}, seen visible ⊆ seen visible' →
      Scope.check visible b = .ok () → Scope.check visible' b' = .ok ()
  | .mk kind names declared inner, .mk _ names' declared' inner', .mk hnames hinner,
      visible, visible', hseen, hok => by
    rw [Scope.check] at hok ⊢
    cases hchecked : checkNames declared visible [] names with
    | error e => rw [hchecked] at hok; cases hok
    | ok r =>
        obtain ⟨remaining, own⟩ := r
        obtain ⟨remaining', own', hok', hremaining, hown⟩ :=
          hnames.checkNames declared' hseen hchecked
        rw [hchecked] at hok
        rw [hok']
        refine hinner.check ?_ hok
        cases kind with
        | classBody => exact List.cons_subset_cons _ hseen
        | module => exact hremaining
        | _ =>
            refine List.append_subset.mpr ⟨?_, ?_⟩
            · exact List.subset_append_of_subset_left _ hown
            · exact List.subset_append_of_subset_right _ hremaining

theorem BlocksCover.check : {bs bs' : List Block} → BlocksCover loose bs bs' →
    ∀ {visible visible' : List String}, visible ⊆ visible' →
      checkAll visible bs = .ok () → checkAll visible' bs' = .ok ()
  | _, _, .nil, _, _, _, _ => by rw [checkAll]
  | b :: bs, b' :: bs', .cons hhead htail, visible, visible', hseen, hok => by
    rw [checkAll] at hok ⊢
    cases hb : Scope.check (some visible) b with
    | error e => rw [hb] at hok; cases hok
    | ok _ =>
        rw [hb] at hok
        have hsome : seen (some visible) ⊆ seen (some visible') := hseen
        rw [hhead.check hsome hb]
        exact htail.check hseen hok
  | b :: bs, bs', .extra _ htail, visible, visible', hseen, hok => by
    rw [checkAll] at hok
    cases hb : Scope.check (some visible) b with
    | error e => rw [hb] at hok; cases hok
    | ok _ => rw [hb] at hok; exact htail.check hseen hok

end

end

end Scope

end SourceLoader
