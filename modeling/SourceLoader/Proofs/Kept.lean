import SourceLoader.Cache
import SourceLoader.Load.Config
import SourceLoader.Proofs.Artifacts

/-!
# What a store keeps of compiled sources

A call to create a module asks the store under a key. If nothing is there it compiles, and leaves
the result unless there were remarks. So under each key a store holds what the first call with that
key has left that could leave anything: `Store.Holds` compares a store with the calls so far. Both
ways through JSON are exact, so what is asked for is what was left.
-/

namespace SourceLoader

/-! ## Stores -/

namespace Store

theorem text?_insert (s : Store) (key text other : String) :
    ({ s with entries := insert key text s.entries } : Store).text? other
      = if other = key then some text else s.text? other := by
  show ((insert key text s.entries).find? (·.1 = other)).map Prod.snd
    = if other = key then some text else (s.entries.find? (·.1 = other)).map Prod.snd
  induction s.entries with
  | nil =>
      by_cases hk : key = other
      · simp [insert, hk]
      · simp [insert, hk, Ne.symm hk]
  | cons e es ih =>
      unfold insert
      by_cases hkey : e.1 = key
      · rw [if_pos hkey]
        by_cases hk : key = other
        · simp [hk]
        · simp [hkey, hk, Ne.symm hk]
      · rw [if_neg hkey]
        by_cases hother : e.1 = other
        · have hne : other ≠ key := hother ▸ hkey
          simp [hother, hne]
        · simpa [List.find?_cons, hother] using ih

end Store

namespace Cache

variable {store : Store} {key : String}

theorem ask_store (store : Store) (key : String) :
    (ask store key).store = { store with gets := store.gets + 1 } := by
  unfold ask Store.get
  by_cases hfailing : store.failing = some .get
  · simp [hfailing]
  · simp only [if_neg hfailing]
    split <;> rfl

theorem ask_of_none (hworks : store.failing = none) (h : store.text? key = none) :
    (ask store key).result = .ok none := by
  simp [ask, Store.get, hworks, h]

theorem ask_of_some (hworks : store.failing = none) {text : String} {d : Data}
    (h : store.text? key = some text) (hread : Json.read text = .ok d) :
    (ask store key).result = .ok (some d) := by
  have hne : text ≠ "" := by
    rintro rfl
    cases hread
  simp [ask, Store.get, hworks, h, hread, hne]

end Cache

/-! ## What the calls so far have left -/

/-- A call to create a module of a source. -/
structure Creation where
  file : String
  source : String
  moduleMode : Bool
deriving DecidableEq, Repr

namespace LoadConfig

variable (c : LoadConfig)

/-- The text that is digested to the key of a call. -/
def keyText (x : Creation) : String := c.version ++ x.source ++ x.file

/-- The key of a call. -/
def key (x : Creation) : String := Fingerprint.ofText (c.keyText x)

/-- What compiling comes to for a call by itself. -/
def compiled (x : Creation) : Except Failure Compiled :=
  (compile (c.request x.file x.source x.moduleMode)).outcome

/-- What a call leaves in the store if nothing is there yet: a compilation without remarks. -/
def leaves? (x : Creation) : Option Compiled :=
  match c.compiled x with
  | .ok d => if d.warnings.isEmpty then some d else none
  | .error _ => none

/-- What calls one after the other leave under a key: the first one decides. -/
def kept? (xs : List Creation) (key : String) : Option Compiled :=
  xs.findSome? fun x => if c.key x = key then c.leaves? x else none

/-- What a call goes on with after others: what they have left, or else what it compiles. -/
def compiledAfter (xs : List Creation) (x : Creation) : Except Failure Compiled :=
  match c.kept? xs (c.key x) with
  | some d => .ok d
  | none => c.compiled x

theorem fingerprint_eq_key (x : Creation) :
    fingerprint [.text c.version, .text x.source, .text x.file] = .ok (c.key x) := by
  simp [fingerprint, Fingerprint.message, Fingerprint.part, key, keyText, bind, Except.bind, pure,
    Except.pure, String.append_assoc]

variable {c}

theorem leaves?_eq_some {x : Creation} {d : Compiled} :
    c.leaves? x = some d ↔ c.compiled x = .ok d ∧ d.warnings = [] := by
  unfold leaves?
  cases c.compiled x with
  | error f => simp
  | ok d' =>
      by_cases hw : d'.warnings = []
      · simp only [hw, List.isEmpty_nil, if_true, Option.some.injEq, Except.ok.injEq]
        exact ⟨fun h => ⟨h, h ▸ hw⟩, fun h => h.1⟩
      · simp only [List.isEmpty_iff, hw, if_false, reduceCtorEq, false_iff, Except.ok.injEq]
        rintro ⟨rfl, h⟩
        exact hw h

theorem kept?_append (xs : List Creation) (x : Creation) (key : String) :
    c.kept? (xs ++ [x]) key
      = (c.kept? xs key).or (if c.key x = key then c.leaves? x else none) := by
  simp [kept?, List.findSome?_append]

/-- What is kept has been compiled by one of the calls. -/
theorem exists_of_kept? {xs : List Creation} {key : String} {d : Compiled}
    (h : c.kept? xs key = some d) : ∃ x ∈ xs, c.key x = key ∧ c.leaves? x = some d := by
  obtain ⟨x, hx, h⟩ := List.exists_of_findSome?_eq_some h
  split at h
  · exact ⟨x, hx, ‹_›, h⟩
  · cases h

end LoadConfig

/-- A store that works and holds what calls have left, and nothing else. -/
structure Store.Holds (c : LoadConfig) (xs : List Creation) (s : Store) : Prop where
  works : s.failing = none
  texts : ∀ key, s.text? key
    = (c.kept? xs key).bind fun d => (Json.write .spaced d.toArtifact.toData).toOption

namespace Store.Holds

variable {c : LoadConfig} {xs : List Creation} {s : Store} {x : Creation}

/-- A call adds nothing if its key is taken already, or if it leaves nothing. -/
theorem of_nothing_left (h : s.Holds c xs)
    (hx : c.kept? xs (c.key x) ≠ none ∨ c.leaves? x = none) : s.Holds c (xs ++ [x]) where
  works := h.works
  texts := by
    intro key
    rw [h.texts key, LoadConfig.kept?_append]
    by_cases hkey : c.key x = key
    · subst hkey
      rcases hx with hx | hx
      · obtain ⟨d, hd⟩ := Option.ne_none_iff_exists'.mp hx
        rw [hd, Option.some_or]
      · rw [hx, if_pos rfl, Option.or_none]
    · rw [if_neg hkey, Option.or_none]

/-- What is asked for is what has been left. -/
theorem ask_result (h : s.Holds c xs) (key : String) :
    (Cache.ask s key).result = .ok ((c.kept? xs key).map fun d => d.toArtifact.toData) := by
  have htext := h.texts key
  cases hkept : c.kept? xs key with
  | none =>
      rw [hkept] at htext
      exact Cache.ask_of_none h.works htext
  | some d =>
      obtain ⟨x, _, _, hleaves⟩ := LoadConfig.exists_of_kept? hkept
      obtain ⟨text, hwrite, hread⟩ :=
        Compiled.write_toArtifact (LoadConfig.leaves?_eq_some.mp hleaves).1
      rw [hkept, Option.bind_some, hwrite] at htext
      exact Cache.ask_of_some h.works htext hread

theorem ask (h : s.Holds c xs) (key : String) : (Cache.ask s key).store.Holds c xs := by
  rw [Cache.ask_store]
  exact ⟨h.works, h.texts⟩

/-- What a call has compiled is kept unless there are remarks. -/
theorem keep (h : s.Holds c xs) {d : Compiled} (hd : c.compiled x = .ok d)
    (hmiss : c.kept? xs (c.key x) = none) :
    (Cache.keep s (c.key x) d.toArtifact.toData (!d.warnings.isEmpty)).result = .ok ()
      ∧ (Cache.keep s (c.key x) d.toArtifact.toData (!d.warnings.isEmpty)).store.Holds c
          (xs ++ [x]) := by
  cases hwarnings : d.warnings with
  | cons warning rest =>
      have hleaves : c.leaves? x = none := by simp [LoadConfig.leaves?, hd, hwarnings]
      exact ⟨rfl, h.of_nothing_left (Or.inr hleaves)⟩
  | nil =>
      have hleaves : c.leaves? x = some d := LoadConfig.leaves?_eq_some.mpr ⟨hd, hwarnings⟩
      obtain ⟨text, hwrite, _⟩ := Compiled.write_toArtifact hd
      have hkeep : Cache.keep s (c.key x) d.toArtifact.toData (!([] : List String).isEmpty)
          = ⟨{ s with
              sets := s.sets + 1
              entries := insert (c.key x) text s.entries }, [], .ok ()⟩ := by
        simp [Cache.keep, hwrite, Store.set, h.works]
      refine ⟨by rw [hkeep], ?_⟩
      rw [hkeep]
      refine ⟨h.works, fun key => ?_⟩
      have htext := Store.text?_insert { s with sets := s.sets + 1 } (c.key x) text key
      refine htext.trans ?_
      rw [LoadConfig.kept?_append]
      by_cases hkey : key = c.key x
      · subst hkey
        rw [if_pos rfl, if_pos rfl, hmiss, hleaves, Option.none_or, Option.bind_some, hwrite]
        rfl
      · rw [if_neg hkey, if_neg (Ne.symm hkey), Option.or_none]
        exact h.texts key

end Store.Holds

end SourceLoader
