import SourceLoader.Load.Machine
import SourceLoader.Proofs.Waits

/-!
# The tables of the loader

What the operations on the registries, on the paths in flight and on the noted waits do to what
can be read from them, and what stands behind each decision about a load.
-/

namespace SourceLoader

/-! ## Registries -/

namespace Registry

variable {α : Type} {r r' : Registry α} {path x : String} {v : α}

theorem contains_eq_isSome (r : Registry α) (path : String) :
    r.contains path = (r.record? path).isSome := by
  unfold contains record?
  rw [Bool.eq_iff_iff, List.find?_isSome, List.any_eq_true]

/-- Registering succeeds on a new path only, and appends its record. -/
theorem register_ok (h : r.register path v = .ok r') :
    r.record? path = none ∧ r'.records = r.records ++ [⟨path, v⟩] := by
  unfold register at h
  split at h
  · simp at h
  · rename_i hc
    rw [contains_eq_isSome, Option.not_isSome_iff_eq_none] at hc
    injection h with h
    subst h
    exact ⟨hc, rfl⟩

theorem register_of_none (h : r.record? path = none) (v : α) :
    r.register path v = .ok ⟨r.records ++ [⟨path, v⟩]⟩ := by
  unfold register
  rw [contains_eq_isSome, h]
  rfl

theorem record?_of_register (h : r.register path v = .ok r') :
    r'.record? x = if x = path then some ⟨path, v⟩ else r.record? x := by
  obtain ⟨hnone, hrec⟩ := register_ok h
  unfold record? at hnone ⊢
  rw [hrec, List.find?_append]
  by_cases hx : x = path
  · subst hx
    rw [hnone]
    simp
  · have hne : path ≠ x := fun hc => hx hc.symm
    simp [hx, hne]

theorem path_of_record? {record : Record α} (h : r.record? path = some record) :
    record.path = path := by
  unfold record? at h
  simpa using List.find?_some h

theorem mem_paths_iff : path ∈ r.paths ↔ (r.record? path).isSome := by
  unfold paths record?
  rw [List.find?_isSome, List.mem_map]
  simp

end Registry

namespace Loading

variable {ν : Type} {l l' : Loading ν} {config c : ConfigId} {path x : String} {v : ν}

theorem registry_withRegistry (l : Loading ν) (config c : ConfigId) (r : Registry ν) :
    (l.withRegistry config r).registry c = if c = config then r else l.registry c := by
  unfold registry withRegistry
  simp only [List.getD_eq_getElem?_getD, List.getElem?_set, List.length_append,
    List.length_replicate]
  by_cases h : c = config
  · subst h
    rw [if_pos rfl, if_pos (by omega), if_pos rfl]
    rfl
  · rw [if_neg (fun hc => h hc.symm), if_neg h, List.getElem?_append]
    split
    · rfl
    · -- beyond the registries there are only empty ones
      rename_i hlen
      rw [List.getElem?_eq_none (l := l.registries) (by omega), List.getElem?_replicate]
      split <;> rfl

/-- What registering does to the registries. -/
theorem registry_of_register (h : l.register config path v = .ok l') :
    (l.registry config).record? path = none
      ∧ (∀ c x, (l'.registry c).record? x
          = if c = config ∧ x = path then some ⟨path, v⟩ else (l.registry c).record? x)
      ∧ (l'.registry config).records = (l.registry config).records ++ [⟨path, v⟩]
      ∧ (∀ c, c ≠ config → l'.registry c = l.registry c)
      ∧ l'.inFlight = l.inFlight ∧ l'.waits = l.waits := by
  unfold register at h
  split at h
  · rename_i r hr
    injection h with h
    subst h
    refine ⟨(Registry.register_ok hr).1, ?_, ?_, ?_, rfl, rfl⟩
    · intro c x
      rw [registry_withRegistry]
      by_cases hc : c = config
      · subst hc
        rw [if_pos rfl, Registry.record?_of_register hr]
        simp
      · simp [hc]
    · rw [registry_withRegistry, if_pos rfl, (Registry.register_ok hr).2]
    · intro c hc
      rw [registry_withRegistry, if_neg hc]
  · simp at h

theorem register_of_none (h : (l.registry config).record? path = none) (v : ν) :
    ∃ l', l.register config path v = .ok l' := by
  unfold register
  rw [Registry.register_of_none h]
  exact ⟨_, rfl⟩

/-! ## Paths in flight -/

@[simp] theorem registry_await (l : Loading ν) (call : LoadCall) (c : ConfigId) :
    (l.await call).registry c = l.registry c := by
  unfold await; split <;> rfl

@[simp] theorem registry_start (l : Loading ν) (path : String) (k : Nat) (c : ConfigId) :
    (l.start path k).registry c = l.registry c := rfl

@[simp] theorem registry_finish (l : Loading ν) (path : String) (c : ConfigId) :
    (l.finish path).registry c = l.registry c := rfl

@[simp] theorem inFlight_await (l : Loading ν) (call : LoadCall) :
    (l.await call).inFlight = l.inFlight := by
  unfold await; split <;> rfl

theorem lookup_append_singleton (ps : List (String × Nat)) (path x : String) (k : Nat) :
    (ps ++ [(path, k)]).lookup x = (ps.lookup x).or (if x = path then some k else none) := by
  induction ps with
  | nil =>
      by_cases h : x = path
      · subst h; simp
      · simp [List.lookup_cons, beq_eq_false_iff_ne.mpr h, h]
  | cons e ps ih =>
      obtain ⟨p, n⟩ := e
      rw [List.cons_append, List.lookup_cons, List.lookup_cons]
      cases x == p with
      | true => rfl
      | false => exact ih

theorem lookup_start (l : Loading ν) (path x : String) (k : Nat) :
    (l.start path k).inFlight.lookup x
      = (l.inFlight.lookup x).or (if x = path then some k else none) :=
  lookup_append_singleton l.inFlight path x k

theorem lookup_finish (l : Loading ν) (path x : String) :
    (l.finish path).inFlight.lookup x = if x = path then none else l.inFlight.lookup x := by
  unfold finish
  dsimp only
  induction l.inFlight with
  | nil => simp
  | cons e ps ih =>
      obtain ⟨p, n⟩ := e
      by_cases hp : p = path
      · subst hp
        rw [List.filter_cons_of_neg (by simp), ih, List.lookup_cons]
        by_cases hx : x = p
        · simp [hx]
        · rw [if_neg hx, if_neg hx, beq_eq_false_iff_ne.mpr hx]
      · rw [List.filter_cons_of_pos (by simp [hp]), List.lookup_cons, List.lookup_cons, ih]
        by_cases hx : x = p
        · have : x ≠ path := by rw [hx]; exact hp
          simp [hx, hp]
        · rw [beq_eq_false_iff_ne.mpr hx]

theorem isLoading_iff : l.isLoading path = true ↔ ∃ k, l.inFlight.lookup path = some k := by
  unfold isLoading
  exact Option.isSome_iff_exists

theorem client?_eq_some {requester : Option String} {client : Client} :
    l.client? requester = some client
      ↔ requester = some client.path ∧ l.inFlight.lookup client.path = some client.thread := by
  unfold client?
  cases requester with
  | none => simp
  | some r =>
      simp only [Option.bind_some, Option.map_eq_some_iff, Option.some.injEq]
      constructor
      · rintro ⟨k, hk, rfl⟩
        exact ⟨rfl, hk⟩
      · rintro ⟨rfl, hk⟩
        exact ⟨client.thread, hk, rfl⟩

theorem isLoading_start {k : Nat} :
    (l.start path k).isLoading x = (l.isLoading x || x = path) := by
  unfold isLoading
  rw [lookup_start]
  by_cases h : x = path <;> simp [h]

theorem isLoading_finish :
    (l.finish path).isLoading x = (l.isLoading x && x ≠ path) := by
  unfold isLoading
  rw [lookup_finish]
  by_cases h : x = path <;> simp [h]

@[simp] theorem isLoading_await (l : Loading ν) (call : LoadCall) (x : String) :
    (l.await call).isLoading x = l.isLoading x := by
  unfold isLoading
  rw [inFlight_await]

/-! ## Noted waits -/

/-- `x` is noted to wait for `y`, and `y` is being loaded. -/
def Edge (l : Loading ν) : String → String → Prop := Waits.Edge l.waits l.isLoading

theorem mem_waits_await {call : LoadCall} {x y : String} :
    y ∈ (l.await call).waits.of x
      ↔ y ∈ l.waits.of x ∨ (y = call.path ∧ ∃ k, call.client = some ⟨x, k⟩) := by
  unfold await
  cases hc : call.client with
  | none => simp
  | some client =>
      obtain ⟨r, k⟩ := client
      simp only [Waits.mem_of_add, Option.some.injEq, Client.mk.injEq]
      constructor
      · rintro (h | ⟨rfl, rfl⟩)
        · exact Or.inl h
        · exact Or.inr ⟨rfl, k, rfl, rfl⟩
      · rintro (h | ⟨rfl, _, rfl, _⟩)
        · exact Or.inl h
        · exact Or.inr ⟨rfl, rfl⟩

theorem mem_keys_await {call : LoadCall} {x : String} :
    x ∈ (l.await call).waits.map Prod.fst
      ↔ x ∈ l.waits.map Prod.fst ∨ ∃ k, call.client = some ⟨x, k⟩ := by
  unfold await
  cases hc : call.client with
  | none => simp
  | some client =>
      obtain ⟨r, k⟩ := client
      simp only [Waits.mem_keys_add, Option.some.injEq, Client.mk.injEq]
      constructor
      · rintro (h | rfl)
        · exact Or.inl h
        · exact Or.inr ⟨k, rfl, rfl⟩
      · rintro (h | ⟨_, rfl, _⟩)
        · exact Or.inl h
        · exact Or.inr rfl

theorem mem_waits_finish {x y : String} :
    y ∈ (l.finish path).waits.of x ↔ x ≠ path ∧ y ∈ l.waits.of x := by
  unfold finish
  rw [Waits.of_drop]
  by_cases h : x = path <;> simp [h]

/-! ## Decisions -/

/-- The attempt in whose name a call is made can be reached from the path along noted waits. -/
def ClosesRing (l : Loading ν) (call : LoadCall) : Prop :=
  ∃ client, call.client = some client ∧ Relation.ReflTransGen l.Edge call.path client.path

theorem ring_isSome_iff (l : Loading ν) (call : LoadCall) :
    (call.client.bind fun client =>
        l.waits.cycle? l.isLoading call.path client.path).isSome ↔ l.ClosesRing call := by
  unfold ClosesRing Edge
  cases call.client with
  | none => simp
  | some client =>
      rw [Option.bind_some, Waits.cycle?_isSome_iff]
      simp

/-- **What stands behind a decision.** -/
theorem decide_spec (l : Loading ν) (call : LoadCall) :
    match l.decide call with
    | .registered v => (l.registry call.config).record? call.path = some ⟨call.path, v⟩
    | .circular _ => (l.registry call.config).record? call.path = none ∧ l.ClosesRing call
    | .join k => (l.registry call.config).record? call.path = none ∧ ¬ l.ClosesRing call
        ∧ l.inFlight.lookup call.path = some k
    | .start => (l.registry call.config).record? call.path = none ∧ ¬ l.ClosesRing call
        ∧ l.inFlight.lookup call.path = none := by
  unfold decide
  cases hr : (l.registry call.config).record? call.path with
  | some record =>
      have := Registry.path_of_record? hr
      dsimp only
      rw [← this]
  | none =>
      have hring := ring_isSome_iff l call
      cases hc : call.client.bind fun client =>
          l.waits.cycle? l.isLoading call.path client.path with
      | some cycle =>
          rw [hc] at hring
          exact ⟨rfl, hring.mp rfl⟩
      | none =>
          rw [hc] at hring
          have hno : ¬ l.ClosesRing call := fun h => by simpa using hring.mpr h
          cases hl : l.inFlight.lookup call.path with
          | some k => exact ⟨rfl, hno, rfl⟩
          | none => exact ⟨rfl, hno, rfl⟩

end Loading

end SourceLoader
