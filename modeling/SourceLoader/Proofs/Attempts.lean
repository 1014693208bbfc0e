import SourceLoader.Proofs.Calm

/-!
# One attempt at a time

The table of paths in flight and the threads tell the same story: a path is in flight if and only
if an attempt at it is running, in the thread that the table names. So there are never two
attempts at one path, and an attempt that ends takes its own entry away and nobody else's.

Along with it goes a fact about the notes. Waits are noted only for paths in flight, because a
load that is asked for in the name of an attempt that has ended is noted for nobody. So a path at
which an attempt begins has nothing noted for it.
-/

namespace SourceLoader.Machine

variable {σ ν ε : Type} {h : Host σ ν ε} {P : Move σ ν ε → Prop} {m m' : Machine σ ν ε}

/-- An attempt at a path runs in a thread. -/
def Running (m : Machine σ ν ε) (k : Nat) (c : ConfigId) (p : String) : Prop :=
  ∃ t : Thread σ ν ε, m.threads[k]? = some t ∧ t.role = .attempt c p ∧ ¬ t.state.IsEnded

theorem Running.lt_length {k : Nat} {c : ConfigId} {p : String} (hr : m.Running k c p) :
    k < m.threads.length := by
  obtain ⟨t, hk, _⟩ := hr
  exact (List.getElem?_eq_some_iff.mp hk).1

theorem Running.path_unique {k : Nat} {c c' : ConfigId} {p p' : String} (hr : m.Running k c p)
    (hr' : m.Running k c' p') : c = c' ∧ p = p' := by
  obtain ⟨t, hk, hrole, _⟩ := hr
  obtain ⟨t', hk', hrole', _⟩ := hr'
  rw [hk] at hk'
  injection hk' with hk'
  subst hk'
  rw [hrole] at hrole'
  injection hrole' with h1 h2
  exact ⟨h1, h2⟩

theorem Running.role {k : Nat} {c : ConfigId} {p : String} (hr : m.Running k c p)
    {t : Thread σ ν ε} (hk : m.threads[k]? = some t) : t.role = .attempt c p := by
  obtain ⟨t', hk', hrole, _⟩ := hr
  rw [hk] at hk'
  injection hk' with hk'
  rw [hk', hrole]

/-- The invariant of the attempts. -/
structure AttemptInv (m : Machine σ ν ε) : Prop where
  /-- Behind each entry there is an attempt. -/
  running : ∀ {p k}, m.loading.inFlight.lookup p = some k → ∃ c, m.Running k c p
  /-- Each attempt has its entry. -/
  inFlight : ∀ {k c p}, m.Running k c p → m.loading.inFlight.lookup p = some k
  /-- Waits are noted for paths in flight. -/
  waits : ∀ {x}, x ∈ m.loading.waits.map Prod.fst → m.loading.isLoading x = true

theorem AttemptInv.waits_eq_nil (hI : AttemptInv m) {x : String}
    (hx : m.loading.inFlight.lookup x = none) : m.loading.waits.of x = [] := by
  rw [List.eq_nil_iff_forall_not_mem]
  intro y hy
  have := hI.waits (Waits.mem_keys_of_mem hy)
  rw [Loading.isLoading, hx] at this
  simp at this

theorem attemptInv_atRest (world : σ) (registries : List (Registry ν)) :
    AttemptInv (atRest world registries : Machine σ ν ε) where
  running := by intro p k hp; simp [atRest] at hp
  inFlight := by rintro k c p ⟨t, hk, _⟩; simp [atRest] at hk
  waits := by intro x hx; simp [atRest] at hx

theorem Calm.running_iff (hc : Calm m m') {k : Nat} {c : ConfigId} {p : String} :
    m'.Running k c p ↔ m.Running k c p := by
  constructor
  · rintro ⟨t', hk, hrole, hne⟩
    rcases hc.new hk with ⟨t, ht, hrest⟩ | ⟨_, hhost, _⟩
    · exact ⟨t, ht, hrest.role.symm.trans hrole, fun he => hne (hrest.isEnded_iff.mpr he)⟩
    · rw [hhost] at hrole
      simp at hrole
  · rintro ⟨t, hk, hrole, hne⟩
    obtain ⟨t', ht', hrest⟩ := hc.old hk
    exact ⟨t', ht', hrest.role.trans hrole, fun he => hne (hrest.isEnded_iff.mp he)⟩

/-- The invariant speaks of the attempts, the paths in flight and the notes only. -/
theorem AttemptInv.congr (hI : AttemptInv m) (hf : m'.loading.inFlight = m.loading.inFlight)
    (hw : m'.loading.waits = m.loading.waits)
    (hrun : ∀ k c p, m'.Running k c p ↔ m.Running k c p) : AttemptInv m' where
  running := by
    intro p k hp
    rw [hf] at hp
    obtain ⟨c, hr⟩ := hI.running hp
    exact ⟨c, (hrun k c p).mpr hr⟩
  inFlight := by
    intro k c p hr
    rw [hf]
    exact hI.inFlight ((hrun k c p).mp hr)
  waits := by
    intro x hx
    unfold Loading.isLoading
    rw [hf]
    rw [hw] at hx
    exact hI.waits hx

theorem AttemptInv.withQueue (hI : AttemptInv m) (q : List (Handle ν ε)) :
    AttemptInv { m with queue := q } :=
  hI.congr rfl rfl fun _ _ _ => Iff.rfl

/-! ## Changes of the tables -/

theorem isLoading_of_client {l : Loading ν} {requester : Option String} {x : String} {b : Nat}
    (hc : l.client? requester = some ⟨x, b⟩) : l.isLoading x = true :=
  Loading.isLoading_iff.mpr ⟨b, (Loading.client?_eq_some.mp hc).2⟩

/-- A call is noted in the name of an attempt in flight. -/
theorem AttemptInv.await (hI : AttemptInv m) {call : LoadCall}
    (hload : m'.loading = m.loading.await call)
    (hclient : ∀ {x b}, call.client = some ⟨x, b⟩ → m.loading.isLoading x = true)
    (hrun : ∀ j c p, m'.Running j c p ↔ m.Running j c p) : AttemptInv m' where
  running := by
    intro p j hp
    rw [hload, Loading.inFlight_await] at hp
    obtain ⟨c, hr⟩ := hI.running hp
    exact ⟨c, (hrun j c p).mpr hr⟩
  inFlight := by
    intro j c p hr
    rw [hload, Loading.inFlight_await]
    exact hI.inFlight ((hrun j c p).mp hr)
  waits := by
    intro x hx
    rw [hload, Loading.isLoading_await]
    rw [hload, Loading.mem_keys_await] at hx
    rcases hx with hx | ⟨b, hb⟩
    · exact hI.waits hx
    · exact hclient hb

/-- An attempt begins at a path that was not in flight. -/
theorem AttemptInv.start (hI : AttemptInv m) {n : Nat} {c₀ : ConfigId} {path : String}
    (hload : m'.loading = m.loading.start path n)
    (hidle : m.loading.inFlight.lookup path = none)
    (hrun : ∀ j c p, m'.Running j c p ↔ m.Running j c p ∨ (j = n ∧ c = c₀ ∧ p = path)) :
    AttemptInv m' where
  running := by
    intro p j hp
    rw [hload, Loading.lookup_start] at hp
    cases ho : m.loading.inFlight.lookup p with
    | some i =>
        rw [ho] at hp
        injection hp with hp
        subst hp
        obtain ⟨c, hr⟩ := hI.running ho
        exact ⟨c, (hrun i c p).mpr (Or.inl hr)⟩
    | none =>
        rw [ho] at hp
        by_cases hpath : p = path
        · simp only [hpath, if_true, Option.none_or, Option.some.injEq] at hp
          exact ⟨c₀, (hrun j c₀ p).mpr (Or.inr ⟨hp.symm, rfl, hpath⟩)⟩
        · simp [hpath] at hp
  inFlight := by
    intro j c p hr
    rw [hload, Loading.lookup_start]
    rcases (hrun j c p).mp hr with hr | ⟨rfl, rfl, rfl⟩
    · rw [hI.inFlight hr]; rfl
    · rw [hidle]; simp
  waits := by
    intro x hx
    rw [hload, Loading.isLoading_start]
    rw [hload] at hx
    rw [hI.waits hx]
    rfl

/-- The attempt in the thread `k` is forgotten when it ends. -/
theorem AttemptInv.finish (hI : AttemptInv m) {k : Nat} {c₀ : ConfigId} {p₀ : String}
    (hk : m.Running k c₀ p₀) {l : Loading ν} (hload : m'.loading = l.finish p₀)
    (hf : l.inFlight = m.loading.inFlight) (hw : l.waits = m.loading.waits)
    (hrun : ∀ j c p, m'.Running j c p ↔ m.Running j c p ∧ j ≠ k) : AttemptInv m' where
  running := by
    intro p j hp
    rw [hload, Loading.lookup_finish, hf] at hp
    by_cases hpath : p = p₀
    · simp [hpath] at hp
    · rw [if_neg hpath] at hp
      obtain ⟨c, hr⟩ := hI.running hp
      refine ⟨c, (hrun j c p).mpr ⟨hr, ?_⟩⟩
      rintro rfl
      exact hpath (hr.path_unique hk).2
  inFlight := by
    intro j c p hr
    obtain ⟨hr, hjk⟩ := (hrun j c p).mp hr
    -- the other attempts are at other paths
    have hpath : p ≠ p₀ := by
      rintro rfl
      have hin := hI.inFlight hr
      rw [hI.inFlight hk] at hin
      exact hjk (Option.some.inj hin).symm
    rw [hload, Loading.lookup_finish, hf, hI.inFlight hr, if_neg hpath]
  waits := by
    intro x hx
    rw [hload] at hx ⊢
    unfold Loading.finish at hx
    rw [Loading.isLoading_finish]
    obtain ⟨hx, hne⟩ := Waits.mem_keys_drop.mp hx
    rw [hw] at hx
    have hin := hI.waits hx
    unfold Loading.isLoading at hin ⊢
    rw [hf, hin]
    simp [hne]

/-! ## A thread runs -/

section Advance

variable {k : Nat} {t : Thread σ ν ε} {course : Course σ ν ε ν}

/-- The attempt that a call begins runs in the next thread. -/
theorem running_of_start (hk : m.threads[k]? = some t) {w : σ} {call : LoadCall}
    {next : σ → Response ν ε → Course σ ν ε ν}
    (hf : h.follow m.loading t.requester course = .start w call next) :
    (Machine.advance h m k t course).Running m.threads.length call.config call.path := by
  have hlt : m.threads.length < (Machine.advance h m k t course).threads.length := by
    unfold Machine.advance
    rw [hf]
    simp [halt, Machine.join, setState, onThread, startAttempt, spawn, spawnAll]
  have hget := List.getElem?_eq_getElem hlt
  rcases advance_thread hk hget with ⟨_, h0, _⟩ | ⟨_, hadd, _⟩
  · have := (List.getElem?_eq_some_iff.mp h0).1
    omega
  · rw [hf] at hadd
    obtain ⟨_, hrole, _, hstate⟩ := hadd
    exact ⟨_, hget, hrole, by rw [hstate]; simp⟩

/-- An attempt goes on unless it has come to its end. -/
theorem Running.advance {j : Nat} {c : ConfigId} {p : String} (hr : m.Running j c p)
    (hl : h.standIn = none) (hk : m.threads[k]? = some t)
    (hnot : ¬ (j = k ∧ ∃ w r, h.follow m.loading t.requester course = .done w r)) :
    (Machine.advance h m k t course).Running j c p := by
  obtain ⟨t₀, h0, hr0, hend⟩ := hr
  obtain ⟨t', ht', hrole, _, hother⟩ := advance_old (h := h) course hk h0
  refine ⟨t', ht', hrole.trans hr0, fun he => ?_⟩
  by_cases hjk : j = k
  · subst hjk
    exact hnot ⟨rfl, follow_eq_done hl hk ht' he⟩
  · rw [hother hjk] at he
    exact hend he

/-- Attempts go on unless they end, and at most one begins. -/
theorem advance_running (hl : h.standIn = none) (course : Course σ ν ε ν)
    (hk : m.threads[k]? = some t) (hne : ¬ t.state.IsEnded) {j : Nat} {c : ConfigId} {p : String} :
    (Machine.advance h m k t course).Running j c p
      ↔ (m.Running j c p
          ∧ ¬ (j = k ∧ ∃ w r, h.follow m.loading t.requester course = .done w r))
        ∨ ∃ w call next, h.follow m.loading t.requester course = .start w call next
          ∧ j = m.threads.length ∧ c = call.config ∧ p = call.path := by
  constructor
  · rintro ⟨t', hj, hrole, hend⟩
    rcases advance_thread hk hj with ⟨t₀, h0, hr0, _, hself, hother, _⟩ | ⟨_, hadd, _⟩
    · left
      refine ⟨⟨t₀, h0, hr0.symm.trans hrole, ?_⟩, ?_⟩
      · by_cases hjk : j = k
        · subst hjk
          rw [hk] at h0
          injection h0 with h0
          exact h0 ▸ hne
        · rw [← hother hjk]
          exact hend
      · rintro ⟨rfl, w, r, hf⟩
        have hself := hself rfl
        rw [hf] at hself
        exact hend hself
    · obtain ⟨hj, w, call, next, hf, hc, hp⟩ := start_of_adds hadd hrole
      exact Or.inr ⟨w, call, next, hf, hj, hc, hp⟩
  · rintro (⟨hr, hnot⟩ | ⟨w, call, next, hf, rfl, rfl, rfl⟩)
    · exact hr.advance hl hk hnot
    · exact running_of_start hk hf

/-- **The invariant of the attempts is kept by a thread that runs.** -/
theorem AttemptInv.advance (hI : AttemptInv m) (hl : h.standIn = none)
    (hk : m.threads[k]? = some t) (hne : ¬ t.state.IsEnded) :
    AttemptInv (Machine.advance h m k t course) := by
  have hrun := fun j c p => advance_running (h := h) hl course hk hne (j := j) (c := c) (p := p)
  have htables := advance_tables (h := h) hl course hk
  generalize hload : (Machine.advance h m k t course).loading = l' at htables
  cases htables with
  | same hj hs hd =>
      refine hI.congr (by rw [hload]) (by rw [hload]) fun j c p => ?_
      rw [hrun]
      constructor
      · rintro (⟨hr, _⟩ | ⟨w, call, next, hf, _⟩)
        · exact hr
        · exact absurd hf (hs w call next)
      · intro hr
        refine Or.inl ⟨hr, ?_⟩
        rintro ⟨rfl, w, r, hf⟩
        exact hd c p (hr.role hk) w r hf
  | @join w call a next hf hclient hnone hring ha =>
      refine hI.await hload (fun hb => isLoading_of_client (hclient ▸ hb)) fun j c p => ?_
      simp [hf, hrun]
  | @start w call next hf hclient hnone hidle =>
      have hrun' : ∀ j c p, (Machine.advance h m k t course).Running j c p
          ↔ m.Running j c p ∨ (j = m.threads.length ∧ c = call.config ∧ p = call.path) := by
        intro j c p
        rw [hrun, hf]
        constructor
        · rintro (⟨hr, _⟩ | ⟨_, _, _, he, hj⟩)
          · exact Or.inl hr
          · injection he with _ he
            subst he
            exact Or.inr hj
        · rintro (hr | hj)
          · exact Or.inl ⟨hr, by simp⟩
          · exact Or.inr ⟨w, call, next, rfl, hj⟩
      -- first the attempt is noted, then the call
      have hstart : AttemptInv { Machine.advance h m k t course with
          loading := m.loading.start call.path m.threads.length } := hI.start rfl hidle hrun'
      refine hstart.await hload (fun hb => ?_) fun _ _ _ => Iff.rfl
      rw [Loading.isLoading_start, isLoading_of_client (hclient ▸ hb)]
      rfl
  | finish hf hrole hres hin hw =>
      refine hI.finish ⟨t, hk, hrole, hne⟩ hload hin hw fun j c p => ?_
      simp [hf, hrun]

end Advance

/-- **The invariant of the attempts is kept by everything that happens.** -/
theorem attemptInv_step (hl : h.standIn = none) (hI : AttemptInv m) (hm : Happens h P m m') :
    AttemptInv m' := by
  rcases hm.cases with hc | ⟨f, _, rfl⟩ | ⟨q, k, t, course, _, hk, hc, rfl⟩
  · exact hI.congr (by rw [hc.loading]) (by rw [hc.loading]) fun k c p => hc.running_iff
  · exact hI.congr rfl rfl fun k c p => Iff.rfl
  · exact (hI.withQueue q).advance hl hk hc.not_isEnded

theorem attemptInv_reaches (hl : h.standIn = none) {world : σ} {registries : List (Registry ν)}
    (hr : ReachesBy h P (atRest world registries) m) : AttemptInv m :=
  hr.invariant hl (attemptInv_atRest world registries) (attemptInv_step hl)

end SourceLoader.Machine
