import SourceLoader.Proofs.Step

/-!
# A thread runs

Of all that the loader does itself, only a thread that takes up its course touches the tables. What
that does is said once. To the threads, in `advance_thread`: the thread itself comes to a new state,
the others keep theirs, and there may be new ones. To the queue, in `advance_queue`. To the tables,
in `advance_tables`: a call joins an attempt, a call begins one, or an attempt ends. To the groups,
in `advance_groups`: there may be a new one.
-/

namespace SourceLoader.Machine

variable {σ ν ε : Type} {h : Host σ ν ε} {m : Machine σ ν ε}

/-! ## What a thread that runs leaves behind -/

/-- The state that a halt leaves its thread in; `n` and `g` are the numbers of the next thread and
the next group. -/
def Leaves (n g : Nat) : Halt σ ν ε → ThreadState σ ν ε → Prop
  | .pause _ next, s => s = .waiting .turn next
  | .join _ call attempt next, s => s = .waiting (.attempt attempt call) next
  | .start _ call next, s => s = .waiting (.attempt n call) next
  | .standIn _ left config path next, s => s = .asking left config path next
  | .group _ _ _ next, s => s = .waiting (.group g) next
  | .done _ _, s => s.IsEnded

/-- The threads that a halt adds. -/
def Adds (h : Host σ ν ε) (n g : Nat) (requester : Option String) :
    Halt σ ν ε → Nat → Thread σ ν ε → Prop
  | .start _ call _, j, t => j = n ∧ t.role = .attempt call.config call.path
      ∧ t.requester = some call.path ∧ t.state = .fresh (h.attemptCourse call.config call.path)
  | .group _ config paths _, j, t => ∃ i path, j = n + i ∧ paths[i]? = some path
      ∧ t.role = .member g ∧ t.requester = requester
      ∧ t.state = .fresh (h.memberCourse config path)
  | _, _, _ => False

/-- The threads that begin to wait for the thread `j` with a halt of the thread `k`. -/
def Joins (n k : Nat) : Halt σ ν ε → Nat → Nat × LoadCall → Prop
  | .join _ call attempt _, j, w => j = attempt ∧ w = (k, call)
  | .start _ call _, j, w => j = n ∧ w = (k, call)
  | _, _, _ => False

/-- A halt that leaves its thread waiting for an attempt is that of a call. -/
theorem halt_of_leaves {n g a : Nat} {call : LoadCall} {halt : Halt σ ν ε}
    {next : σ → Response ν ε → Course σ ν ε ν}
    (hleaves : Leaves n g halt (.waiting (.attempt a call) next)) :
    (∃ w next, halt = .join w call a next) ∨ (a = n ∧ ∃ w next, halt = .start w call next) := by
  cases halt with
  | join w call' a' next' =>
      injection hleaves with hwait
      injection hwait with h1 h2
      subst h1; subst h2
      exact Or.inl ⟨w, next', rfl⟩
  | start w call' next' =>
      injection hleaves with hwait
      injection hwait with h1 h2
      subst h2
      exact Or.inr ⟨h1, w, next', rfl⟩
  | pause w next' => injection hleaves with hwait; cases hwait
  | group w config paths next' => injection hleaves with hwait; cases hwait
  | standIn w left config path next' => cases hleaves
  | done w r => exact absurd hleaves (ThreadState.not_isEnded_waiting _ _)

/-- A thread that has come to a halt has begun. -/
theorem Leaves.ne_fresh {n g : Nat} {halt : Halt σ ν ε} {s : ThreadState σ ν ε}
    (hleaves : Leaves n g halt s) (start : σ → Course σ ν ε ν) : s ≠ .fresh start := by
  rintro rfl
  cases halt with
  | done w r => exact ThreadState.not_isEnded_fresh start hleaves
  | _ => cases hleaves

/-- A new thread has yet to begin. -/
theorem fresh_of_adds {n g j : Nat} {requester : Option String} {halt : Halt σ ν ε}
    {t : Thread σ ν ε} (hadd : Adds h n g requester halt j t) : ∃ start, t.state = .fresh start := by
  cases halt with
  | start w call next => exact ⟨_, hadd.2.2.2⟩
  | group w config paths next =>
      obtain ⟨_, _, _, _, _, _, hs⟩ := hadd
      exact ⟨_, hs⟩
  | pause w next => exact hadd.elim
  | join w call a next => exact hadd.elim
  | standIn w left config path next => exact hadd.elim
  | done w r => exact hadd.elim

/-- A new attempt is that of a call. -/
theorem start_of_adds {n g j : Nat} {requester : Option String} {halt : Halt σ ν ε}
    {t : Thread σ ν ε} (hadd : Adds h n g requester halt j t) {c : ConfigId} {p : String}
    (hrole : t.role = .attempt c p) :
    j = n ∧ ∃ w call next, halt = .start w call next ∧ c = call.config ∧ p = call.path := by
  cases halt with
  | start w call next =>
      obtain ⟨hj, hr, _⟩ := hadd
      rw [hrole] at hr
      injection hr with h1 h2
      exact ⟨hj, w, call, next, rfl, h1, h2⟩
  | group w config paths next =>
      obtain ⟨_, _, _, _, hr, _⟩ := hadd
      rw [hrole] at hr
      cases hr
  | pause w next => exact hadd.elim
  | join w call a next => exact hadd.elim
  | standIn w left config path next => exact hadd.elim
  | done w r => exact hadd.elim

theorem halt_of_joins {n k j : Nat} {halt : Halt σ ν ε} {w : Nat × LoadCall}
    (hjoin : Joins n k halt j w) :
    (∃ world next, halt = .join world w.2 j next)
    ∨ (j = n ∧ ∃ world next, halt = .start world w.2 next) := by
  cases halt with
  | join world call a next =>
      obtain ⟨rfl, rfl⟩ := hjoin
      exact Or.inl ⟨world, next, rfl⟩
  | start world call next =>
      obtain ⟨rfl, rfl⟩ := hjoin
      exact Or.inr ⟨rfl, world, next, rfl⟩
  | pause world next => exact hjoin.elim
  | standIn world left config path next => exact hjoin.elim
  | group world config paths next => exact hjoin.elim
  | done world r => exact hjoin.elim

theorem getElem?_modify_eq_some {α : Type} {as : List α} {f : α → α} {k j : Nat} {a' : α} :
    (as.modify k f)[j]? = some a' ↔ ∃ a, as[j]? = some a ∧ a' = if k = j then f a else a := by
  rw [List.getElem?_modify]
  cases as[j]? with
  | none => simp
  | some a => simp [eq_comm]

theorem getElem?_append_singleton {α : Type} {as : List α} {b a : α} {j : Nat}
    (h : (as ++ [b])[j]? = some a) : as[j]? = some a ∨ (j = as.length ∧ a = b) := by
  rw [List.getElem?_append] at h
  split at h
  · exact Or.inl h
  · right
    rw [List.getElem?_singleton] at h
    split at h
    · injection h with h
      exact ⟨by omega, h.symm⟩
    · simp at h

theorem getElem?_setState_eq_some {k j : Nat} {s : ThreadState σ ν ε} {t' : Thread σ ν ε}
    (hj : (m.setState k s).threads[j]? = some t') :
    ∃ t, m.threads[j]? = some t ∧ t'.role = t.role ∧ t'.requester = t.requester
      ∧ (j = k → t'.state = s) ∧ (j ≠ k → t'.state = t.state) ∧ t'.waiters = t.waiters := by
  obtain ⟨t, ht, rfl⟩ := getElem?_modify_eq_some.mp hj
  refine ⟨t, ht, ?_⟩
  by_cases hkj : k = j
  · subst hkj
    simp
  · have hjk : j ≠ k := fun hc => hkj hc.symm
    simp [hkj, hjk]

/-- **What a thread that runs does to the threads.** -/
theorem advance_thread {k : Nat} {t : Thread σ ν ε} {course : Course σ ν ε ν}
    (hk : m.threads[k]? = some t) {j : Nat} {t' : Thread σ ν ε}
    (hj : (Machine.advance h m k t course).threads[j]? = some t') :
    (∃ t₀, m.threads[j]? = some t₀ ∧ t'.role = t₀.role ∧ t'.requester = t₀.requester
      ∧ (j = k → Leaves m.threads.length m.groups.length
          (h.follow m.loading t.requester course) t'.state)
      ∧ (j ≠ k → t'.state = t₀.state)
      ∧ ∀ w ∈ t'.waiters, w ∈ t₀.waiters
          ∨ Joins m.threads.length k (h.follow m.loading t.requester course) j w)
    ∨ (m.threads.length ≤ j
      ∧ Adds h m.threads.length m.groups.length t.requester
          (h.follow m.loading t.requester course) j t'
      ∧ ∀ w ∈ t'.waiters,
          Joins m.threads.length k (h.follow m.loading t.requester course) j w) := by
  have hlt : k < m.threads.length := (List.getElem?_eq_some_iff.mp hk).1
  unfold Machine.advance at hj
  cases hf : h.follow m.loading t.requester course with
  | pause world next =>
      rw [hf] at hj
      obtain ⟨t₀, ht, hrole, hreq, hself, hother, hwaiters⟩ := getElem?_setState_eq_some hj
      exact Or.inl ⟨t₀, ht, hrole, hreq, hself, hother, fun w hw => Or.inl (hwaiters ▸ hw)⟩
  | standIn world left config path next =>
      rw [hf] at hj
      obtain ⟨t₀, ht, hrole, hreq, hself, hother, hwaiters⟩ := getElem?_setState_eq_some hj
      exact Or.inl ⟨t₀, ht, hrole, hreq, hself, hother, fun w hw => Or.inl (hwaiters ▸ hw)⟩
  | join world call attempt next =>
      rw [hf] at hj
      obtain ⟨t₁, ht₁, hrole, hreq, hself, hother, hwaiters⟩ := getElem?_setState_eq_some hj
      obtain ⟨t₀, ht, rfl⟩ := getElem?_modify_eq_some.mp ht₁
      refine Or.inl ⟨t₀, ht, ?_⟩
      by_cases ha : attempt = j
      · -- the thread that is waited for has got a waiter
        subst ha
        rw [if_pos rfl] at hrole hreq hother hwaiters
        refine ⟨hrole, hreq, hself, hother, fun w hw => ?_⟩
        rw [hwaiters] at hw
        rcases List.mem_append.mp hw with hw | hw
        · exact Or.inl hw
        · exact Or.inr ⟨rfl, List.mem_singleton.mp hw⟩
      · rw [if_neg ha] at hrole hreq hother hwaiters
        exact ⟨hrole, hreq, hself, hother, fun w hw => Or.inl (hwaiters ▸ hw)⟩
  | start world call next =>
      rw [hf] at hj
      obtain ⟨t₂, ht₂, hrole, hreq, hself, hother, hwaiters⟩ := getElem?_setState_eq_some hj
      obtain ⟨t₁, ht₁, rfl⟩ := getElem?_modify_eq_some.mp ht₂
      simp only [startAttempt, spawn, spawnAll] at ht₁
      rcases getElem?_append_singleton ht₁ with ht | ⟨rfl, rfl⟩
      · have hne : m.threads.length ≠ j := by
          have := (List.getElem?_eq_some_iff.mp ht).1
          omega
        rw [if_neg hne] at hrole hreq hother hwaiters
        exact Or.inl ⟨t₁, ht, hrole, hreq, hself, hother, fun w hw => Or.inl (hwaiters ▸ hw)⟩
      · have hne : m.threads.length ≠ k := by omega
        rw [if_pos rfl] at hrole hreq hother hwaiters
        refine Or.inr ⟨Nat.le_refl _, ⟨rfl, hrole, hreq, hother hne⟩, fun w hw => ?_⟩
        rw [hwaiters] at hw
        exact ⟨rfl, List.mem_singleton.mp hw⟩
  | group world config paths next =>
      rw [hf] at hj
      obtain ⟨t₀, ht, hrole, hreq, hself, hother, hwaiters⟩ := getElem?_setState_eq_some hj
      simp only [spawnGroup, spawnAll] at ht
      rw [List.getElem?_append] at ht
      split at ht
      · exact Or.inl ⟨t₀, ht, hrole, hreq, hself, hother, fun w hw => Or.inl (hwaiters ▸ hw)⟩
      · rename_i hge
        have hne : j ≠ k := by omega
        rw [List.getElem?_map, Option.map_eq_some_iff] at ht
        obtain ⟨path, hp, rfl⟩ := ht
        have hadds : ∃ i path, j = m.threads.length + i ∧ paths[i]? = some path
            ∧ t'.role = .member m.groups.length ∧ t'.requester = t.requester
            ∧ t'.state = .fresh (h.memberCourse config path) :=
          ⟨j - m.threads.length, path, by omega, hp, hrole, hreq, hother hne⟩
        exact Or.inr ⟨by omega, hadds, fun w hw => absurd (hwaiters ▸ hw) List.not_mem_nil⟩
  | done world result =>
      rw [hf] at hj
      -- whatever the thread was there for, it has ended now
      have key : ∃ r, (halt h m k t.role t.requester (.done world result)).threads
          = m.threads.modify k fun t => { t with state := .ended r, waiters := [] } := by
        cases hr : t.role <;> exact ⟨_, rfl⟩
      obtain ⟨r, hr⟩ := key
      rw [hr] at hj
      obtain ⟨t₀, ht, rfl⟩ := getElem?_modify_eq_some.mp hj
      refine Or.inl ⟨t₀, ht, ?_⟩
      by_cases h1 : k = j
      · subst h1
        simp [Leaves]
      · have : j ≠ k := fun hc => h1 hc.symm
        simpa [h1, this] using fun j call hw => Or.inl hw

/-- Who waits for a thread goes on to do so until it ends, and so does who has just begun to. -/
theorem mem_waiters_advance {k : Nat} {t : Thread σ ν ε} {course : Course σ ν ε ν} {j : Nat}
    {t' : Thread σ ν ε} (hj : (Machine.advance h m k t course).threads[j]? = some t')
    (hne : ¬ t'.state.IsEnded) {w : Nat × LoadCall}
    (hw : (∃ t₀, m.threads[j]? = some t₀ ∧ w ∈ t₀.waiters)
      ∨ Joins m.threads.length k (h.follow m.loading t.requester course) j w) :
    w ∈ t'.waiters := by
  -- a thread that was there is still at its place
  have hsame : ∀ {t₁ : Thread σ ν ε} {more : List (Thread σ ν ε)},
      (m.threads ++ more)[j]? = some t₁ → ∀ {t₀}, m.threads[j]? = some t₀ → t₁ = t₀ := by
    intro t₁ more h1 t₀ h0
    rw [List.getElem?_append_left (List.getElem?_eq_some_iff.mp h0).1, h0] at h1
    injection h1 with h1
    exact h1.symm
  unfold Machine.advance at hj
  cases hf : h.follow m.loading t.requester course with
  | pause world next =>
      rw [hf] at hj hw
      obtain ⟨t₁, h1, _, _, _, _, hwaiters⟩ := getElem?_setState_eq_some hj
      rcases hw with ⟨t₀, h0, hw⟩ | hjoin
      · rw [hwaiters, Option.some.inj (h1.symm.trans h0)]
        exact hw
      · exact hjoin.elim
  | standIn world left config path next =>
      rw [hf] at hj hw
      obtain ⟨t₁, h1, _, _, _, _, hwaiters⟩ := getElem?_setState_eq_some hj
      rcases hw with ⟨t₀, h0, hw⟩ | hjoin
      · rw [hwaiters, Option.some.inj (h1.symm.trans h0)]
        exact hw
      · exact hjoin.elim
  | join world call attempt next =>
      rw [hf] at hj hw
      obtain ⟨t₂, h2, _, _, _, _, hwaiters⟩ := getElem?_setState_eq_some hj
      obtain ⟨t₁, h1, rfl⟩ := getElem?_modify_eq_some.mp h2
      rw [hwaiters]
      rcases hw with ⟨t₀, h0, hw⟩ | ⟨rfl, rfl⟩
      · rw [Option.some.inj (h1.symm.trans h0)]
        split
        · exact List.mem_append_left _ hw
        · exact hw
      · rw [if_pos rfl]
        exact List.mem_append_right _ List.mem_cons_self
  | start world call next =>
      rw [hf] at hj hw
      obtain ⟨t₂, h2, _, _, _, _, hwaiters⟩ := getElem?_setState_eq_some hj
      obtain ⟨t₁, h1, rfl⟩ := getElem?_modify_eq_some.mp h2
      rw [hwaiters]
      rcases hw with ⟨t₀, h0, hw⟩ | ⟨rfl, rfl⟩
      · rw [hsame h1 h0]
        split
        · exact List.mem_append_left _ hw
        · exact hw
      · rw [if_pos rfl]
        exact List.mem_append_right _ List.mem_cons_self
  | group world config paths next =>
      rw [hf] at hj hw
      obtain ⟨t₁, h1, _, _, _, _, hwaiters⟩ := getElem?_setState_eq_some hj
      rcases hw with ⟨t₀, h0, hw⟩ | hjoin
      · rw [hwaiters, hsame h1 h0]
        exact hw
      · exact hjoin.elim
  | done world result =>
      rw [hf] at hj hw
      have key : ∃ r, (halt h m k t.role t.requester (.done world result)).threads
          = m.threads.modify k fun t => { t with state := .ended r, waiters := [] } := by
        cases hr : t.role <;> exact ⟨_, rfl⟩
      obtain ⟨r, hr⟩ := key
      rw [hr] at hj
      obtain ⟨t₁, h1, rfl⟩ := getElem?_modify_eq_some.mp hj
      rcases hw with ⟨t₀, h0, hw⟩ | hjoin
      · by_cases hkj : k = j
        · rw [if_pos hkj] at hne
          exact absurd ⟨r, rfl⟩ hne
        · rw [if_neg hkj, Option.some.inj (h1.symm.trans h0)]
          exact hw
      · exact hjoin.elim

theorem length_le_advance (m : Machine σ ν ε) (k : Nat) (t : Thread σ ν ε)
    (course : Course σ ν ε ν) :
    m.threads.length ≤ (Machine.advance h m k t course).threads.length := by
  unfold Machine.advance
  cases h.follow m.loading t.requester course with
  | pause world next => simp [halt, push, setState, onThread]
  | standIn world left config path next => simp [halt, push, setState, onThread]
  | join world call attempt next => simp [halt, Machine.join, setState, onThread]
  | start world call next =>
      simp [halt, Machine.join, setState, onThread, startAttempt, spawn, spawnAll]
  | group world config paths next =>
      simp [halt, spawnGroup, spawnAll, setState, onThread]
  | done world result =>
      cases hr : t.role <;> simp [halt, endCourse, finish, push, onThread]

/-- A thread that was there is still there, and only the one that runs has another state. -/
theorem advance_old (course : Course σ ν ε ν) {k : Nat} {t : Thread σ ν ε}
    (hk : m.threads[k]? = some t) {j : Nat} {t₀ : Thread σ ν ε} (hj : m.threads[j]? = some t₀) :
    ∃ t', (Machine.advance h m k t course).threads[j]? = some t' ∧ t'.role = t₀.role
      ∧ t'.requester = t₀.requester ∧ (j ≠ k → t'.state = t₀.state) := by
  have hlt : j < m.threads.length := (List.getElem?_eq_some_iff.mp hj).1
  have hlt' := Nat.lt_of_lt_of_le hlt (length_le_advance (h := h) m k t course)
  have hget := List.getElem?_eq_getElem hlt'
  refine ⟨_, hget, ?_⟩
  rcases advance_thread hk hget with ⟨t₁, h1, hrole, hreq, _, hstate, _⟩ | ⟨hge, _⟩
  · rw [hj] at h1
    injection h1 with h1
    subst h1
    exact ⟨hrole, hreq, hstate⟩
  · omega

/-- A thread that has ended has come to the end of its course. -/
theorem follow_eq_done {k : Nat} {t : Thread σ ν ε} {course : Course σ ν ε ν}
    (hl : h.standIn = none) (hk : m.threads[k]? = some t) {t' : Thread σ ν ε}
    (ht' : (Machine.advance h m k t course).threads[k]? = some t') (he : t'.state.IsEnded) :
    ∃ w r, h.follow m.loading t.requester course = .done w r := by
  have hspec := h.follow_spec hl m.loading t.requester course
  rcases advance_thread hk ht' with ⟨_, _, _, _, hself, _⟩ | ⟨hge, _⟩
  · have hs := hself rfl
    cases hf : h.follow m.loading t.requester course with
    | done w r => exact ⟨w, r, rfl⟩
    | standIn w left config path next => rw [hf] at hspec; exact hspec.elim
    | pause w next => rw [hf] at hs; rw [hs] at he; exact absurd he (by simp)
    | join w call a next => rw [hf] at hs; rw [hs] at he; exact absurd he (by simp)
    | start w call next => rw [hf] at hs; rw [hs] at he; exact absurd he (by simp)
    | group w config paths next => rw [hf] at hs; rw [hs] at he; exact absurd he (by simp)
  · have := (List.getElem?_eq_some_iff.mp hk).1
    omega

/-- What an attempt that ends does to the tables, and what it comes to. -/
theorem advance_attempt_done {k : Nat} {t : Thread σ ν ε} {course : Course σ ν ε ν}
    (hk : m.threads[k]? = some t) {c : ConfigId} {p : String} (hrole : t.role = .attempt c p)
    {w : σ} {result : Except ε ν} (hf : h.follow m.loading t.requester course = .done w result) :
    ∃ l r, (Machine.advance h m k t course).loading = l.finish p
      ∧ (Machine.advance h m k t course).threads[k]?
          = some { t with state := .ended r, waiters := [] }
      ∧ (Machine.advance h m k t course).queue
          = m.queue ++ (t.waiters.map fun w => .settle w.1 (.attempt k w.2) (r.map some))
      ∧ ((∃ v, r = .ok v ∧ result = .ok v ∧ m.loading.register c p v = .ok l)
        ∨ (∃ e, r = .error e ∧ l = m.loading)) := by
  unfold Machine.advance
  rw [hf, hrole]
  refine ⟨(h.conclusion m.loading c p w result).1, (h.conclusion m.loading c p w result).2.2,
    rfl, ?_, ?_, ?_⟩
  · simp only [halt, endCourse, finish, push, onThread]
    rw [List.getElem?_modify, hk]
    simp [hrole]
  · simp only [halt, endCourse, finish, push, onThread, hk]
    rfl
  · exact h.conclusion_spec m.loading c p w result

/-- An attempt that comes to exports that can be registered ends with them. -/
theorem advance_attempt_ok {k : Nat} {t : Thread σ ν ε} {course : Course σ ν ε ν}
    (hk : m.threads[k]? = some t) {c : ConfigId} {p : String} (hrole : t.role = .attempt c p)
    {w : σ} {v : ν} (hf : h.follow m.loading t.requester course = .done w (.ok v))
    (hnone : (m.loading.registry c).record? p = none) :
    (Machine.advance h m k t course).threads[k]?
        = some { t with state := .ended (.ok v), waiters := [] }
      ∧ ((Machine.advance h m k t course).loading.registry c).record? p = some ⟨p, v⟩ := by
  obtain ⟨l, hreg⟩ := Loading.register_of_none hnone v
  have hconclusion : h.conclusion m.loading c p w (.ok v) = (l, w, .ok v) := by
    simp only [Host.conclusion, hreg]
  have hrecord := (Loading.registry_of_register hreg).2.1 c p
  unfold Machine.advance
  rw [hf, hrole]
  simp only [halt, endCourse, hconclusion, finish, push, onThread]
  refine ⟨by simp [hk, hrole], ?_⟩
  rw [Loading.registry_finish, hrecord]
  simp

/-- A thread that is no attempt ends with the result of its course. -/
theorem advance_done {k : Nat} {t : Thread σ ν ε} {course : Course σ ν ε ν}
    (hk : m.threads[k]? = some t) (hrole : ∀ c p, t.role ≠ .attempt c p) {w : σ}
    {result : Except ε ν} (hf : h.follow m.loading t.requester course = .done w result) :
    (Machine.advance h m k t course).threads[k]?
      = some { t with state := .ended result, waiters := [] } := by
  unfold Machine.advance
  rw [hf]
  cases hr : t.role with
  | attempt c p => exact absurd hr (hrole c p)
  | member g => simp [halt, endCourse, finish, push, onThread, hk, hr]
  | hostCall => simp [halt, endCourse, finish, onThread, hk, hr]

/-- **What a thread that runs adds to the queue.** Threads that are new will begin; a pause goes on
by itself; and when the thread ends, those are told that wait for it. -/
theorem advance_queue {k : Nat} {t : Thread σ ν ε} {course : Course σ ν ε ν}
    (hl : h.standIn = none) (hk : m.threads[k]? = some t) {handle : Handle ν ε}
    (hq : handle ∈ (Machine.advance h m k t course).queue) :
    handle ∈ m.queue ∨ (∃ n, handle = .begin n) ∨ handle = .resume k .turn (.ok none)
    ∨ ∃ r, (Machine.advance h m k t course).threads[k]?
          = some { t with state := .ended r, waiters := [] }
        ∧ ((∃ c p w, t.role = .attempt c p ∧ w ∈ t.waiters
            ∧ handle = .settle w.1 (.attempt k w.2) (r.map some))
          ∨ ∃ g, t.role = .member g ∧ handle = .count g k (r.map some)) := by
  have hspec := h.follow_spec hl m.loading t.requester course
  cases hf : h.follow m.loading t.requester course with
  | standIn w left config path next => rw [hf] at hspec; exact hspec.elim
  | pause w next =>
      unfold Machine.advance at hq
      rw [hf] at hq
      rcases List.mem_append.mp hq with hq | hq
      · exact Or.inl hq
      · exact Or.inr (Or.inr (Or.inl (List.mem_singleton.mp hq)))
  | join w call a next =>
      unfold Machine.advance at hq
      rw [hf] at hq
      exact Or.inl hq
  | start w call next =>
      unfold Machine.advance at hq
      rw [hf] at hq
      rcases List.mem_append.mp hq with hq | hq
      · exact Or.inl hq
      · obtain ⟨n, _, hn⟩ := List.mem_map.mp hq
        exact Or.inr (Or.inl ⟨_, hn.symm⟩)
  | group w config paths next =>
      unfold Machine.advance at hq
      rw [hf] at hq
      rcases List.mem_append.mp hq with hq | hq
      · exact Or.inl hq
      · obtain ⟨n, _, hn⟩ := List.mem_map.mp hq
        exact Or.inr (Or.inl ⟨_, hn.symm⟩)
  | done w result =>
      cases hrole : t.role with
      | attempt c p =>
          obtain ⟨l, r, _, hthread, hqueue, _⟩ := advance_attempt_done hk hrole hf
          rw [hqueue] at hq
          rcases List.mem_append.mp hq with hq | hq
          · exact Or.inl hq
          · obtain ⟨w, hw, hn⟩ := List.mem_map.mp hq
            exact Or.inr (Or.inr (Or.inr
              ⟨r, hrole ▸ hthread, Or.inl ⟨c, p, w, rfl, hw, hn.symm⟩⟩))
      | member g =>
          have hthread := advance_done hk (by simp [hrole]) hf
          unfold Machine.advance at hq
          rw [hf, hrole] at hq
          rcases List.mem_append.mp hq with hq | hq
          · exact Or.inl hq
          · exact Or.inr (Or.inr (Or.inr
              ⟨result, hrole ▸ hthread, Or.inr ⟨g, rfl, List.mem_singleton.mp hq⟩⟩))
      | hostCall =>
          unfold Machine.advance at hq
          rw [hf, hrole] at hq
          exact Or.inl hq

/-! ## What a thread that runs does to the tables -/

/-- A thread that runs keeps the tables unless it waits for an attempt or ends one. -/
theorem advance_loading_eq {k : Nat} {t : Thread σ ν ε} {course : Course σ ν ε ν}
    (hf : ∀ w call a next, h.follow m.loading t.requester course ≠ .join w call a next)
    (hf' : ∀ w call next, h.follow m.loading t.requester course ≠ .start w call next)
    (hd : ∀ c p, t.role = .attempt c p →
      ∀ w r, h.follow m.loading t.requester course ≠ .done w r) :
    (Machine.advance h m k t course).loading = m.loading := by
  unfold Machine.advance
  cases hs : h.follow m.loading t.requester course with
  | pause w next => rfl
  | join w call a next => exact absurd hs (hf w call a next)
  | start w call next => exact absurd hs (hf' w call next)
  | standIn w left config path next => rfl
  | group w config paths next => rfl
  | done w r =>
      cases hr : t.role with
      | attempt c p => exact absurd hs (hd c p hr w r)
      | member g => rfl
      | hostCall => rfl

/-- What a thread that runs can do to the tables. -/
inductive Tables (h : Host σ ν ε) (m : Machine σ ν ε) (t : Thread σ ν ε)
    (course : Course σ ν ε ν) : Loading ν → Prop
  /-- They stay as they are. -/
  | same (hj : ∀ w call a next, h.follow m.loading t.requester course ≠ .join w call a next)
      (hs : ∀ w call next, h.follow m.loading t.requester course ≠ .start w call next)
      (hd : ∀ c p, t.role = .attempt c p →
        ∀ w r, h.follow m.loading t.requester course ≠ .done w r) :
      Tables h m t course m.loading
  /-- A call joins an attempt. -/
  | join {w : σ} {call : LoadCall} {a : Nat} {next : σ → Response ν ε → Course σ ν ε ν}
      (hf : h.follow m.loading t.requester course = .join w call a next)
      (hclient : call.client = m.loading.client? t.requester)
      (hnone : (m.loading.registry call.config).record? call.path = none)
      (hring : ¬ m.loading.ClosesRing call) (ha : m.loading.inFlight.lookup call.path = some a) :
      Tables h m t course (m.loading.await call)
  /-- A call begins an attempt. -/
  | start {w : σ} {call : LoadCall} {next : σ → Response ν ε → Course σ ν ε ν}
      (hf : h.follow m.loading t.requester course = .start w call next)
      (hclient : call.client = m.loading.client? t.requester)
      (hnone : (m.loading.registry call.config).record? call.path = none)
      (hidle : m.loading.inFlight.lookup call.path = none) :
      Tables h m t course ((m.loading.start call.path m.threads.length).await call)
  /-- An attempt ends, and may have registered its exports. -/
  | finish {w : σ} {result : Except ε ν} {c : ConfigId} {p : String} {l : Loading ν}
      (hf : h.follow m.loading t.requester course = .done w result)
      (hrole : t.role = .attempt c p)
      (hl : (∃ v, result = .ok v ∧ m.loading.register c p v = .ok l) ∨ l = m.loading)
      (hin : l.inFlight = m.loading.inFlight) (hw : l.waits = m.loading.waits) :
      Tables h m t course (l.finish p)

/-- **What a thread that runs does to the tables.** -/
theorem advance_tables (hl : h.standIn = none) (course : Course σ ν ε ν) {k : Nat}
    {t : Thread σ ν ε} (hk : m.threads[k]? = some t) :
    Tables h m t course (Machine.advance h m k t course).loading := by
  have hspec := h.follow_spec hl m.loading t.requester course
  have hsame : (∀ w call a next, h.follow m.loading t.requester course ≠ .join w call a next) →
      (∀ w call next, h.follow m.loading t.requester course ≠ .start w call next) →
      (∀ c p, t.role = .attempt c p → ∀ w r, h.follow m.loading t.requester course ≠ .done w r) →
      Tables h m t course (Machine.advance h m k t course).loading := by
    intro hj hs hd
    rw [advance_loading_eq hj hs hd]
    exact .same hj hs hd
  cases hf : h.follow m.loading t.requester course with
  | standIn w left config path next => rw [hf] at hspec; exact hspec.elim
  | pause w next => exact hsame (by simp [hf]) (by simp [hf]) (by simp [hf])
  | group w config paths next => exact hsame (by simp [hf]) (by simp [hf]) (by simp [hf])
  | join w call a next =>
      rw [hf] at hspec
      have hd := m.loading.decide_spec call
      rw [hspec.2] at hd
      have hload : (Machine.advance h m k t course).loading = m.loading.await call := by
        unfold Machine.advance; rw [hf]; rfl
      rw [hload]
      exact .join hf hspec.1 hd.1 hd.2.1 hd.2.2
  | start w call next =>
      rw [hf] at hspec
      have hd := m.loading.decide_spec call
      rw [hspec.2] at hd
      have hload : (Machine.advance h m k t course).loading
          = (m.loading.start call.path m.threads.length).await call := by
        unfold Machine.advance; rw [hf]; rfl
      rw [hload]
      exact .start hf hspec.1 hd.1 hd.2.2
  | done w result =>
      cases hrole : t.role with
      | attempt c p =>
          obtain ⟨l, r, hload, _, _, hres⟩ := advance_attempt_done hk hrole hf
          rw [hload]
          rcases hres with ⟨v, _, hv, hreg⟩ | ⟨_, _, he⟩
          · obtain ⟨hin, hw⟩ := (Loading.registry_of_register hreg).2.2.2.2
            exact .finish hf hrole (Or.inl ⟨v, hv, hreg⟩) hin hw
          · exact .finish hf hrole (Or.inr he) (by rw [he]) (by rw [he])
      | member g => exact hsame (by simp [hf]) (by simp [hf]) (by simp [hrole])
      | hostCall => exact hsame (by simp [hf]) (by simp [hf]) (by simp [hrole])

/-! ## What a thread that runs does to the groups -/

theorem advance_group {k : Nat} {t : Thread σ ν ε} {course : Course σ ν ε ν} {w : σ}
    {config : ConfigId} {paths : List String} {next : σ → Response ν ε → Course σ ν ε ν}
    (hf : h.follow m.loading t.requester course = .group w config paths next) :
    (Machine.advance h m k t course).groups = m.groups ++ [{
      asker := k
      config
      paths
      left := (List.range paths.length).map (m.threads.length + ·) }] := by
  unfold Machine.advance
  rw [hf]
  rfl

theorem advance_groups (k : Nat) (t : Thread σ ν ε) (course : Course σ ν ε ν) :
    (Machine.advance h m k t course).groups = m.groups
    ∨ ∃ w config paths next, h.follow m.loading t.requester course = .group w config paths next
      ∧ (Machine.advance h m k t course).groups = m.groups ++ [{
          asker := k
          config
          paths
          left := (List.range paths.length).map (m.threads.length + ·) }] := by
  cases hf : h.follow m.loading t.requester course with
  | standIn w left config path next => left; unfold Machine.advance; rw [hf]; rfl
  | group w config paths next => exact Or.inr ⟨w, config, paths, next, rfl, advance_group hf⟩
  | pause w next => left; unfold Machine.advance; rw [hf]; rfl
  | join w call a next => left; unfold Machine.advance; rw [hf]; rfl
  | start w call next => left; unfold Machine.advance; rw [hf]; rfl
  | done w r => left; unfold Machine.advance; rw [hf]; cases t.role <;> rfl

/-- Each path of a group gets a thread, in order. -/
theorem advance_group_thread {k : Nat} {t : Thread σ ν ε} {course : Course σ ν ε ν} {w : σ}
    {config : ConfigId} {paths : List String} {next : σ → Response ν ε → Course σ ν ε ν}
    (hk : m.threads[k]? = some t)
    (hf : h.follow m.loading t.requester course = .group w config paths next) {i : Nat}
    {path : String} (hp : paths[i]? = some path) :
    (Machine.advance h m k t course).threads[m.threads.length + i]? = some {
      role := .member m.groups.length
      requester := t.requester
      state := .fresh (h.memberCourse config path) } := by
  have hlt : k < m.threads.length := (List.getElem?_eq_some_iff.mp hk).1
  have hne : k ≠ m.threads.length + i := by omega
  unfold Machine.advance
  rw [hf]
  simp only [halt, spawnGroup, spawnAll, setState, onThread]
  rw [List.getElem?_modify, List.getElem?_append_right (by omega)]
  simp [hp, hne]

theorem advance_group_queue {k : Nat} {t : Thread σ ν ε} {course : Course σ ν ε ν} {w : σ}
    {config : ConfigId} {paths : List String} {next : σ → Response ν ε → Course σ ν ε ν}
    (hf : h.follow m.loading t.requester course = .group w config paths next) :
    (Machine.advance h m k t course).queue
      = m.queue ++ (List.range paths.length).map fun i => .begin (m.threads.length + i) := by
  unfold Machine.advance
  rw [hf]
  simp [halt, spawnGroup, spawnAll, setState, onThread]

theorem advance_member {k : Nat} {t : Thread σ ν ε} {course : Course σ ν ε ν} {w : σ}
    {config : ConfigId} {paths : List String} {next : σ → Response ν ε → Course σ ν ε ν}
    (hk : m.threads[k]? = some t)
    (hf : h.follow m.loading t.requester course = .group w config paths next) {path : String}
    (hp : path ∈ paths) :
    ∃ j ∈ (List.range paths.length).map (m.threads.length + ·), ∃ t',
      (Machine.advance h m k t course).threads[j]? = some t' ∧ t'.role = .member m.groups.length
        ∧ t'.state = .fresh (h.memberCourse config path) := by
  obtain ⟨i, hi, hget⟩ := List.getElem_of_mem hp
  exact ⟨m.threads.length + i, List.mem_map.mpr ⟨i, List.mem_range.mpr hi, rfl⟩, _,
    advance_group_thread hk hf (List.getElem?_eq_some_iff.mpr ⟨hi, hget⟩), rfl, rfl⟩

end SourceLoader.Machine
