import SourceLoader.Proofs.Attempts

/-!
# Calls that wait

Who waits for whom is known twice: in the threads, each of which waits for an attempt to answer
its call, and in the notes of the loader. The notes are what the search for rings reads, so they
have to be complete: a call that waits in the name of the current attempt at a path is noted for
that path.

A note is made when the call begins to wait and stays as long as the attempt in whose name it was
made. What could go wrong is that the attempt ends, its notes are dropped, and the path is in
flight once more. But then another attempt is the current one, and attempts are told apart by
their threads, which are numbered on and on.

With complete notes and a search that misses no ring, the noted waits never close one. Three
things can add a wait: a call joins an attempt, which is refused when it would close a ring; an
attempt begins, and old notes about its path count again, but nothing is noted for the path
itself; an attempt ends, and waits only go.
-/

namespace SourceLoader.Machine

open Relation

variable {σ ν ε : Type} {h : Host σ ν ε} {P : Move σ ν ε → Prop} {m m' : Machine σ ν ε}

/-- A thread waits for the attempt in a thread to answer its call. -/
def Outstanding (m : Machine σ ν ε) (k a : Nat) (call : LoadCall) : Prop :=
  ∃ (t : Thread σ ν ε) (next : σ → Response ν ε → Course σ ν ε ν),
    m.threads[k]? = some t ∧ t.state = .waiting (.attempt a call) next

/-- The call that a thread waits with, and the thread of the attempt. -/
def call? (m : Machine σ ν ε) (k : Nat) : Option (Nat × LoadCall) :=
  m.threads[k]?.bind fun t =>
    match t.state with
    | .waiting (.attempt a call) _ => some (a, call)
    | _ => none

theorem outstanding_iff {k a : Nat} {call : LoadCall} :
    m.Outstanding k a call ↔ m.call? k = some (a, call) := by
  unfold Outstanding call?
  cases m.threads[k]? with
  | none => simp
  | some t =>
      simp only [Option.some.injEq, Option.bind_some]
      constructor
      · rintro ⟨_, next, rfl, hs⟩
        rw [hs]
      · intro hc
        split at hc
        · rename_i a' call' next hs
          injection hc with hc
          injection hc with h1 h2
          subst h1; subst h2
          exact ⟨t, next, rfl, hs⟩
        · cases hc

instance (k a : Nat) (call : LoadCall) : Decidable (m.Outstanding k a call) :=
  decidable_of_iff _ outstanding_iff.symm

/-- As long as the attempt in thread `b` is the current one at `x`, it is noted that `x` waits for
`y`. The attempt has begun by now. -/
structure Noted (m : Machine σ ν ε) (x : String) (b : Nat) (y : String) : Prop where
  begun : b < m.threads.length
  noted : m.loading.inFlight.lookup x = some b → y ∈ m.loading.waits.of x

/-! ## Calls and what happens -/

theorem Calm.length_le (hc : Calm m m') : m.threads.length ≤ m'.threads.length := by
  refine Nat.le_of_not_lt fun hlt => ?_
  obtain ⟨t', ht', _⟩ := hc.old (List.getElem?_eq_getElem hlt)
  have hlt' := (List.getElem?_eq_some_iff.mp ht').1
  omega

theorem Calm.outstanding_iff (hc : Calm m m') {k a : Nat} {call : LoadCall} :
    m'.Outstanding k a call ↔ m.Outstanding k a call := by
  constructor
  · rintro ⟨t', next, hk, hs⟩
    rcases hc.new hk with ⟨t, ht, hrest⟩ | ⟨_, _, _, s, hfresh⟩
    · rcases hrest.state with he | ⟨_, _, _, hfresh, _⟩
      · exact ⟨t, next, ht, he.symm.trans hs⟩
      · rw [hfresh] at hs; cases hs
    · rw [hfresh] at hs; cases hs
  · rintro ⟨t, next, hk, hs⟩
    obtain ⟨t', ht', hrest⟩ := hc.old hk
    rcases hrest.state with he | ⟨_, _, hfresh, _⟩
    · exact ⟨t', next, ht', he.trans hs⟩
    · rw [hfresh] at hs; cases hs

section Advance

variable {k : Nat} {t : Thread σ ν ε} {course : Course σ ν ε ν}

/-- The calls that wait when a thread has run: those of the other threads, and the one that the
thread has come to a halt with. -/
theorem advance_outstanding (hk : m.threads[k]? = some t) {j a : Nat} {call : LoadCall}
    (ho : (Machine.advance h m k t course).Outstanding j a call) :
    (j ≠ k ∧ m.Outstanding j a call)
    ∨ (j = k ∧ ∃ w next, h.follow m.loading t.requester course = .join w call a next)
    ∨ (j = k ∧ a = m.threads.length
        ∧ ∃ w next, h.follow m.loading t.requester course = .start w call next) := by
  obtain ⟨t', next, hj, hs⟩ := ho
  rcases advance_thread hk hj with ⟨t₀, h0, _, _, hself, hother, _⟩ | ⟨_, hadd, _⟩
  · by_cases hjk : j = k
    · have hleaves := hself hjk
      rw [hs] at hleaves
      rcases halt_of_leaves hleaves with hf | ⟨ha, hf⟩
      · exact Or.inr (Or.inl ⟨hjk, hf⟩)
      · exact Or.inr (Or.inr ⟨hjk, ha, hf⟩)
    · exact Or.inl ⟨hjk, t₀, next, h0, (hother hjk).symm.trans hs⟩
  · -- new threads do not wait yet
    obtain ⟨start, hfresh⟩ := fresh_of_adds hadd
    rw [hfresh] at hs
    cases hs

/-- The thread that has come to a halt with a call waits. -/
theorem outstanding_advance (course : Course σ ν ε ν) (hk : m.threads[k]? = some t) {a : Nat}
    {call : LoadCall}
    (hf : (∃ w next, h.follow m.loading t.requester course = .join w call a next)
      ∨ (a = m.threads.length
        ∧ ∃ w next, h.follow m.loading t.requester course = .start w call next)) :
    (Machine.advance h m k t course).Outstanding k a call := by
  have hlt : k < m.threads.length := (List.getElem?_eq_some_iff.mp hk).1
  obtain ⟨t', ht', _⟩ := advance_old (h := h) course hk hk
  rcases advance_thread hk ht' with ⟨_, _, _, _, hself, _⟩ | ⟨hge, _⟩
  · have hs := hself rfl
    rcases hf with ⟨w, next, hf⟩ | ⟨rfl, w, next, hf⟩
    · rw [hf] at hs
      exact ⟨t', next, ht', hs⟩
    · rw [hf] at hs
      exact ⟨t', next, ht', hs⟩
  · omega

/-- What a path is noted to wait for, when a thread has run: nothing is forgotten unless the
attempt at the path has ended. -/
theorem Noted.advance {x y : String} {b : Nat} (hn : m.Noted x b y) (hl : h.standIn = none)
    (hk : m.threads[k]? = some t) : (Machine.advance h m k t course).Noted x b y := by
  refine ⟨Nat.lt_of_lt_of_le hn.begun (length_le_advance m k t course), ?_⟩
  have htables := advance_tables (h := h) hl course hk
  generalize (Machine.advance h m k t course).loading = l' at htables
  intro hx
  cases htables with
  | same hj hs hd => exact hn.noted hx
  | join hf hclient hnone hring ha =>
      rw [Loading.inFlight_await] at hx
      exact Loading.mem_waits_await.mpr (Or.inl (hn.noted hx))
  | start hf hclient hnone hidle =>
      rw [Loading.inFlight_await, Loading.lookup_start] at hx
      refine Loading.mem_waits_await.mpr (Or.inl (hn.noted ?_))
      cases ho : m.loading.inFlight.lookup x with
      | some i => rw [ho] at hx; exact hx
      | none =>
          -- the attempt that begins has a number of its own
          exfalso
          rw [ho] at hx
          split at hx
          · have : m.threads.length = b := by simpa using hx
            have := hn.begun
            omega
          · simp at hx
  | finish hf hrole hres hin hw =>
      rw [Loading.lookup_finish, hin] at hx
      rw [Loading.mem_waits_finish, hw]
      split at hx
      · simp at hx
      · rename_i hp
        exact ⟨hp, hn.noted hx⟩

end Advance

/-- **A note stays as long as the attempt in whose name it was made.** -/
theorem Noted.step {x y : String} {b : Nat} (hn : m.Noted x b y) (hl : h.standIn = none)
    (hm : Happens h P m m') : m'.Noted x b y := by
  rcases hm.cases with hc | ⟨f, _, rfl⟩ | ⟨q, k, t, course, _, hk, _, rfl⟩
  · refine ⟨Nat.lt_of_lt_of_le hn.begun hc.length_le, ?_⟩
    rw [hc.loading]
    exact hn.noted
  · exact ⟨hn.begun, hn.noted⟩
  · have hn' : Noted { m with queue := q } x b y := ⟨hn.begun, hn.noted⟩
    exact hn'.advance hl hk

theorem Noted.reaches {x y : String} {b : Nat} (hn : m.Noted x b y) (hl : h.standIn = none)
    (hr : ReachesBy h P m m') : m'.Noted x b y :=
  hr.invariant (I := fun m => m.Noted x b y) hl hn fun hn hm => Noted.step hn hl hm

/-! ## The calls are noted -/

/-- The invariant of the calls. -/
structure CallInv (m : Machine σ ν ε) : Prop where
  /-- A call waits for an attempt at its path. -/
  attempt : ∀ {k a call}, m.Outstanding k a call →
    ∃ t : Thread σ ν ε, m.threads[a]? = some t ∧ ∃ c, t.role = .attempt c call.path
  /-- A call in the name of an attempt is noted. -/
  noted : ∀ {k a call x b}, m.Outstanding k a call → call.client = some ⟨x, b⟩ →
    m.Noted x b call.path

theorem callInv_atRest (world : σ) (registries : List (Registry ν)) :
    CallInv (atRest world registries : Machine σ ν ε) where
  attempt := by rintro k a call ⟨t, next, hk, _⟩; simp [atRest] at hk
  noted := by rintro k a call x b ⟨t, next, hk, _⟩; simp [atRest] at hk

section Advance

variable {k : Nat} {t : Thread σ ν ε} {course : Course σ ν ε ν}

/-- **A call that begins to wait is noted.** -/
theorem advance_call (hA : AttemptInv m) (hl : h.standIn = none) (hk : m.threads[k]? = some t)
    (hne : ¬ t.state.IsEnded) {a : Nat} {call : LoadCall}
    (hf : (∃ w next, h.follow m.loading t.requester course = .join w call a next)
      ∨ (a = m.threads.length
        ∧ ∃ w next, h.follow m.loading t.requester course = .start w call next)) :
    (∃ t', (Machine.advance h m k t course).threads[a]? = some t'
        ∧ ∃ c, t'.role = .attempt c call.path)
      ∧ ∀ {x b}, call.client = some ⟨x, b⟩ →
        (Machine.advance h m k t course).Noted x b call.path := by
  -- who calls is in flight
  have hwho : ∀ {x b}, call.client = some ⟨x, b⟩ → call.client = m.loading.client? t.requester →
      b < (Machine.advance h m k t course).threads.length := by
    intro x b hclient hc
    rw [hclient] at hc
    obtain ⟨_, hrun⟩ := hA.running (Loading.client?_eq_some.mp hc.symm).2
    exact Nat.lt_of_lt_of_le hrun.lt_length (length_le_advance m k t course)
  have htables := advance_tables (h := h) hl course hk
  generalize hload : (Machine.advance h m k t course).loading = l' at htables
  rcases hf with ⟨w, next, hf⟩ | ⟨rfl, w, next, hf⟩
  · cases htables with
    | same hj hs hd => exact absurd hf (hj w call a next)
    | start hf' => rw [hf] at hf'; cases hf'
    | finish hf' => rw [hf] at hf'; cases hf'
    | join hf' hc hnone hring ha =>
        rw [hf] at hf'
        injection hf' with _ he hea
        subst he; subst hea
        constructor
        · obtain ⟨c, t₀, h0, hrole, _⟩ := hA.running ha
          obtain ⟨t', ht', hr, _⟩ := advance_old (h := h) course hk h0
          exact ⟨t', ht', c, hr.trans hrole⟩
        · intro x b hclient
          refine ⟨hwho hclient hc, fun _ => ?_⟩
          rw [hload]
          exact Loading.mem_waits_await.mpr (Or.inr ⟨rfl, b, hclient⟩)
  · cases htables with
    | same hj hs hd => exact absurd hf (hs w call next)
    | join hf' => rw [hf] at hf'; cases hf'
    | finish hf' => rw [hf] at hf'; cases hf'
    | start hf' hc hnone hidle =>
        rw [hf] at hf'
        injection hf' with _ he
        subst he
        constructor
        · obtain ⟨t', ht', hrole, _⟩ := (advance_running (h := h) hl course hk hne
            (j := m.threads.length) (c := call.config) (p := call.path)).mpr
            (Or.inr ⟨w, call, next, hf, rfl, rfl, rfl⟩)
          exact ⟨t', ht', call.config, hrole⟩
        · intro x b hclient
          refine ⟨hwho hclient hc, fun _ => ?_⟩
          rw [hload]
          exact Loading.mem_waits_await.mpr (Or.inr ⟨rfl, b, hclient⟩)

theorem CallInv.advance (hI : CallInv m) (hA : AttemptInv m) (hl : h.standIn = none)
    (hk : m.threads[k]? = some t) (hne : ¬ t.state.IsEnded) :
    CallInv (Machine.advance h m k t course) where
  attempt := by
    intro j a call ho
    rcases advance_outstanding hk ho with ⟨_, ho⟩ | ⟨_, hf⟩ | ⟨_, hf⟩
    · obtain ⟨t₀, h0, c, hrole⟩ := hI.attempt ho
      obtain ⟨t', ht', hr, _⟩ := advance_old (h := h) course hk h0
      exact ⟨t', ht', c, hr.trans hrole⟩
    · exact (advance_call hA hl hk hne (Or.inl hf)).1
    · exact (advance_call hA hl hk hne (Or.inr hf)).1
  noted := by
    intro j a call x b ho hclient
    rcases advance_outstanding hk ho with ⟨_, ho⟩ | ⟨_, hf⟩ | ⟨_, hf⟩
    · exact (hI.noted ho hclient).advance hl hk
    · exact (advance_call hA hl hk hne (Or.inl hf)).2 hclient
    · exact (advance_call hA hl hk hne (Or.inr hf)).2 hclient

end Advance

theorem CallInv.withQueue (hI : CallInv m) (q : List (Handle ν ε)) :
    CallInv { m with queue := q } where
  attempt := hI.attempt
  noted := fun ho hc => ⟨(hI.noted ho hc).begun, (hI.noted ho hc).noted⟩

theorem callInv_step (hl : h.standIn = none) (hA : AttemptInv m) (hI : CallInv m)
    (hm : Happens h P m m') : CallInv m' := by
  have hstep := hm
  rcases hm.cases with hc | ⟨f, _, rfl⟩ | ⟨q, k, t, course, _, hk, hcourse, rfl⟩
  · refine ⟨?_, ?_⟩
    · intro k a call ho
      obtain ⟨t, ht, c, hrole⟩ := hI.attempt (hc.outstanding_iff.mp ho)
      obtain ⟨t', ht', hrest⟩ := hc.old ht
      exact ⟨t', ht', c, hrest.role.trans hrole⟩
    · intro k a call x b ho hclient
      exact (hI.noted (hc.outstanding_iff.mp ho) hclient).step hl hstep
  · exact ⟨hI.attempt, fun ho hc => ⟨(hI.noted ho hc).begun, (hI.noted ho hc).noted⟩⟩
  · exact (hI.withQueue q).advance (hA.withQueue q) hl hk hcourse.not_isEnded

theorem callInv_reaches (hl : h.standIn = none) {world : σ} {registries : List (Registry ν)}
    (hr : ReachesBy h P (atRest world registries) m) : CallInv m := by
  suffices AttemptInv m ∧ CallInv m from this.2
  exact hr.invariant (I := fun m => AttemptInv m ∧ CallInv m) hl
    ⟨attemptInv_atRest world registries, callInv_atRest world registries⟩
    fun hI hm => ⟨attemptInv_step hl hI.1 hm, callInv_step hl hI.1 hI.2 hm⟩

end SourceLoader.Machine
