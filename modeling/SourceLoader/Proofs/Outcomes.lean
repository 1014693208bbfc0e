import SourceLoader.Proofs.Fetches
import SourceLoader.Proofs.Order

/-!
# What comes of a shared attempt

Loads of one path share an attempt: as long as it runs, no load of its path begins another one.
A load that has joined it stands among the threads that will be told, and when the attempt ends it
sends each of them what it has come to. What is sent out arrives, since nothing is lost from the
queue. The only other response that can reach such a load is the error with which its own thread
was given up.

An attempt that has failed leaves nothing behind that a later load could run into. An attempt that
has ended well has registered its path, and a registered path is not fetched any more.
-/

namespace SourceLoader.Machine

variable {σ ν ε : Type} {h : Host σ ν ε} {P : Move σ ν ε → Prop} {m m' : Machine σ ν ε}

/-! ## How attempts have ended -/

theorem result?_eq_some {a : Nat} {r : Except ε ν} :
    m.result? a = some r ↔ ∃ t : Thread σ ν ε, m.threads[a]? = some t ∧ t.state = .ended r := by
  unfold result?
  rw [Option.bind_eq_some_iff]
  constructor
  · rintro ⟨t, ht, hs⟩
    split at hs
    · rename_i r' hs'
      injection hs with hs
      exact ⟨t, ht, hs ▸ hs'⟩
    · cases hs
  · rintro ⟨t, ht, hs⟩
    exact ⟨t, ht, by rw [hs]⟩

theorem Happens.result? (hm : Happens h P m m') {a : Nat} {r : Except ε ν}
    (hr : m.result? a = some r) : m'.result? a = some r := by
  obtain ⟨t, ht, hs⟩ := result?_eq_some.mp hr
  obtain ⟨t', ht', _, hs'⟩ := hm.ended ht hs
  exact result?_eq_some.mpr ⟨t', ht', hs'⟩

theorem Running.not_result? {a : Nat} {c : ConfigId} {p : String} (hrun : m.Running a c p)
    {r : Except ε ν} : m.result? a ≠ some r := by
  intro hr
  obtain ⟨t, ht, hs⟩ := result?_eq_some.mp hr
  obtain ⟨t', ht', _, hne⟩ := hrun
  rw [ht] at ht'
  injection ht' with ht'
  subst ht'
  exact hne ⟨r, hs⟩

/-- The attempt that a call waits for runs or has ended. -/
theorem CallInv.running_or_result? (hC : CallInv m) {k a : Nat} {call : LoadCall}
    (ho : m.Outstanding k a call) :
    (∃ c, m.Running a c call.path) ∨ ∃ r, m.result? a = some r := by
  obtain ⟨t, ht, c, hrole⟩ := hC.attempt ho
  by_cases he : t.state.IsEnded
  · obtain ⟨r, hs⟩ := he
    exact Or.inr ⟨r, result?_eq_some.mpr ⟨t, ht, hs⟩⟩
  · exact Or.inl ⟨c, t, ht, hrole, he⟩

/-! ## Calls are answered with what the attempt has come to -/

/-- A thread goes on from a response to its call. -/
def GoesOn (h : Host σ ν ε) (m m' : Machine σ ν ε) (k a : Nat) (call : LoadCall)
    (response : Response ν ε) : Prop :=
  ∃ t next q, m.threads[k]? = some t ∧ t.state = .waiting (.attempt a call) next
    ∧ m' = Machine.advance h { m with queue := q } k t (next m.world response)

/-- A call stops waiting when its thread goes on from a response. -/
theorem Happens.goesOn (hm : Happens h P m m') {k a : Nat} {call : LoadCall}
    (ho : m.Outstanding k a call) (ho' : ¬ m'.Outstanding k a call) :
    ∃ response, Handle.resume k (.attempt a call) response ∈ m.queue
      ∧ GoesOn h m m' k a call response := by
  rcases hm.cases with hc | ⟨f, _, rfl⟩ | ⟨q, i, t, course, _, hi, hcourse, rfl⟩
  · exact absurd (hc.outstanding_iff.mpr ho) ho'
  · exact absurd ho ho'
  · obtain ⟨t₀, next, hk, hs⟩ := ho
    by_cases hik : k = i
    · subst hik
      rw [hk] at hi
      injection hi with hi
      subst hi
      cases hcourse with
      | begin hs' => rw [hs] at hs'; cases hs'
      | @resume wait next' response hs' hq =>
          rw [hs] at hs'
          injection hs' with hwait hnext
          subst hwait; subst hnext
          exact ⟨response, hq, t₀, next, q, hk, hs, rfl⟩
    · obtain ⟨t', ht', _, _, hstate⟩ :=
        advance_old (h := h) (m := { m with queue := q }) course hi hk
      exact absurd ⟨t', next, ht', (hstate hik).trans hs⟩ ho'

/-- The invariant of the outcomes. -/
structure OutcomeInv (m : Machine σ ν ε) : Prop where
  /-- A call that waits for an attempt will be told. -/
  waiter : ∀ {k a call c p} {t : Thread σ ν ε}, m.Outstanding k a call → m.Running a c p →
    m.threads[a]? = some t → (k, call) ∈ t.waiters
  /-- What is sent out is what the attempt has come to. -/
  settle : ∀ {k wait response}, Handle.settle k wait response ∈ m.queue →
    ∃ a call r, wait = .attempt a call ∧ m.result? a = some r ∧ response = r.map some
  /-- A call that still waits when the attempt has ended has been sent a response. -/
  told : ∀ {k a call r}, m.Outstanding k a call → m.result? a = some r →
    Handle.settle k (.attempt a call) (r.map some) ∈ m.queue
    ∨ ∃ response, Handle.resume k (.attempt a call) response ∈ m.queue

theorem outcomeInv_atRest (world : σ) (registries : List (Registry ν)) :
    OutcomeInv (atRest world registries : Machine σ ν ε) where
  waiter := by rintro k a call c p t ⟨t, next, hk, _⟩; simp [atRest] at hk
  settle := by intro k wait response hq; simp [atRest] at hq
  told := by rintro k a call r ⟨t, next, hk, _⟩; simp [atRest] at hk

section Step

variable (hl : h.standIn = none)

include hl

/-- Whoever has joined an attempt that runs is among those who will be told. -/
theorem told_waiter_step (hC : CallInv m) (hI : OutcomeInv m) (hm : Happens h P m m')
    {k a : Nat} {call : LoadCall} {c : ConfigId} {p : String} {t' : Thread σ ν ε}
    (ho : m'.Outstanding k a call) (hrun : m'.Running a c p) (ha : m'.threads[a]? = some t') :
    (k, call) ∈ t'.waiters := by
  rcases hm.cases with hc | ⟨f, _, rfl⟩ | ⟨q, i, t, course, _, hi, hcourse, rfl⟩
  · have hrun' := hc.running_iff.mp hrun
    obtain ⟨t, ht, _⟩ := id hrun'
    obtain ⟨t'', ht'', hrest⟩ := hc.old ht
    rw [ha] at ht''
    injection ht'' with ht''
    subst ht''
    rw [hrest.waiters]
    exact hI.waiter (hc.outstanding_iff.mp ho) hrun' ht
  · exact hI.waiter ho hrun ha
  · have hne : ¬ t'.state.IsEnded := by
      obtain ⟨t'', ht'', _, hne⟩ := id hrun
      rw [ha] at ht''
      injection ht'' with ht''
      exact ht'' ▸ hne
    refine mem_waiters_advance ha hne ?_
    rcases advance_outstanding (m := { m with queue := q }) hi ho with
      ⟨_, ho⟩ | ⟨rfl, w, next, hf⟩ | ⟨rfl, rfl, w, next, hf⟩
    · left
      rcases (advance_running (m := { m with queue := q }) hl course hi hcourse.not_isEnded).mp
        hrun with ⟨hold, _⟩ | ⟨_, _, _, _, hlast, _⟩
      · obtain ⟨t₀, h0, _⟩ := id hold
        exact ⟨t₀, h0, hI.waiter ho hold h0⟩
      · -- nobody waits for an attempt that has yet to begin
        obtain ⟨t₀, h0, _⟩ := hC.attempt ho
        have hlt : a < m.threads.length := (List.getElem?_eq_some_iff.mp h0).1
        have : a = m.threads.length := hlast
        omega
    · right
      rw [hf]
      exact ⟨rfl, rfl⟩
    · right
      rw [hf]
      exact ⟨rfl, rfl⟩

/-- What an attempt sends out is what it has come to, and that does not change any more. -/
theorem settled_step (hI : OutcomeInv m) (hm : Happens h P m m') {k : Nat} {wait : Wait}
    {response : Response ν ε} (hq : Handle.settle k wait response ∈ m'.queue) :
    ∃ a call r, wait = .attempt a call ∧ m'.result? a = some r ∧ response = r.map some := by
  rcases hm.queue hl hq with hq | hq
  · obtain ⟨a, call, r, hw, hres, hresp⟩ := hI.settle hq
    exact ⟨a, call, r, hw, hm.result? hres, hresp⟩
  · cases hq with
    | @ended k t t' c p w r hk hrole hne hw ht' hs' =>
        exact ⟨k, w.2, r, rfl, result?_eq_some.mpr ⟨t', ht', hs'⟩, rfl⟩

/-- When an attempt ends, all who wait for it are sent what it has come to. -/
theorem settle_of_ended (hI : OutcomeInv m) (hm : Happens h P m m') {k a : Nat} {call : LoadCall}
    {c : ConfigId} {p : String} {r : Except ε ν} (ho : m.Outstanding k a call)
    (hrun : m.Running a c p) (hr : m'.result? a = some r) :
    Handle.settle k (.attempt a call) (r.map some) ∈ m'.queue := by
  obtain ⟨t', ht', hs'⟩ := result?_eq_some.mp hr
  obtain ⟨q, t, course, w, result, ha, hrole, hf, rfl⟩ := hrun.ends hl hm ht' ⟨r, hs'⟩
  obtain ⟨l, r', _, hthread, hqueue, _⟩ :=
    advance_attempt_done (m := { m with queue := q }) ha hrole hf
  rw [ht'] at hthread
  injection hthread with hthread
  subst hthread
  injection hs' with hs'
  subst hs'
  rw [hqueue]
  exact List.mem_append_right _ (List.mem_map.mpr ⟨(k, call), hI.waiter ho hrun ha, rfl⟩)

/-- A call that waits for an attempt that has ended was waiting before. -/
theorem outstanding_of_result? (hA : AttemptInv m) (hm : Happens h P m m') {k a : Nat}
    {call : LoadCall} {r : Except ε ν} (ho : m'.Outstanding k a call)
    (hr : m'.result? a = some r) : m.Outstanding k a call := by
  rcases hm.cases with hc | ⟨f, _, rfl⟩ | ⟨q, i, t, course, _, hi, hcourse, rfl⟩
  · exact hc.outstanding_iff.mp ho
  · exact ho
  · have hspec := h.follow_spec hl m.loading t.requester course
    rcases advance_outstanding (m := { m with queue := q }) hi ho with
      ⟨_, ho⟩ | ⟨rfl, w, next, hf⟩ | ⟨rfl, rfl, w, next, hf⟩
    · exact ho
    · -- an attempt that is joined runs on
      dsimp only at hf
      rw [hf] at hspec
      have hd := m.loading.decide_spec call
      rw [hspec.2] at hd
      obtain ⟨c, hrun⟩ := hA.running hd.2.2
      have hrun' : Running (Machine.advance h { m with queue := q } k t course) a c call.path :=
        Running.advance (m := { m with queue := q }) hrun hl hi (by simp [hf])
      exact absurd hr hrun'.not_result?
    · have hrun := running_of_start (m := { m with queue := q }) hi hf
      exact absurd hr hrun.not_result?

/-- **Every call is told what its attempt has come to.** -/
theorem outcomeInv_step (hA : AttemptInv m) (hC : CallInv m) (hI : OutcomeInv m)
    (hg : Goes h P m m') : OutcomeInv m' := by
  have hm := hg.happens hl
  refine ⟨fun ho hrun ha => told_waiter_step hl hC hI hm ho hrun ha,
    fun hq => settled_step hl hI hm hq, ?_⟩
  intro k a call r ho hr
  have hold := outstanding_of_result? hl hA hm ho hr
  rcases hC.running_or_result? hold with ⟨c, hrun⟩ | ⟨r', hr'⟩
  · exact Or.inl (settle_of_ended hl hI hm hold hrun hr)
  · -- the attempt had ended before, so the response is on its way
    have hsame := hm.result? hr'
    rw [hr] at hsame
    injection hsame with hsame
    subst hsame
    rcases hI.told hold hr' with hq | ⟨response, hq⟩
    · rcases hg.queue hl hq with hq | ⟨q, _, rfl⟩
      · exact Or.inl hq
      · exact Or.inr ⟨_, List.mem_append_right _ List.mem_cons_self⟩
    · rcases hg.queue hl hq with hq | ⟨q, hsub, rfl⟩
      · exact Or.inr ⟨response, hq⟩
      · -- the thread has gone on from the response, and an ended attempt cannot be joined
        exfalso
        obtain ⟨t, next, hk, hs⟩ := hold
        have hresume : perform h { m with queue := q } (.resume k (.attempt a call) response)
            = Machine.advance h { m with queue := q } k t (next m.world response) := by
          simp only [perform, Machine.resume, hk, hs, if_true]
        rw [hresume] at ho hr
        have hspec := h.follow_spec hl m.loading t.requester (next m.world response)
        rcases advance_outstanding (m := { m with queue := q }) hk ho with
          ⟨hne, _⟩ | ⟨_, w, next', hf⟩ | ⟨_, rfl, w, next', hf⟩
        · exact hne rfl
        · dsimp only at hf
          rw [hf] at hspec
          have hd := m.loading.decide_spec call
          rw [hspec.2] at hd
          obtain ⟨c, hrun⟩ := hA.running hd.2.2
          exact hrun.not_result? hr'
        · exact (running_of_start (m := { m with queue := q }) hk hf).not_result? hr

end Step

/-- All responses to a call are what its attempt has come to. -/
def Faithful (m : Machine σ ν ε) (k a : Nat) (call : LoadCall) : Prop :=
  ∀ {response}, Handle.resume k (.attempt a call) response ∈ m.queue →
    ∃ r, m.result? a = some r ∧ response = r.map some

/-- **A thread that is not given up hears nothing but what its attempt has come to.** -/
theorem faithful_step (hl : h.standIn = none) (hI : OutcomeInv m) {k a : Nat} {call : LoadCall}
    (hP : ∀ e, ¬ P (.cancel k e)) (hF : m.Faithful k a call) (hm : Happens h P m m') :
    m'.Faithful k a call := by
  intro response hq
  rcases hm.queue hl hq with hq | hq
  · obtain ⟨r, hres, hresp⟩ := hF hq
    exact ⟨r, hm.result? hres, hresp⟩
  · cases hq with
    | cancel k wait e hcancel => exact absurd hcancel (hP e)
    | settle hs =>
        obtain ⟨a', call', r, hw, hres, hresp⟩ := hI.settle hs
        injection hw with h1 h2
        subst h1; subst h2
        exact ⟨r, hm.result? hres, hresp⟩

/-- The invariant of the outcomes in a run in which the thread `k` is not given up. -/
theorem faithful_reaches (hl : h.standIn = none) {k a : Nat} {call : LoadCall}
    (hown : LoaderOwns P) (hP : ∀ e, ¬ P (.cancel k e)) (hL : LoaderInv h m) (hI : OutcomeInv m)
    (hF : m.Faithful k a call) (hr : ReachesBy h P m m') :
    LoaderInv h m' ∧ OutcomeInv m' ∧ m'.Faithful k a call := by
  induction hr with
  | refl => exact ⟨hL, hI, hF⟩
  | tail _ hg ih =>
      obtain ⟨hL, hI, hF⟩ := ih
      have hm := hg.happens hl
      exact ⟨loaderInv_step hl hown hL hm, outcomeInv_step hl hL.attempts hL.calls hI hg,
        faithful_step hl hI hP hF hm⟩

theorem outcomeInv_reaches (hl : h.standIn = none) (hown : LoaderOwns P) {world : σ}
    {registries : List (Registry ν)} (hr : ReachesBy h P (atRest world registries) m) :
    LoaderInv h m ∧ OutcomeInv m := by
  induction hr with
  | refl => exact ⟨loaderInv_atRest world registries, outcomeInv_atRest world registries⟩
  | tail _ hg ih =>
      obtain ⟨hL, hI⟩ := ih
      exact ⟨loaderInv_step hl hown hL (hg.happens hl),
        outcomeInv_step hl hL.attempts hL.calls hI hg⟩

/-! ## After an attempt -/

/-- A path that is neither registered nor in flight is loaded by the next load. -/
theorem AttemptInv.decide_eq_start (hA : AttemptInv m) {c : ConfigId} {p : String}
    (hnone : (m.loading.registry c).record? p = none)
    (hidle : m.loading.inFlight.lookup p = none) (requester : Option String) :
    m.loading.decide ⟨c, p, m.loading.client? requester⟩ = .start := by
  have hspec := m.loading.decide_spec ⟨c, p, m.loading.client? requester⟩
  cases hd : m.loading.decide ⟨c, p, m.loading.client? requester⟩ with
  | start => rfl
  | registered v =>
      rw [hd] at hspec
      rw [hnone] at hspec
      cases hspec
  | join a =>
      rw [hd] at hspec
      have hin : m.loading.inFlight.lookup p = some a := hspec.2.2
      rw [hidle] at hin
      cases hin
  | circular cycle =>
      rw [hd] at hspec
      obtain ⟨client, hclient, hreach⟩ := hspec.2
      -- nothing is noted for the path, so only the path itself can be reached from it
      have hsame : client.path = p := by
        rcases Relation.ReflTransGen.cases_head hreach with he | ⟨y, hy, _⟩
        · exact he.symm
        · have := hy.1
          rw [hA.waits_eq_nil hidle] at this
          cases this
      have hin := (Loading.client?_eq_some.mp hclient).2
      rw [hsame, hidle] at hin
      cases hin

/-- What an attempt that has failed does to the tables. -/
theorem loading_of_failed (hl : h.standIn = none) (hm : Happens h P m m') {a : Nat} {c : ConfigId}
    {p : String} (hrun : m.Running a c p) {e : ε} (hr : m'.result? a = some (.error e)) :
    m'.loading = m.loading.finish p := by
  obtain ⟨t', ht', hs'⟩ := result?_eq_some.mp hr
  obtain ⟨q, t, course, w, result, ha, hrole, hf, rfl⟩ := hrun.ends hl hm ht' ⟨_, hs'⟩
  obtain ⟨l, r, hload, hthread, _, hres⟩ :=
    advance_attempt_done (m := { m with queue := q }) ha hrole hf
  rw [ht'] at hthread
  injection hthread with hthread
  subst hthread
  injection hs' with hs'
  subst hs'
  rcases hres with ⟨v, hv, _⟩ | ⟨_, _, rfl⟩
  · cases hv
  · exact hload

/-- An attempt that runs was running before, unless its thread is new. -/
theorem Happens.running_back (hm : Happens h P m m') {k : Nat} {c : ConfigId} {p : String}
    (hlt : k < m.threads.length) (hrun : m'.Running k c p) : m.Running k c p := by
  obtain ⟨t', ht', hrole, hne⟩ := hrun
  have hget := List.getElem?_eq_getElem hlt
  obtain ⟨t'', ht'', hr, _⟩ := hm.old hget
  rw [ht'] at ht''
  injection ht'' with ht''
  subst ht''
  refine ⟨_, hget, hr.symm.trans hrole, fun ⟨r, hs⟩ => ?_⟩
  obtain ⟨t₀, h0, _, hs'⟩ := hm.ended hget hs
  rw [ht'] at h0
  injection h0 with h0
  subst h0
  exact hne ⟨r, hs'⟩

theorem Happens.length_le (hm : Happens h P m m') : m.threads.length ≤ m'.threads.length := by
  refine Nat.le_of_not_lt fun hlt => ?_
  obtain ⟨t', ht', _⟩ := hm.old (List.getElem?_eq_getElem hlt)
  have := (List.getElem?_eq_some_iff.mp ht').1
  omega

theorem ReachesBy.length_le (hl : h.standIn = none) (hr : ReachesBy h P m m') :
    m.threads.length ≤ m'.threads.length := by
  induction hr with
  | refl => exact Nat.le_refl _
  | tail _ hg ih => exact Nat.le_trans ih (hg.happens hl).length_le

theorem ReachesBy.running_back (hl : h.standIn = none) (hr : ReachesBy h P m m') {k : Nat}
    {c : ConfigId} {p : String} (hlt : k < m.threads.length) (hrun : m'.Running k c p) :
    m.Running k c p := by
  induction hr with
  | refl => exact hrun
  | tail h1 hg ih =>
      have hlt' := Nat.lt_of_lt_of_le hlt (ReachesBy.length_le hl h1)
      exact ih ((hg.happens hl).running_back hlt' hrun)

/-- Since `m`, no attempt at a path has been made. -/
def NoneSince (m m' : Machine σ ν ε) (p : String) : Prop :=
  ∀ {k : Nat} {t : Thread σ ν ε} {c : ConfigId}, m'.threads[k]? = some t →
    t.role = .attempt c p → k < m.threads.length

theorem NoneSince.not_loading (hl : h.standIn = none) (hA : AttemptInv m) (hA' : AttemptInv m')
    {p : String} (hidle : m.loading.inFlight.lookup p = none) (hr : ReachesBy h P m m')
    (hsince : NoneSince m m' p) : m'.loading.inFlight.lookup p = none := by
  cases hin : m'.loading.inFlight.lookup p with
  | none => rfl
  | some k =>
      obtain ⟨c, hrun⟩ := hA'.running hin
      obtain ⟨t, hk, hrole, _⟩ := id hrun
      have hold := hA.inFlight (hr.running_back hl (hsince hk hrole) hrun)
      rw [hidle] at hold
      cases hold

/-- **A path that was left unregistered stays so until the next attempt.** -/
theorem unregistered_reaches (hl : h.standIn = none) (hown : LoaderOwns P) (hL : LoaderInv h m)
    {c : ConfigId} {p : String} (hnone : (m.loading.registry c).record? p = none)
    (hidle : m.loading.inFlight.lookup p = none) (hr : ReachesBy h P m m')
    (hsince : NoneSince m m' p) :
    LoaderInv h m' ∧ (m'.loading.registry c).record? p = none
      ∧ m'.loading.inFlight.lookup p = none := by
  induction hr with
  | refl => exact ⟨hL, hnone, hidle⟩
  | @tail m₁ m₂ h1 hg ih =>
      have hm := hg.happens hl
      have hsince₁ : NoneSince m m₁ p := by
        intro k t c' hk hrole
        obtain ⟨t', ht', hrole', _⟩ := hm.old hk
        exact hsince ht' (hrole'.trans hrole)
      obtain ⟨hL₁, hnone₁, hidle₁⟩ := ih hsince₁
      have hL₂ := loaderInv_step hl hown hL₁ hm
      refine ⟨hL₂, ?_, hsince.not_loading hl hL.attempts hL₂.attempts hidle (h1.tail hg)⟩
      cases hrec : (m₂.loading.registry c).record? p with
      | none => rfl
      | some record =>
          obtain ⟨_, k, t, _, _, _, hk, hcourse, hrole, _⟩ :=
            hm.registers hl hown hnone₁ (by rw [hrec]; rfl)
          have hin := hL₁.attempts.inFlight (k := k) ⟨t, hk, hrole, hcourse.not_isEnded⟩
          rw [hidle₁] at hin
          cases hin

theorem mem_inFlight_iff {p : String} :
    p ∈ m.loading.inFlight.map Prod.fst ↔ m.loading.isLoading p = true := by
  unfold Loading.isLoading
  rw [Option.isSome_iff_ne_none, ne_eq, List.lookup_eq_none_iff]
  simp

/-- When no attempt runs, the tables are empty. -/
theorem AttemptInv.tables_eq_nil (hA : AttemptInv m) (hno : ∀ a c p, ¬ m.Running a c p) :
    m.loading.inFlight = [] ∧ m.loading.waits = [] := by
  have hidle : ∀ p, m.loading.isLoading p ≠ true := by
    intro p hp
    obtain ⟨a, ha⟩ := Loading.isLoading_iff.mp hp
    obtain ⟨c, hrun⟩ := hA.running ha
    exact hno a c p hrun
  constructor
  · cases hin : m.loading.inFlight with
    | nil => rfl
    | cons e rest =>
        have hmem : e.1 ∈ m.loading.inFlight.map Prod.fst := by simp [hin]
        exact absurd (mem_inFlight_iff.mp hmem) (hidle e.1)
  · cases hw : m.loading.waits with
    | nil => rfl
    | cons e rest => exact absurd (hA.waits (x := e.1) (by simp [hw])) (hidle e.1)

/-! ## Attempts at modules -/

section Modules

open ModuleLoader

variable {configs : ConfigId → LoadConfig} {E : Engine} {m : Machine World Value Thrown}
  {c : ConfigId}

/-- A path that is registered is not fetched any more. -/
theorem fetches_eq_of_record {m m' : Machine World Value Thrown}
    (hL : LoaderInv (host configs E) m) (hF : FetchInv configs E m)
    (hr : ReachesBy (host configs E) (Spares World.lookups) m m') (ho : m'.OnlyUnder c)
    {p : String} {record : Record Value}
    (hrec : (m.loading.registry c).record? p = some record) :
    m'.world.fetches p = m.world.fetches p := by
  suffices hall : LoaderInv (host configs E) m' ∧ FetchInv configs E m'
      ∧ (m'.loading.registry c).record? p = some record
      ∧ m'.world.fetches p = m.world.fetches p from hall.2.2.2
  induction hr with
  | refl => exact ⟨hL, hF, hrec, rfl⟩
  | @tail m₁ m₂ _ hg ih =>
      have hm := hg.happens rfl
      have ho₁ : m₁.OnlyUnder c := by
        intro k t c' q hk hrole
        obtain ⟨t', ht', hr, _⟩ := hm.old hk
        exact ho ht' (hr.trans hrole)
      obtain ⟨hL₁, hF₁, hrec₁, hsame⟩ := ih ho₁
      refine ⟨loaderInv_step rfl (loaderOwns_spares _) hL₁ hm, fetchInv_step hF₁ hm,
        (hm.extends rfl (loaderOwns_spares _)).record hrec₁, ?_⟩
      rcases lookups_step hF₁ hm with heq | ⟨k, q, hawaits, _, heq⟩
      · rw [← hsame]
        unfold World.fetches
        rw [heq]
      · -- whoever takes up an attempt does so at another path
        have hne : p ≠ q := by
          rintro rfl
          obtain ⟨c', hrun⟩ := hawaits.running
          obtain ⟨t, hk, hrole, _⟩ := id hrun
          have hc := ho₁ hk hrole
          subst hc
          rw [hL₁.opens.running hrun] at hrec₁
          cases hrec₁
        have hcount := fetches_countLookup q p m₁.world
        rw [if_neg hne, hsame] at hcount
        rw [← hcount]
        unfold World.fetches
        rw [heq]

/-- A load of a path that is being loaded joins the attempt or is refused. -/
theorem follow_load_of_running (hL : LoaderInv (host configs E) m) {a : Nat} {p : String}
    (hrun : m.Running a c p) (requester : Option String) (w : World)
    (next : World → Response Value Thrown → Course World Value Thrown Value) :
    let call : LoadCall := ⟨c, p, m.loading.client? requester⟩
    (host configs E).follow m.loading requester (.ask w (.load c p) next) = .join w call a next
    ∨ ∃ cycle, m.loading.decide call = .circular cycle
      ∧ (host configs E).follow m.loading requester (.ask w (.load c p) next)
        = (host configs E).follow m.loading requester
            (next (w.fail (.circular cycle)).1 (.error (w.fail (.circular cycle)).2)) := by
  intro call
  have hspec := m.loading.decide_spec call
  have hnone := hL.opens.running hrun
  have hin := hL.attempts.inFlight hrun
  cases hd : m.loading.decide call with
  | registered v =>
      rw [hd] at hspec
      have hrec : (m.loading.registry c).record? p = some ⟨p, v⟩ := hspec
      rw [hnone] at hrec
      cases hrec
  | circular cycle =>
      refine Or.inr ⟨cycle, rfl, ?_⟩
      rw [Host.follow]
      simp only [show (host configs E).standIn = none from rfl,
        show m.loading.decide ⟨c, p, m.loading.client? requester⟩ = .circular cycle from hd]
      rfl
  | join b =>
      rw [hd] at hspec
      have hb : m.loading.inFlight.lookup p = some b := hspec.2.2
      rw [hin] at hb
      injection hb with hb
      subst hb
      left
      rw [Host.follow]
      simp only [show (host configs E).standIn = none from rfl,
        show m.loading.decide ⟨c, p, m.loading.client? requester⟩ = .join a from hd]
      rfl
  | start =>
      rw [hd] at hspec
      have hidle : m.loading.inFlight.lookup p = none := hspec.2.2
      rw [hin] at hidle
      cases hidle

/-- A move of which only the loader fetches sources and writes registries, and that does not give
up the thread `k`. -/
def SparesThread (k : Nat) (e : Move World Value Thrown) : Prop :=
  Spares World.lookups e ∧ ∀ err, e ≠ .cancel k err

/-- **Loads of one path share one attempt, and its outcome.** At any time at most one attempt at a
path runs. A load that is asked for meanwhile joins it, unless it is refused as it would close a
ring. Who has joined and is not given up waits on until the attempt has ended, has the outcome on
its way then, and goes on from nothing else. An attempt that has failed leaves the path
unregistered, and nothing in the tables, so the next load of the path begins an attempt. Under
one configuration, a path is never fetched again after an attempt that has ended well. And the
tables are in step: waits are noted for paths in flight only, and when no attempt runs both tables
are empty. -/
theorem attempt_is_shared (c : ConfigId) {world : World} {registries : List (Registry Value)}
    (hr : ReachesBy (host configs E) (Spares World.lookups) (atRest world registries) m) :
    (∀ a b c₁ c₂ p, m.Running a c₁ p → m.Running b c₂ p → a = b)
      ∧ (∀ a p requester w next, m.Running a c p →
          let call : LoadCall := ⟨c, p, m.loading.client? requester⟩
          (host configs E).follow m.loading requester (.ask w (.load c p) next)
              = .join w call a next
            ∨ ∃ cycle, m.loading.decide call = .circular cycle
              ∧ (host configs E).follow m.loading requester (.ask w (.load c p) next)
                = (host configs E).follow m.loading requester
                    (next (w.fail (.circular cycle)).1 (.error (w.fail (.circular cycle)).2)))
      ∧ (∀ k a call m₁, m.Outstanding k a call →
          (∀ response, Handle.resume k (.attempt a call) response ∉ m.queue) →
          ReachesBy (host configs E) (SparesThread k) m m₁ → m₁.Outstanding k a call →
          ((∃ c', m₁.Running a c' call.path)
              ∨ ∃ r, m₁.result? a = some r
                ∧ (Handle.settle k (.attempt a call) (r.map some) ∈ m₁.queue
                  ∨ Handle.resume k (.attempt a call) (r.map some) ∈ m₁.queue))
            ∧ ∀ m₂, Goes (host configs E) (SparesThread k) m₁ m₂ → ¬ m₂.Outstanding k a call →
                ∃ r, m₁.result? a = some r ∧ GoesOn (host configs E) m₁ m₂ k a call (r.map some))
      ∧ (∀ a p e m₁, m.Running a c p → Goes (host configs E) (Spares World.lookups) m m₁ →
          m₁.result? a = some (.error e) →
          (m₁.loading.registry c).record? p = none
            ∧ p ∉ m₁.loading.inFlight.map Prod.fst ∧ p ∉ m₁.loading.waits.map Prod.fst
            ∧ ∀ m₂, ReachesBy (host configs E) (Spares World.lookups) m₁ m₂ → NoneSince m₁ m₂ p →
                ∀ requester, m₂.loading.decide ⟨c, p, m₂.loading.client? requester⟩ = .start)
      ∧ (∀ a p v m₁ m₂, m.Running a c p → Goes (host configs E) (Spares World.lookups) m m₁ →
          m₁.result? a = some (.ok v) →
          ReachesBy (host configs E) (Spares World.lookups) m₁ m₂ → m₂.OnlyUnder c →
          m₂.world.fetches p = m₁.world.fetches p)
      ∧ m.loading.waits.map Prod.fst ⊆ m.loading.inFlight.map Prod.fst
      ∧ ((∀ a c' p, ¬ m.Running a c' p) → m.loading.inFlight = [] ∧ m.loading.waits = []) := by
  have hown : LoaderOwns (Spares World.lookups) := loaderOwns_spares _
  obtain ⟨hL, hF⟩ := fetchInv_reaches hr
  obtain ⟨_, hI⟩ := outcomeInv_reaches rfl hown hr
  refine ⟨?_, ?_, ?_, ?_, ?_, ?_, ?_⟩
  · intro a b c₁ c₂ p ha hb
    have hin := hL.attempts.inFlight ha
    rw [hL.attempts.inFlight hb] at hin
    exact (Option.some.inj hin).symm
  · intro a p requester w next hrun
    exact follow_load_of_running hL hrun requester w next
  · intro k a call m₁ hwaits hopen hr₁ ho₁
    have hkept : ∀ e, ¬ SparesThread k (.cancel k e) := fun e he => he.2 e rfl
    have hown₁ : LoaderOwns (SparesThread k) := fun f hf => hf.1
    obtain ⟨hL₁, hI₁, hF₁⟩ := faithful_reaches rfl hown₁ hkept hL hI
      (fun {response} hq => absurd hq (hopen response)) hr₁
    refine ⟨?_, fun m₂ hg hnot => ?_⟩
    · refine (hL₁.calls.running_or_result? ho₁).imp id fun ⟨r, hres⟩ => ⟨r, hres, ?_⟩
      rcases hI₁.told ho₁ hres with hq | ⟨response, hq⟩
      · exact Or.inl hq
      · obtain ⟨r', hres', rfl⟩ := hF₁ hq
        rw [hres] at hres'
        injection hres' with hres'
        exact Or.inr (hres' ▸ hq)
    · obtain ⟨response, hq, hgoes⟩ := (hg.happens rfl).goesOn ho₁ hnot
      obtain ⟨r, hres, rfl⟩ := hF₁ hq
      exact ⟨r, hres, hgoes⟩
  · intro a p e m₁ hrun hg hres
    have hm := hg.happens rfl
    have hL₁ := loaderInv_step rfl hown hL hm
    have hload := loading_of_failed rfl hm hrun hres
    have hnone : (m₁.loading.registry c).record? p = none := by
      rw [hload, Loading.registry_finish]
      exact hL.opens.running hrun
    have hidle : m₁.loading.inFlight.lookup p = none := by
      rw [hload, Loading.lookup_finish, if_pos rfl]
    refine ⟨hnone, ?_, ?_, ?_⟩
    · rw [mem_inFlight_iff, Loading.isLoading, hidle]
      simp
    · intro hw
      have := hL₁.attempts.waits hw
      rw [Loading.isLoading, hidle] at this
      cases this
    · intro m₂ hr₂ hsince requester
      obtain ⟨hL₂, hnone₂, hidle₂⟩ := unregistered_reaches rfl hown hL₁ hnone hidle hr₂ hsince
      exact hL₂.attempts.decide_eq_start hnone₂ hidle₂ requester
  · intro a p v m₁ m₂ hrun hg hres hr₂ ho₂
    have hm := hg.happens rfl
    obtain ⟨t', ht', hs'⟩ := result?_eq_some.mp hres
    exact fetches_eq_of_record (loaderInv_step rfl hown hL hm) (fetchInv_step hF hm) hr₂ ho₂
      (made_of_ended rfl hm hrun ht' hs').record
  · intro x hx
    exact mem_inFlight_iff.mpr (hL.attempts.waits hx)
  · exact hL.attempts.tables_eq_nil

/-- A module that declares nothing. -/
def single : Session :=
  Session.start [{ store := some "cache" }]
    { sources := .table [("/p.py", ⟨"", true⟩)]
      stores := [("cache", { entries := [
        ("40d207ff", "\x7b\"dependency_specifiers\": [], "
          ++ "\"transformed_source\": \"\", \"line_map\": null\x7d")] })] }
    none

/-- The host has asked for it twice, and one attempt at it is about to run. -/
def joined : Machine World Value Thrown :=
  single.machine.after (host single.config single.engine)
    [.call (Session.load 0 "/p.py"), .call (Session.load 0 "/p.py"), .turn 0, .turn 0]

/-- When the attempt has ended, both calls have its outcome on their way, and nothing is left in
the tables. -/
theorem told_when_joined :
    let ended := joined.after (host single.config single.engine) [.turn 0]
    (∃ r, ended.result? 2 = some r ∧ ∀ k ∈ [0, 1],
        Handle.settle k (.attempt 2 ⟨0, "/p.py", none⟩) (r.map some) ∈ ended.queue
        ∨ Handle.resume k (.attempt 2 ⟨0, "/p.py", none⟩) (r.map some) ∈ ended.queue)
      ∧ ended.loading.inFlight = [] ∧ ended.loading.waits = [] := by
  intro ended
  have hr : ReachesBy (host single.config single.engine) (Spares World.lookups)
      (atRest single.machine.world [{}]) joined := by
    refine reachesBy_after (m := single.machine) ?_ (by decide +kernel)
    simp [Spares, keeps_load World.steady_lookups]
  have hgo : ∀ P : Move World Value Thrown → Prop, P (.turn 0) →
      Goes (host single.config single.engine) P joined ended :=
    fun P hP => goes_after hP (by decide +kernel)
  have hopen : ∀ k a call response, Handle.resume k (.attempt a call) response ∉ joined.queue := by
    have hqueue : joined.queue.map (fun e => match e with | .begin k => some k | _ => none)
        = [some 2] := by decide +kernel
    intro k a call response hq
    have hmem := List.mem_map_of_mem (f := fun e => match e with | .begin k => some k | _ => none) hq
    rw [hqueue] at hmem
    simp at hmem
  have hres : (ended.result? 2).isSome = true := by decide +kernel
  obtain ⟨r, hres⟩ := Option.isSome_iff_exists.mp hres
  obtain ⟨_, _, hshare, _⟩ := attempt_is_shared 0 hr
  have htold : ∀ k ∈ [0, 1],
      Handle.settle k (.attempt 2 ⟨0, "/p.py", none⟩) (r.map some) ∈ ended.queue
      ∨ Handle.resume k (.attempt 2 ⟨0, "/p.py", none⟩) (r.map some) ∈ ended.queue := by
    intro k hk
    have ho : joined.Outstanding k 2 ⟨0, "/p.py", none⟩
        ∧ ended.Outstanding k 2 ⟨0, "/p.py", none⟩ := by
      rw [outstanding_iff, outstanding_iff]
      revert k
      decide +kernel
    have hgo := hgo (SparesThread k) ⟨trivial, by simp⟩
    obtain ⟨hnow, _⟩ := hshare k 2 _ ended ho.1 (hopen k 2 _) (.single hgo) ho.2
    rcases hnow with ⟨c, hrun⟩ | ⟨r', hres', htold⟩
    · exact absurd hres hrun.not_result?
    · rw [hres] at hres'
      injection hres' with hres'
      exact hres' ▸ htold
  have hended : ReachesBy (host single.config single.engine) (Spares World.lookups)
      (atRest single.machine.world [{}]) ended := hr.tail (hgo _ trivial)
  obtain ⟨_, _, _, _, _, _, htables⟩ := attempt_is_shared 0 hended
  refine ⟨⟨r, hres, htold⟩, htables fun a c p hrun => ?_⟩
  -- the only attempt is the one that has ended
  have hroles : ended.threads.map Thread.role = [.hostCall, .hostCall, .attempt 0 "/p.py"] := by
    decide +kernel
  obtain ⟨t, ht, hrole, _⟩ := id hrun
  have ha : (ended.threads.map Thread.role)[a]? = some (.attempt c p) := by
    rw [List.getElem?_map, ht]
    simp [hrole]
  rw [hroles] at ha
  match a with
  | 0 => simp at ha
  | 1 => simp at ha
  | 2 => exact hrun.not_result? hres
  | n + 3 => simp at ha

end Modules

end SourceLoader.Machine
