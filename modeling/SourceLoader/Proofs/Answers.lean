import SourceLoader.Proofs.Calls

/-!
# What a call is answered with

A load that comes back without an error comes back with exports that are registered. If they were
registered when it was asked for, that is what was looked up. If not, the load waited for an
attempt, and the attempt has registered its exports before it told anybody. From there on the
answer is on its way through the queue, and registries only grow.

Where the exports are registered is another question. An attempt is shared by path alone, and it
registers under its own configuration. So a call finds the exports in the registry it asked for if
and only if the attempt that it joined was made under the same configuration.
-/

namespace SourceLoader

/-! ## Registries only grow -/

namespace Loading

variable {ν : Type} {l l' l'' : Loading ν}

/-- Nothing that is registered goes away or changes its place. -/
def Extends (l l' : Loading ν) : Prop :=
  ∀ c, (l.registry c).records <+: (l'.registry c).records

theorem Extends.refl (l : Loading ν) : l.Extends l := fun _ => List.prefix_rfl

theorem Extends.trans (h : l.Extends l') (h' : l'.Extends l'') : l.Extends l'' :=
  fun c => (h c).trans (h' c)

theorem Extends.of_registry (h : ∀ c, l'.registry c = l.registry c) : l.Extends l' := by
  intro c
  exact ⟨[], by rw [List.append_nil, h c]⟩

theorem Extends.record (h : l.Extends l') {c : ConfigId} {path : String} {record : Record ν}
    (hr : (l.registry c).record? path = some record) :
    (l'.registry c).record? path = some record := by
  obtain ⟨more, hm⟩ := h c
  unfold Registry.record? at hr ⊢
  rw [← hm, List.find?_append, hr]
  rfl

theorem extends_of_register {c : ConfigId} {path : String} {v : ν}
    (h : l.register c path v = .ok l') : l.Extends l' := by
  obtain ⟨_, _, hrec, hother, _⟩ := registry_of_register h
  intro c'
  by_cases hc : c' = c
  · subst hc
    rw [hrec]
    exact List.prefix_append _ _
  · exact ⟨[], by rw [List.append_nil, hother c' hc]⟩

end Loading

namespace Machine

variable {σ ν ε : Type} {h : Host σ ν ε} {P : Move σ ν ε → Prop} {m m' : Machine σ ν ε}

/-- Nobody but the loader writes the registries. -/
def LoaderOwns (P : Move σ ν ε → Prop) : Prop := ∀ f, ¬ P (.write f)

theorem Tables.extends {t : Thread σ ν ε} {course : Course σ ν ε ν} {l : Loading ν}
    (ht : Tables h m t course l) : m.loading.Extends l := by
  cases ht with
  | same => exact .refl _
  | join => exact .of_registry fun c => Loading.registry_await _ _ c
  | start => exact .of_registry fun c => Loading.registry_await _ _ c
  | finish hf hrole hres =>
      rcases hres with ⟨v, _, hreg⟩ | rfl
      · exact (Loading.extends_of_register hreg).trans (.of_registry fun c => rfl)
      · exact .of_registry fun c => rfl

theorem Happens.extends (hl : h.standIn = none) (hP : LoaderOwns P) (hm : Happens h P m m') :
    m.loading.Extends m'.loading := by
  rcases hm.cases with hc | ⟨f, hf, _⟩ | ⟨q, k, t, course, _, hk, _, rfl⟩
  · rw [hc.loading]
    exact .refl _
  · exact absurd hf (hP f)
  · exact (advance_tables (h := h) (m := { m with queue := q }) hl course hk).extends

/-- What is registered anew is registered by an attempt that comes to a good end. -/
theorem Happens.registers (hl : h.standIn = none) (hP : LoaderOwns P) (hm : Happens h P m m')
    {c : ConfigId} {p : String} (hnone : (m.loading.registry c).record? p = none)
    (hsome : ((m'.loading.registry c).record? p).isSome) :
    ∃ q k t course w v, m.threads[k]? = some t ∧ TakesUp m k t course ∧ t.role = .attempt c p
      ∧ h.follow m.loading t.requester course = .done w (.ok v)
      ∧ m' = Machine.advance h { m with queue := q } k t course := by
  have hsame : ¬ (((m.loading.registry c).record? p).isSome = true) := by simp [hnone]
  rcases hm.cases with hc | ⟨f, hf, _⟩ | ⟨q, k, t, course, _, hk, hcourse, rfl⟩
  · rw [hc.loading] at hsome
    exact absurd hsome hsame
  · exact absurd hf (hP f)
  · have htables := advance_tables (h := h) (m := { m with queue := q }) hl course hk
    generalize (Machine.advance h { m with queue := q } k t course).loading = l' at htables hsome
    cases htables with
    | same => exact absurd hsome hsame
    | join =>
        rw [Loading.registry_await] at hsome
        exact absurd hsome hsame
    | start =>
        rw [Loading.registry_await, Loading.registry_start] at hsome
        exact absurd hsome hsame
    | @finish w r c₀ p₀ l hf hrole hres =>
        rw [Loading.registry_finish] at hsome
        rcases hres with ⟨v, rfl, hreg⟩ | rfl
        · rw [(Loading.registry_of_register hreg).2.1] at hsome
          split at hsome
          · rename_i hcp
            obtain ⟨rfl, rfl⟩ := hcp
            exact ⟨q, k, t, course, w, v, hk, hcourse, hrole, hf, rfl⟩
          · exact absurd hsome hsame
        · exact absurd hsome hsame

/-! ## Answers -/

/-- The attempt in thread `a` is made at `p` under `c`, and `v` is registered there. -/
structure Made (m : Machine σ ν ε) (a : Nat) (c : ConfigId) (p : String) (v : ν) : Prop where
  role : ∃ t : Thread σ ν ε, m.threads[a]? = some t ∧ t.role = .attempt c p
  record : (m.loading.registry c).record? p = some ⟨p, v⟩

theorem Made.step {a : Nat} {c : ConfigId} {p : String} {v : ν} (hv : m.Made a c p v)
    (hl : h.standIn = none) (hP : LoaderOwns P) (hm : Happens h P m m') : m'.Made a c p v := by
  obtain ⟨t, ht, hrole⟩ := hv.role
  obtain ⟨t', ht', hr, _⟩ := hm.old ht
  exact ⟨⟨t', ht', hr.trans hrole⟩, (hm.extends hl hP).record hv.record⟩

/-- The invariant of the answers. -/
structure AnswerInv (m : Machine σ ν ε) : Prop where
  /-- Who waits for an attempt has asked for its path. -/
  waiter : ∀ {a : Nat} {t : Thread σ ν ε} {w}, m.threads[a]? = some t → w ∈ t.waiters →
    ∃ c, t.role = .attempt c w.2.path
  /-- What is sent out when attempts end answers calls, and good answers are registered. -/
  settle : ∀ {k wait response}, Handle.settle k wait response ∈ m.queue →
    ∃ a call, wait = .attempt a call
      ∧ ∀ r, response = .ok r → ∃ c v, r = some v ∧ m.Made a c call.path v
  /-- So are the answers that arrive. -/
  resume : ∀ {k a call r}, Handle.resume k (.attempt a call) (.ok r) ∈ m.queue →
    ∃ c v, r = some v ∧ m.Made a c call.path v

theorem answerInv_atRest (world : σ) (registries : List (Registry ν)) :
    AnswerInv (atRest world registries : Machine σ ν ε) where
  waiter := by intro a t w ha; simp [atRest] at ha
  settle := by intro k wait response hq; simp [atRest] at hq
  resume := by intro k a call r hq; simp [atRest] at hq

/-- Who begins to wait for an attempt has asked for its path. -/
theorem waiter_step (hl : h.standIn = none) (hA : AttemptInv m) (hI : AnswerInv m)
    (hm : Happens h P m m') {a : Nat} {t' : Thread σ ν ε} {w : Nat × LoadCall}
    (ha : m'.threads[a]? = some t') (hw : w ∈ t'.waiters) :
    ∃ c, t'.role = .attempt c w.2.path := by
  rcases hm.cases with hc | ⟨f, _, rfl⟩ | ⟨q, k, t, course, _, hk, _, rfl⟩
  · rcases hc.new ha with ⟨t, ht, hrest⟩ | ⟨_, _, hnil, _⟩
    · rw [hrest.waiters] at hw
      rw [hrest.role]
      exact hI.waiter ht hw
    · rw [hnil] at hw
      simp at hw
  · exact hI.waiter ha hw
  · have hspec := h.follow_spec hl m.loading t.requester course
    rcases advance_thread (m := { m with queue := q }) hk ha with
      ⟨t₀, h0, hrole, _, _, _, hwaiters⟩ | ⟨_, hadd, hwaiters⟩
    · rcases hwaiters w hw with hw | hjoin
      · rw [hrole]
        exact hI.waiter h0 hw
      · rcases halt_of_joins hjoin with ⟨w', next, hf⟩ | ⟨hlast, _⟩
        · -- the attempt that is joined is the one in flight
          dsimp only at hf
          rw [hf] at hspec
          have hd := m.loading.decide_spec w.2
          rw [hspec.2] at hd
          obtain ⟨c, hrun⟩ := hA.running hd.2.2
          exact ⟨c, hrole.trans (hrun.role h0)⟩
        · have hlt : a < m.threads.length := (List.getElem?_eq_some_iff.mp h0).1
          dsimp only at hlast
          omega
    · rcases halt_of_joins (hwaiters w hw) with ⟨w', next, hf⟩ | ⟨_, w', next, hf⟩
      · rw [hf] at hadd
        exact hadd.elim
      · rw [hf] at hadd
        exact ⟨w.2.config, hadd.2.1⟩

/-- An attempt ends when its thread has come to the end of its course. -/
theorem Running.ends {k : Nat} {c : ConfigId} {p : String} (hrun : m.Running k c p)
    (hl : h.standIn = none) (hm : Happens h P m m') {t' : Thread σ ν ε}
    (ht' : m'.threads[k]? = some t') (he : t'.state.IsEnded) :
    ∃ q t course w result, m.threads[k]? = some t ∧ t.role = .attempt c p
      ∧ h.follow m.loading t.requester course = .done w result
      ∧ m' = Machine.advance h { m with queue := q } k t course := by
  obtain ⟨t, hk, hrole, hne⟩ := hrun
  rcases hm.cases with hc | ⟨f, _, rfl⟩ | ⟨q, i, t₁, course, _, hi, hcourse, rfl⟩
  · -- a thread that does not run does not end
    obtain ⟨t'', ht'', hrest⟩ := hc.old hk
    rw [ht'] at ht''
    injection ht'' with ht''
    subst ht''
    exact absurd (hrest.isEnded_iff.mp he) hne
  · rw [show (m.writeRegistries f).threads = m.threads from rfl, hk] at ht'
    injection ht' with ht'
    subst ht'
    exact absurd he hne
  · by_cases hik : k = i
    · subst hik
      rw [hk] at hi
      injection hi with hi
      subst hi
      obtain ⟨w, result, hf⟩ := follow_eq_done (m := { m with queue := q }) hl hk ht' he
      exact ⟨q, t, course, w, result, hk, hrole, hf, rfl⟩
    · obtain ⟨t'', ht'', _, _, hstate⟩ :=
        advance_old (h := h) (m := { m with queue := q }) course hi hk
      rw [ht'] at ht''
      injection ht'' with ht''
      subst ht''
      rw [hstate hik] at he
      exact absurd he hne

/-- An attempt that has ended well has registered its exports, and is forgotten with that. -/
theorem register_of_ended (hl : h.standIn = none) (hm : Happens h P m m') {k : Nat} {c : ConfigId}
    {p : String} (hrun : m.Running k c p) {v : ν} {t' : Thread σ ν ε}
    (ht' : m'.threads[k]? = some t') (hs' : t'.state = .ended (.ok v)) :
    ∃ l, m.loading.register c p v = .ok l ∧ m'.loading = l.finish p := by
  obtain ⟨q, t, course, w, result, hk, hrole, hf, rfl⟩ := hrun.ends hl hm ht' ⟨_, hs'⟩
  obtain ⟨l, r, hload, hthread, _, hres⟩ :=
    advance_attempt_done (m := { m with queue := q }) hk hrole hf
  rw [ht'] at hthread
  injection hthread with hthread
  subst hthread
  rcases hres with ⟨v', rfl, _, hreg⟩ | ⟨e, rfl, _⟩
  · injection hs' with hs'
    injection hs' with hs'
    subst hs'
    exact ⟨l, hreg, hload⟩
  · cases hs'

theorem made_of_ended (hl : h.standIn = none) (hm : Happens h P m m') {k : Nat} {c : ConfigId}
    {p : String} (hrun : m.Running k c p) {v : ν} {t' : Thread σ ν ε}
    (ht' : m'.threads[k]? = some t') (hs' : t'.state = .ended (.ok v)) : m'.Made k c p v := by
  obtain ⟨l, hreg, hload⟩ := register_of_ended hl hm hrun ht' hs'
  obtain ⟨t, hk, hrole, _⟩ := hrun
  obtain ⟨t'', ht'', hrole', _⟩ := hm.old hk
  refine ⟨⟨t'', ht'', hrole'.trans hrole⟩, ?_⟩
  rw [hload, Loading.registry_finish, (Loading.registry_of_register hreg).2.1, if_pos ⟨rfl, rfl⟩]

/-- **Good answers are registered, and stay so while they are on their way.** -/
theorem answerInv_step (hl : h.standIn = none) (hP : LoaderOwns P) (hA : AttemptInv m)
    (hI : AnswerInv m) (hm : Happens h P m m') : AnswerInv m' := by
  have hsettle : ∀ {k : Nat} {wait : Wait} {response : Response ν ε},
      Handle.settle k wait response ∈ m.queue → ∃ a call, wait = .attempt a call
        ∧ ∀ r, response = .ok r → ∃ c v, r = some v ∧ m'.Made a c call.path v := by
    intro k wait response hq
    obtain ⟨a, call, hw, hmade⟩ := hI.settle hq
    refine ⟨a, call, hw, fun r hr => ?_⟩
    obtain ⟨c, v, hv, hmade⟩ := hmade r hr
    exact ⟨c, v, hv, hmade.step hl hP hm⟩
  refine ⟨fun ha hw => waiter_step hl hA hI hm ha hw, ?_, ?_⟩
  · intro k wait response hq
    rcases hm.queue hl hq with hq | hq
    · exact hsettle hq
    · -- only an attempt that ends sends something out
      cases hq with
      | @ended k t t' c p w r hk hrole hne hw ht' hs' =>
          refine ⟨k, w.2, rfl, fun r' hr' => ?_⟩
          cases r with
          | error e => cases hr'
          | ok v =>
              injection hr' with hr'
              obtain ⟨c', hc'⟩ := hI.waiter hk hw
              exact ⟨c', v, hr'.symm, made_of_ended hl hm ⟨t, hk, hc', hne⟩ ht' hs'⟩
  · intro k a call r hq
    rcases hm.queue hl hq with hq | hq
    · obtain ⟨c, v, hv, hmade⟩ := hI.resume hq
      exact ⟨c, v, hv, hmade.step hl hP hm⟩
    · -- only what was sent out arrives
      cases hq with
      | settle hs =>
          obtain ⟨a', call', he, hmade⟩ := hsettle hs
          injection he with h1 h2
          subst h1; subst h2
          exact hmade r rfl

/-! ## Where the exports are missing -/

/-- The invariant of what is not registered yet. -/
structure OpenInv (m : Machine σ ν ε) : Prop where
  /-- An attempt has yet to register its exports. -/
  running : ∀ {k c p}, m.Running k c p → (m.loading.registry c).record? p = none
  /-- As long as an attempt runs, no call that waits for it finds its path where it looked. -/
  waiting : ∀ {k a call c p}, m.Outstanding k a call → m.Running a c p →
    (m.loading.registry call.config).record? call.path = none

theorem openInv_atRest (world : σ) (registries : List (Registry ν)) :
    OpenInv (atRest world registries : Machine σ ν ε) where
  running := by rintro k c p ⟨t, hk, _⟩; simp [atRest] at hk
  waiting := by rintro k a call c p ⟨t, next, hk, _⟩; simp [atRest] at hk

section Advance

variable {k : Nat} {t : Thread σ ν ε} {course : Course σ ν ε ν}

/-- What an attempt registers is not the path of an attempt that runs on. -/
theorem advance_unregistered (hl : h.standIn = none) (hA : AttemptInv m)
    (hk : m.threads[k]? = some t) (hne : ¬ t.state.IsEnded) {j : Nat} {c : ConfigId} {p : String}
    (hrun : (Machine.advance h m k t course).Running j c p) {c' : ConfigId}
    (hnone : (m.loading.registry c').record? p = none) :
    ((Machine.advance h m k t course).loading.registry c').record? p = none := by
  have htables := advance_tables (h := h) hl course hk
  generalize (Machine.advance h m k t course).loading = l' at htables
  cases htables with
  | same => exact hnone
  | join => rw [Loading.registry_await]; exact hnone
  | start => rw [Loading.registry_await, Loading.registry_start]; exact hnone
  | @finish w r c₀ p₀ l hf hrole hres =>
      rw [Loading.registry_finish]
      rcases hres with ⟨v, _, hreg⟩ | rfl
      · rw [(Loading.registry_of_register hreg).2.1, if_neg]
        · exact hnone
        · rintro ⟨_, rfl⟩
          rcases (advance_running hl course hk hne).mp hrun with ⟨hold, hnot⟩ | ⟨_, _, _, hs, _⟩
          · have hself := hA.inFlight (k := k) ⟨t, hk, hrole, hne⟩
            rw [hA.inFlight hold] at hself
            exact hnot ⟨Option.some.inj hself, w, r, hf⟩
          · rw [hf] at hs
            cases hs
      · exact hnone

theorem OpenInv.advance (hI : OpenInv m) (hl : h.standIn = none) (hA : AttemptInv m)
    (hC : CallInv m) (hk : m.threads[k]? = some t) (hne : ¬ t.state.IsEnded) :
    OpenInv (Machine.advance h m k t course) := by
  -- the halts with a call are those of calls that are not registered
  have hcall : ∀ {call : LoadCall},
      (∃ w a next, h.follow m.loading t.requester course = .join w call a next)
        ∨ (∃ w next, h.follow m.loading t.requester course = .start w call next) →
      (m.loading.registry call.config).record? call.path = none := by
    intro call hf
    have hspec := h.follow_spec hl m.loading t.requester course
    have hd := m.loading.decide_spec call
    rcases hf with ⟨w, a, next, hf⟩ | ⟨w, next, hf⟩
    · rw [hf] at hspec
      rw [hspec.2] at hd
      exact hd.1
    · rw [hf] at hspec
      rw [hspec.2] at hd
      exact hd.1
  refine ⟨?_, ?_⟩
  · intro j c p hrun
    refine advance_unregistered hl hA hk hne hrun ?_
    rcases (advance_running hl course hk hne).mp hrun with ⟨hold, _⟩ | ⟨w, call, next, hf, _, rfl, rfl⟩
    · exact hI.running hold
    · exact hcall (Or.inr ⟨w, next, hf⟩)
  · intro i a call c p ho hrun
    have hpath : ∃ t', (Machine.advance h m k t course).threads[a]? = some t'
        ∧ ∃ c, t'.role = .attempt c call.path := (hC.advance hA hl hk hne).attempt ho
    obtain ⟨t', ht', c', hrole⟩ := hpath
    have hp : p = call.path := by
      have := hrun.role ht'
      rw [hrole] at this
      injection this with _ hp
      exact hp.symm
    subst hp
    refine advance_unregistered hl hA hk hne hrun ?_
    rcases advance_outstanding hk ho with ⟨_, ho⟩ | ⟨_, w, next, hf⟩ | ⟨_, _, w, next, hf⟩
    · rcases (advance_running hl course hk hne).mp hrun with ⟨hold, _⟩ | ⟨_, _, _, _, rfl, _⟩
      · exact hI.waiting ho hold
      · -- nobody waits for an attempt that has yet to begin
        obtain ⟨t₀, h0, _⟩ := hC.attempt ho
        have := (List.getElem?_eq_some_iff.mp h0).1
        omega
    · exact hcall (Or.inl ⟨w, a, next, hf⟩)
    · exact hcall (Or.inr ⟨w, next, hf⟩)

end Advance

theorem openInv_step (hl : h.standIn = none) (hP : LoaderOwns P) (hA : AttemptInv m)
    (hC : CallInv m) (hI : OpenInv m) (hm : Happens h P m m') : OpenInv m' := by
  rcases hm.cases with hc | ⟨f, hf, _⟩ | ⟨q, k, t, course, _, hk, hcourse, rfl⟩
  · refine ⟨?_, ?_⟩
    · intro k c p hrun
      rw [hc.loading]
      exact hI.running (hc.running_iff.mp hrun)
    · intro k a call c p ho hrun
      rw [hc.loading]
      exact hI.waiting (hc.outstanding_iff.mp ho) (hc.running_iff.mp hrun)
  · exact absurd hf (hP f)
  · have hI' : OpenInv { m with queue := q } := ⟨hI.running, hI.waiting⟩
    exact hI'.advance hl (hA.withQueue q) (hC.withQueue q) hk hcourse.not_isEnded

/-- **Where a shared attempt leaves its exports.** When an attempt ends well, a call that waits for
it finds the exports in the registry it has asked for if the attempt was made under the
configuration of the call. Otherwise it finds nothing there. -/
theorem record_of_ended (hl : h.standIn = none) (hC : CallInv m) (hO : OpenInv m)
    (hm : Happens h P m m') {k : Nat} {c : ConfigId} {p : String} (hrun : m.Running k c p) {v : ν}
    {t' : Thread σ ν ε} (ht' : m'.threads[k]? = some t') (hs' : t'.state = .ended (.ok v))
    {j : Nat} {call : LoadCall} (ho : m.Outstanding j k call) :
    (m'.loading.registry call.config).record? call.path
      = if call.config = c then some ⟨call.path, v⟩ else none := by
  have hpath : call.path = p := by
    obtain ⟨t, hk, c', hrole⟩ := hC.attempt ho
    rw [hrun.role hk] at hrole
    injection hrole with _ hp
    exact hp.symm
  have hnone := hO.waiting ho hrun
  obtain ⟨l, hreg, hload⟩ := register_of_ended hl hm hrun ht' hs'
  rw [hload, Loading.registry_finish, (Loading.registry_of_register hreg).2.1, hpath]
  by_cases hcc : call.config = c
  · rw [if_pos ⟨hcc, rfl⟩, if_pos hcc]
  · rw [if_neg (fun hx => hcc hx.1), if_neg hcc, ← hpath]
    exact hnone

end Machine

end SourceLoader
