import SourceLoader.Proofs.Answers

/-!
# Loads that are asked for together

A group goes on when all its loads have ended well. Each load has a thread of its own, and a
counter of threads is left over: so what has to be shown is that a thread that has left the
counter has done its part. The invariant says that while a group is open each of its paths is
loaded or has a thread in the counter that still works on it. A thread that ends well was answered
with exports that are registered, so its path is loaded before it is counted, and when the counter
is empty all paths are loaded.

A path counts as loaded where it was asked for, or under another configuration by an attempt that
was shared.
-/

namespace SourceLoader.Machine

variable {σ ν ε : Type} {h : Host σ ν ε} {P : Move σ ν ε → Prop} {m m' : Machine σ ν ε}

/-- A path is registered under a configuration, or by an attempt under another one. -/
def Loaded (m : Machine σ ν ε) (c : ConfigId) (p : String) : Prop :=
  (∃ v, (m.loading.registry c).record? p = some ⟨p, v⟩) ∨ ∃ a c' v, m.Made a c' p v

/-- What is loaded is registered, unless an attempt under another configuration has registered
it there. -/
theorem Loaded.mem_paths_or {c : ConfigId} {p : String} (hp : m.Loaded c p) :
    p ∈ (m.loading.registry c).paths ∨ ∃ a c' v, c' ≠ c ∧ m.Made a c' p v := by
  have hmem : ∀ {v}, (m.loading.registry c).record? p = some ⟨p, v⟩ →
      p ∈ (m.loading.registry c).paths := by
    intro v hv
    rw [Registry.mem_paths_iff, hv]
    rfl
  rcases hp with ⟨v, hv⟩ | ⟨a, c', v, hmade⟩
  · exact Or.inl (hmem hv)
  · by_cases hc : c' = c
    · subst hc
      exact Or.inl (hmem hmade.record)
    · exact Or.inr ⟨a, c', v, hc, hmade⟩

theorem Loaded.step {c : ConfigId} {p : String} (hp : m.Loaded c p) (hl : h.standIn = none)
    (hP : LoaderOwns P) (hm : Happens h P m m') : m'.Loaded c p := by
  rcases hp with ⟨v, hv⟩ | ⟨a, c', v, hmade⟩
  · exact Or.inl ⟨v, (hm.extends hl hP).record hv⟩
  · exact Or.inr ⟨a, c', v, hmade.step hl hP hm⟩

theorem Loaded.withQueue {c : ConfigId} {p : String} (hp : m.Loaded c p)
    (q : List (Handle ν ε)) : Loaded { m with queue := q } c p := by
  rcases hp with hv | ⟨a, c', v, hmade⟩
  · exact Or.inl hv
  · exact Or.inr ⟨a, c', v, hmade.role, hmade.record⟩

/-- The states of a thread that works on a load of a group, up to its failure. -/
def Works (h : Host σ ν ε) (c : ConfigId) (p : String) (s : ThreadState σ ν ε) : Prop :=
  s = .fresh (h.loadCourse c p)
  ∨ (∃ e, s = .fresh fun w => .done w (.error e))
  ∨ (∃ a call, s = .waiting (.attempt a call) (h.loaded p) ∧ call.config = c ∧ call.path = p)
  ∨ ∃ e, s = .ended (.error e)

/-- A thread of a group works on a load. -/
def Serves (h : Host σ ν ε) (m : Machine σ ν ε) (g k : Nat) (c : ConfigId) (p : String) : Prop :=
  ∃ t : Thread σ ν ε, m.threads[k]? = some t ∧ t.role = .member g ∧ Works h c p t.state

/-- The invariant of the groups. -/
structure GroupInv (h : Host σ ν ε) (m : Machine σ ν ε) : Prop where
  /-- A path of an open group is loaded, or a thread that was not counted works on it. -/
  member : ∀ {g : Nat} {G : Group}, m.groups[g]? = some G → G.isSettled = false →
    ∀ p ∈ G.paths, m.Loaded G.config p ∨ ∃ k ∈ G.left, Serves h m g k G.config p
  /-- Who is counted has ended. -/
  counted : ∀ {g k response}, Handle.count g k response ∈ m.queue →
    ∃ (t : Thread σ ν ε) (r : Except ε ν), m.threads[k]? = some t ∧ t.state = .ended r
      ∧ response = r.map some
  /-- When a group goes on well, its paths are loaded. -/
  answered : ∀ {k g r}, Handle.resume k (.group g) (.ok r) ∈ m.queue →
    ∃ G, m.groups[g]? = some G ∧ ∀ p ∈ G.paths, m.Loaded G.config p

theorem groupInv_atRest (world : σ) (registries : List (Registry ν)) :
    GroupInv h (atRest world registries : Machine σ ν ε) where
  member := by intro g G hG; simp [atRest] at hG
  counted := by intro g k response hq; simp [atRest] at hq
  answered := by intro k g r hq; simp [atRest] at hq

/-- **A thread that works on a load does so to the end.** Then the path is loaded, or the thread
has failed. -/
theorem works_advance (hl : h.standIn = none) (hI : AnswerInv m) {q : List (Handle ν ε)} {k : Nat}
    {t : Thread σ ν ε} {course : Course σ ν ε ν} (hk : m.threads[k]? = some t)
    (hc : TakesUp m k t course) {g : Nat} (hrole : t.role = .member g) {c : ConfigId} {p : String}
    (hw : Works h c p t.state) :
    (Machine.advance h { m with queue := q } k t course).Loaded c p
    ∨ Serves h (Machine.advance h { m with queue := q } k t course) g k c p := by
  have hext : m.loading.Extends (Machine.advance h { m with queue := q } k t course).loading :=
    (advance_tables (m := { m with queue := q }) hl course hk).extends
  obtain ⟨t', ht', hrole', _⟩ :=
    advance_old (h := h) (m := { m with queue := q }) course hk hk
  have hleaves : Leaves m.threads.length m.groups.length
      (h.follow m.loading t.requester course) t'.state := by
    rcases advance_thread (m := { m with queue := q }) hk ht' with ⟨_, _, _, _, hself, _⟩ | ⟨hge, _⟩
    · exact hself rfl
    · have hlt : k < m.threads.length := (List.getElem?_eq_some_iff.mp hk).1
      have : m.threads.length ≤ k := hge
      omega
  have hfail : ∀ {w e}, h.follow m.loading t.requester course = .done w (.error e) →
      Serves h (Machine.advance h { m with queue := q } k t course) g k c p := by
    intro w e hf
    exact ⟨_, advance_done (m := { m with queue := q }) hk (by simp [hrole]) hf, hrole,
      Or.inr (Or.inr (Or.inr ⟨e, rfl⟩))⟩
  cases hc with
  | begin hs =>
      rcases hw with hw | ⟨e, hw⟩ | ⟨a, call, hw, _⟩ | ⟨e, hw⟩
      · -- the load is asked for
        rw [hs] at hw
        injection hw with hw
        subst hw
        have hd := m.loading.decide_spec ⟨c, p, m.loading.client? t.requester⟩
        cases hdec : m.loading.decide ⟨c, p, m.loading.client? t.requester⟩ with
        | registered v =>
            rw [hdec] at hd
            exact Or.inl (Or.inl ⟨v, hext.record hd⟩)
        | circular cycle =>
            refine Or.inr (hfail (w := (h.failing (.circular cycle) m.world).1)
              (e := (h.failing (.circular cycle) m.world).2) ?_)
            simp [Host.loadCourse, Host.follow, hl, hdec, Host.loaded]
        | join a =>
            refine Or.inr ⟨t', ht', hrole'.trans hrole, Or.inr (Or.inr (Or.inl ?_))⟩
            simp only [Host.loadCourse, Host.follow, hl, hdec, Leaves] at hleaves
            exact ⟨a, _, hleaves, rfl, rfl⟩
        | start =>
            refine Or.inr ⟨t', ht', hrole'.trans hrole, Or.inr (Or.inr (Or.inl ?_))⟩
            simp only [Host.loadCourse, Host.follow, hl, hdec, Leaves] at hleaves
            exact ⟨_, _, hleaves, rfl, rfl⟩
      · rw [hs] at hw
        injection hw with hw
        subst hw
        exact Or.inr (hfail (by simp only [Host.follow]; rfl))
      · rw [hs] at hw
        cases hw
      · rw [hs] at hw
        cases hw
  | @resume wait next response hs hq =>
      rcases hw with hw | ⟨e, hw⟩ | ⟨a, call, hw, _, hpath⟩ | ⟨e, hw⟩
      · rw [hs] at hw
        cases hw
      · rw [hs] at hw
        cases hw
      · -- the attempt has answered
        rw [hs] at hw
        injection hw with hwait hnext
        subst hwait; subst hnext; subst hpath
        cases response with
        | ok r =>
            obtain ⟨c', v, rfl, hmade⟩ := hI.resume hq
            refine Or.inl (Or.inr ⟨a, c', v, ?_, hext.record hmade.record⟩)
            obtain ⟨t₀, h0, hr0⟩ := hmade.role
            obtain ⟨t₁, h1, hr1, _⟩ := advance_old (h := h) (m := { m with queue := q })
              (h.loaded call.path m.world (.ok (some v))) hk h0
            exact ⟨t₁, h1, hr1.trans hr0⟩
        | error e => exact Or.inr (hfail (by simp only [Host.loaded, Host.follow]; rfl))
      · rw [hs] at hw
        cases hw

/-- A thread that works on a load goes on to do so, whatever happens. -/
theorem serves_step (hl : h.standIn = none) (hI : AnswerInv m) (hm : Happens h P m m') {g k : Nat}
    {c : ConfigId} {p : String} (hs : Serves h m g k c p) :
    m'.Loaded c p ∨ Serves h m' g k c p := by
  obtain ⟨t, hk, hrole, hw⟩ := hs
  rcases hm.cases with hc | ⟨f, _, rfl⟩ | ⟨q, j, t₀, course, hsub, hj, hcourse, rfl⟩
  · obtain ⟨t', ht', hrest⟩ := hc.old hk
    refine Or.inr ⟨t', ht', hrest.role.trans hrole, ?_⟩
    rcases hrest.state with hs | ⟨s, e, _, hs, _⟩
    · rw [hs]
      exact hw
    · exact Or.inr (Or.inl ⟨e, hs⟩)
  · exact Or.inr ⟨t, hk, hrole, hw⟩
  · by_cases hkj : k = j
    · subst hkj
      rw [hk] at hj
      injection hj with hj
      subst hj
      exact works_advance hl hI hk hcourse hrole hw
    · obtain ⟨t', ht', hr, _, hstate⟩ :=
        advance_old (h := h) (m := { m with queue := q }) course hj hk
      refine Or.inr ⟨t', ht', hr.trans hrole, ?_⟩
      rw [hstate hkj]
      exact hw

section Step

variable (hl : h.standIn = none) (hP : LoaderOwns P) (hA : AnswerInv m) (hI : GroupInv h m)
  (hm : Happens h P m m')

include hI in
/-- A thread that is counted after it has ended well works on nothing any more. -/
theorem not_serves_of_counted {g g' k : Nat} {v : Option ν}
    (hq : Handle.count g k (.ok v) ∈ m.queue) {c : ConfigId} {p : String} :
    ¬ Serves h m g' k c p := by
  rintro ⟨t, ht, _, hw⟩
  obtain ⟨t₀, r, h0, hs, hr⟩ := hI.counted hq
  rw [ht] at h0
  injection h0 with h0
  subst h0
  rw [hs] at hw
  rcases hw with hw | ⟨e, hw⟩ | ⟨a, call, hw, _⟩ | ⟨e, hw⟩
  · cases hw
  · cases hw
  · cases hw
  · injection hw with hw
    subst hw
    cases hr

include hl hP hA hI hm

/-- What is known of a path of an open group stays so. -/
theorem GroupInv.loaded_or_serves {g : Nat} {G : Group} (hG : m.groups[g]? = some G)
    (hopen : G.isSettled = false) {p : String} (hp : p ∈ G.paths) :
    m'.Loaded G.config p ∨ ∃ k ∈ G.left, Serves h m g k G.config p ∧ Serves h m' g k G.config p := by
  rcases hI.member hG hopen p hp with hloaded | ⟨k, hk, hs⟩
  · exact Or.inl (hloaded.step hl hP hm)
  · rcases serves_step hl hA hm hs with hloaded | hs'
    · exact Or.inl hloaded
    · exact Or.inr ⟨k, hk, hs, hs'⟩

/-- The counter of a group never loses a load that is worked on. -/
theorem member_step {g : Nat} {G' : Group} (hG' : m'.groups[g]? = some G')
    (hopen : G'.isSettled = false) {p : String} (hp : p ∈ G'.paths) :
    m'.Loaded G'.config p ∨ ∃ k ∈ G'.left, Serves h m' g k G'.config p := by
  rcases hm.groups hl hG' with
    ⟨G, hG, hc, hpaths, rfl | ⟨j, response, hq, hleft, hok⟩⟩ | hnew
  · rcases hI.loaded_or_serves hl hP hA hm hG hopen hp with hloaded | ⟨k, hk, _, hs⟩
    · exact Or.inl hloaded
    · exact Or.inr ⟨k, hk, hs⟩
  · obtain ⟨hopen', v, rfl⟩ := hok hopen
    rw [hpaths] at hp
    rw [hc, hleft]
    rcases hI.loaded_or_serves hl hP hA hm hG hopen' hp with hloaded | ⟨k, hk, hs, hs'⟩
    · exact Or.inl hloaded
    · -- the thread that was counted is another one
      refine Or.inr ⟨k, List.mem_filter.mpr ⟨hk, decide_eq_true_iff.mpr ?_⟩, hs'⟩
      rintro rfl
      exact not_serves_of_counted hI hq hs
  · obtain ⟨k, hk, t', ht', hrole, hs⟩ := hnew p hp
    exact Or.inr ⟨k, hk, t', ht', hrole, Or.inl hs⟩

/-- When the counter is empty, all paths of the group are loaded. -/
theorem answered_step {k g : Nat} {r : Option ν}
    (hq : Handle.resume k (.group g) (.ok r) ∈ m'.queue) :
    ∃ G, m'.groups[g]? = some G ∧ ∀ p ∈ G.paths, m'.Loaded G.config p := by
  rcases hm.queue hl hq with hq | hq
  · obtain ⟨G, hG, hall⟩ := hI.answered hq
    obtain ⟨G', hG', hc, hp⟩ := hm.group hG
    refine ⟨G', hG', ?_⟩
    rw [hc, hp]
    exact fun p hp => (hall p hp).step hl hP hm
  · cases hq with
    | settle hs =>
        -- only calls are answered this way
        obtain ⟨a, call, he, _⟩ := hA.settle hs
        cases he
    | @group g j G r response hs hG hok _ =>
        obtain ⟨hopen, ⟨v, rfl⟩, hempty⟩ := hok _ rfl
        obtain ⟨G', hG', hc, hpaths⟩ := hm.group hG
        refine ⟨G', hG', ?_⟩
        rw [hc, hpaths]
        intro p hp
        rcases hI.loaded_or_serves hl hP hA hm hG hopen hp with hloaded | ⟨i, hi, hserves, _⟩
        · exact hloaded
        · -- nobody but the thread that was counted is left
          have hij : i = j := by
            refine Classical.byContradiction fun hne => ?_
            have hmem : i ∈ G.left.filter (· ≠ j) :=
              List.mem_filter.mpr ⟨hi, decide_eq_true_iff.mpr hne⟩
            rw [hempty] at hmem
            cases hmem
          subst hij
          exact absurd hserves (not_serves_of_counted hI hs)

/-- **Every move keeps the invariant of the groups.** -/
theorem groupInv_step : GroupInv h m' := by
  refine ⟨fun hG hopen p hp => member_step hl hP hA hI hm hG hopen hp, ?_,
    fun hq => answered_step hl hP hA hI hm hq⟩
  intro g k response hq
  rcases hm.queue hl hq with hq | hq
  · obtain ⟨t, r, ht, hs, hr⟩ := hI.counted hq
    obtain ⟨t', ht', _, hs'⟩ := hm.ended ht hs
    exact ⟨t', r, ht', hs', hr⟩
  · cases hq with
    | counted ht' hs' => exact ⟨_, _, ht', hs', rfl⟩

end Step

/-! ## All together -/

/-- What holds in every run in which only the loader writes the registries. -/
structure LoaderInv (h : Host σ ν ε) (m : Machine σ ν ε) : Prop where
  attempts : AttemptInv m
  calls : CallInv m
  answers : AnswerInv m
  opens : OpenInv m
  groups : GroupInv h m

theorem loaderInv_atRest (world : σ) (registries : List (Registry ν)) :
    LoaderInv h (atRest world registries : Machine σ ν ε) where
  attempts := attemptInv_atRest world registries
  calls := callInv_atRest world registries
  answers := answerInv_atRest world registries
  opens := openInv_atRest world registries
  groups := groupInv_atRest world registries

theorem loaderInv_step (hl : h.standIn = none) (hP : LoaderOwns P) (hI : LoaderInv h m)
    (hm : Happens h P m m') : LoaderInv h m' where
  attempts := attemptInv_step hl hI.attempts hm
  calls := callInv_step hl hI.attempts hI.calls hm
  answers := answerInv_step hl hP hI.attempts hI.answers hm
  opens := openInv_step hl hP hI.attempts hI.calls hI.opens hm
  groups := groupInv_step hl hP hI.answers hI.groups hm

theorem loaderInv_reaches (hl : h.standIn = none) (hP : LoaderOwns P) {world : σ}
    {registries : List (Registry ν)} (hr : ReachesBy h P (atRest world registries) m) :
    LoaderInv h m :=
  hr.invariant hl (loaderInv_atRest world registries) (loaderInv_step hl hP)

end SourceLoader.Machine
