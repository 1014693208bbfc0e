import SourceLoader.Proofs.Outcomes

/-!
# No thread is forgotten

A thread that has not ended can go on by itself, or it waits for others who can. If it has yet to
begin or has let others run, an entry for it stands in the queue. If it waits for an attempt, the
attempt runs, or its outcome is on the way. If it waits for a group, a thread of the group has not
been counted, and such a thread works on or its count stands in the queue; or the response of the
group stands there. Nothing is lost from the queue, so all this stays so until the thread goes on.

Hence when the queue is empty, every thread has ended, or it waits for an attempt that runs, or for
a group with a thread that has not ended.
-/

namespace SourceLoader.Machine

variable {σ ν ε : Type} {h : Host σ ν ε} {P : Move σ ν ε → Prop} {m m' : Machine σ ν ε}

/-! ## Entries that are carried out -/

theorem perform_begin {k : Nat} {t : Thread σ ν ε} {start : σ → Course σ ν ε ν}
    (hk : m.threads[k]? = some t) (hs : t.state = .fresh start) :
    perform h m (.begin k) = Machine.advance h m k t (start m.world) := by
  simp only [perform, Machine.begin, hk, hs]

theorem perform_resume {k : Nat} {t : Thread σ ν ε} {wait : Wait}
    {next : σ → Response ν ε → Course σ ν ε ν} (hk : m.threads[k]? = some t)
    (hs : t.state = .waiting wait next) (response : Response ν ε) :
    perform h m (.resume k wait response)
      = Machine.advance h m k t (next m.world response) := by
  simp only [perform, Machine.resume, hk, hs, if_true]

/-- The thread that has run has the state that its halt leaves it in. -/
theorem advance_self {k : Nat} {t : Thread σ ν ε} {course : Course σ ν ε ν}
    (hk : m.threads[k]? = some t) {t' : Thread σ ν ε}
    (ht' : (Machine.advance h m k t course).threads[k]? = some t') :
    Leaves m.threads.length m.groups.length (h.follow m.loading t.requester course) t'.state := by
  rcases advance_thread hk ht' with ⟨_, _, _, _, hself, _⟩ | ⟨hge, _⟩
  · exact hself rfl
  · have := (List.getElem?_eq_some_iff.mp hk).1
    omega

/-- Who is new will begin. -/
theorem begin_mem_of_adds {k j : Nat} {t t' : Thread σ ν ε} {course : Course σ ν ε ν}
    (hadd : Adds h m.threads.length m.groups.length t.requester
      (h.follow m.loading t.requester course) j t') :
    Handle.begin j ∈ (Machine.advance h m k t course).queue := by
  unfold Machine.advance
  cases hf : h.follow m.loading t.requester course with
  | start w call next =>
      rw [hf] at hadd
      obtain ⟨rfl, _⟩ := hadd
      exact List.mem_append_right _ (by simp)
  | group w config paths next =>
      rw [hf] at hadd
      obtain ⟨i, path, rfl, hpath, _⟩ := hadd
      have hi : i < paths.length := (List.getElem?_eq_some_iff.mp hpath).1
      refine List.mem_append_right _ (List.mem_map.mpr ⟨i, ?_, rfl⟩)
      simpa using hi
  | pause w next => rw [hf] at hadd; exact hadd.elim
  | join w call a next => rw [hf] at hadd; exact hadd.elim
  | standIn w left c p next => rw [hf] at hadd; exact hadd.elim
  | done w r => rw [hf] at hadd; exact hadd.elim

/-- Who has let others run goes on by himself. -/
theorem resume_mem_of_leaves {k : Nat} {t : Thread σ ν ε} {course : Course σ ν ε ν}
    {next : σ → Response ν ε → Course σ ν ε ν}
    (hleaves : Leaves m.threads.length m.groups.length (h.follow m.loading t.requester course)
      (.waiting .turn next)) :
    Handle.resume k .turn (.ok none) ∈ (Machine.advance h m k t course).queue := by
  unfold Machine.advance
  cases hf : h.follow m.loading t.requester course with
  | pause w next' => exact List.mem_append_right _ List.mem_cons_self
  | join w call a next' => rw [hf] at hleaves; injection hleaves with hwait; cases hwait
  | start w call next' => rw [hf] at hleaves; injection hleaves with hwait; cases hwait
  | standIn w left c p next' => rw [hf] at hleaves; cases hleaves
  | group w c paths next' => rw [hf] at hleaves; injection hleaves with hwait; cases hwait
  | done w r => rw [hf] at hleaves; exact absurd hleaves (ThreadState.not_isEnded_waiting _ _)

/-- Who waits for a group has asked for it. -/
theorem group_of_leaves {n g g' : Nat} {halt : Halt σ ν ε}
    {next : σ → Response ν ε → Course σ ν ε ν} (hleaves : Leaves n g halt (.waiting (.group g') next)) :
    g' = g ∧ ∃ w config paths, halt = .group w config paths next := by
  cases halt with
  | group w c paths next' =>
      injection hleaves with hwait hnext
      injection hwait with hwait
      subst hnext
      exact ⟨hwait, w, c, paths, rfl⟩
  | pause w next' => injection hleaves with hwait; cases hwait
  | join w call a next' => injection hleaves with hwait; cases hwait
  | start w call next' => injection hleaves with hwait; cases hwait
  | standIn w left c p next' => cases hleaves
  | done w r => exact absurd hleaves (ThreadState.not_isEnded_waiting _ _)

/-- A load of a group that ends is counted. -/
theorem count_mem_of_done {k g : Nat} {t : Thread σ ν ε} {course : Course σ ν ε ν}
    (hrole : t.role = .member g) {w : σ} {r : Except ε ν}
    (hf : h.follow m.loading t.requester course = .done w r) :
    Handle.count g k (r.map some) ∈ (Machine.advance h m k t course).queue := by
  unfold Machine.advance
  rw [hf, hrole]
  exact List.mem_append_right _ List.mem_cons_self

/-! ## Groups -/

/-- **What counting does.** The group loses the thread. It goes on from the first failure, or when
nobody is left. -/
theorem settleGroup_cases {g k : Nat} {G : Group}
    (hG : m.groups[g]? = some G) (response : Response ν ε) :
    ∃ settled sent, (settleGroup m g k response).groups = m.groups.set g { G with
          left := G.left.filter (· ≠ k)
          isSettled := settled }
      ∧ (settleGroup m g k response).queue = m.queue ++ sent
      ∧ ((settled = G.isSettled ∧ sent = []
          ∧ (settled = false → (∃ v, response = .ok v) ∧ G.left.filter (· ≠ k) ≠ []))
        ∨ (G.isSettled = false ∧ settled = true ∧ ∃ r, sent = [.resume G.asker (.group g) r]
          ∧ ((∃ e, response = .error e ∧ r = .error e)
            ∨ ((∃ v, response = .ok v) ∧ G.left.filter (· ≠ k) = [] ∧ r = .ok none)))) := by
  simp only [settleGroup, hG]
  cases hs : G.isSettled with
  | true => exact ⟨true, [], by simp, by simp, .inl ⟨rfl, rfl, by simp⟩⟩
  | false =>
      cases response with
      | error e =>
          exact ⟨true, _, by simp [push], by simp [push],
            .inr ⟨rfl, rfl, .error e, rfl, .inl ⟨e, rfl, rfl⟩⟩⟩
      | ok v =>
          cases hleft : (G.left.filter (· ≠ k)).isEmpty with
          | true =>
              exact ⟨true, _, by simp [push], by simp [push],
                .inr ⟨rfl, rfl, .ok none, rfl, .inr ⟨⟨v, rfl⟩, List.isEmpty_iff.mp hleft, rfl⟩⟩⟩
          | false =>
              refine ⟨false, [], by simp, by simp, .inl ⟨rfl, rfl, fun _ => ⟨⟨v, rfl⟩, ?_⟩⟩⟩
              intro hnil
              rw [hnil] at hleft
              cases hleft

/-- The group goes on if the thread has failed or nobody is left, unless it did so before. -/
theorem settleGroup_spec {g k : Nat} {G : Group} (hG : m.groups[g]? = some G)
    (response : Response ν ε) :
    ∃ settled, (settleGroup m g k response).groups
        = m.groups.set g { G with
            left := G.left.filter (· ≠ k)
            isSettled := settled }
      ∧ ((settled = G.isSettled ∧ (settled = false → G.left.filter (· ≠ k) ≠ []))
        ∨ (settled = true
          ∧ ∃ r, Handle.resume G.asker (.group g) r ∈ (settleGroup m g k response).queue)) := by
  obtain ⟨settled, sent, hgroups, hqueue, ⟨hsame, -, hopen⟩ | ⟨-, hsettled, r, rfl, -⟩⟩ :=
    settleGroup_cases (k := k) hG response
  · exact ⟨settled, hgroups, .inl ⟨hsame, fun h => (hopen h).2⟩⟩
  · exact ⟨settled, hgroups, .inr ⟨hsettled, r, by simp [hqueue]⟩⟩

/-- The loads of a new group are about to begin. -/
theorem advance_left (hl : h.standIn = none) {k : Nat} {t : Thread σ ν ε} {course : Course σ ν ε ν}
    (hk : m.threads[k]? = some t) {g : Nat} {G' : Group}
    (hG' : (Machine.advance h m k t course).groups[g]? = some G') :
    m.groups[g]? = some G'
    ∨ (G'.left ≠ [] ∧ ∀ j ∈ G'.left, ∃ t' : Thread σ ν ε,
        (Machine.advance h m k t course).threads[j]? = some t' ∧ t'.role = .member g
          ∧ ∃ start, t'.state = .fresh start) := by
  have hspec := h.follow_spec hl m.loading t.requester course
  rcases advance_groups (h := h) k t course with he | ⟨w, config, paths, next, hf, he⟩
  · rw [he] at hG'
    exact Or.inl hG'
  · rw [he] at hG'
    rcases getElem?_append_singleton hG' with hG | ⟨rfl, rfl⟩
    · exact Or.inl hG
    · right
      rw [hf] at hspec
      refine ⟨?_, ?_⟩
      · intro hnil
        exact hspec (List.length_eq_zero_iff.mp (by simpa using congrArg List.length hnil))
      · intro j hj
        obtain ⟨i, hi, rfl⟩ := List.mem_map.mp hj
        have hlen : i < paths.length := List.mem_range.mp hi
        have hthread : m.threads.length + i
            < (Machine.advance h m k t course).threads.length := by
          unfold Machine.advance
          rw [hf]
          simpa [halt, spawnGroup, spawnAll, setState, onThread] using hlen
        rcases advance_thread hk (List.getElem?_eq_getElem hthread) with ⟨_, h0, _⟩ | ⟨_, hadd, _⟩
        · have := (List.getElem?_eq_some_iff.mp h0).1
          omega
        · rw [hf] at hadd
          obtain ⟨_, _, _, _, hrole, _, hs⟩ := hadd
          exact ⟨_, List.getElem?_eq_getElem hthread, hrole, _, hs⟩

/-- **What can come of the loads of a group.** They are those of before; or one of them has been
counted; or the group is new and they are about to begin. -/
theorem Happens.left (hl : h.standIn = none) (hm : Happens h P m m') {g : Nat} {G' : Group}
    (hG' : m'.groups[g]? = some G') :
    m.groups[g]? = some G'
    ∨ (∃ G k, m.groups[g]? = some G ∧ G'.left = G.left.filter (· ≠ k)
        ∧ ((G'.isSettled = G.isSettled ∧ (G'.isSettled = false → G'.left ≠ []))
          ∨ G'.isSettled = true))
    ∨ (G'.left ≠ [] ∧ ∀ j ∈ G'.left, ∃ t' : Thread σ ν ε, m'.threads[j]? = some t'
        ∧ t'.role = .member g ∧ ∃ start, t'.state = .fresh start) := by
  cases hm with
  | change f hP => exact Or.inl hG'
  | write f hP => exact Or.inl hG'
  | spawn requester start hP => exact Or.inl hG'
  | spoil e hP hk hs hr => exact Or.inl hG'
  | cancel e hP hk hs => exact Or.inl hG'
  | skip hq => exact Or.inl hG'
  | settle hq hm => exact Or.inl hG'
  | @count q group k response hq hm =>
      cases hfound : m.groups[group]? with
      | none =>
          simp only [settleGroup, hfound] at hG'
          exact Or.inl hG'
      | some G =>
          obtain ⟨settled, hgroups, hcase⟩ :=
            settleGroup_spec (m := { m with queue := q }) hfound response
          rw [hgroups] at hG'
          by_cases hgg : group = g
          · subst hgg
            rw [List.getElem?_set_self (List.getElem?_eq_some_iff.mp hfound).1] at hG'
            injection hG' with hG'
            subst hG'
            exact Or.inr (Or.inl ⟨G, k, hfound, rfl, hcase.imp id And.left⟩)
          · rw [List.getElem?_set_ne hgg] at hG'
            exact Or.inl hG'
  | @advance q k t course hq hk hc =>
      exact (advance_left (m := { m with queue := q }) hl hk hG').imp id Or.inr

/-- A group keeps who has asked for it, and when it is settled its response is sent out. -/
theorem Happens.asker (hm : Happens h P m m') {g : Nat} {G : Group}
    (hG : m.groups[g]? = some G) :
    ∃ G', m'.groups[g]? = some G' ∧ G'.asker = G.asker
      ∧ (G'.isSettled = true →
        G.isSettled = true ∨ ∃ r, Handle.resume G.asker (.group g) r ∈ m'.queue) := by
  have hsame : m'.groups[g]? = some G → ∃ G', m'.groups[g]? = some G' ∧ G'.asker = G.asker
      ∧ (G'.isSettled = true →
        G.isSettled = true ∨ ∃ r, Handle.resume G.asker (.group g) r ∈ m'.queue) :=
    fun he => ⟨G, he, rfl, Or.inl⟩
  have hlt : g < m.groups.length := (List.getElem?_eq_some_iff.mp hG).1
  cases hm with
  | change f hP => exact hsame hG
  | write f hP => exact hsame hG
  | spawn requester start hP => exact hsame hG
  | spoil e hP hk hs hr => exact hsame hG
  | cancel e hP hk hs => exact hsame hG
  | skip hq => exact hsame hG
  | settle hq hm => exact hsame hG
  | @count q group thread response hq hmem =>
      cases hfound : m.groups[group]? with
      | none =>
          refine hsame ?_
          simp only [settleGroup, hfound]
          exact hG
      | some G₀ =>
          obtain ⟨settled, hgroups, hcase⟩ :=
            settleGroup_spec (m := { m with queue := q }) hfound response
          rw [hgroups]
          by_cases hgg : group = g
          · subst hgg
            rw [hG] at hfound
            injection hfound with hfound
            subst hfound
            refine ⟨_, List.getElem?_set_self hlt, rfl, fun hset => ?_⟩
            rcases hcase with ⟨he, _⟩ | ⟨_, hr⟩
            · exact Or.inl (he ▸ hset)
            · exact Or.inr hr
          · refine ⟨G, ?_, rfl, Or.inl⟩
            rw [List.getElem?_set_ne hgg]
            exact hG
  | @advance q k t course hq hk hc =>
      rcases advance_groups (h := h) (m := { m with queue := q }) k t course with
        he | ⟨_, _, _, _, _, he⟩
      · exact hsame (by rw [he]; exact hG)
      · refine hsame ?_
        rw [he, List.getElem?_append_left hlt]
        exact hG

/-! ## The invariant -/

/-- The invariant of the threads that have not ended. -/
structure AwakeInv (m : Machine σ ν ε) : Prop where
  /-- Who has yet to begin will do so. -/
  fresh : ∀ {k : Nat} {t : Thread σ ν ε} {start}, m.threads[k]? = some t →
    t.state = .fresh start → Handle.begin k ∈ m.queue
  /-- Who has let others run goes on. -/
  turn : ∀ {k : Nat} {t : Thread σ ν ε} {next}, m.threads[k]? = some t →
    t.state = .waiting .turn next → ∃ r, Handle.resume k .turn r ∈ m.queue
  /-- Who waits for a group has asked for it, and goes on when it is settled. -/
  asker : ∀ {k g : Nat} {t : Thread σ ν ε} {next}, m.threads[k]? = some t →
    t.state = .waiting (.group g) next → ∃ G, m.groups[g]? = some G ∧ G.asker = k
      ∧ (G.isSettled = true → ∃ r, Handle.resume k (.group g) r ∈ m.queue)
  /-- A load that has not been counted works on, or its count is on the way. -/
  left : ∀ {g : Nat} {G : Group} {j}, m.groups[g]? = some G → j ∈ G.left →
    ∃ t : Thread σ ν ε, m.threads[j]? = some t ∧ t.role = .member g
      ∧ (t.state.IsEnded → ∃ r, Handle.count g j r ∈ m.queue)
  /-- As long as a group does not go on, a load of it has not been counted. -/
  nonempty : ∀ {g : Nat} {G : Group}, m.groups[g]? = some G → G.isSettled = false → G.left ≠ []

theorem awakeInv_atRest (world : σ) (registries : List (Registry ν)) :
    AwakeInv (atRest world registries : Machine σ ν ε) where
  fresh := by intro k t start hk; simp [atRest] at hk
  turn := by intro k t next hk; simp [atRest] at hk
  asker := by intro k g t next hk; simp [atRest] at hk
  left := by intro g G j hG; simp [atRest] at hG
  nonempty := by intro g G hG; simp [atRest] at hG

section Step

variable (hl : h.standIn = none) (hI : AwakeInv m) (hg : Goes h P m m')

include hl hI hg

/-- Who has yet to begin stays in the queue until he does. -/
theorem fresh_step {k : Nat} {t' : Thread σ ν ε} {start : σ → Course σ ν ε ν}
    (hk' : m'.threads[k]? = some t') (hs' : t'.state = .fresh start) :
    Handle.begin k ∈ m'.queue := by
  have hstay : ∀ {k : Nat} {t t' : Thread σ ν ε} {start start' : σ → Course σ ν ε ν},
      m.threads[k]? = some t → t.state = .fresh start → m'.threads[k]? = some t' →
      t'.state = .fresh start' → Handle.begin k ∈ m'.queue := by
    intro k t t' start start' hk hs hk' hs'
    rcases hg.queue hl (hI.fresh hk hs) with hq | ⟨q, _, rfl⟩
    · exact hq
    · rw [perform_begin (m := { m with queue := q }) hk hs] at hk'
      exact absurd hs' ((advance_self (m := { m with queue := q }) hk hk').ne_fresh _)
  refine (hg.happens hl).threads
    (S := fun k t' => m'.threads[k]? = some t' → t'.state = .fresh start →
      Handle.begin k ∈ m'.queue) ?_ ?_ ?_ ?_ ?_ hk' hk' hs'
  · intro j t t' hj hj' _ _ hs _ hs'
    exact hstay hj (hs.symm.trans hs') hj' hs'
  · intro requester start' _ he _ _
    rw [he]
    exact List.mem_append_right _ (by simp)
  · intro j t t' start₀ e _ hj ht _ _ _ hs hj' _
    exact hstay hj ht hj' hs
  · intro q j t t' course _ _ _ _ _ _ hleaves _ hs'
    exact absurd hs' (hleaves.ne_fresh _)
  · intro q i j t t' course _ _ he hadd _ _
    rw [he]
    exact begin_mem_of_adds hadd

/-- Who has let others run has his response in the queue until he goes on. -/
theorem turn_step {k : Nat} {t' : Thread σ ν ε} {next : σ → Response ν ε → Course σ ν ε ν}
    (hk' : m'.threads[k]? = some t') (hs' : t'.state = .waiting .turn next) :
    ∃ r, Handle.resume k .turn r ∈ m'.queue := by
  refine (hg.happens hl).threads
    (S := fun k t' => m'.threads[k]? = some t' → t'.state = .waiting .turn next →
      ∃ r, Handle.resume k .turn r ∈ m'.queue) ?_ ?_ ?_ ?_ ?_ hk' hk' hs'
  · intro j t t' hj hj' _ _ hs _ hs'
    obtain ⟨r, hr⟩ := hI.turn hj (hs.symm.trans hs')
    rcases hg.queue hl hr with hq | ⟨q, _, rfl⟩
    · exact ⟨r, hq⟩
    · -- the thread has gone on, and has let others run once more
      rw [perform_resume (m := { m with queue := q }) hj (hs.symm.trans hs')] at hj' ⊢
      have hleaves := advance_self (m := { m with queue := q }) hj hj'
      rw [hs'] at hleaves
      exact ⟨_, resume_mem_of_leaves hleaves⟩
  · intro requester start _ _ _ hs'
    cases hs'
  · intro j t t' start e _ _ _ _ _ _ hs _ hs'
    rw [hs] at hs'
    cases hs'
  · intro q j t t' course _ _ he _ _ _ hleaves _ hs'
    rw [hs'] at hleaves
    rw [he]
    exact ⟨_, resume_mem_of_leaves (m := { m with queue := q }) hleaves⟩
  · intro q i j t t' course _ _ _ hadd _ hs'
    obtain ⟨start, hfresh⟩ := fresh_of_adds hadd
    rw [hfresh] at hs'
    cases hs'

/-- Who waits for a group goes on when it is settled. -/
theorem asker_step {k g : Nat} {t' : Thread σ ν ε} {next : σ → Response ν ε → Course σ ν ε ν}
    (hk' : m'.threads[k]? = some t') (hs' : t'.state = .waiting (.group g) next) :
    ∃ G, m'.groups[g]? = some G ∧ G.asker = k
      ∧ (G.isSettled = true → ∃ r, Handle.resume k (.group g) r ∈ m'.queue) := by
  refine (hg.happens hl).threads
    (S := fun k t' => m'.threads[k]? = some t' → t'.state = .waiting (.group g) next →
      ∃ G, m'.groups[g]? = some G ∧ G.asker = k
        ∧ (G.isSettled = true → ∃ r, Handle.resume k (.group g) r ∈ m'.queue))
    ?_ ?_ ?_ ?_ ?_ hk' hk' hs'
  · intro j t t' hj hj' _ _ hs _ hs'
    obtain ⟨G, hG, hasker, hsettled⟩ := hI.asker hj (hs.symm.trans hs')
    obtain ⟨G', hG', hasker', hcase⟩ := (hg.happens hl).asker hG
    refine ⟨G', hG', hasker'.trans hasker, fun hset => ?_⟩
    rcases hcase hset with hold | ⟨r, hr⟩
    · obtain ⟨r, hr⟩ := hsettled hold
      rcases hg.queue hl hr with hq | ⟨q, _, rfl⟩
      · exact ⟨r, hq⟩
      · -- the thread has gone on, and any group that it waits for now is a new one
        exfalso
        rw [perform_resume (m := { m with queue := q }) hj (hs.symm.trans hs')] at hj'
        have hleaves := advance_self (m := { m with queue := q }) hj hj'
        rw [hs'] at hleaves
        have hnew : g = m.groups.length := (group_of_leaves hleaves).1
        have := (List.getElem?_eq_some_iff.mp hG).1
        omega
    · exact ⟨r, hasker ▸ hr⟩
  · intro requester start _ _ _ hs'
    cases hs'
  · intro j t t' start e _ _ _ _ _ _ hs _ hs'
    rw [hs] at hs'
    cases hs'
  · intro q j t t' course _ _ he _ _ _ hleaves _ hs'
    rw [hs'] at hleaves
    obtain ⟨rfl, w, config, paths, hf⟩ := group_of_leaves hleaves
    refine ⟨{ asker := j, config, paths
              left := (List.range paths.length).map (m.threads.length + ·) }, ?_, rfl,
      by simp⟩
    rw [he, advance_group (m := { m with queue := q }) hf,
      List.getElem?_append_right (Nat.le_refl _), Nat.sub_self]
    rfl
  · intro q i j t t' course _ _ _ hadd _ hs'
    obtain ⟨start, hfresh⟩ := fresh_of_adds hadd
    rw [hfresh] at hs'
    cases hs'

omit hI in
/-- Who has not been counted works on, or has just ended. -/
theorem working_step {g j : Nat} {t : Thread σ ν ε} (hj : m.threads[j]? = some t)
    (hrole : t.role = .member g) (hcount : t.state.IsEnded → ∃ r, Handle.count g j r ∈ m.queue) :
    (∃ t' : Thread σ ν ε, m'.threads[j]? = some t' ∧ t'.role = .member g
      ∧ (t'.state.IsEnded → ∃ r, Handle.count g j r ∈ m'.queue))
    ∨ ∃ q r, m' = settleGroup { m with queue := q } g j r := by
  have hm := hg.happens hl
  by_cases he : t.state.IsEnded
  · obtain ⟨r, hr⟩ := hcount he
    rcases hg.queue hl hr with hq | ⟨q, _, hperform⟩
    · obtain ⟨t', ht', hr', _⟩ := hm.old hj
      exact Or.inl ⟨t', ht', hr'.trans hrole, fun _ => ⟨r, hq⟩⟩
    · exact Or.inr ⟨q, r, hperform⟩
  · left
    rcases hm.cases with hc | ⟨f, _, rfl⟩ | ⟨q, i, t₀, course, _, hi, hcourse, rfl⟩
    · obtain ⟨t', ht', hrest⟩ := hc.old hj
      exact ⟨t', ht', hrest.role.trans hrole, fun he' => absurd (hrest.isEnded_iff.mp he') he⟩
    · exact ⟨t, hj, hrole, fun he' => absurd he' he⟩
    · obtain ⟨t', ht', hr, _, hstate⟩ :=
        advance_old (h := h) (m := { m with queue := q }) course hi hj
      refine ⟨t', ht', hr.trans hrole, fun he' => ?_⟩
      by_cases hji : j = i
      · subst hji
        rw [hj] at hi
        injection hi with hi
        subst hi
        obtain ⟨w, r, hf⟩ := follow_eq_done (m := { m with queue := q }) hl hj ht' he'
        exact ⟨_, count_mem_of_done (m := { m with queue := q }) hrole hf⟩
      · rw [hstate hji] at he'
        exact absurd he' he

/-- A load that has not been counted works on, or its count is on the way. -/
theorem left_step {g j : Nat} {G' : Group} (hG' : m'.groups[g]? = some G') (hj : j ∈ G'.left) :
    ∃ t' : Thread σ ν ε, m'.threads[j]? = some t' ∧ t'.role = .member g
      ∧ (t'.state.IsEnded → ∃ r, Handle.count g j r ∈ m'.queue) := by
  -- a group that was there has the same loads left, or fewer
  have hold : ∀ {G : Group}, m.groups[g]? = some G → j ∈ G.left →
      (∀ q r, m' = settleGroup { m with queue := q } g j r → j ∉ G'.left) →
      ∃ t' : Thread σ ν ε, m'.threads[j]? = some t' ∧ t'.role = .member g
        ∧ (t'.state.IsEnded → ∃ r, Handle.count g j r ∈ m'.queue) := by
    intro G hG hleft hnot
    obtain ⟨t, ht, hrole, hcount⟩ := hI.left hG hleft
    rcases working_step hl hg ht hrole hcount with hok | ⟨q, r, he⟩
    · exact hok
    · exact absurd hj (hnot q r he)
  have hgone : ∀ {G : Group}, m.groups[g]? = some G →
      ∀ q r, m' = settleGroup { m with queue := q } g j r → j ∉ G'.left := by
    intro G hG q r he hmem
    obtain ⟨settled, hgroups, _⟩ := settleGroup_spec (m := { m with queue := q }) (k := j) hG r
    rw [he, hgroups, List.getElem?_set_self (List.getElem?_eq_some_iff.mp hG).1] at hG'
    injection hG' with hG'
    subst hG'
    simp at hmem
  rcases (hg.happens hl).left hl hG' with hG | ⟨G, k, hG, hleft, _⟩ | ⟨_, hnew⟩
  · exact hold hG hj (hgone hG)
  · rw [hleft] at hj
    exact hold hG (List.mem_filter.mp hj).1 (hgone hG)
  · obtain ⟨t', ht', hrole, start, hs⟩ := hnew j hj
    exact ⟨t', ht', hrole, fun he => absurd (hs ▸ he) (ThreadState.not_isEnded_fresh start)⟩

/-- As long as a group does not go on, a load of it has not been counted. -/
theorem nonempty_step {g : Nat} {G' : Group} (hG' : m'.groups[g]? = some G')
    (hopen : G'.isSettled = false) : G'.left ≠ [] := by
  rcases (hg.happens hl).left hl hG' with hG | ⟨G, k, hG, _, ⟨_, hleft⟩ | hset⟩ | ⟨hne, _⟩
  · exact hI.nonempty hG hopen
  · exact hleft hopen
  · rw [hset] at hopen
    cases hopen
  · exact hne

/-- **Every move keeps the invariant of the threads that have not ended.** -/
theorem awakeInv_step : AwakeInv m' where
  fresh hk hs := fresh_step hl hI hg hk hs
  turn hk hs := turn_step hl hI hg hk hs
  asker hk hs := asker_step hl hI hg hk hs
  left hG hj := left_step hl hI hg hG hj
  nonempty hG ho := nonempty_step hl hI hg hG ho

end Step

theorem awakeInv_reaches (hl : h.standIn = none) {world : σ} {registries : List (Registry ν)}
    (hr : ReachesBy h P (atRest world registries) m) : AwakeInv m := by
  induction hr with
  | refl => exact awakeInv_atRest world registries
  | tail _ hg ih => exact awakeInv_step hl ih hg

/-! ## The queue is empty -/

/-- What a thread can still wait for when nothing is ready to go on. -/
inductive Stuck (m : Machine σ ν ε) (k : Nat) : Prop
  /-- It waits for an attempt that runs. -/
  | attempt {a : Nat} {call : LoadCall} {c : ConfigId} (ho : m.Outstanding k a call)
      (hrun : m.Running a c call.path)
  /-- It waits for a group with a load that goes on. -/
  | group {g j : Nat} {t t' : Thread σ ν ε} {next : σ → Response ν ε → Course σ ν ε ν}
      (hk : m.threads[k]? = some t) (hs : t.state = .waiting (.group g) next)
      (hj : m.threads[j]? = some t') (hrole : t'.role = .member g) (hne : ¬ t'.state.IsEnded)

/-- **When nothing is ready to go on, a thread has ended, or it waits for one that has not.** -/
theorem AwakeInv.ended_or_stuck (hA : AwakeInv m) (hC : CallInv m) (hO : OutcomeInv m)
    (hq : m.queue = []) {k : Nat} {t : Thread σ ν ε} (hk : m.threads[k]? = some t)
    (hnot : ∀ left c p next, t.state ≠ .asking left c p next) :
    t.state.IsEnded ∨ m.Stuck k := by
  cases hs : t.state with
  | ended r => exact Or.inl ⟨r, rfl⟩
  | asking left c p next => exact absurd hs (hnot left c p next)
  | fresh start =>
      have hmem := hA.fresh hk hs
      rw [hq] at hmem
      cases hmem
  | waiting wait next =>
      right
      cases wait with
      | turn =>
          obtain ⟨r, hmem⟩ := hA.turn hk hs
          rw [hq] at hmem
          cases hmem
      | attempt a call =>
          have ho : m.Outstanding k a call := ⟨t, next, hk, hs⟩
          rcases hC.running_or_result? ho with ⟨c, hrun⟩ | ⟨r, hres⟩
          · exact .attempt ho hrun
          · rcases hO.told ho hres with hmem | ⟨response, hmem⟩
            · rw [hq] at hmem
              cases hmem
            · rw [hq] at hmem
              cases hmem
      | group g =>
          obtain ⟨G, hG, _, hsettled⟩ := hA.asker hk hs
          cases hset : G.isSettled with
          | true =>
              obtain ⟨r, hmem⟩ := hsettled hset
              rw [hq] at hmem
              cases hmem
          | false =>
              obtain ⟨j, hj⟩ := List.exists_mem_of_ne_nil _ (hA.nonempty hG hset)
              obtain ⟨t', ht', hrole, hcount⟩ := hA.left hG hj
              refine .group hk hs ht' hrole fun he => ?_
              obtain ⟨r, hmem⟩ := hcount he
              rw [hq] at hmem
              cases hmem

end SourceLoader.Machine
