import SourceLoader.Proofs.Advance

/-!
# Moves in which no thread runs

A move is calm, or a thread runs, or somebody writes the registries from outside. A calm move keeps
the tables, and the threads all but stay as they are. Whatever the move, threads keep their role,
who has ended stays so, and a group keeps what it was asked for.
-/

namespace SourceLoader.Machine

variable {σ ν ε : Type} {h : Host σ ν ε} {P : Move σ ν ε → Prop} {m m' : Machine σ ν ε}

/-! ## Calm moves -/

/-- A thread after a move in which it does not run. -/
structure Rests (t t' : Thread σ ν ε) : Prop where
  role : t'.role = t.role
  requester : t'.requester = t.requester
  waiters : t'.waiters = t.waiters
  /-- At most it has not begun and will only fail. -/
  state : t'.state = t.state ∨ ∃ s e, t.state = .fresh s
    ∧ t'.state = .fresh (fun w => .done w (.error e)) ∧ ∀ c p, t.role ≠ .attempt c p

theorem Rests.refl (t : Thread σ ν ε) : Rests t t := ⟨rfl, rfl, rfl, Or.inl rfl⟩

theorem Rests.isEnded_iff {t t' : Thread σ ν ε} (hr : Rests t t') :
    t'.state.IsEnded ↔ t.state.IsEnded := by
  rcases hr.state with hs | ⟨s, e, hs, hs', _⟩
  · rw [hs]
  · rw [hs, hs']; simp

/-- A move in which no thread runs. -/
structure Calm (m m' : Machine σ ν ε) : Prop where
  loading : m'.loading = m.loading
  /-- No thread goes away. -/
  old : ∀ {j : Nat} {t : Thread σ ν ε}, m.threads[j]? = some t →
    ∃ t' : Thread σ ν ε, m'.threads[j]? = some t' ∧ Rests t t'
  /-- New threads are those of the host. -/
  new : ∀ {j : Nat} {t' : Thread σ ν ε}, m'.threads[j]? = some t' →
    (∃ t : Thread σ ν ε, m.threads[j]? = some t ∧ Rests t t')
    ∨ (m.threads.length ≤ j ∧ t'.role = .hostCall ∧ t'.waiters = [] ∧ ∃ s, t'.state = .fresh s)

theorem Calm.of_threads (hl : m'.loading = m.loading) (ht : m'.threads = m.threads) :
    Calm m m' where
  loading := hl
  old := fun {j t} hj => ⟨t, by rw [ht]; exact hj, Rests.refl t⟩
  new := fun {j t} hj => Or.inl ⟨t, by rw [← ht]; exact hj, Rests.refl t⟩

theorem settleGroup_threads (m : Machine σ ν ε) (group thread : Nat) (response : Response ν ε) :
    (settleGroup m group thread response).threads = m.threads
      ∧ (settleGroup m group thread response).loading = m.loading
      ∧ (settleGroup m group thread response).world = m.world := by
  unfold settleGroup
  split
  · exact ⟨rfl, rfl, rfl⟩
  · dsimp only
    split <;> exact ⟨rfl, rfl, rfl⟩

/-- A group that is counted may let its thread go on: with an error, or when nobody is left. -/
theorem settleGroup_queue {group thread : Nat} {response : Response ν ε} {handle : Handle ν ε}
    (hq : handle ∈ (settleGroup m group thread response).queue) :
    handle ∈ m.queue ∨ ∃ g r, m.groups[group]? = some g
      ∧ handle = .resume g.asker (.group group) r
      ∧ (∀ r', r = .ok r' → g.isSettled = false ∧ (∃ v, response = .ok v)
          ∧ g.left.filter (· ≠ thread) = [])
      ∧ ∀ e, r = .error e → response = .error e := by
  unfold settleGroup at hq
  split at hq
  · exact Or.inl hq
  · rename_i g hg
    dsimp only at hq
    cases hs : g.isSettled with
    | true => simp only [hs, if_true] at hq; exact Or.inl hq
    | false =>
        simp only [hs, Bool.false_eq_true, if_false] at hq
        cases response with
        | error e =>
            rcases List.mem_append.mp hq with hq | hq
            · exact Or.inl hq
            · exact Or.inr ⟨g, .error e, hg, List.mem_singleton.mp hq, by simp,
                fun e' he => by injection he with he; rw [he]⟩
        | ok v =>
            cases hleft : (g.left.filter (· ≠ thread)).isEmpty with
            | true =>
                simp only [hleft, if_true] at hq
                rcases List.mem_append.mp hq with hq | hq
                · exact Or.inl hq
                · exact Or.inr ⟨g, .ok none, hg, List.mem_singleton.mp hq,
                    fun _ _ => ⟨hs, ⟨v, rfl⟩, List.isEmpty_iff.mp hleft⟩, by simp⟩
            | false =>
                simp only [hleft, Bool.false_eq_true, if_false] at hq
                exact Or.inl hq

/-- **Either no thread runs, or one does, or the registries are written from outside.** -/
theorem Happens.cases (hm : Happens h P m m') : Calm m m'
    ∨ (∃ f, P (.write f) ∧ m' = m.writeRegistries f)
    ∨ ∃ q k t course, q ⊆ m.queue ∧ m.threads[k]? = some t ∧ TakesUp m k t course
      ∧ m' = Machine.advance h { m with queue := q } k t course := by
  cases hm with
  | change f hP => exact Or.inl (.of_threads rfl rfl)
  | cancel e hP hk hs => exact Or.inl (.of_threads rfl rfl)
  | skip hq => exact Or.inl (.of_threads rfl rfl)
  | settle hq hm => exact Or.inl (.of_threads rfl rfl)
  | count hq hm =>
      obtain ⟨h1, h2, _⟩ := settleGroup_threads ({ m with queue := _ } : Machine σ ν ε) _ _ _
      exact Or.inl (.of_threads h2 h1)
  | write f hP => exact Or.inr (Or.inl ⟨f, hP, rfl⟩)
  | spawn requester start hP =>
      refine Or.inl ⟨rfl, ?_, ?_⟩
      · intro j t hj
        refine ⟨t, ?_, Rests.refl t⟩
        rw [← hj]
        exact List.getElem?_append_left (List.getElem?_eq_some_iff.mp hj).1
      · intro j t' hj
        rcases getElem?_append_singleton hj with hj | ⟨rfl, rfl⟩
        · exact Or.inl ⟨t', hj, Rests.refl t'⟩
        · exact Or.inr ⟨Nat.le_refl _, rfl, rfl, start, rfl⟩
  | @spoil k t start e hP hk hs hr =>
      refine Or.inl ⟨rfl, ?_, ?_⟩
      · intro j t₀ hj
        refine ⟨_, getElem?_modify_eq_some.mpr ⟨t₀, hj, rfl⟩, ?_⟩
        split
        · rename_i hkj
          subst hkj
          rw [hk] at hj
          injection hj with hj
          subst hj
          exact ⟨rfl, rfl, rfl, Or.inr ⟨start, e, hs, rfl, hr⟩⟩
        · exact Rests.refl t₀
      · intro j t' hj
        obtain ⟨t₀, ht, rfl⟩ := getElem?_modify_eq_some.mp hj
        refine Or.inl ⟨t₀, ht, ?_⟩
        split
        · rename_i hkj
          subst hkj
          rw [hk] at ht
          injection ht with ht
          subst ht
          exact ⟨rfl, rfl, rfl, Or.inr ⟨start, e, hs, rfl, hr⟩⟩
        · exact Rests.refl t₀
  | advance hq hk hc => exact Or.inr (Or.inr ⟨_, _, _, _, hq, hk, hc, rfl⟩)

/-- Threads keep their role and the name they run in. -/
theorem Happens.old (hm : Happens h P m m') {j : Nat} {t : Thread σ ν ε}
    (hj : m.threads[j]? = some t) :
    ∃ t', m'.threads[j]? = some t' ∧ t'.role = t.role ∧ t'.requester = t.requester := by
  rcases hm.cases with hc | ⟨f, _, rfl⟩ | ⟨q, k, t₀, course, _, hk, _, rfl⟩
  · obtain ⟨t', ht', hrest⟩ := hc.old hj
    exact ⟨t', ht', hrest.role, hrest.requester⟩
  · exact ⟨t, hj, rfl, rfl⟩
  · obtain ⟨t', ht', hrole, hreq, _⟩ :=
      advance_old (h := h) (m := { m with queue := q }) course hk hj
    exact ⟨t', ht', hrole, hreq⟩

/-- Who has ended stays so. -/
theorem Happens.ended (hm : Happens h P m m') {j : Nat} {t : Thread σ ν ε}
    (hj : m.threads[j]? = some t) {r : Except ε ν} (he : t.state = .ended r) :
    ∃ t', m'.threads[j]? = some t' ∧ t'.role = t.role ∧ t'.state = .ended r := by
  rcases hm.cases with hc | ⟨f, _, rfl⟩ | ⟨q, k, t₀, course, _, hk, hcourse, rfl⟩
  · obtain ⟨t', ht', hrest⟩ := hc.old hj
    rcases hrest.state with hs | ⟨s, _, hs, _⟩
    · exact ⟨t', ht', hrest.role, hs.trans he⟩
    · rw [he] at hs
      cases hs
  · exact ⟨t, hj, rfl, he⟩
  · obtain ⟨t', ht', hrole, _, hstate⟩ :=
      advance_old (h := h) (m := { m with queue := q }) course hk hj
    refine ⟨t', ht', hrole, (hstate ?_).trans he⟩
    rintro rfl
    rw [hk] at hj
    injection hj with hj
    subst hj
    exact hcourse.not_isEnded ⟨r, he⟩

/-! ## The queue -/

/-- What a move of a kind can put into the queue. -/
inductive Queued (P : Move σ ν ε → Prop) (m m' : Machine σ ν ε) : Handle ν ε → Prop
  /-- A thread is new. -/
  | begin (k : Nat) : Queued P m m' (.begin k)
  /-- A thread has let others run. -/
  | turn (k : Nat) : Queued P m m' (.resume k .turn (.ok none))
  /-- A wait is given up. -/
  | cancel (k : Nat) (wait : Wait) (e : ε) (hP : P (.cancel k e)) :
      Queued P m m' (.resume k wait (.error e))
  /-- What was sent out arrives. -/
  | settle {k : Nat} {wait : Wait} {response : Response ν ε}
      (hs : Handle.settle k wait response ∈ m.queue) : Queued P m m' (.resume k wait response)
  /-- A group goes on: badly, or well as its last thread has been counted. -/
  | group {g k : Nat} {G : Group} {r response : Response ν ε}
      (hs : Handle.count g k response ∈ m.queue) (hG : m.groups[g]? = some G)
      (hok : ∀ r', r = .ok r' → G.isSettled = false ∧ (∃ v, response = .ok v)
        ∧ G.left.filter (· ≠ k) = [])
      (hbad : ∀ e, r = .error e → response = .error e) :
      Queued P m m' (.resume G.asker (.group g) r)
  /-- An attempt has ended, and those who wait for it are told. -/
  | ended {k : Nat} {t t' : Thread σ ν ε} {c : ConfigId} {p : String} {w : Nat × LoadCall}
      {r : Except ε ν} (hk : m.threads[k]? = some t) (hrole : t.role = .attempt c p)
      (hne : ¬ t.state.IsEnded) (hw : w ∈ t.waiters) (ht' : m'.threads[k]? = some t')
      (hs' : t'.state = .ended r) :
      Queued P m m' (.settle w.1 (.attempt k w.2) (r.map some))
  /-- A load of a group has ended. -/
  | counted {g k : Nat} {t' : Thread σ ν ε} {r : Except ε ν} (ht' : m'.threads[k]? = some t')
      (hs' : t'.state = .ended r) : Queued P m m' (.count g k (r.map some))

/-- **What is in the queue was there before, or the move has put it there.** -/
theorem Happens.queue (hl : h.standIn = none) (hm : Happens h P m m') {handle : Handle ν ε}
    (hq : handle ∈ m'.queue) : handle ∈ m.queue ∨ Queued P m m' handle := by
  cases hm with
  | change f hf => exact Or.inl hq
  | write f hf => exact Or.inl hq
  | spoil e hP hk hs hr => exact Or.inl hq
  | skip hsub => exact Or.inl (hsub hq)
  | spawn requester start hstart =>
      rcases List.mem_append.mp hq with hq | hq
      · exact Or.inl hq
      · obtain ⟨n, _, rfl⟩ := List.mem_map.mp hq
        exact Or.inr (.begin _)
  | cancel e hP hk hs =>
      rcases List.mem_append.mp hq with hq | hq
      · exact Or.inl hq
      · rw [List.mem_singleton.mp hq]
        exact Or.inr (.cancel _ _ e hP)
  | settle hsub hm =>
      rcases List.mem_append.mp hq with hq | hq
      · exact Or.inl (hsub hq)
      · rw [List.mem_singleton.mp hq]
        exact Or.inr (.settle hm)
  | count hsub hm =>
      rcases settleGroup_queue hq with hq | ⟨G, r, hG, rfl, hok, hbad⟩
      · exact Or.inl (hsub hq)
      · exact Or.inr (.group hm hG hok hbad)
  | @advance q k t course hsub hk hc =>
      rcases advance_queue (m := { m with queue := q }) hl hk hq with
        hq | ⟨n, rfl⟩ | rfl | ⟨r, hend, ⟨c, p, w, hrole, hw, rfl⟩ | ⟨g, _, rfl⟩⟩
      · exact Or.inl (hsub hq)
      · exact Or.inr (.begin n)
      · exact Or.inr (.turn k)
      · exact Or.inr (.ended hk hrole hc.not_isEnded hw hend rfl)
      · exact Or.inr (.counted hend rfl)

theorem queue_subset_advance (m : Machine σ ν ε) (k : Nat) (t : Thread σ ν ε)
    (course : Course σ ν ε ν) : m.queue ⊆ (Machine.advance h m k t course).queue := by
  unfold Machine.advance
  cases h.follow m.loading t.requester course with
  | pause w next => exact List.subset_append_left _ _
  | join w call a next => exact List.Subset.refl _
  | start w call next => exact List.subset_append_left _ _
  | standIn w left config path next => exact List.subset_append_left _ _
  | group w config paths next => exact List.subset_append_left _ _
  | done w r =>
      cases t.role with
      | attempt c p =>
          simp only [halt, endCourse, finish, push, onThread]
          exact List.subset_append_left _ _
      | member g => exact List.subset_append_left _ _
      | hostCall => exact List.Subset.refl _

theorem queue_subset_settleGroup (m : Machine σ ν ε) (group thread : Nat)
    (response : Response ν ε) : m.queue ⊆ (settleGroup m group thread response).queue := by
  unfold settleGroup
  split
  · exact List.Subset.refl _
  · dsimp only
    split
    · exact List.subset_append_left _ _
    · exact List.Subset.refl _

/-- What is carried out takes nothing else out of the queue. -/
theorem queue_subset_perform (hl : h.standIn = none) (m : Machine σ ν ε) (handle : Handle ν ε) :
    m.queue ⊆ (perform h m handle).queue := by
  cases handle with
  | begin k =>
      simp only [perform, Machine.begin]
      split
      · exact List.Subset.refl _
      · split
        · exact queue_subset_advance m _ _ _
        · exact List.Subset.refl _
  | resume k wait response =>
      simp only [perform, Machine.resume]
      split
      · exact List.Subset.refl _
      · split
        · split
          · exact queue_subset_advance m _ _ _
          · exact List.Subset.refl _
        · rw [hl]
          exact List.Subset.refl _
        · exact List.Subset.refl _
  | settle k wait response => exact List.subset_append_left _ _
  | count group thread response => exact queue_subset_settleGroup m group thread response

/-- **Nothing is lost from the queue.** An entry stays until it is carried out. -/
theorem Goes.queue (hg : Goes h P m m') (hl : h.standIn = none) {handle : Handle ν ε}
    (hq : handle ∈ m.queue) :
    handle ∈ m'.queue ∨ ∃ q, q ⊆ m.queue ∧ m' = perform h { m with queue := q } handle := by
  obtain ⟨e, _, hm⟩ := hg
  cases e with
  | turn place =>
      simp only [move, step, Option.map_eq_some_iff] at hm
      obtain ⟨taken, hplace, rfl⟩ := hm
      by_cases ht : handle = taken
      · subst ht
        exact Or.inr ⟨_, List.eraseIdx_subset, rfl⟩
      · left
        refine queue_subset_perform hl _ _ ?_
        obtain ⟨n, hn, hget⟩ := List.getElem_of_mem hq
        refine List.mem_eraseIdx_iff_getElem.mpr ⟨n, hn, ?_, hget⟩
        rintro rfl
        rw [List.getElem?_eq_getElem hn, hget] at hplace
        injection hplace with hplace
        exact ht hplace
  | call start =>
      injection hm with hm
      subst hm
      exact Or.inl (List.mem_append_left _ hq)
  | task k start =>
      simp only [move, Option.map_eq_some_iff] at hm
      obtain ⟨t, _, rfl⟩ := hm
      exact Or.inl (List.mem_append_left _ hq)
  | cancel k err =>
      simp only [move, Machine.cancel] at hm
      split at hm
      · cases hm
      · split at hm
        · injection hm with hm
          subst hm
          exact Or.inl (List.mem_append_left _ hq)
        · cases hm
        · injection hm with hm
          subst hm
          exact Or.inl hq
        · cases hm
  | change f =>
      injection hm with hm
      subst hm
      exact Or.inl hq
  | write f =>
      injection hm with hm
      subst hm
      exact Or.inl hq

/-! ## Threads -/

/-- **What holds of every thread.** After a move, a thread is in the state that it was in before;
or the host has added it; or it had not begun and will only fail; or it has run; or the thread that
has run has added it. -/
theorem Happens.threads {S : Nat → Thread σ ν ε → Prop} (hm : Happens h P m m')
    (hold : ∀ {j : Nat} {t t' : Thread σ ν ε}, m.threads[j]? = some t → m'.threads[j]? = some t' →
      t'.role = t.role → t'.requester = t.requester → t'.state = t.state → S j t')
    (hspawn : ∀ {requester : Option String} {start : σ → Course σ ν ε ν},
      (P (.call start) ∨ ∃ k, P (.task k start)) → m' = m.spawn .hostCall requester start →
      S m.threads.length { role := .hostCall, requester, state := .fresh start })
    (hspoil : ∀ {k : Nat} {t t' : Thread σ ν ε} {start : σ → Course σ ν ε ν} {e : ε},
      P (.cancel k e) → m.threads[k]? = some t → t.state = .fresh start →
      (∀ c p, t.role ≠ .attempt c p) → t'.role = t.role → t'.requester = t.requester →
      t'.state = .fresh (fun w => .done w (.error e)) → S k t')
    (hrun : ∀ {q : List (Handle ν ε)} {k : Nat} {t t' : Thread σ ν ε} {course : Course σ ν ε ν},
      m.threads[k]? = some t → TakesUp m k t course →
      m' = Machine.advance h { m with queue := q } k t course → m'.threads[k]? = some t' →
      t'.role = t.role → t'.requester = t.requester →
      Leaves m.threads.length m.groups.length (h.follow m.loading t.requester course) t'.state →
      S k t')
    (hadd : ∀ {q : List (Handle ν ε)} {k j : Nat} {t t' : Thread σ ν ε} {course : Course σ ν ε ν},
      m.threads[k]? = some t → TakesUp m k t course →
      m' = Machine.advance h { m with queue := q } k t course →
      Adds h m.threads.length m.groups.length t.requester
        (h.follow m.loading t.requester course) j t' → S j t')
    {j : Nat} {t' : Thread σ ν ε} (hj : m'.threads[j]? = some t') : S j t' := by
  have hsame : m'.threads = m.threads → S j t' := by
    intro he
    exact hold (by rw [← he]; exact hj) hj rfl rfl rfl
  cases hm with
  | change f hP => exact hsame rfl
  | write f hP => exact hsame rfl
  | cancel e hP hk hs => exact hsame rfl
  | skip hq => exact hsame rfl
  | settle hq hm => exact hsame rfl
  | @count q group thread response hq hm =>
      exact hsame (settleGroup_threads { m with queue := q } group thread response).1
  | spawn requester start hP =>
      rcases getElem?_append_singleton hj with hj' | ⟨rfl, rfl⟩
      · exact hold hj' hj rfl rfl rfl
      · exact hspawn hP rfl
  | @spoil k t start e hP hk hs hr =>
      obtain ⟨t₀, h0, rfl⟩ := getElem?_modify_eq_some.mp hj
      by_cases hkj : k = j
      · subst hkj
        rw [hk] at h0
        injection h0 with h0
        subst h0
        rw [if_pos rfl]
        exact hspoil hP hk hs hr rfl rfl rfl
      · rw [if_neg hkj] at hj ⊢
        exact hold h0 hj rfl rfl rfl
  | @advance q k t course hq hk hc =>
      rcases advance_thread (m := { m with queue := q }) hk hj with
        ⟨t₀, h0, hrole, hreq, hself, hother, _⟩ | ⟨_, hnew, _⟩
      · by_cases hjk : j = k
        · subst hjk
          rw [hk] at h0
          injection h0 with h0
          subst h0
          exact hrun hk hc rfl hj hrole hreq (hself rfl)
        · exact hold h0 hj hrole hreq (hother hjk)
      · exact hadd hk hc rfl hnew

/-! ## Groups -/

/-- A group keeps what it was asked for. A group that is counted and goes on has lost nobody but
the thread that was counted, which ended well. -/
theorem settleGroup_groups {group thread g : Nat} {response : Response ν ε} {G' : Group}
    (hG : (settleGroup m group thread response).groups[g]? = some G') :
    ∃ G, m.groups[g]? = some G ∧ G'.config = G.config ∧ G'.paths = G.paths
      ∧ (G' = G ∨ (g = group ∧ G'.left = G.left.filter (· ≠ thread)
        ∧ (G'.isSettled = false → G.isSettled = false ∧ ∃ v, response = .ok v))) := by
  unfold settleGroup at hG
  split at hG
  · exact ⟨G', hG, rfl, rfl, Or.inl rfl⟩
  · rename_i G hfound
    dsimp only at hG
    have hset : ∀ settled : Bool,
        (m.groups.set group { G with
            left := G.left.filter (· ≠ thread)
            isSettled := settled })[g]? = some G' →
        (settled = false → G.isSettled = false ∧ ∃ v, response = .ok v) →
        ∃ G, m.groups[g]? = some G ∧ G'.config = G.config ∧ G'.paths = G.paths
          ∧ (G' = G ∨ (g = group ∧ G'.left = G.left.filter (· ≠ thread)
            ∧ (G'.isSettled = false → G.isSettled = false ∧ ∃ v, response = .ok v))) := by
      intro settled hget hs
      rw [List.getElem?_set] at hget
      split at hget
      · rename_i hg
        split at hget
        · injection hget with hget
          subst hget
          exact ⟨G, hg ▸ hfound, rfl, rfl, Or.inr ⟨hg.symm, rfl, hs⟩⟩
        · cases hget
      · exact ⟨G', hget, rfl, rfl, Or.inl rfl⟩
    split at hG
    · rename_i r hr
      refine hset _ hG fun hf => ?_
      rw [hr] at hf
      simp at hf
    · rename_i hr
      refine hset _ hG fun hf => ?_
      rw [hr] at hf
      have hopen : G.isSettled = false := by simpa using hf
      refine ⟨hopen, ?_⟩
      rw [hopen] at hr
      cases response with
      | ok v => exact ⟨v, rfl⟩
      | error e => simp at hr

theorem settleGroup_group (group thread : Nat) (response : Response ν ε) {g : Nat} {G : Group}
    (hG : m.groups[g]? = some G) :
    ∃ G', (settleGroup m group thread response).groups[g]? = some G' ∧ G'.config = G.config
      ∧ G'.paths = G.paths := by
  have hlen : (settleGroup m group thread response).groups.length = m.groups.length := by
    unfold settleGroup
    split
    · rfl
    · dsimp only
      split <;> simp [push]
  have hlt : g < (settleGroup m group thread response).groups.length := by
    rw [hlen]
    exact (List.getElem?_eq_some_iff.mp hG).1
  have hget := List.getElem?_eq_getElem hlt
  obtain ⟨G₀, h0, hc, hp, _⟩ := settleGroup_groups hget
  rw [hG] at h0
  injection h0 with h0
  subst h0
  exact ⟨_, hget, hc, hp⟩

/-- A group keeps what it was asked for. -/
theorem Happens.group (hm : Happens h P m m') {g : Nat} {G : Group}
    (hG : m.groups[g]? = some G) :
    ∃ G', m'.groups[g]? = some G' ∧ G'.config = G.config ∧ G'.paths = G.paths := by
  cases hm with
  | change f hP => exact ⟨G, hG, rfl, rfl⟩
  | write f hP => exact ⟨G, hG, rfl, rfl⟩
  | spawn requester start hP => exact ⟨G, hG, rfl, rfl⟩
  | spoil e hP hk hs hr => exact ⟨G, hG, rfl, rfl⟩
  | cancel e hP hk hs => exact ⟨G, hG, rfl, rfl⟩
  | skip hq => exact ⟨G, hG, rfl, rfl⟩
  | settle hq hm => exact ⟨G, hG, rfl, rfl⟩
  | @count q group thread response hq hm =>
      exact settleGroup_group (m := { m with queue := q }) group thread response hG
  | @advance q k t course hq hk hc =>
      rcases advance_groups (h := h) (m := { m with queue := q }) k t course with
        he | ⟨_, _, _, _, _, he⟩
      · rw [he]
        exact ⟨G, hG, rfl, rfl⟩
      · rw [he]
        refine ⟨G, ?_, rfl, rfl⟩
        rw [List.getElem?_append_left (List.getElem?_eq_some_iff.mp hG).1]
        exact hG

/-- **A group was there before, or it is new.** A group that was there has lost nobody but a thread
that was counted. In a new one a thread is about to begin for each path. -/
theorem Happens.groups (hl : h.standIn = none) (hm : Happens h P m m') {g : Nat} {G' : Group}
    (hG : m'.groups[g]? = some G') :
    (∃ G, m.groups[g]? = some G ∧ G'.config = G.config ∧ G'.paths = G.paths
      ∧ (G' = G ∨ ∃ k response, Handle.count g k response ∈ m.queue
        ∧ G'.left = G.left.filter (· ≠ k)
        ∧ (G'.isSettled = false → G.isSettled = false ∧ ∃ v, response = .ok v)))
    ∨ ∀ p ∈ G'.paths, ∃ k ∈ G'.left, ∃ t' : Thread σ ν ε, m'.threads[k]? = some t'
        ∧ t'.role = .member g ∧ t'.state = .fresh (h.loadCourse G'.config p) := by
  cases hm with
  | change f hP => exact Or.inl ⟨G', hG, rfl, rfl, Or.inl rfl⟩
  | write f hP => exact Or.inl ⟨G', hG, rfl, rfl, Or.inl rfl⟩
  | spawn requester start hP => exact Or.inl ⟨G', hG, rfl, rfl, Or.inl rfl⟩
  | spoil e hP hk hs hr => exact Or.inl ⟨G', hG, rfl, rfl, Or.inl rfl⟩
  | cancel e hP hk hs => exact Or.inl ⟨G', hG, rfl, rfl, Or.inl rfl⟩
  | skip hq => exact Or.inl ⟨G', hG, rfl, rfl, Or.inl rfl⟩
  | settle hq hm => exact Or.inl ⟨G', hG, rfl, rfl, Or.inl rfl⟩
  | @count q group k response hq hm =>
      left
      obtain ⟨G, h0, hc, hp, hcase⟩ := settleGroup_groups (m := { m with queue := q }) hG
      refine ⟨G, h0, hc, hp, ?_⟩
      rcases hcase with he | ⟨rfl, hleft, hopen⟩
      · exact Or.inl he
      · exact Or.inr ⟨k, response, hm, hleft, hopen⟩
  | @advance q k t course hq hk hc =>
      rcases advance_groups (h := h) (m := { m with queue := q }) k t course with
        he | ⟨w, config, paths, next, hf, he⟩
      · rw [he] at hG
        exact Or.inl ⟨G', hG, rfl, rfl, Or.inl rfl⟩
      · rw [he] at hG
        rcases getElem?_append_singleton hG with hG | ⟨rfl, rfl⟩
        · exact Or.inl ⟨G', hG, rfl, rfl, Or.inl rfl⟩
        · refine Or.inr fun p hp => ?_
          rw [← Host.memberCourse_eq hl]
          exact advance_member (m := { m with queue := q }) hk hf hp

end SourceLoader.Machine
