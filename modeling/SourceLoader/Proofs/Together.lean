import SourceLoader.Proofs.Batch

/-!
# Loads that run together

When a thread asks for several loads at once, all of them begin before it can go on, whatever comes
of them. It goes on well when all have ended well, and otherwise from the failure of the load that
failed first. Nothing is done to the others then: each of them runs to its own end.

The line and the account of the loads are set up in the turn in which they are asked for
(`Asked.lined`, `Asked.counts`), and are kept from there on (`Asked.account`). What failed first is
told by a state in between, in which that load had failed and no other one had (`FailedFirst`).
`Fares` puts together what is known at any later time, and `loadDependencies_together` says so of the
dependencies of a file: either one of its specifiers cannot be resolved, then nothing is asked for;
or all that they stand for is.
-/

namespace SourceLoader

variable {σ ν ε : Type}

namespace Batch

open Machine

variable {h : Host σ ν ε} {b : Batch σ ν ε} {m m' : Machine σ ν ε}

/-! ## From the call to the answer -/

/-- The loads are asked for in the turn of a thread, which leads from `m` to `m'`. -/
structure AskedBy (h : Host σ ν ε) (b : Batch σ ν ε) (m m' : Machine σ ν ε) (t : Thread σ ν ε)
    (m₀ : Machine σ ν ε) (course : Course σ ν ε ν) (w : σ) : Prop where
  thread : m.threads[b.asker]? = some t
  turn : TurnOf h m b.asker t m₀ course
  follow : h.follow m₀.loading t.requester course = .group w b.config b.paths b.next
  eq : m' = Machine.advance h m₀ b.asker t course
  group : b.group = m.groups.length
  first : b.first = m.threads.length

/-- Each path has a load of its own that has yet to begin. -/
theorem AskedBy.load {t : Thread σ ν ε} {m₀ : Machine σ ν ε} {course : Course σ ν ε ν} {w : σ}
    (ha : b.AskedBy h m m' t m₀ course w) {i : Nat} {path : String}
    (hp : b.paths[i]? = some path) :
    m'.threads[b.first + i]? = some {
      role := .member b.group
      requester := t.requester
      state := .fresh (h.memberCourse b.config path) } := by
  obtain ⟨hthreads, hgroups, -⟩ := ha.turn.spec
  rw [ha.eq, ha.first, ha.group, ← hthreads, ← hgroups]
  exact advance_group_thread (hthreads ▸ ha.thread) ha.follow hp

/-- What stands in the queue when the loads are asked for is of before. -/
theorem AskedBy.tidy {t : Thread σ ν ε} {m₀ : Machine σ ν ε} {course : Course σ ν ε ν} {w : σ}
    (ha : b.AskedBy h m m' t m₀ course w) (hT : Tidy m) {e : Handle ν ε} (he : e ∈ m₀.queue) :
    e.IsTidy b.first b.group := by
  obtain ⟨-, -, handle, q, hq, hq', -⟩ := ha.turn.spec
  rw [ha.first, ha.group]
  exact hT.entry (hq ▸ List.mem_cons_of_mem _ (hq' ▸ he))

/-- The loads are asked for in a turn. -/
def Asked (h : Host σ ν ε) (b : Batch σ ν ε) (m m' : Machine σ ν ε) : Prop :=
  ∃ t m₀ course w, b.AskedBy h m m' t m₀ course w

namespace Asked

theorem waits (ha : b.Asked h m m') : b.Waits m' := by
  obtain ⟨t, m₀, course, w, ha⟩ := ha
  obtain ⟨hthreads, hgroups, -⟩ := ha.turn.spec
  have hk : m₀.threads[b.asker]? = some t := hthreads ▸ ha.thread
  obtain ⟨t', ht', -⟩ := advance_old (h := h) course hk hk
  have hleaves := advance_self hk ht'
  rw [ha.follow, hgroups, ← ha.group] at hleaves
  exact ⟨t', ha.eq ▸ ht', hleaves⟩

/-- Whoever is asked for will begin, in order, and nothing of before has to do with it. -/
theorem lined (ha : b.Asked h m m') (hT : Tidy m) : b.Lined h m' := by
  obtain ⟨t, m₀, course, w, ha⟩ := ha
  obtain ⟨hthreads, hgroups, -⟩ := ha.turn.spec
  refine ⟨?_, fun {i} hi => ⟨_, ha.load (List.getElem?_eq_getElem hi), rfl⟩, ?_,
    m₀.queue, 0, [], Nat.zero_le _, ?_, fun _ => rfl, ?_, by simp, ?_⟩
  · rw [ha.eq, advance_group ha.follow, ha.group, ← hgroups]
    simp
  · intro j t' hj hrole
    rw [ha.eq] at hj
    rcases advance_thread (hthreads ▸ ha.thread) hj with ⟨t₀, h0, hrole', -⟩ | ⟨-, hadd, -⟩
    · have hold := hT.member (hthreads ▸ h0) (hrole'.symm.trans hrole)
      rw [ha.group] at hold
      omega
    · rw [ha.follow] at hadd
      obtain ⟨i, path, rfl, hp, -⟩ := hadd
      have hlt := (List.getElem?_eq_some_iff.mp hp).1
      have hfirst := ha.first
      rw [← hthreads] at hfirst
      exact ⟨by omega, by omega⟩
  · rw [ha.eq, advance_group_queue ha.follow, begins, ha.first, ← hthreads, List.append_nil,
      Nat.sub_zero, List.range_eq_range']
  · intro e he
    have hentry := ha.tidy hT he
    refine ⟨?_, ?_, ?_⟩
    · rintro j rfl ⟨hge, -⟩
      exact absurd hentry (Nat.not_lt.mpr hge)
    · rintro j r rfl
      exact Nat.lt_irrefl _ hentry
    · rintro j r rfl
      exact Nat.lt_irrefl _ (hentry.1 _ rfl)
  · intro i path _ hp t' ht'
    cases (ha.load hp).symm.trans ht'
    rfl

theorem counts (ha : b.Asked h m m') (hT : Tidy m) : b.Counts m' [] [] := by
  obtain ⟨t, m₀, course, w, ha⟩ := ha
  obtain ⟨hthreads, hgroups, -⟩ := ha.turn.spec
  have hgroup : m'.groups[b.group]? = some {
      asker := b.asker
      config := b.config
      paths := b.paths
      left := (List.range b.paths.length).map (b.first + ·) } := by
    rw [ha.eq, advance_group ha.follow, ha.group, ha.first, ← hgroups, ← hthreads,
      List.getElem?_append_right (Nat.le_refl _), Nat.sub_self]
    rfl
  have hqueue : m'.queue = m₀.queue
      ++ (List.range b.paths.length).map fun i => .begin (m₀.threads.length + i) := by
    rw [ha.eq, advance_group_queue ha.follow]
  have hsome : (List.range b.paths.length).map (b.first + ·) ≠ [] := by
    simpa using Host.paths_ne_nil_of_follow ha.follow
  refine ⟨by simp, by simp, fun {j r} hj => ?_, ?_, ⟨_, hgroup, rfl, fun j => ?_, ?_, by simp⟩, ?_⟩
  · obtain ⟨i, rfl⟩ := Nat.exists_eq_add_of_le hj.1
    have hi : i < b.paths.length := Nat.lt_of_add_lt_add_left hj.2
    rw [result?_eq_some (ha.load (List.getElem?_eq_getElem hi))]
    simp
  · rw [hqueue, counts_append_of_none (by simp [countOf?]), List.map_nil, counts_eq_nil]
    intro e he
    have hentry := ha.tidy hT he
    cases e with
    | count g j r => exact if_neg (Nat.ne_of_lt hentry)
    | begin j => rfl
    | resume j wait r => rfl
    | settle j wait r => rfl
  · rw [List.mem_map]
    constructor
    · rintro ⟨i, hi, rfl⟩
      exact ⟨⟨Nat.le_add_right _ _, Nat.add_lt_add_left (List.mem_range.mp hi) _⟩, by simp⟩
    · rintro ⟨hj, -⟩
      obtain ⟨i, rfl⟩ := Nat.exists_eq_add_of_le hj.1
      exact ⟨i, List.mem_range.mpr (Nat.lt_of_add_lt_add_left hj.2), rfl⟩
  · simpa [firstFailure] using hsome
  · intro k r hmem
    rw [hqueue] at hmem
    rcases List.mem_append.mp hmem with hmem | hmem
    · exact absurd ((ha.tidy hT hmem).1 _ rfl) (Nat.lt_irrefl _)
    · simp at hmem

end Asked

/-- Between two states there was one in which a load had failed and no other one had. -/
def FailedFirst (h : Host σ ν ε) (b : Batch σ ν ε) (m₁ m₂ : Machine σ ν ε) (j : Nat) (e : ε) : Prop :=
  ∃ m, ReachesBy h Move.IsOrderly m₁ m ∧ ReachesBy h Move.IsOrderly m m₂
    ∧ b.Contains j ∧ m.result? j = some (.error e)
    ∧ ∀ {j' e'}, b.Contains j' → m.result? j' = some (.error e') → j' = j

/-- What is known of the loads in a run. -/
structure Account (h : Host σ ν ε) (b : Batch σ ν ε) (m₁ m₂ : Machine σ ν ε)
    (counted pending : List (Nat × Except ε ν)) : Prop where
  tidy : Tidy m₂
  lined : b.Lined h m₂
  counts : b.Counts m₂ counted pending
  failed : ∀ {j e}, firstFailure (counted ++ pending) = some (j, e) → b.FailedFirst h m₁ m₂ j e

variable {m₁ m₂ : Machine σ ν ε}

/-- When a first load fails, no other one has. -/
theorem Account.step {counted pending : List (Nat × Except ε ν)}
    (hI : b.Account h m₁ m counted pending) (hr : ReachesBy h Move.IsOrderly m₁ m)
    (hg : Goes h Move.IsOrderly m m') :
    ∃ counted pending, b.Account h m₁ m' counted pending := by
  obtain ⟨counted', pending', new, hends, hnew, hcounts⟩ :=
    hI.counts.step hI.lined hI.tidy hg.orderly
  refine ⟨counted', pending', tidy_step hI.tidy hg.orderly, hI.lined.step hg.orderly, hcounts,
    fun {j e} hfirst => ?_⟩
  have hfailed := mem_of_firstFailure hfirst
  rw [hends, firstFailure_append] at hfirst
  cases hbefore : firstFailure (counted ++ pending) with
  | some f =>
      rw [hbefore] at hfirst
      cases hfirst
      obtain ⟨m₀, hr₀, hr₀', hfail⟩ := hI.failed hbefore
      exact ⟨m₀, hr₀, hr₀'.tail hg, hfail⟩
  | none =>
      have hcontains := hcounts.contains hfailed
      refine ⟨m', hr.tail hg, .refl, hcontains, (hcounts.ended hcontains).mpr hfailed, ?_⟩
      -- nobody had failed before, and only one load has ended now
      have honly : ∀ {i e}, b.Contains i → m'.result? i = some (.error e) →
          (i, Except.error e) ∈ new := by
        intro i e hi hres
        have hmem := (hcounts.ended hi).mp hres
        rw [hends] at hmem
        exact (List.mem_append.mp hmem).resolve_left (firstFailure_eq_none hbefore)
      intro i e' hi hres
      have h1 := honly hi hres
      have h2 := honly hcontains ((hcounts.ended hcontains).mpr hfailed)
      obtain ⟨c, rfl⟩ : ∃ c, new = [c] := by
        refine List.length_eq_one_iff.mp (Nat.le_antisymm hnew ?_)
        exact List.length_pos_of_mem h1
      rw [List.mem_singleton] at h1 h2
      rw [← h2] at h1
      exact congrArg Prod.fst h1

theorem Asked.account (ha : b.Asked h m m₁) (hT : Tidy m)
    (hr : ReachesBy h Move.IsOrderly m₁ m₂) : ∃ counted pending, b.Account h m₁ m₂ counted pending := by
  induction hr with
  | refl =>
      refine ⟨[], [], ?_, ha.lined hT, ha.counts hT, by simp [firstFailure]⟩
      obtain ⟨t, m₀, course, w, ha⟩ := ha
      exact ha.eq ▸ tidy_step hT (.turn ha.thread ha.turn)
  | tail hr hg ih =>
      obtain ⟨counted, pending, hI⟩ := ih
      exact hI.step hr hg

/-- The thread that waits is about to go on, along `q` the rest of the queue. -/
structure Answered (h : Host σ ν ε) (b : Batch σ ν ε) (m₁ m : Machine σ ν ε) (r : Response ν ε)
    (q : List (Handle ν ε)) (t : Thread σ ν ε) : Prop where
  waits : b.Waits m
  thread : m.threads[b.asker]? = some t
  queue : m.queue = .resume b.asker (.group b.group) r :: q
  /-- All loads have begun. -/
  begun : ∀ {j}, b.Contains j → m.HasStarted j
  /-- All loads have ended well, if it goes on well. -/
  ok : ∀ {v}, r = .ok v → ∀ {j}, b.Contains j → ∃ v, m.result? j = some (.ok v)
  /-- Otherwise it goes on from the failure of the load that failed first. -/
  error : ∀ {e}, r = .error e → ∃ j, b.FailedFirst h m₁ m j e

theorem Account.answered {counted pending : List (Nat × Except ε ν)}
    (hI : b.Account h m₁ m counted pending) (hw : b.Waits m) {t : Thread σ ν ε}
    (ht : m.threads[b.asker]? = some t) {r : Response ν ε} {q : List (Handle ν ε)}
    (hq : m.queue = .resume b.asker (.group b.group) r :: q) : b.Answered h m₁ m r q t := by
  have hverdict := hI.counts.response (k := b.asker) (r := r) (hq ▸ List.mem_cons_self)
  refine ⟨hw, ht, hq, hI.lined.all_begun hq (fun haside => haside.resume _ _ rfl) (by simp), ?_, ?_⟩
  · rintro v rfl j hj
    cases hverdict with
    | all hnone hall =>
        obtain ⟨⟨i, r⟩, hmem, rfl⟩ := List.mem_map.mp (hall hj)
        cases r with
        | ok v => exact ⟨v, (hI.counts.ended hj).mpr hmem⟩
        | error e => exact absurd hmem (firstFailure_eq_none hnone)
  · rintro e rfl
    cases hverdict with
    | failed hfirst => exact ⟨_, hI.failed hfirst⟩

/-- **The thread that has asked waits, or it has gone on when it was its turn to.** -/
theorem Asked.goesOn (ha : b.Asked h m m₁) (hT : Tidy m)
    (hr : ReachesBy h Move.IsOrderly m₁ m₂) :
    b.Waits m₂ ∨ ∃ m₃ r q t, ReachesBy h Move.IsOrderly m₁ m₃ ∧ b.Answered h m₁ m₃ r q t
      ∧ ReachesBy h Move.IsOrderly
        (Machine.advance h { m₃ with queue := q } b.asker t (b.next m₃.world r)) m₂ := by
  induction hr with
  | refl => exact .inl ha.waits
  | @tail m₃ m₄ hr hg ih =>
      rcases ih with hw | ⟨m₅, r, q, t, hr₅, hanswered, hr₅'⟩
      · refine (hw.step hg.orderly).imp id ?_
        rintro ⟨t, q, r, ht, hq, rfl⟩
        obtain ⟨counted, pending, hI⟩ := ha.account hT hr
        exact ⟨m₃, r, q, t, hr, hI.answered hw ht hq, .refl⟩
      · exact .inr ⟨m₅, r, q, t, hr₅, hanswered, hr₅'.tail hg⟩

/-- **When a load has failed or all have ended, the answer is on its way.** -/
theorem Asked.told (ha : b.Asked h m m₁) (hT : Tidy m) (hr : ReachesBy h Move.IsOrderly m₁ m₂)
    (hw : b.Waits m₂)
    (hdone : (∃ j e, b.Contains j ∧ m₂.result? j = some (.error e))
      ∨ ∀ {j}, b.Contains j → ∃ r, m₂.result? j = some r) :
    (∃ j r, Handle.count b.group j r ∈ m₂.queue)
      ∨ ∃ r, Handle.resume b.asker (.group b.group) r ∈ m₂.queue := by
  obtain ⟨counted, pending, hI⟩ := ha.account hT hr
  obtain ⟨G, -, -, hleft, hsettled, hsent⟩ := hI.counts.group
  have hcounts := hI.counts.counts_eq
  cases pending with
  | cons c pending =>
      -- somebody has yet to be counted
      have hcounted : (c.1, c.2.map some) ∈ b.counts m₂.queue := by
        rw [hcounts]
        exact List.mem_cons_self
      obtain ⟨handle, hmem, hcount⟩ := List.mem_filterMap.mp hcounted
      cases handle with
      | count g j r =>
          simp only [countOf?] at hcount
          split at hcount
          · next hg => exact .inl ⟨j, r, hg ▸ hmem⟩
          · cases hcount
      | begin j => cases hcount
      | resume j wait r => cases hcount
      | settle j wait r => cases hcount
  | nil =>
      refine .inr (hsent (hsettled.mpr ?_) hw)
      rcases hdone with ⟨j, e, hj, hres⟩ | hall
      · refine .inl fun hnone => firstFailure_eq_none hnone (j := j) (e := e) ?_
        rw [← List.append_nil counted]
        exact (hI.counts.ended hj).mp hres
      · refine .inr (List.eq_nil_iff_forall_not_mem.mpr fun j hj => ?_)
        obtain ⟨hcontains, hnot⟩ := (hleft j).mp hj
        obtain ⟨r, hres⟩ := hall hcontains
        have hmem := (hI.counts.ended hcontains).mp hres
        rw [List.append_nil] at hmem
        exact hnot (List.mem_map_of_mem hmem)

/-- As long as nothing is on its way, not all loads have ended. -/
theorem Asked.waits_for (ha : b.Asked h m m₁) (hT : Tidy m)
    (hr : ReachesBy h Move.IsOrderly m₁ m₂) (hw : b.Waits m₂) (hq : m₂.queue = []) :
    ∃ j, b.Contains j ∧ m₂.result? j = none := by
  by_contra hall
  have hended : ∀ {j}, b.Contains j → ∃ r, m₂.result? j = some r := by
    intro j hj
    refine Option.ne_none_iff_exists'.mp fun hnone => hall ⟨j, hj, hnone⟩
  rcases ha.told hT hr hw (.inr hended) with ⟨j, r, hmem⟩ | ⟨r, hmem⟩ <;>
    · rw [hq] at hmem
      cases hmem

/-! ## To the end -/

/-- Who waits for a group did so before, or has asked for it just now. -/
theorem waits_or_asked (ho : Orderly h m m') {k g : Nat} {t' : Thread σ ν ε}
    {next : σ → Response ν ε → Course σ ν ε ν} (hk : m'.threads[k]? = some t')
    (hs : t'.state = .waiting (.group g) next) :
    (∃ t : Thread σ ν ε, m.threads[k]? = some t ∧ t.state = .waiting (.group g) next)
    ∨ ∃ b : Batch σ ν ε, b.asker = k ∧ b.group = g ∧ b.next = next ∧ b.Asked h m m' := by
  cases ho with
  | change f => exact .inl ⟨t', hk, hs⟩
  | write f => exact .inl ⟨t', hk, hs⟩
  | idle => exact .inl ⟨t', hk, hs⟩
  | settle => exact .inl ⟨t', hk, hs⟩
  | @count q group thread response =>
      rw [(settleGroup_threads { m with queue := q } group thread response).1] at hk
      exact .inl ⟨t', hk, hs⟩
  | spawn requester start =>
      rcases getElem?_append_singleton hk with hk | ⟨-, rfl⟩
      · exact .inl ⟨t', hk, hs⟩
      · cases hs
  | @linger q j left t₀ wait response config path next' hq hj hs₀ =>
      obtain ⟨t, ht, -, -, hself, hother, -⟩ := getElem?_setState_eq_some hk
      by_cases hkj : k = j
      · cases (hself hkj).symm.trans hs
      · exact .inl ⟨t, ht, (hother hkj).symm.trans hs⟩
  | @turn j t₀ m₀ course hj hturn =>
      obtain ⟨hthreads, hgroups, -⟩ := hturn.spec
      rcases advance_thread (hthreads ▸ hj) hk with ⟨t, ht, -, -, hself, hother, -⟩ | ⟨-, hadd, -⟩
      · by_cases hkj : k = j
        · have hleaves := hself hkj
          rw [hs] at hleaves
          obtain ⟨hg, w, config, paths, hf⟩ := group_of_leaves hleaves
          exact .inr ⟨⟨g, j, next, config, paths, m.threads.length⟩, hkj.symm, rfl, rfl,
            t₀, m₀, course, w, hj, hturn, hf, rfl, hgroups ▸ hg, rfl⟩
        · exact .inl ⟨t, hthreads ▸ ht, (hother hkj).symm.trans hs⟩
      · obtain ⟨start, hfresh⟩ := fresh_of_adds hadd
        cases hs.symm.trans hfresh

variable {world : σ} {registries : List (Registry ν)}

/-- Who waits for a group has asked for loads in the run. -/
theorem exists_asked (hr : ReachesBy h Move.IsOrderly (atRest world registries) m) {k g : Nat}
    {t : Thread σ ν ε} {next : σ → Response ν ε → Course σ ν ε ν} (hk : m.threads[k]? = some t)
    (hs : t.state = .waiting (.group g) next) :
    ∃ (b : Batch σ ν ε) (m₀ m₁ : Machine σ ν ε), b.asker = k
      ∧ ReachesBy h Move.IsOrderly (atRest world registries) m₀ ∧ b.Asked h m₀ m₁
      ∧ ReachesBy h Move.IsOrderly m₁ m ∧ b.Waits m := by
  induction hr generalizing t with
  | refl => simp [atRest] at hk
  | tail hr hg ih =>
      rcases waits_or_asked hg.orderly hk hs with ⟨t₀, h0, hs₀⟩ | ⟨b, rfl, rfl, rfl, hasked⟩
      · obtain ⟨b, m₀, m₁, rfl, hr₀, hasked, hr₁, hw⟩ := ih h0 hs₀
        refine ⟨b, m₀, m₁, rfl, hr₀, hasked, hr₁.tail hg, ?_⟩
        obtain ⟨t₁, h1, hs₁⟩ := hw
        cases h0.symm.trans h1
        rw [hs₀] at hs₁
        exact ⟨t, hk, hs.trans hs₁⟩
      · exact ⟨b, _, _, rfl, hr, hasked, .refl, t, hk, hs⟩

/-- **With a stand-in all threads come to their end.** When nothing is ready, a thread could only
wait for loads of its own, which are threads behind it, so the last one that has not ended would
wait for nothing. -/
theorem all_ended (hr : ReachesBy h Move.IsOrderly (atRest world registries) m)
    (hl : h.standIn ≠ none) (hq : m.queue = []) {k : Nat} {t : Thread σ ν ε}
    (hk : m.threads[k]? = some t) : t.state.IsEnded := by
  have hP := prompt_reaches hr
  have hnothing : ∀ {e : Handle ν ε}, e ∉ m.queue := by
    rw [hq]
    exact List.not_mem_nil
  induction hrest : m.threads.length - k using Nat.strong_induction_on generalizing k t with
  | _ rest ih =>
      cases hs : t.state with
      | ended r => exact ⟨r, rfl⟩
      | fresh start => exact absurd (hP.fresh hk hs) hnothing
      | asking left c p next =>
          obtain ⟨-, wait, r, hmem⟩ := hP.asking hk hs
          exact absurd hmem hnothing
      | waiting wait next =>
          cases wait with
          | turn =>
              obtain ⟨r, hmem⟩ := hP.turn hk hs
              exact absurd hmem hnothing
          | attempt a call => exact absurd (hP.attempt hk hs) hl
          | group g =>
              obtain ⟨b, m₀, m₁, rfl, hr₀, hasked, hr₁, hw⟩ := exists_asked hr hk hs
              have hT := tidy_reaches hr₀
              obtain ⟨j, hj, hnone⟩ := hasked.waits_for hT hr₁ hw hq
              obtain ⟨counted, pending, hI⟩ := hasked.account hT hr₁
              obtain ⟨t', ht', -⟩ := hI.lined.exists_thread hj
              have hlt := (List.getElem?_eq_some_iff.mp ht').1
              have hbehind : b.asker < j := by
                obtain ⟨t₀, _, _, _, hasked⟩ := hasked
                have := (List.getElem?_eq_some_iff.mp hasked.thread).1
                rw [← hasked.first] at this
                exact Nat.lt_of_lt_of_le this hj.1
              obtain ⟨r, hended⟩ := ih (m.threads.length - j) (by omega) ht' rfl
              cases hnone.symm.trans ((result?_eq_some ht').mpr hended)

/-! ## All together -/

/-- **How loads fare that were asked for together.** They were asked for in a turn that has led to
`m₁`. -/
structure Fares (h : Host σ ν ε) (b : Batch σ ν ε) (m₁ m₂ : Machine σ ν ε) : Prop where
  /-- Each path gets a load of its own, in order, -/
  load : ∀ {i : Nat} {path : String}, b.paths[i]? = some path → ∃ t : Thread σ ν ε,
    m₁.threads[b.first + i]? = some t ∧ t.role = .member b.group
      ∧ t.state = .fresh (h.memberCourse b.config path)
  /-- and these are all loads of the group. -/
  only : ∀ {j : Nat} {t : Thread σ ν ε}, m₂.threads[j]? = some t → t.role = .member b.group →
    b.Contains j
  /-- The loads begin in order. -/
  inOrder : ∀ {i j : Nat}, i < j → j < b.paths.length → m₂.HasStarted (b.first + j) →
    m₂.HasStarted (b.first + i)
  /-- The thread that has asked for them waits, or it has gone on when it was its turn to. -/
  goesOn : b.Waits m₂ ∨ ∃ m₃ r q t, ReachesBy h Move.IsOrderly m₁ m₃ ∧ b.Answered h m₁ m₃ r q t
    ∧ ReachesBy h Move.IsOrderly
      (Machine.advance h { m₃ with queue := q } b.asker t (b.next m₃.world r)) m₂
  /-- When a load has failed or all have ended, the answer is on its way. -/
  told : b.Waits m₂ → (∃ j e, b.Contains j ∧ m₂.result? j = some (.error e))
      ∨ (∀ {j}, b.Contains j → ∃ r, m₂.result? j = some r) →
    (∃ j r, Handle.count b.group j r ∈ m₂.queue)
      ∨ ∃ r, Handle.resume b.asker (.group b.group) r ∈ m₂.queue
  /-- Nothing but its own turns does anything to a load, and they bring nothing but a turn. -/
  undisturbed : ∀ {m₃}, Goes h Move.IsOrderly m₂ m₃ → ∀ {j : Nat} {t : Thread σ ν ε},
    b.Contains j → m₂.threads[j]? = some t → ∃ t' : Thread σ ν ε, m₃.threads[j]? = some t'
      ∧ (t'.state = t.state ∨ ∃ handle q, m₂.queue = handle :: q ∧ handle.thread? = some j
        ∧ ∀ r, handle = .resume j .turn r → r = .ok none)
  /-- A load that has not ended is ready, or waits for an attempt or for loads of its own. -/
  ready : ∀ {j : Nat} {t : Thread σ ν ε}, b.Contains j → m₂.threads[j]? = some t →
    t.state.IsEnded ∨ (∃ handle ∈ m₂.queue, handle.thread? = some j)
      ∨ (∃ a call next, t.state = .waiting (.attempt a call) next)
      ∨ ∃ g next, t.state = .waiting (.group g) next
  /-- With a stand-in it comes to its end. -/
  ends : h.standIn ≠ none → m₂.queue = [] → ∀ {j}, b.Contains j → ∃ r, m₂.result? j = some r

/-- **Loads that were asked for together fare like that.** -/
theorem Asked.fares (hr : ReachesBy h Move.IsOrderly (atRest world registries) m)
    (ha : b.Asked h m m₁) (hr₁ : ReachesBy h Move.IsOrderly m₁ m₂) : b.Fares h m₁ m₂ := by
  have hT := tidy_reaches hr
  obtain ⟨counted, pending, hI⟩ := ha.account hT hr₁
  obtain ⟨t₀, m₀, course, w, hasked⟩ := id ha
  have hreach : ReachesBy h Move.IsOrderly (atRest world registries) m₂ :=
    (hr.tail (hasked.eq ▸ hasked.turn.goes hasked.thread)).trans hr₁
  have hP := prompt_reaches hreach
  refine ⟨fun hp => ⟨_, hasked.load hp, rfl, rfl⟩, hI.lined.only, hI.lined.inOrder,
    ha.goesOn hT hr₁, ha.told hT hr₁, ?_, ?_, ?_⟩
  · intro m₃ hg j t hj ht
    obtain ⟨t', ht', -, hstate⟩ := hg.orderly.thread ht
    refine ⟨t', ht', hstate.imp id ?_⟩
    rintro ⟨-, handle, q, hq, hhandle, -⟩
    have hentry := hI.tidy.entry (hq ▸ List.mem_cons_self)
    refine ⟨handle, q, hq, hhandle, ?_⟩
    rintro r rfl
    exact hentry.2 rfl
  · intro j t hj ht
    cases hs : t.state with
    | ended r => exact .inl ⟨r, rfl⟩
    | fresh start => exact .inr (.inl ⟨_, hP.fresh ht hs, rfl⟩)
    | asking left c p next =>
        obtain ⟨-, wait, r, hmem⟩ := hP.asking ht hs
        exact .inr (.inl ⟨_, hmem, rfl⟩)
    | waiting wait next =>
        cases wait with
        | turn =>
            obtain ⟨r, hmem⟩ := hP.turn ht hs
            exact .inr (.inl ⟨_, hmem, rfl⟩)
        | attempt a call => exact .inr (.inr (.inl ⟨a, call, next, rfl⟩))
        | group g => exact .inr (.inr (.inr ⟨g, next, rfl⟩))
  · intro hl hq j hj
    obtain ⟨t, ht, -⟩ := hI.lined.exists_thread hj
    obtain ⟨r, hended⟩ := all_ended hreach hl hq ht
    exact ⟨r, (result?_eq_some ht).mpr hended⟩

end Batch

open Machine

/-- **The dependencies of a file are loaded together.** In its turn a thread comes to the loads of
what some specifiers stand for, and will go on from their end with `f`.

If a specifier cannot be resolved, the thread goes on at once with the failure of the first one, and
nothing is asked for. Otherwise each specifier has a load of its own, in order, and they fare as
loads that were asked for together; without specifiers the thread goes on at once. -/
theorem loadDependencies_together {h : Host World Value Thrown} {world : World}
    {registries : List (Registry Value)} {m m₀ : Machine World Value Thrown}
    (hr : ReachesBy h Move.IsOrderly (atRest world registries) m) {k : Nat}
    {t : Thread World Value Thrown} {course : Course World Value Thrown Value}
    (hk : m.threads[k]? = some t) (hturn : TurnOf h m k t m₀ course) {resolver : Resolver}
    {config : ConfigId} {file : String} {specifiers : List String} {w : World}
    {f : World → Except Thrown Unit → Course World Value Thrown Value}
    (hcourse : h.follow m₀.loading t.requester course
      = h.follow m₀.loading t.requester
        ((Act.ofEval (loadDependencies resolver config file specifiers) w).andThen f)) :
    (∀ pre s post failure, specifiers = pre ++ s :: post →
      (∀ x ∈ pre, ∃ path, resolver.apply file x = .ok path) →
      resolver.apply file s = .error failure →
      Machine.advance h m₀ k t course
        = Machine.advance h m₀ k t (f (w.fail failure).1 (.error (w.fail failure).2)))
    ∧ ∀ paths, specifiers.map (resolver.apply file) = paths.map .ok →
      (paths = [] → Machine.advance h m₀ k t course = Machine.advance h m₀ k t (f w (.ok ())))
      ∧ (paths ≠ [] → ∀ m₂,
        ReachesBy h Move.IsOrderly (Machine.advance h m₀ k t course) m₂ →
        Batch.Fares h {
          group := m.groups.length
          asker := k
          next := fun w r => f w ((r.map fun _ => ()).mapError fun e => { e with isPlaced := false })
          config
          paths
          first := m.threads.length } (Machine.advance h m₀ k t course) m₂) := by
  refine ⟨?_, fun paths hpaths => ?_⟩
  · rintro pre s post failure rfl hpre hs
    have hfails : loadDependencies resolver config file (pre ++ s :: post) w.memory
        = .done (w.memory.fail failure).1 (.error (w.memory.fail failure).2) := by
      show (Eval.each _ _ w.memory).bind _ = _
      rw [each_ofExcept_error hpre hs]
      rfl
    rw [Act.ofEval, hfails] at hcourse
    rw [Machine.advance, hcourse]
    rfl
  · have hasks : loadDependencies resolver config file specifiers w.memory = _ :=
      loadDependencies_eq_ask (each_ofExcept_ok hpaths w.memory)
    have hask : (Act.ofEval (loadDependencies resolver config file specifiers) w).andThen f
        = .ask w (.loadAll config paths) fun w r =>
          f w ((r.map fun _ => ()).mapError fun e => { e with isPlaced := false }) := by
      rw [Act.ofEval, hasks]
      show Course.ask _ _ _ = _
      congr 1
      funext w r
      cases r <;> rfl
    rw [hask, Host.follow] at hcourse
    refine ⟨?_, fun hsome m₂ hr₂ => ?_⟩
    · rintro rfl
      rw [Machine.advance, hcourse]
      rfl
    · have hempty : ¬ paths.isEmpty = true := fun hnil => hsome (List.isEmpty_iff.mp hnil)
      simp only [if_neg hempty] at hcourse
      exact Batch.Asked.fares hr ⟨t, m₀, course, w, hk, hturn, hcourse, rfl, rfl, rfl⟩ hr₂

/-! ## A run in which loads fail out of order -/

/-- The load of a path: "good" ends well, "late" fails after others have run, and all else fails at
once. -/
def mixedLoad (path : String) (w : World) : Course World Value Thrown Value :=
  let failed (w : World) : Course World Value Thrown Value :=
    .done (w.fail (.loader path)).1 (.error (w.fail (.loader path)).2)
  if path = "good" then .done w (.ok .none)
  else if path = "late" then .ask w .pause fun w _ => failed w
  else failed w

/-- Surroundings with these loads. -/
def mixed : Host World Value Thrown where
  failing := World.fail
  begin := fun _ w => w
  attempt := fun _ _ w => .done w (.ok .none)
  conclude := fun _ _ w => w
  standIn := some {
    asked := fun _ w => w
    answer := fun _ w => (w, .ok .none)
    member := some fun _ => mixedLoad }

/-- Four dependencies, one of them twice. -/
def mixedCourse (w : World) : Course World Value Thrown Value :=
  (Act.ofEval (loadDependencies (.prefixed "") 0 "/a.py" ["late", "good", "bad", "late"]) w).andThen
    fun w r => .done w (r.map fun _ => .none)

/-- The state in which they have been asked for. -/
def mixedAsked : Machine World Value Thrown :=
  ((atRest {} []).spawn .hostCall none mixedCourse).run mixed 1

/-- The problem that a thread has ended with. -/
def problemAt? (m : Machine World Value Thrown) (k : Nat) : Option Nat :=
  (m.result? k).bind fun r =>
    match r with
    | .ok _ => none
    | .error e => some e.problem

/-- The first of the loads in order fails, but "bad" fails before, and this is what is heard of. The
others have run to their end. -/
theorem loadDependencies_together_mixed :
    (∃ next, Batch.Fares mixed {
        group := 0
        asker := 0
        next
        config := 0
        paths := ["late", "good", "bad", "late"]
        first := 1 } mixedAsked (mixedAsked.run mixed 20))
      ∧ (List.range 5).map (problemAt? (mixedAsked.run mixed 20))
        = [some 0, some 1, none, some 0, some 2] := by
  have hcall : ReachesBy mixed Move.IsOrderly (atRest {} [])
      ((atRest {} []).spawn .hostCall none mixedCourse) := .single ⟨.call mixedCourse, trivial, rfl⟩
  have hturn : TurnOf mixed ((atRest {} []).spawn .hostCall none mixedCourse) 0
      { role := .hostCall, state := .fresh mixedCourse } _ (mixedCourse {}) := .begin rfl rfl
  have hfares := (loadDependencies_together hcall rfl hturn rfl).2
    ["late", "good", "bad", "late"] rfl
  have hrun : ReachesBy mixed Move.IsOrderly mixedAsked (mixedAsked.run mixed 20) :=
    reachesBy_run (show Move.IsOrderly (.turn 0) from rfl) 20 _
  exact ⟨⟨_, hfares.2 (by simp) _ hrun⟩, by decide +kernel⟩

end SourceLoader
