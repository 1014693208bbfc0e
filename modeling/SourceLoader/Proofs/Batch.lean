import SourceLoader.Proofs.Orderly

/-!
# Loads that were asked for together

The loads of a group share two things with the thread that has asked for them: the queue, and the
account that the group keeps.

**The line.** The entries for the beginnings are put into the queue at one time and in order, and
what comes of the loads can only stand behind them (`InLine`). So all loads have begun when the first
one is counted.

**The account.** `Counts` tells who of the loads has ended, the earliest first. The first of them
have been counted, the counts of the others are on their way in the same order. So the first count
that tells of a failure is that of the load that failed first, and the thread is told either of that
or, when all have been counted, that they have ended well.

Both are kept by all that can come of an orderly move.
-/

namespace SourceLoader

variable {σ ν ε : Type}

/-- Loads that were asked for together. -/
structure Batch (σ ν ε : Type) where
  group : Nat
  /-- The thread that has asked for them, and how it goes on. -/
  asker : Nat
  next : σ → Response ν ε → Course σ ν ε ν
  config : ConfigId
  paths : List String
  /-- The thread of the first load. The others follow it. -/
  first : Nat

/-- A thread has begun to run. -/
def Machine.HasStarted (m : Machine σ ν ε) (k : Nat) : Prop :=
  ∃ t : Thread σ ν ε, m.threads[k]? = some t ∧ ∀ start, t.state ≠ .fresh start

namespace Batch

open Machine

variable {h : Host σ ν ε} {b : Batch σ ν ε} {m m' : Machine σ ν ε}

/-- A thread is that of a load. -/
def Contains (b : Batch σ ν ε) (j : Nat) : Prop := b.first ≤ j ∧ j < b.first + b.paths.length

/-! ## All begin first -/

/-- The entries for the loads that have yet to begin, when so many have begun. -/
def begins (b : Batch σ ν ε) (begun : Nat) : List (Handle ν ε) :=
  (List.range' begun (b.paths.length - begun)).map fun i => .begin (b.first + i)

theorem begins_of_lt {begun : Nat} (hlt : begun < b.paths.length) :
    b.begins begun = .begin (b.first + begun) :: b.begins (begun + 1) := by
  unfold begins
  rw [show b.paths.length - begun = b.paths.length - (begun + 1) + 1 by omega, List.range'_succ,
    List.map_cons]

theorem begins_length : b.begins b.paths.length = [] := by
  unfold begins
  rw [Nat.sub_self]
  rfl

/-- An entry of the queue that has nothing to do with the loads. -/
structure Aside (b : Batch σ ν ε) (handle : Handle ν ε) : Prop where
  begin : ∀ j, handle = .begin j → ¬ b.Contains j
  count : ∀ j r, handle ≠ .count b.group j r
  resume : ∀ j r, handle ≠ .resume j (.group b.group) r

/-- So many loads have begun. The entries for the others stand in the queue, one behind the other,
and what stands ahead of them has nothing to do with the loads. -/
structure InLine (h : Host σ ν ε) (b : Batch σ ν ε) (m : Machine σ ν ε)
    (ahead : List (Handle ν ε)) (n : Nat) (behind : List (Handle ν ε)) : Prop where
  le : n ≤ b.paths.length
  queue : m.queue = ahead ++ b.begins n ++ behind
  none_begun : ahead ≠ [] → n = 0
  aside : ∀ {handle}, handle ∈ ahead → b.Aside handle
  begun : ∀ {i : Nat}, i < n → ∀ {t : Thread σ ν ε}, m.threads[b.first + i]? = some t →
    ∀ start, t.state ≠ .fresh start
  fresh : ∀ {i : Nat} {path : String}, n ≤ i → b.paths[i]? = some path →
    ∀ {t : Thread σ ν ε}, m.threads[b.first + i]? = some t →
    t.state = .fresh (h.memberCourse b.config path)

/-- Each load has a thread, and the loads begin in order. -/
structure Lined (h : Host σ ν ε) (b : Batch σ ν ε) (m : Machine σ ν ε) : Prop where
  group : b.group < m.groups.length
  thread : ∀ {i : Nat}, i < b.paths.length → ∃ t : Thread σ ν ε,
    m.threads[b.first + i]? = some t ∧ t.role = .member b.group
  only : ∀ {j : Nat} {t : Thread σ ν ε}, m.threads[j]? = some t → t.role = .member b.group → b.Contains j
  queue : ∃ ahead n behind, b.InLine h m ahead n behind

theorem Lined.exists_thread (hI : b.Lined h m) {j : Nat} (hj : b.Contains j) :
    ∃ t : Thread σ ν ε, m.threads[j]? = some t ∧ t.role = .member b.group := by
  obtain ⟨i, rfl⟩ := Nat.exists_eq_add_of_le hj.1
  exact hI.thread (Nat.lt_of_add_lt_add_left hj.2)

/-- Groups do not go away. -/
theorem groups_length_le (ho : Orderly h m m') : m.groups.length ≤ m'.groups.length := by
  cases ho with
  | change f => exact Nat.le_refl _
  | write f => exact Nat.le_refl _
  | spawn requester start => exact Nat.le_refl _
  | idle => exact Nat.le_refl _
  | settle => exact Nat.le_refl _
  | linger => exact Nat.le_refl _
  | count => rw [groups_length_settleGroup]
  | @turn k t m₀ course hk ht =>
      rw [← ht.spec.2.1]
      rcases advance_groups (h := h) (m := m₀) k t course with he | ⟨_, _, _, _, _, he⟩ <;> simp [he]

/-- The line moves on, and stays a line. -/
theorem InLine.step {ahead behind : List (Handle ν ε)} {n : Nat}
    (hthread : ∀ {i : Nat}, i < b.paths.length → ∃ t : Thread σ ν ε, m.threads[b.first + i]? = some t)
    (hI : b.InLine h m ahead n behind) (ho : Orderly h m m') :
    ∃ ahead n behind, b.InLine h m' ahead n behind := by
  have hlt : ∀ {i : Nat} {path : String}, b.paths[i]? = some path → i < b.paths.length := fun hp =>
    (List.getElem?_eq_some_iff.mp hp).1
  -- who has begun stays so
  have hbegun : ∀ {i : Nat}, i < n → ∀ {t' : Thread σ ν ε}, m'.threads[b.first + i]? = some t' →
      ∀ start, t'.state ≠ .fresh start := by
    intro i hi t' ht' start
    obtain ⟨t, ht⟩ := hthread (Nat.lt_of_lt_of_le hi hI.le)
    obtain ⟨t₁, h1, -, hstate⟩ := ho.thread ht
    cases h1.symm.trans ht'
    rcases hstate with hstate | ⟨hnot, -⟩
    · rw [hstate]
      exact hI.begun hi ht start
    · exact hnot start
  -- who has not begun does so when the turn comes
  have hfresh : ∀ {i : Nat} {path : String}, n ≤ i → b.paths[i]? = some path →
      (∀ q, m.queue ≠ .begin (b.first + i) :: q) → ∀ {t' : Thread σ ν ε},
      m'.threads[b.first + i]? = some t' → t'.state = .fresh (h.memberCourse b.config path) := by
    intro i path hi hp hhead t' ht'
    obtain ⟨t, ht⟩ := hthread (hlt hp)
    have hs := hI.fresh hi hp ht
    obtain ⟨t₁, h1, -, hstate⟩ := ho.thread ht
    cases h1.symm.trans ht'
    rcases hstate with hstate | ⟨-, handle, q, hq, -, hbegin⟩
    · rw [hstate, hs]
    · exact absurd (hq.trans (by rw [hbegin _ hs])) (hhead q)
  obtain ⟨more, ⟨hqueue, hsame⟩ | ⟨handle, q, hq, hqueue, hbegins⟩⟩ := ho.queue
  · -- nobody has the turn
    refine ⟨ahead, n, behind ++ more, hI.le, ?_, hI.none_begun, hI.aside, hbegun, ?_⟩
    · rw [hqueue, hI.queue, List.append_assoc]
    · intro i path hi hp t' ht'
      obtain ⟨t, ht⟩ := hthread (hlt hp)
      obtain ⟨t₁, h1, hstate⟩ := hsame ht
      cases h1.symm.trans ht'
      rw [hstate]
      exact hI.fresh hi hp ht
  · cases ahead with
    | cons first ahead =>
        obtain rfl : n = 0 := hI.none_begun (by simp)
        have hcons : handle :: q = first :: (ahead ++ b.begins 0 ++ behind) :=
          hq.symm.trans hI.queue
        injection hcons with hfirst hrest
        subst hfirst; subst hrest
        have haside := hI.aside List.mem_cons_self
        refine ⟨ahead, 0, behind ++ more, hI.le, ?_, fun _ => rfl,
          fun hmem => hI.aside (List.mem_cons_of_mem _ hmem), hbegun, ?_⟩
        · rw [hqueue, List.append_assoc]
        · intro i path hi hp t' ht'
          refine hfresh hi hp (fun q' hq' => ?_) ht'
          have hcontains : b.Contains (b.first + i) := ⟨by omega, by have := hlt hp; omega⟩
          exact haside.begin _ (List.cons.inj (hq.symm.trans hq')).1 hcontains
    | nil =>
        have hall := hI.queue
        rw [List.nil_append] at hall
        rcases Nat.lt_or_eq_of_le hI.le with hless | rfl
        · -- the next load begins
          rw [begins_of_lt hless, List.cons_append, hq] at hall
          injection hall with hhandle hrest
          subst hhandle; subst hrest
          refine ⟨[], n + 1, behind ++ more, hless, ?_, by simp, by simp, ?_, ?_⟩
          · rw [hqueue, List.nil_append, List.append_assoc]
          · intro i hi t' ht'
            rcases Nat.lt_or_eq_of_le (Nat.le_of_lt_succ hi) with hi | rfl
            · exact hbegun hi ht'
            · obtain ⟨t, ht⟩ := hthread hless
              obtain ⟨t₁, h1, hnot⟩ := hbegins rfl ht
              cases h1.symm.trans ht'
              exact hnot
          · intro i path hi hp t' ht'
            refine hfresh (by omega) hp (fun q' hq' => ?_) ht'
            have hhead := (List.cons.inj (hq.symm.trans hq')).1
            injection hhead with hhead
            omega
        · -- all have begun
          rw [begins_length, List.nil_append] at hall
          refine ⟨[], b.paths.length, q ++ more, Nat.le_refl _, ?_, by simp, by simp, hbegun, ?_⟩
          · rw [hqueue, begins_length, List.nil_append]
            rfl
          · intro i path hi hp
            exact absurd (hlt hp) (by omega)

theorem Lined.step (hI : b.Lined h m) (ho : Orderly h m m') : b.Lined h m' where
  group := Nat.lt_of_lt_of_le hI.group (groups_length_le ho)
  thread := by
    intro i hi
    obtain ⟨t, ht, hrole⟩ := hI.thread hi
    obtain ⟨t', ht', hrole', -⟩ := ho.thread ht
    exact ⟨t', ht', hrole'.trans hrole⟩
  only := by
    intro j t' hj hrole
    by_cases hlt : j < m.threads.length
    · obtain ⟨t₁, h1, hrole', -⟩ := ho.thread (List.getElem?_eq_getElem hlt)
      cases h1.symm.trans hj
      exact hI.only (List.getElem?_eq_getElem hlt) (hrole'.symm.trans hrole)
    · exact absurd hrole (ho.new hj (Nat.le_of_not_lt hlt) hI.group)
  queue := by
    obtain ⟨ahead, n, behind, hline⟩ := hI.queue
    exact hline.step (fun hi => (hI.thread hi).imp fun _ ht => ht.1) ho

/-- **Who is counted, or goes on from the group, comes behind all that begin.** -/
theorem Lined.all_begun (hI : b.Lined h m) {handle : Handle ν ε} {q : List (Handle ν ε)}
    (hq : m.queue = handle :: q) (hnot : ¬ b.Aside handle) (hbegin : ∀ j, handle ≠ .begin j) :
    ∀ {j}, b.Contains j → m.HasStarted j := by
  obtain ⟨ahead, n, behind, hline⟩ := hI.queue
  have hall : n = b.paths.length := by
    have hqueue := hline.queue
    rw [hq] at hqueue
    cases ahead with
    | cons first ahead =>
        injection hqueue with hfirst
        exact absurd (hfirst ▸ hline.aside List.mem_cons_self) hnot
    | nil =>
        rcases Nat.lt_or_eq_of_le hline.le with hless | heq
        · rw [begins_of_lt hless] at hqueue
          injection hqueue with hfirst
          exact absurd hfirst (hbegin _)
        · exact heq
  intro j hj
  obtain ⟨t, ht, -⟩ := hI.exists_thread hj
  obtain ⟨i, rfl⟩ := Nat.exists_eq_add_of_le hj.1
  exact ⟨t, ht, hline.begun (by have := hj.2; omega) ht⟩

/-- **The loads begin in order.** -/
theorem Lined.inOrder (hI : b.Lined h m) {i j : Nat} (hij : i < j) (hj : j < b.paths.length)
    (hbegun : m.HasStarted (b.first + j)) : m.HasStarted (b.first + i) := by
  obtain ⟨ahead, n, behind, hline⟩ := hI.queue
  obtain ⟨t, ht, hnot⟩ := hbegun
  have hjn : j < n := by
    by_contra hge
    exact hnot _ (hline.fresh (Nat.le_of_not_lt hge) (List.getElem?_eq_getElem hj) ht)
  obtain ⟨t', ht', -⟩ := hI.thread (Nat.lt_trans hij hj)
  exact ⟨t', ht', hline.begun (Nat.lt_trans hij hjn) ht'⟩

/-! ## What comes first counts -/

/-- The first failure among some results. -/
def firstFailure : List (Nat × Except ε ν) → Option (Nat × ε)
  | [] => none
  | (j, .error e) :: _ => some (j, e)
  | (_, .ok _) :: rest => firstFailure rest

theorem firstFailure_append (xs ys : List (Nat × Except ε ν)) :
    firstFailure (xs ++ ys) = (firstFailure xs).or (firstFailure ys) := by
  induction xs with
  | nil => rfl
  | cons x xs ih =>
      obtain ⟨j, r⟩ := x
      cases r with
      | ok v => exact ih
      | error e => rfl

theorem firstFailure_eq_none {xs : List (Nat × Except ε ν)} (hnone : firstFailure xs = none)
    {j : Nat} {e : ε} : (j, .error e) ∉ xs := by
  induction xs with
  | nil => simp
  | cons x xs ih =>
      obtain ⟨i, r⟩ := x
      cases r with
      | ok v => simpa using ih hnone
      | error e => cases hnone

theorem mem_of_firstFailure {xs : List (Nat × Except ε ν)} {j : Nat} {e : ε}
    (hsome : firstFailure xs = some (j, e)) : (j, .error e) ∈ xs := by
  induction xs with
  | nil => cases hsome
  | cons x xs ih =>
      obtain ⟨i, r⟩ := x
      cases r with
      | ok v => exact List.mem_cons_of_mem _ (ih hsome)
      | error e => cases hsome; exact List.mem_cons_self

/-- What an entry says about the end of a load. -/
def countOf? (b : Batch σ ν ε) : Handle ν ε → Option (Nat × Response ν ε)
  | .count g j r => if g = b.group then some (j, r) else none
  | .begin _ | .resume _ _ _ | .settle _ _ _ => none

/-- The ends of loads that are about to be counted. -/
def counts (b : Batch σ ν ε) (q : List (Handle ν ε)) : List (Nat × Response ν ε) :=
  q.filterMap b.countOf?

theorem counts_append (q more : List (Handle ν ε)) :
    b.counts (q ++ more) = b.counts q ++ b.counts more :=
  List.filterMap_append

theorem counts_cons_of_none {handle : Handle ν ε} (hnone : b.countOf? handle = none)
    (q : List (Handle ν ε)) : b.counts (handle :: q) = b.counts q :=
  List.filterMap_cons_none hnone

theorem counts_eq_nil {q : List (Handle ν ε)} (hnone : ∀ e ∈ q, b.countOf? e = none) :
    b.counts q = [] :=
  List.filterMap_eq_nil_iff.mpr hnone

theorem counts_append_of_none {more : List (Handle ν ε)} (hnone : ∀ e ∈ more, b.countOf? e = none)
    (q : List (Handle ν ε)) : b.counts (q ++ more) = b.counts q := by
  rw [counts_append, counts_eq_nil hnone, List.append_nil]

theorem countOf?_of_thread {handle : Handle ν ε} {k : Nat} (hk : handle.thread? = some k) :
    b.countOf? handle = none := by
  cases handle with
  | begin j => rfl
  | resume j wait r => rfl
  | settle j wait r => cases hk
  | count g j r => cases hk

/-- The thread that has asked for the loads waits for them. -/
def Waits (b : Batch σ ν ε) (m : Machine σ ν ε) : Prop :=
  ∃ t : Thread σ ν ε, m.threads[b.asker]? = some t ∧ t.state = .waiting (.group b.group) b.next

/-- What the loads come to: the first failure, or no failure at all when all have ended. -/
inductive Verdict (b : Batch σ ν ε) (ended : List (Nat × Except ε ν)) : Response ν ε → Prop
  | failed {j : Nat} {e : ε} (hfirst : firstFailure ended = some (j, e)) :
      Verdict b ended (.error e)
  | all {v : Option ν} (hnone : firstFailure ended = none)
      (hall : ∀ {j}, b.Contains j → j ∈ ended.map Prod.fst) : Verdict b ended (.ok v)

/-- The loads that have ended, the earliest first. The first of them have been counted, the counts
of the others are on their way. -/
structure Counts (b : Batch σ ν ε) (m : Machine σ ν ε) (counted pending : List (Nat × Except ε ν)) :
    Prop where
  contains : ∀ {c}, c ∈ counted ++ pending → b.Contains c.1
  nodup : ((counted ++ pending).map Prod.fst).Nodup
  ended : ∀ {j r}, b.Contains j → (m.result? j = some r ↔ (j, r) ∈ counted ++ pending)
  counts_eq : b.counts m.queue = pending.map fun c => (c.1, c.2.map some)
  group : ∃ G : Group, m.groups[b.group]? = some G ∧ G.asker = b.asker
    ∧ (∀ j, j ∈ G.left ↔ b.Contains j ∧ j ∉ counted.map Prod.fst)
    ∧ (G.isSettled = true ↔ firstFailure counted ≠ none ∨ G.left = [])
    ∧ (G.isSettled = true → b.Waits m → ∃ r, Handle.resume b.asker (.group b.group) r ∈ m.queue)
  response : ∀ {k r}, Handle.resume k (.group b.group) r ∈ m.queue →
    b.Verdict (counted ++ pending) r

/-- When all loads have ended, nothing can change what they come to; a failure stays the first one
in any case. -/
theorem Verdict.append {ended new : List (Nat × Except ε ν)} {r : Response ν ε}
    (hv : b.Verdict ended r)
    (hnew : ∀ c ∈ new, b.Contains c.1 ∧ c.1 ∉ ended.map Prod.fst) : b.Verdict (ended ++ new) r := by
  cases hv with
  | @failed j e hfirst =>
      refine .failed (j := j) ?_
      rw [firstFailure_append, hfirst]
      rfl
  | all hnone hall =>
      cases new with
      | nil => rw [List.append_nil]; exact .all hnone hall
      | cons c new =>
          obtain ⟨hc, hnot⟩ := hnew c List.mem_cons_self
          exact absurd (hall hc) hnot

/-- Nobody is counted, but somebody may end. -/
theorem Counts.grow {counted pending new : List (Nat × Except ε ν)}
    (hI : b.Counts m counted pending) (hgroup : m'.groups[b.group]? = m.groups[b.group]?)
    (hnew : ∀ c ∈ new, b.Contains c.1 ∧ c.1 ∉ (counted ++ pending).map Prod.fst)
    (hnodup : (new.map Prod.fst).Nodup)
    (hended : ∀ {j r}, b.Contains j →
      (m'.result? j = some r ↔ m.result? j = some r ∨ (j, r) ∈ new))
    (hcounts : b.counts m'.queue = b.counts m.queue ++ new.map fun c => (c.1, c.2.map some))
    (hresponse : ∀ {k r}, Handle.resume k (.group b.group) r ∈ m'.queue →
      Handle.resume k (.group b.group) r ∈ m.queue)
    (hwaits : b.Waits m' → b.Waits m ∧ ∀ {r}, Handle.resume b.asker (.group b.group) r ∈ m.queue →
      Handle.resume b.asker (.group b.group) r ∈ m'.queue) :
    b.Counts m' counted (pending ++ new) where
  contains := by
    intro c hc
    rw [← List.append_assoc] at hc
    rcases List.mem_append.mp hc with hc | hc
    · exact hI.contains hc
    · exact (hnew c hc).1
  nodup := by
    rw [← List.append_assoc, List.map_append]
    refine List.nodup_append.mpr ⟨hI.nodup, hnodup, ?_⟩
    rintro j hj _ hj' rfl
    obtain ⟨c, hc, rfl⟩ := List.mem_map.mp hj'
    exact (hnew c hc).2 hj
  ended := by
    intro j r hj
    rw [hended hj, hI.ended hj, ← List.append_assoc]
    exact List.mem_append.symm
  counts_eq := by rw [hcounts, hI.counts_eq, List.map_append]
  group := by
    obtain ⟨G, hG, hasker, hleft, hsettled, hsent⟩ := hI.group
    refine ⟨G, hgroup.trans hG, hasker, hleft, hsettled, fun hset hw => ?_⟩
    obtain ⟨hw, hkeep⟩ := hwaits hw
    exact (hsent hset hw).imp fun _ hr => hkeep hr
  response := by
    intro k r hmem
    rw [← List.append_assoc]
    exact (hI.response (hresponse hmem)).append hnew

/-- The first failure is that of the load that is counted, or there is none. -/
theorem firstFailure_concat_eq_none {counted : List (Nat × Except ε ν)} {j : Nat} {r : Except ε ν} :
    firstFailure (counted ++ [(j, r)]) = none
      ↔ firstFailure counted = none ∧ ∃ v, r.map some = .ok v := by
  rw [firstFailure_append, Option.or_eq_none_iff]
  cases r <;> simp [firstFailure, Except.map]

/-- When all loads have been counted, nobody is pending. -/
theorem Counts.pending_eq_nil {counted pending : List (Nat × Except ε ν)}
    (hcontains : ∀ {c}, c ∈ counted ++ pending → b.Contains c.1)
    (hnodup : ((counted ++ pending).map Prod.fst).Nodup)
    (hall : ∀ {i}, b.Contains i → i ∈ counted.map Prod.fst) : pending = [] := by
  refine List.eq_nil_iff_forall_not_mem.mpr fun c hc => ?_
  rw [List.map_append] at hnodup
  exact (List.nodup_append.mp hnodup).2.2 c.1 (hall (hcontains (List.mem_append_right _ hc))) c.1
    (List.mem_map_of_mem hc) rfl

/-- What is sent when a load is counted is right. Nobody has failed before; either the load has
failed, or it is the last one that is left. -/
theorem Counts.verdict {counted rest : List (Nat × Except ε ν)} {j : Nat} {r : Except ε ν}
    (hcontains : ∀ {c}, c ∈ (counted ++ [(j, r)]) ++ rest → b.Contains c.1)
    (hnodup : (((counted ++ [(j, r)]) ++ rest).map Prod.fst).Nodup)
    (hnone : firstFailure counted = none) {response : Response ν ε}
    (hr : (∃ e, r.map some = .error e ∧ response = .error e)
      ∨ (∃ v, r.map some = .ok v) ∧ (∀ {i}, b.Contains i → i ∈ (counted ++ [(j, r)]).map Prod.fst)
        ∧ response = .ok none) :
    b.Verdict ((counted ++ [(j, r)]) ++ rest) response := by
  rcases hr with ⟨e, he, rfl⟩ | ⟨hok, hall, rfl⟩
  · refine .failed (j := j) ?_
    cases r with
    | ok v => cases he
    | error e' =>
        cases he
        rw [firstFailure_append, firstFailure_append, hnone]
        rfl
  · rw [pending_eq_nil hcontains hnodup hall, List.append_nil]
    exact .all (firstFailure_concat_eq_none.mpr ⟨hnone, hok⟩) hall

/-- The next load is counted. -/
theorem Counts.count {counted pending : List (Nat × Except ε ν)} (hI : b.Counts m counted pending)
    {q : List (Handle ν ε)} {k : Nat} {response : Response ν ε}
    (hq : m.queue = .count b.group k response :: q) :
    ∃ c rest, pending = c :: rest
      ∧ b.Counts (settleGroup { m with queue := q } b.group k response) (counted ++ [c]) rest := by
  have hpending := hI.counts_eq
  rw [hq, counts, List.filterMap_cons_some (b := (k, response)) (by simp [countOf?])] at hpending
  obtain ⟨⟨j, r⟩, rest, hc, hhead, hrest⟩ := List.map_eq_cons_iff.mp hpending.symm
  injection hhead with hj hr
  subst hj; subst hr
  obtain ⟨G, hG, hasker, hleft, hsettled, hsent⟩ := hI.group
  obtain ⟨settled, sent, hgroups, hqueue, hcases⟩ :=
    settleGroup_cases (m := { m with queue := q }) (k := j) hG (r.map some)
  have hsame : (counted ++ [(j, r)]) ++ rest = counted ++ pending := by
    rw [hc, List.append_assoc, List.singleton_append]
  have hthreads := (settleGroup_threads { m with queue := q } b.group j (r.map some)).1
  have hleft' : ∀ i, i ∈ G.left.filter (· ≠ j)
      ↔ b.Contains i ∧ i ∉ (counted ++ [(j, r)]).map Prod.fst := by
    intro i
    rw [List.mem_filter, hleft, List.map_append, List.mem_append, not_or, and_assoc]
    simp
  have hnone : G.isSettled = false → firstFailure counted = none := by
    intro hopen
    by_contra hsome
    rw [hsettled.mpr (.inl hsome)] at hopen
    cases hopen
  refine ⟨(j, r), rest, hc, ?_⟩
  refine ⟨hsame ▸ hI.contains, hsame ▸ hI.nodup, ?_, ?_, ?_, ?_⟩
  · intro i r' hi
    rw [hsame, ← hI.ended hi, result?, result?, hthreads]
  · rw [hqueue, counts_append, counts, hrest, counts_eq_nil, List.append_nil]
    rcases hcases with ⟨-, rfl, -⟩ | ⟨-, -, r₀, rfl, -⟩ <;> simp [countOf?]
  · refine ⟨{ G with
        left := G.left.filter (· ≠ j)
        isSettled := settled }, ?_, hasker, hleft', ?_, ?_⟩
    · rw [hgroups]
      exact List.getElem?_set_self (List.getElem?_eq_some_iff.mp hG).1
    · show settled = true ↔ firstFailure (counted ++ [(j, r)]) ≠ none ∨ _ = []
      rw [ne_eq, firstFailure_concat_eq_none]
      rcases hcases with ⟨hkeep, -, hopen⟩ | ⟨-, rfl, r₀, -, hr₀⟩
      · constructor
        · intro hset
          rcases hsettled.mp (hkeep ▸ hset) with hsome | hnil
          · exact .inl fun hnone' => hsome hnone'.1
          · exact .inr (by rw [hnil]; rfl)
        · intro hdone
          by_contra hnot
          obtain ⟨hok, hmore⟩ := hopen (Bool.eq_false_iff.mpr hnot)
          refine hdone.elim (fun hsome => hsome ⟨hnone ?_, hok⟩) hmore
          exact hkeep ▸ Bool.eq_false_iff.mpr hnot
      · refine iff_of_true rfl ?_
        rcases hr₀ with ⟨e, he, -⟩ | ⟨-, hnil, -⟩
        · refine .inl fun ⟨_, v, hv⟩ => ?_
          cases hv.symm.trans he
        · exact .inr hnil
    · intro hset ⟨t, ht, hs⟩
      rw [hqueue]
      rw [hthreads] at ht
      rcases hcases with ⟨hkeep, -, -⟩ | ⟨-, -, r₀, rfl, -⟩
      · obtain ⟨r', hr'⟩ := hsent (hkeep ▸ hset) ⟨t, ht, hs⟩
        rw [hq] at hr'
        exact ⟨r', List.mem_append_left _ ((List.mem_cons.mp hr').resolve_left (by simp))⟩
      · exact ⟨r₀, List.mem_append_right _ (hasker ▸ List.mem_cons_self)⟩
  · intro k' r' hmem
    rw [hqueue] at hmem
    rcases List.mem_append.mp hmem with hmem | hmem
    · exact hsame ▸ hI.response (hq ▸ List.mem_cons_of_mem _ hmem)
    · -- a response is sent only if it is right
      rcases hcases with ⟨-, rfl, -⟩ | ⟨hopen, -, r₀, rfl, hr₀⟩
      · cases hmem
      · obtain ⟨-, rfl⟩ : k' = G.asker ∧ r' = r₀ := by simpa using List.mem_singleton.mp hmem
        refine verdict (hsame ▸ hI.contains) (hsame ▸ hI.nodup) (hnone hopen) (hr₀.imp_right ?_)
        rintro ⟨hok, hnil, hresponse⟩
        refine ⟨hok, fun {i} hi => ?_, hresponse⟩
        by_contra hnot
        have hmem := (hleft' i).mpr ⟨hi, hnot⟩
        rw [hnil] at hmem
        cases hmem

/-- Nobody is counted, and nobody ends. -/
theorem Counts.keep {counted pending : List (Nat × Except ε ν)} (hI : b.Counts m counted pending)
    (hgroup : m'.groups[b.group]? = m.groups[b.group]?)
    (hresult : ∀ {j}, b.Contains j → m'.result? j = m.result? j)
    (hcounts : b.counts m'.queue = b.counts m.queue)
    (hresponse : ∀ {k r}, Handle.resume k (.group b.group) r ∈ m'.queue →
      Handle.resume k (.group b.group) r ∈ m.queue)
    (hwaits : b.Waits m' → b.Waits m ∧ ∀ {r}, Handle.resume b.asker (.group b.group) r ∈ m.queue →
      Handle.resume b.asker (.group b.group) r ∈ m'.queue) :
    b.Counts m' counted pending := by
  rw [← List.append_nil pending]
  refine hI.grow hgroup (by simp) (by simp) (fun hj => ?_) ?_ hresponse hwaits
  · rw [hresult hj]
    simp
  · rw [hcounts, List.map_nil, List.append_nil]

/-- An entry is taken from the queue that neither counts a load nor tells the thread that waits for
them, and no such entry comes. -/
theorem Counts.pop {counted pending : List (Nat × Except ε ν)} (hI : b.Counts m counted pending)
    {handle : Handle ν ε} {q more : List (Handle ν ε)} (hq : m.queue = handle :: q)
    (hqueue : m'.queue = q ++ more) (hhandle : b.countOf? handle = none)
    (hmore : ∀ e ∈ more, b.countOf? e = none ∧ ∀ k r, e ≠ .resume k (.group b.group) r)
    (hgroup : m'.groups[b.group]? = m.groups[b.group]?)
    (hresult : ∀ {j}, b.Contains j → m'.result? j = m.result? j)
    (hwaits : b.Waits m' → b.Waits m ∧ ∀ r, handle ≠ .resume b.asker (.group b.group) r) :
    b.Counts m' counted pending := by
  refine hI.keep hgroup hresult ?_ (fun {k r} hmem => ?_) fun hw => ?_
  · rw [hqueue, hq, counts_append_of_none fun e he => (hmore e he).1, counts_cons_of_none hhandle]
  · rw [hqueue] at hmem
    rcases List.mem_append.mp hmem with hmem | hmem
    · exact hq ▸ List.mem_cons_of_mem _ hmem
    · exact absurd rfl ((hmore _ hmem).2 k r)
  · obtain ⟨hw, hother⟩ := hwaits hw
    refine ⟨hw, fun {r} hmem => ?_⟩
    rw [hq] at hmem
    rw [hqueue]
    exact List.mem_append_left _ ((List.mem_cons.mp hmem).resolve_left (hother r).symm)

theorem result?_congr {j : Nat} {t t' : Thread σ ν ε} (ht : m.threads[j]? = some t)
    (ht' : m'.threads[j]? = some t') (hstate : t'.state = t.state) :
    m'.result? j = m.result? j := by
  rw [result?, result?, ht, ht', Option.bind_some, Option.bind_some, hstate]

theorem result?_eq_some {j : Nat} {t : Thread σ ν ε} (ht : m.threads[j]? = some t)
    {r : Except ε ν} : m.result? j = some r ↔ t.state = .ended r := by
  rw [result?, ht, Option.bind_some]
  cases hs : t.state <;> simp

/-- A thread that has had its turn waits for no group of before. -/
theorem waits_of_advance (hL : b.Lined h m) {k : Nat} {t : Thread σ ν ε} {m₀ : Machine σ ν ε}
    {course : Course σ ν ε ν} (hk : m.threads[k]? = some t) (ht : TurnOf h m k t m₀ course)
    (hw : b.Waits (Machine.advance h m₀ k t course)) : b.asker ≠ k ∧ b.Waits m := by
  obtain ⟨hthreads, hgroups, -⟩ := ht.spec
  have hk₀ : m₀.threads[k]? = some t := hthreads ▸ hk
  obtain ⟨more, t', -, ht', -, hleaves, -⟩ := advance_sends (h := h) course hk₀
  obtain ⟨t₁, h1, hs⟩ := hw
  have hne : b.asker ≠ k := by
    rintro hasker
    rw [hasker] at h1
    cases h1.symm.trans ht'
    rw [hs] at hleaves
    have hnew := (group_of_leaves hleaves).1
    rw [hgroups] at hnew
    exact absurd hL.group (by omega)
  refine ⟨hne, ?_⟩
  rcases advance_thread hk₀ h1 with ⟨t₂, h2, -, -, -, hstate, -⟩ | ⟨-, hadd, -⟩
  · exact ⟨t₂, hthreads ▸ h2, (hstate hne).symm.trans hs⟩
  · obtain ⟨start, hfresh⟩ := fresh_of_adds hadd
    cases hs.symm.trans hfresh

/-- A turn of a thread: if it is that of a load and the load ends, it is the next one. -/
theorem Counts.turn {counted pending : List (Nat × Except ε ν)} (hL : b.Lined h m)
    (hI : b.Counts m counted pending) {k : Nat} {t : Thread σ ν ε} {m₀ : Machine σ ν ε}
    {course : Course σ ν ε ν} (hk : m.threads[k]? = some t) (ht : TurnOf h m k t m₀ course) :
    ∃ new : List (Nat × Except ε ν), new.length ≤ 1
      ∧ b.Counts (Machine.advance h m₀ k t course) counted (pending ++ new) := by
  obtain ⟨hthreads, hgroups, handle, q, hq, hq', hhandle⟩ := ht.spec
  have hk₀ : m₀.threads[k]? = some t := hthreads ▸ hk
  obtain ⟨more, t', hqueue, ht', -, -, hmore, hcount⟩ := advance_sends (h := h) course hk₀
  rw [hq'] at hqueue
  have hgroup : (Machine.advance h m₀ k t course).groups[b.group]? = m.groups[b.group]? := by
    rcases advance_groups (h := h) (m := m₀) k t course with he | ⟨_, _, _, _, _, he⟩
    · rw [he, hgroups]
    · rw [he, hgroups, List.getElem?_append_left hL.group]
  have hresponse : ∀ {j r}, Handle.resume j (.group b.group) r
      ∈ (Machine.advance h m₀ k t course).queue → Handle.resume j (.group b.group) r ∈ m.queue := by
    intro j r hmem
    rw [hqueue] at hmem
    rcases List.mem_append.mp hmem with hmem | hmem
    · exact hq ▸ List.mem_cons_of_mem _ hmem
    · cases hmore _ hmem
  have hwaits : b.Waits (Machine.advance h m₀ k t course) → b.Waits m
      ∧ ∀ {r}, Handle.resume b.asker (.group b.group) r ∈ m.queue →
        Handle.resume b.asker (.group b.group) r ∈ (Machine.advance h m₀ k t course).queue := by
    intro hw
    obtain ⟨hne, hw⟩ := waits_of_advance hL hk ht hw
    refine ⟨hw, fun {r} hmem => ?_⟩
    rw [hq] at hmem
    rw [hqueue]
    refine List.mem_append_left _ ((List.mem_cons.mp hmem).resolve_left ?_)
    rintro rfl
    exact hne (Option.some.inj hhandle)
  have hother : ∀ {j}, b.Contains j → j ≠ k →
      (Machine.advance h m₀ k t course).result? j = m.result? j := by
    intro j hj hjk
    obtain ⟨t₀, h0, -⟩ := hL.exists_thread hj
    obtain ⟨t₁, h1, -, -, hstate⟩ := advance_old (h := h) (m := m₀) course hk₀ (hthreads ▸ h0)
    exact result?_congr h0 h1 (hstate hjk)
  have hpop : b.counts (Machine.advance h m₀ k t course).queue
      = b.counts m.queue ++ b.counts more := by
    rw [hqueue, hq, counts_append, counts_cons_of_none (countOf?_of_thread hhandle)]
  have hbefore : m.result? k = none := by
    refine Option.eq_none_iff_forall_ne_some.mpr fun r hr => ?_
    exact ht.not_isEnded ⟨r, (result?_eq_some hk).mp hr⟩
  by_cases hends : t.role = .member b.group ∧ ∃ r, t'.state = .ended r
  · obtain ⟨hrole, r, hs⟩ := hends
    have hcontains := hL.only hk hrole
    have hnotin : k ∉ (counted ++ pending).map Prod.fst := by
      intro hmem
      obtain ⟨⟨j, r'⟩, hc, hj⟩ := List.mem_map.mp hmem
      obtain rfl : j = k := hj
      cases hbefore.symm.trans ((hI.ended hcontains).mpr hc)
    refine ⟨[(k, r)], Nat.le_refl _, hI.grow hgroup ?_ (by simp) ?_ ?_ hresponse hwaits⟩
    · intro c hc
      rw [List.mem_singleton.mp hc]
      exact ⟨hcontains, hnotin⟩
    · intro j r' hj
      by_cases hjk : j = k
      · subst hjk
        rw [result?_eq_some ht', hs, hbefore]
        simp [eq_comm]
      · rw [hother hj hjk]
        simp [hjk]
    · rw [hpop, hcount _ _ hrole hs]
      simp [counts, countOf?]
  · refine ⟨[], by simp, ?_⟩
    rw [List.append_nil]
    refine hI.keep hgroup (fun {j} hj => ?_) ?_ hresponse hwaits
    · by_cases hjk : j = k
      · subst hjk
        rw [hbefore]
        refine Option.eq_none_iff_forall_ne_some.mpr fun r hr => hends ⟨?_, r, ?_⟩
        · obtain ⟨t₀, h0, hrole⟩ := hL.exists_thread hj
          rw [Option.some.inj (hk.symm.trans h0)]
          exact hrole
        · exact (result?_eq_some ht').mp hr
      · exact hother hj hjk
    · have hnone : ∀ e ∈ more, b.countOf? e = none := by
        intro e he
        cases hmore e he with
        | begin hj hj' => rfl
        | turn => rfl
        | settle j a call r => rfl
        | @count g r hrole hs =>
            refine if_neg fun hg => hends ⟨?_, r, hs⟩
            rw [hrole, hg]
      rw [hpop, counts_eq_nil hnone, List.append_nil]

/-- Another group is counted. -/
theorem Counts.count_other {counted pending : List (Nat × Except ε ν)}
    (hI : b.Counts m counted pending) {q : List (Handle ν ε)} {g k : Nat} {response : Response ν ε}
    (hq : m.queue = .count g k response :: q) (hne : g ≠ b.group) :
    b.Counts (settleGroup { m with queue := q } g k response) counted pending := by
  obtain ⟨hthreads, -, -⟩ := settleGroup_threads { m with queue := q } g k response
  obtain ⟨more, hqueue, hmore⟩ : ∃ more, (settleGroup { m with queue := q } g k response).queue
      = q ++ more ∧ ∀ e ∈ more, ∃ j r, e = .resume j (.group g) r := by
    cases hG : m.groups[g]? with
    | none => exact ⟨[], by simp [settleGroup, hG]⟩
    | some G =>
        obtain ⟨_, more, -, hqueue, ⟨-, rfl, -⟩ | ⟨-, -, r, rfl, -⟩⟩ :=
          settleGroup_cases (m := { m with queue := q }) (k := k) hG response
        · exact ⟨[], hqueue, by simp⟩
        · exact ⟨_, hqueue, fun e he => ⟨_, _, List.mem_singleton.mp he⟩⟩
  have hgroup : (settleGroup { m with queue := q } g k response).groups[b.group]?
      = m.groups[b.group]? := by
    cases hG : m.groups[g]? with
    | none => simp [settleGroup, hG]
    | some G =>
        obtain ⟨_, _, hgroups, -⟩ :=
          settleGroup_cases (m := { m with queue := q }) (k := k) hG response
        rw [hgroups, List.getElem?_set_ne hne]
  refine hI.pop hq hqueue (by simp [countOf?, hne]) (fun e he => ?_) hgroup
    (fun {j} _ => by rw [result?, result?, hthreads]) fun hw => ?_
  · obtain ⟨j, r, rfl⟩ := hmore e he
    refine ⟨rfl, fun k r' heq => hne ?_⟩
    injection heq with _ hwait
    injection hwait
  · obtain ⟨t, ht, hs⟩ := hw
    exact ⟨⟨t, hthreads ▸ ht, hs⟩, fun r heq => by cases heq⟩

/-- **Every orderly move keeps the account of the loads.** At most one load ends. -/
theorem Counts.step {counted pending : List (Nat × Except ε ν)} (hL : b.Lined h m) (hT : Tidy m)
    (hI : b.Counts m counted pending) (ho : Orderly h m m') :
    ∃ counted' pending' new, counted' ++ pending' = counted ++ pending ++ new ∧ new.length ≤ 1
      ∧ b.Counts m' counted' pending' := by
  have hsame : b.Counts m' counted pending → ∃ counted' pending' new,
      counted' ++ pending' = counted ++ pending ++ new ∧ new.length ≤ 1
        ∧ b.Counts m' counted' pending' :=
    fun hI' => ⟨counted, pending, [], (List.append_nil _).symm, by simp, hI'⟩
  cases ho with
  | change f => exact hsame (hI.keep rfl (fun _ => rfl) rfl (fun hr => hr) fun hw => ⟨hw, fun hr => hr⟩)
  | write f => exact hsame (hI.keep rfl (fun _ => rfl) rfl (fun hr => hr) fun hw => ⟨hw, fun hr => hr⟩)
  | spawn requester start =>
      have hold : ∀ {j : Nat} {t : Thread σ ν ε}, m.threads[j]? = some t →
          (m.spawn .hostCall requester start).threads[j]? = some t := by
        intro j t ht
        rw [← ht]
        exact List.getElem?_append_left (List.getElem?_eq_some_iff.mp ht).1
      refine hsame (hI.keep rfl (fun {j} hj => ?_) ?_ ?_ ?_)
      · obtain ⟨t, ht, -⟩ := hL.exists_thread hj
        exact result?_congr ht (hold ht) rfl
      · show b.counts (m.queue ++ _) = _
        rw [counts_append_of_none (by simp [countOf?])]
      · intro k r hmem
        rcases List.mem_append.mp hmem with hmem | hmem
        · exact hmem
        · simp at hmem
      · rintro ⟨t, ht, hs⟩
        refine ⟨⟨t, ?_, hs⟩, fun hmem => List.mem_append_left _ hmem⟩
        rcases getElem?_append_singleton ht with ht | ⟨-, rfl⟩
        · exact ht
        · cases hs
  | @idle handle q k hq hk hbegin hresume hasking =>
      refine hsame (hI.pop hq (List.append_nil q).symm (countOf?_of_thread hk)
        (by simp) rfl (fun _ => rfl) fun ⟨t, ht, hs⟩ => ⟨⟨t, ht, hs⟩, ?_⟩)
      rintro r rfl
      injection hk with hk
      subst hk
      exact hresume _ _ rfl t _ ht hs
  | @settle q k wait response hq =>
      obtain ⟨a, call, rfl⟩ := hT.entry (hq ▸ List.mem_cons_self)
      exact hsame (hI.pop hq rfl rfl (by simp [countOf?]) rfl (fun _ => rfl)
        fun ⟨t, ht, hs⟩ => ⟨⟨t, ht, hs⟩, nofun⟩)
  | @count q group thread response hq =>
      by_cases hg : group = b.group
      · subst hg
        obtain ⟨c, rest, rfl, hI'⟩ := hI.count hq
        exact ⟨counted ++ [c], rest, [], by simp, by simp, hI'⟩
      · exact hsame (hI.count_other hq hg)
  | @linger q k left t wait response config path next hq hk hs =>
      have hcases : ∀ {j : Nat} {t' : Thread σ ν ε},
          (m.setState k (.asking left config path next)).threads[j]? = some t' →
          ∃ t₀, m.threads[j]? = some t₀ ∧ (j = k → t'.state = .asking left config path next)
            ∧ (j ≠ k → t'.state = t₀.state) := by
        intro j t' hj
        obtain ⟨t₀, h0, -, -, hself, hother, -⟩ := getElem?_setState_eq_some hj
        exact ⟨t₀, h0, hself, hother⟩
      refine hsame (hI.pop hq rfl rfl (by simp [countOf?]) rfl (fun {j} hj => ?_) ?_)
      · obtain ⟨t₀, h0, -⟩ := hL.exists_thread hj
        obtain ⟨t', ht', -⟩ := (Orderly.linger (h := h) hq hk hs).thread h0
        obtain ⟨t₁, h1, hself, hother⟩ := hcases ht'
        cases h0.symm.trans h1
        by_cases hjk : j = k
        · subst hjk
          cases hk.symm.trans h0
          rw [result?, result?, ht', hk, Option.bind_some, Option.bind_some, hself rfl, hs]
        · exact result?_congr h0 ht' (hother hjk)
      · rintro ⟨t', ht', hs'⟩
        obtain ⟨t₀, h0, hself, hother⟩ := hcases ht'
        have hne : b.asker ≠ k := fun hasker => by cases (hself hasker).symm.trans hs'
        refine ⟨⟨t₀, h0, (hother hne).symm.trans hs'⟩, fun r heq => hne ?_⟩
        injection heq with hasker
        exact hasker.symm
  | turn hk ht =>
      obtain ⟨new, hnew, hI'⟩ := hI.turn hL hk ht
      exact ⟨counted, pending ++ new, new, (List.append_assoc _ _ _).symm, hnew, hI'⟩

/-! ## The thread that waits -/

/-- **The thread waits until it is its turn to go on from the loads.** -/
theorem Waits.step (hw : b.Waits m) (ho : Orderly h m m') :
    b.Waits m' ∨ ∃ t q r, m.threads[b.asker]? = some t
      ∧ m.queue = .resume b.asker (.group b.group) r :: q
      ∧ m' = Machine.advance h { m with queue := q } b.asker t (b.next m.world r) := by
  obtain ⟨t, ht, hs⟩ := hw
  cases ho with
  | change f => exact .inl ⟨t, ht, hs⟩
  | write f => exact .inl ⟨t, ht, hs⟩
  | idle => exact .inl ⟨t, ht, hs⟩
  | settle => exact .inl ⟨t, ht, hs⟩
  | @count q group thread response =>
      refine .inl ⟨t, ?_, hs⟩
      rw [(settleGroup_threads { m with queue := q } group thread response).1]
      exact ht
  | spawn requester start =>
      refine .inl ⟨t, ?_, hs⟩
      rw [← ht]
      exact List.getElem?_append_left (List.getElem?_eq_some_iff.mp ht).1
  | @linger q k left t₀ wait response config path next hq hk hs₀ =>
      have hne : k ≠ b.asker := by
        rintro rfl
        cases hk.symm.trans ht
        cases hs₀.symm.trans hs
      refine .inl ⟨t, ?_, hs⟩
      exact getElem?_modify_eq_some.mpr ⟨t, ht, by rw [if_neg hne]⟩
  | @turn k t₀ m₀ course hk hturn =>
      obtain ⟨hthreads, -⟩ := hturn.spec
      by_cases hkb : b.asker = k
      · right
        subst hkb
        cases hk.symm.trans ht
        cases hturn with
        | begin hq hs' => cases hs'.symm.trans hs
        | answer hl hq hs' => cases hs'.symm.trans hs
        | resume hq hs' =>
            rw [hs] at hs'
            injection hs' with hwait hnext
            subst hwait; subst hnext
            exact ⟨t, _, _, ht, hq, rfl⟩
      · obtain ⟨t', ht', -, -, hstate⟩ :=
          advance_old (h := h) (m := m₀) course (hthreads ▸ hk) (hthreads ▸ ht)
        exact .inl ⟨t', ht', (hstate hkb).trans hs⟩

end Batch

end SourceLoader
