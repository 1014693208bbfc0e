import SourceLoader.Proofs.Awake

/-!
# Runs in order

A loop that serves first who has been ready longest always takes the first entry of the queue. A run
is orderly if it is that of such a loop and nobody is given up. Between two turns the host may call,
code may start tasks, and the world and the registries may change.

Here a stand-in may take the place of the loader, so there are two more things than in `Happens` that
can come of a move: a thread that has asked the stand-in lets others run once more, or goes on from
the answer. A turn of a thread (`TurnOf`) is the same for all that follows: it takes up a course and
runs up to the next halt.

`Tidy` says that the entries of the queue speak of threads and groups that there are, and
`Prompt` that whoever waits for a turn has an entry there.
-/

namespace SourceLoader

variable {σ ν ε : Type}

/-- A move of a loop that serves first who has been ready longest, and gives nobody up. -/
def Move.IsOrderly : Move σ ν ε → Prop
  | .turn place => place = 0
  | .cancel _ _ => False
  | .call _ | .task _ _ | .change _ | .write _ => True

/-- The thread whose turn an entry of the queue is. -/
def Handle.thread? : Handle ν ε → Option Nat
  | .begin k | .resume k _ _ => some k
  | .settle _ _ _ | .count _ _ _ => none

/-- An entry of the queue speaks of the first `n` threads and the first `g` groups. What is settled
for a thread is an attempt, and a turn brings nothing but itself. -/
def Handle.IsTidy (n g : Nat) : Handle ν ε → Prop
  | .begin k => k < n
  | .resume _ wait r => (∀ g', wait = .group g' → g' < g) ∧ (wait = .turn → r = .ok none)
  | .settle _ wait _ => ∃ a call, wait = .attempt a call
  | .count g' _ _ => g' < g

theorem Handle.IsTidy.mono {n n' g g' : Nat} {handle : Handle ν ε} (hh : handle.IsTidy n g)
    (hn : n ≤ n') (hg : g ≤ g') : handle.IsTidy n' g' := by
  cases handle with
  | begin k => exact Nat.lt_of_lt_of_le hh hn
  | resume k wait r => exact ⟨fun i hi => Nat.lt_of_lt_of_le (hh.1 i hi) hg, hh.2⟩
  | settle k wait r => exact hh
  | count i k r => exact Nat.lt_of_lt_of_le hh hg

/-- With a stand-in no course waits for an attempt. -/
theorem Host.follow_ne_call {h : Host σ ν ε} (hl : h.standIn ≠ none) (l : Loading ν)
    (requester : Option String) (course : Course σ ν ε ν) :
    (∀ w call a next, h.follow l requester course ≠ .join w call a next)
      ∧ ∀ w call next, h.follow l requester course ≠ .start w call next := by
  obtain ⟨s, hl⟩ := Option.ne_none_iff_exists'.mp hl
  induction course with
  | done world result => simp [follow]
  | ask world request next ih =>
      cases request with
      | pause => simp [follow]
      | exports config path =>
          unfold follow
          dsimp only
          split <;> exact ih _ _
      | load config path => simp [follow, hl]
      | loadAll config paths =>
          unfold follow
          dsimp only
          split
          · exact ih _ _
          · simp

/-- Nobody waits for a group without loads. -/
theorem Host.paths_ne_nil_of_follow {h : Host σ ν ε} {l : Loading ν} {requester : Option String}
    {course : Course σ ν ε ν} {w : σ} {config : ConfigId} {paths : List String}
    {next : σ → Response ν ε → Course σ ν ε ν}
    (hf : h.follow l requester course = .group w config paths next) : paths ≠ [] := by
  induction course with
  | done world result => simp [follow] at hf
  | ask world request rest ih =>
      cases request with
      | pause => simp [follow] at hf
      | exports c path =>
          unfold follow at hf
          dsimp only at hf
          split at hf <;> exact ih _ _ hf
      | load c path =>
          unfold follow at hf
          dsimp only at hf
          split at hf
          · cases hf
          · split at hf
            · exact ih _ _ hf
            · exact ih _ _ hf
            · cases hf
            · cases hf
      | loadAll c ps =>
          unfold follow at hf
          dsimp only at hf
          split at hf
          · exact ih _ _ hf
          · next hnil =>
            cases hf
            exact fun hc => hnil (List.isEmpty_iff.mpr hc)

namespace Machine

variable {h : Host σ ν ε} {m m' : Machine σ ν ε}

/-! ## What can come of an orderly move -/

/-- A thread has the turn and takes up a course; `m₀` is the state in which it does so. -/
inductive TurnOf (h : Host σ ν ε) (m : Machine σ ν ε) (k : Nat) (t : Thread σ ν ε) :
    Machine σ ν ε → Course σ ν ε ν → Prop
  /-- It begins. -/
  | begin {q : List (Handle ν ε)} {start : σ → Course σ ν ε ν}
      (hq : m.queue = .begin k :: q) (hs : t.state = .fresh start) :
      TurnOf h m k t { m with queue := q } (start m.world)
  /-- It goes on from the response to a wait. -/
  | resume {q : List (Handle ν ε)} {wait : Wait} {response : Response ν ε}
      {next : σ → Response ν ε → Course σ ν ε ν}
      (hq : m.queue = .resume k wait response :: q) (hs : t.state = .waiting wait next) :
      TurnOf h m k t { m with queue := q } (next m.world response)
  /-- It goes on from the answer of a stand-in. -/
  | answer {q : List (Handle ν ε)} {wait : Wait} {response : Response ν ε} {s : StandIn σ ν ε}
      {config : ConfigId} {path : String} {next : σ → Response ν ε → Course σ ν ε ν}
      (hl : h.standIn = some s) (hq : m.queue = .resume k wait response :: q)
      (hs : t.state = .asking 0 config path next) :
      TurnOf h m k t (answer s { m with queue := q } config path).1
        (next (answer s { m with queue := q } config path).1.world
          (answer s { m with queue := q } config path).2)

/-- What can come of an orderly move. -/
inductive Orderly (h : Host σ ν ε) (m : Machine σ ν ε) : Machine σ ν ε → Prop
  | change (f : σ → σ) : Orderly h m { m with world := f m.world }
  | write (f : List (Registry ν) → List (Registry ν)) : Orderly h m (m.writeRegistries f)
  | spawn (requester : Option String) (start : σ → Course σ ν ε ν) :
      Orderly h m (m.spawn .hostCall requester start)
  /-- The entry concerns nobody any more. -/
  | idle {handle : Handle ν ε} {q : List (Handle ν ε)} {k : Nat} (hq : m.queue = handle :: q)
      (hk : handle.thread? = some k)
      (hbegin : handle = .begin k → ∀ t start, m.threads[k]? = some t → t.state ≠ .fresh start)
      (hresume : ∀ wait r, handle = .resume k wait r →
        ∀ t next, m.threads[k]? = some t → t.state ≠ .waiting wait next)
      (hasking : ∀ t left config path next, m.threads[k]? = some t →
        t.state = .asking left config path next → (∃ wait r, handle = .resume k wait r) →
        h.standIn = none) :
      Orderly h m { m with queue := q }
  /-- A response is on its way. -/
  | settle {q : List (Handle ν ε)} {k : Nat} {wait : Wait} {response : Response ν ε}
      (hq : m.queue = .settle k wait response :: q) :
      Orderly h m (({ m with queue := q } : Machine σ ν ε).push [.resume k wait response])
  /-- A member of a group is counted. -/
  | count {q : List (Handle ν ε)} {group thread : Nat} {response : Response ν ε}
      (hq : m.queue = .count group thread response :: q) :
      Orderly h m (settleGroup { m with queue := q } group thread response)
  /-- A thread that waits for a stand-in lets others run once more. -/
  | linger {q : List (Handle ν ε)} {k left : Nat} {t : Thread σ ν ε} {wait : Wait}
      {response : Response ν ε} {config : ConfigId} {path : String}
      {next : σ → Response ν ε → Course σ ν ε ν} (hq : m.queue = .resume k wait response :: q)
      (hk : m.threads[k]? = some t) (hs : t.state = .asking (left + 1) config path next) :
      Orderly h m ((({ m with queue := q } : Machine σ ν ε).setState k
        (.asking left config path next)).push [.resume k .turn (.ok none)])
  /-- A thread runs. -/
  | turn {k : Nat} {t : Thread σ ν ε} {m₀ : Machine σ ν ε} {course : Course σ ν ε ν}
      (hk : m.threads[k]? = some t) (ht : TurnOf h m k t m₀ course) :
      Orderly h m (Machine.advance h m₀ k t course)

theorem orderly_of_begin {q : List (Handle ν ε)} {k : Nat} (hq : m.queue = .begin k :: q) :
    Orderly h m (Machine.begin h { m with queue := q } k) := by
  have hidle : (∀ t start, m.threads[k]? = some t → t.state ≠ .fresh start) →
      Orderly h m { m with queue := q } := fun hnot =>
    .idle hq rfl (fun _ => hnot) (by simp) (by simp)
  unfold Machine.begin
  split
  · next hnone => exact hidle fun t _ ht => by cases hnone.symm.trans ht
  · next t hk =>
    split
    · next start hs => exact .turn hk (.begin hq hs)
    · next hnot =>
      refine hidle fun t' start ht' hs => ?_
      cases hk.symm.trans ht'
      exact hnot start hs

theorem orderly_of_resume {q : List (Handle ν ε)} {k : Nat} {wait : Wait} {response : Response ν ε}
    (hq : m.queue = .resume k wait response :: q) :
    Orderly h m (Machine.resume h { m with queue := q } k wait response) := by
  have hidle : (∀ t next, m.threads[k]? = some t → t.state ≠ .waiting wait next) →
      (∀ t left config path next, m.threads[k]? = some t →
        t.state = .asking left config path next → h.standIn = none) →
      Orderly h m { m with queue := q } := fun hnot hasking =>
    .idle hq rfl (by simp) (by rintro _ _ ⟨⟩; exact hnot)
      fun t left config path next ht hs _ => hasking t left config path next ht hs
  unfold Machine.resume
  split
  · next hnone =>
    refine hidle (fun t _ ht => ?_) fun t _ _ _ _ ht => ?_ <;> cases hnone.symm.trans ht
  · next t hk =>
    have hsame : ∀ {t'}, m.threads[k]? = some t' → t' = t := fun ht' =>
      Option.some.inj (ht'.symm.trans hk)
    split
    · next wait' next hs =>
      split
      · next hw =>
        subst hw
        exact .turn hk (.resume hq hs)
      · next hw =>
        refine hidle (fun t' _ ht' hs' => ?_) fun t' _ _ _ _ ht' hs' => ?_
        · rw [hsame ht', hs] at hs'
          injection hs' with hs'
          exact hw hs'.symm
        · rw [hsame ht', hs] at hs'
          cases hs'
    · next left config path next hs =>
      split
      · next hl =>
        refine hidle (fun t' _ ht' hs' => ?_) fun _ _ _ _ _ _ _ => hl
        rw [hsame ht', hs] at hs'
        cases hs'
      · exact .linger hq hk hs
      · next s hl => exact .turn hk (.answer hl hq hs)
    · next hnot hnot' =>
      refine hidle (fun t' _ ht' hs' => ?_) fun t' _ _ _ _ ht' hs' => ?_
      · exact hnot _ _ (hsame ht' ▸ hs')
      · exact absurd (hsame ht' ▸ hs') (hnot' _ _ _ _)

/-- **Every orderly move is one of these things.** -/
theorem Goes.orderly (hg : Goes h Move.IsOrderly m m') : Orderly h m m' := by
  obtain ⟨e, he, hm⟩ := hg
  cases e with
  | turn place =>
      obtain rfl : place = 0 := he
      simp only [move, step, Option.map_eq_some_iff] at hm
      obtain ⟨handle, hhead, rfl⟩ := hm
      obtain ⟨q, hq⟩ : ∃ q, m.queue = handle :: q := by
        cases hqueue : m.queue with
        | nil => simp [hqueue] at hhead
        | cons first q =>
            rw [hqueue] at hhead
            injection hhead with hhead
            exact ⟨q, by rw [hhead]⟩
      rw [hq, List.eraseIdx_zero, List.tail_cons]
      cases handle with
      | begin k => exact orderly_of_begin hq
      | resume k wait response => exact orderly_of_resume hq
      | settle k wait response => exact .settle hq
      | count group thread response => exact .count hq
  | call start =>
      injection hm with hm
      exact hm ▸ .spawn none start
  | task k start =>
      simp only [move, Option.map_eq_some_iff] at hm
      obtain ⟨t, -, rfl⟩ := hm
      exact .spawn t.requester start
  | cancel k e => exact he.elim
  | change f =>
      injection hm with hm
      exact hm ▸ .change f
  | write f =>
      injection hm with hm
      exact hm ▸ .write f

/-- What holds at rest and is kept by all that can come of an orderly move holds in every orderly
run. -/
theorem ReachesBy.orderly_invariant {I : Machine σ ν ε → Prop} {m₀ : Machine σ ν ε}
    (hr : ReachesBy h Move.IsOrderly m₀ m) (h₀ : I m₀)
    (hstep : ∀ {m m' : Machine σ ν ε}, I m → Orderly h m m' → I m') : I m := by
  induction hr with
  | refl => exact h₀
  | tail _ hg ih => exact hstep ih hg.orderly

/-! ## A turn -/

theorem answer_spec (s : StandIn σ ν ε) (m : Machine σ ν ε) (config : ConfigId) (path : String) :
    (answer s m config path).1.threads = m.threads ∧ (answer s m config path).1.groups = m.groups
      ∧ (answer s m config path).1.queue = m.queue := by
  unfold answer
  split
  · exact ⟨rfl, rfl, rfl⟩
  · split
    · exact ⟨rfl, rfl, rfl⟩
    · split <;> exact ⟨rfl, rfl, rfl⟩

/-- With its turn a thread takes its entry out of the queue; the threads and the groups are as
before. -/
theorem TurnOf.spec {k : Nat} {t : Thread σ ν ε} {m₀ : Machine σ ν ε} {course : Course σ ν ε ν}
    (ht : TurnOf h m k t m₀ course) :
    m₀.threads = m.threads ∧ m₀.groups = m.groups
      ∧ ∃ handle q, m.queue = handle :: q ∧ m₀.queue = q ∧ handle.thread? = some k := by
  cases ht with
  | begin hq hs => exact ⟨rfl, rfl, _, _, hq, rfl, rfl⟩
  | resume hq hs => exact ⟨rfl, rfl, _, _, hq, rfl, rfl⟩
  | @answer q wait response s config path next hl hq hs =>
      obtain ⟨hthreads, hgroups, hqueue⟩ := answer_spec s { m with queue := q } config path
      exact ⟨hthreads, hgroups, _, _, hq, hqueue, rfl⟩

/-- A turn is a move. -/
theorem TurnOf.goes {k : Nat} {t : Thread σ ν ε} {m₀ : Machine σ ν ε} {course : Course σ ν ε ν}
    (ht : TurnOf h m k t m₀ course) (hk : m.threads[k]? = some t) :
    Goes h Move.IsOrderly m (Machine.advance h m₀ k t course) := by
  have hstep : ∀ {handle q}, m.queue = handle :: q →
      perform h { m with queue := q } handle = Machine.advance h m₀ k t course →
      Goes h Move.IsOrderly m (Machine.advance h m₀ k t course) := by
    intro handle q hq hperform
    refine ⟨.turn 0, rfl, ?_⟩
    simp only [move, step, hq, List.getElem?_cons_zero, Option.map_some, List.eraseIdx_zero,
      List.tail_cons, hperform]
  cases ht with
  | @begin q start hq hs => exact hstep hq (perform_begin (m := { m with queue := q }) hk hs)
  | @resume q wait response next hq hs =>
      exact hstep hq (perform_resume (m := { m with queue := q }) hk hs response)
  | answer hl hq hs =>
      refine hstep hq ?_
      simp only [perform, Machine.resume, hk, hs, hl]

theorem TurnOf.not_isEnded {k : Nat} {t : Thread σ ν ε} {m₀ : Machine σ ν ε}
    {course : Course σ ν ε ν} (ht : TurnOf h m k t m₀ course) : ¬ t.state.IsEnded := by
  rintro ⟨r, hr⟩
  cases ht with
  | begin hq hs => cases hs.symm.trans hr
  | resume hq hs => cases hs.symm.trans hr
  | answer hl hq hs => cases hs.symm.trans hr

/-- A new member of a group belongs to a new group. -/
theorem Adds.member_eq {n g j g' : Nat} {requester : Option String} {halt : Halt σ ν ε}
    {t : Thread σ ν ε} (hadd : Adds h n g requester halt j t) (hrole : t.role = .member g') :
    g' = g ∧ ∃ w config paths next, halt = .group w config paths next := by
  cases halt with
  | group w config paths next =>
      obtain ⟨_, _, _, _, hnew, _⟩ := hadd
      rw [hrole] at hnew
      injection hnew with hnew
      exact ⟨hnew, w, config, paths, next, rfl⟩
  | start w call next => cases hrole.symm.trans hadd.2.1
  | pause w next => exact hadd.elim
  | join w call a next => exact hadd.elim
  | standIn w left c p next => exact hadd.elim
  | done w r => exact hadd.elim

/-- What a thread that runs can put into the queue. Threads before `n` are old, those before `n'`
are there afterwards, and `s` is the state that the thread comes to. -/
inductive Sent (n n' k : Nat) (role : Role) (s : ThreadState σ ν ε) : Handle ν ε → Prop
  /-- A new thread will begin. -/
  | begin {j : Nat} (hj : n ≤ j) (hj' : j < n') : Sent n n' k role s (.begin j)
  /-- The thread lets others run. -/
  | turn : Sent n n' k role s (.resume k .turn (.ok none))
  /-- An attempt has ended. -/
  | settle (j a : Nat) (call : LoadCall) (r : Response ν ε) :
      Sent n n' k role s (.settle j (.attempt a call) r)
  /-- A member of a group has ended. -/
  | count {g : Nat} {r : Except ε ν} (hrole : role = .member g) (hs : s = .ended r) :
      Sent n n' k role s (.count g k (r.map some))

/-- **What a thread that runs adds to the queue.** A member of a group that ends is counted. -/
theorem advance_sends {k : Nat} {t : Thread σ ν ε} (course : Course σ ν ε ν)
    (hk : m.threads[k]? = some t) :
    ∃ more t', (Machine.advance h m k t course).queue = m.queue ++ more
      ∧ (Machine.advance h m k t course).threads[k]? = some t' ∧ t'.role = t.role
      ∧ Leaves m.threads.length m.groups.length (h.follow m.loading t.requester course) t'.state
      ∧ (∀ handle ∈ more, Sent m.threads.length (Machine.advance h m k t course).threads.length k
          t.role t'.state handle)
      ∧ ∀ g r, t.role = .member g → t'.state = .ended r → more = [.count g k (r.map some)] := by
  obtain ⟨t', ht', hrole, -, -⟩ := advance_old (h := h) course hk hk
  have hleaves := advance_self hk ht'
  have hquiet : (∀ w r, h.follow m.loading t.requester course ≠ .done w r) →
      ∀ {r}, t'.state ≠ .ended r := by
    intro hnot r hs
    rw [hs] at hleaves
    cases hf : h.follow m.loading t.requester course <;> rw [hf] at hleaves <;>
      first | exact hnot _ _ hf | cases hleaves
  refine (?_ : ∃ more, (Machine.advance h m k t course).queue = m.queue ++ more ∧ _).imp
    fun more hmore => ⟨t', hmore.1, ht', hrole, hleaves, hmore.2⟩
  cases hf : h.follow m.loading t.requester course with
  | pause w next =>
      refine ⟨[.resume k .turn (.ok none)], by unfold Machine.advance; rw [hf]; rfl, ?_, ?_⟩
      · rintro handle hmem
        rw [List.mem_singleton.mp hmem]
        exact .turn
      · exact fun g r _ hs => absurd hs (hquiet (by simp [hf]))
  | standIn w left config path next =>
      refine ⟨[.resume k .turn (.ok none)], by unfold Machine.advance; rw [hf]; rfl, ?_, ?_⟩
      · rintro handle hmem
        rw [List.mem_singleton.mp hmem]
        exact .turn
      · exact fun g r _ hs => absurd hs (hquiet (by simp [hf]))
  | join w call a next =>
      exact ⟨[], by unfold Machine.advance; rw [hf, List.append_nil]; rfl, by simp,
        fun g r _ hs => absurd hs (hquiet (by simp [hf]))⟩
  | start w call next =>
      refine ⟨[.begin m.threads.length], by unfold Machine.advance; rw [hf]; rfl, ?_, ?_⟩
      · rintro handle hmem
        rw [List.mem_singleton.mp hmem]
        refine .begin (Nat.le_refl _) ?_
        unfold Machine.advance
        rw [hf]
        simp [halt, Machine.join, setState, onThread, startAttempt, spawn, spawnAll]
      · exact fun g r _ hs => absurd hs (hquiet (by simp [hf]))
  | group w config paths next =>
      refine ⟨_, advance_group_queue hf, ?_, ?_⟩
      · rintro handle hmem
        obtain ⟨i, hi, rfl⟩ := List.mem_map.mp hmem
        have hlt : i < paths.length := List.mem_range.mp hi
        have hthread := advance_group_thread hk hf (List.getElem?_eq_getElem hlt)
        exact .begin (Nat.le_add_right _ _) (List.getElem?_eq_some_iff.mp hthread).1
      · exact fun g r _ hs => absurd hs (hquiet (by simp [hf]))
  | done w result =>
      cases hkind : t.role with
      | attempt c p =>
          obtain ⟨l, r, -, -, hqueue, -⟩ := advance_attempt_done hk hkind hf
          refine ⟨_, hqueue, ?_, by simp⟩
          intro handle hmem
          obtain ⟨w, -, rfl⟩ := List.mem_map.mp hmem
          exact .settle _ _ _ _
      | member g =>
          have hthread := advance_done hk (by simp [hkind]) hf
          rw [ht'] at hthread
          injection hthread with hthread
          have hstate : t'.state = .ended result := by rw [hthread]
          refine ⟨[.count g k (result.map some)], ?_, ?_, ?_⟩
          · unfold Machine.advance
            rw [hf, hkind]
            rfl
          · intro handle hmem
            rw [List.mem_singleton.mp hmem]
            exact .count rfl hstate
          · rintro g' r ⟨⟩ hs
            rw [hstate] at hs
            injection hs with hs
            rw [hs]
      | hostCall =>
          refine ⟨[], ?_, by simp, by simp⟩
          unfold Machine.advance
          rw [hf, hkind, List.append_nil]
          rfl

/-! ## Threads and the queue -/

/-- **Who is there stays there, and its state changes in its own turns only.** Then it is not fresh
any more, and if it was, the turn was its beginning. -/
theorem Orderly.thread (ho : Orderly h m m') {j : Nat} {t : Thread σ ν ε}
    (hj : m.threads[j]? = some t) :
    ∃ t', m'.threads[j]? = some t' ∧ t'.role = t.role
      ∧ (t'.state = t.state
        ∨ (∀ start, t'.state ≠ .fresh start) ∧ ∃ handle q, m.queue = handle :: q
          ∧ handle.thread? = some j ∧ ∀ start, t.state = .fresh start → handle = .begin j) := by
  cases ho with
  | change f => exact ⟨t, hj, rfl, .inl rfl⟩
  | write f => exact ⟨t, hj, rfl, .inl rfl⟩
  | idle => exact ⟨t, hj, rfl, .inl rfl⟩
  | settle => exact ⟨t, hj, rfl, .inl rfl⟩
  | @count q group thread response =>
      exact ⟨t, by rw [(settleGroup_threads _ group thread response).1]; exact hj, rfl, .inl rfl⟩
  | spawn requester start =>
      refine ⟨t, ?_, rfl, .inl rfl⟩
      rw [← hj]
      exact List.getElem?_append_left (List.getElem?_eq_some_iff.mp hj).1
  | @linger q k left t₀ wait response config path next hq hk hs =>
      refine ⟨_, getElem?_modify_eq_some.mpr ⟨t, hj, rfl⟩, ?_⟩
      by_cases hkj : k = j
      · subst hkj
        cases hk.symm.trans hj
        rw [if_pos rfl]
        exact ⟨rfl, .inr ⟨by simp, _, _, hq, rfl, fun _ hfresh => by cases hs.symm.trans hfresh⟩⟩
      · rw [if_neg hkj]
        exact ⟨rfl, .inl rfl⟩
  | @turn k t₀ m₀ course hk ht =>
      obtain ⟨hthreads, -, handle, q, hq, -, hhandle⟩ := ht.spec
      obtain ⟨t', ht', hrole, -, hstate⟩ :=
        advance_old (h := h) (m := m₀) course (hthreads ▸ hk) (hthreads ▸ hj)
      refine ⟨t', ht', hrole, ?_⟩
      by_cases hjk : j = k
      · subst hjk
        cases hk.symm.trans hj
        have hleaves := advance_self (m := m₀) (hthreads ▸ hk) ht'
        refine .inr ⟨hleaves.ne_fresh, handle, q, hq, hhandle, fun start hfresh => ?_⟩
        cases ht with
        | begin hq' hs => exact (List.cons.inj (hq.symm.trans hq')).1
        | resume hq' hs => cases hs.symm.trans hfresh
        | answer hl hq' hs => cases hs.symm.trans hfresh
      · exact .inl (hstate hjk)

/-- Who comes to be there belongs to no group of before. -/
theorem Orderly.new (ho : Orderly h m m') {j : Nat} {t' : Thread σ ν ε}
    (hj : m'.threads[j]? = some t') (hge : m.threads.length ≤ j) {g : Nat}
    (hg : g < m.groups.length) : t'.role ≠ .member g := by
  have hlt : ∀ {ts : List (Thread σ ν ε)}, ts.length = m.threads.length → ts[j]? ≠ some t' := by
    intro ts hlen hts
    have := (List.getElem?_eq_some_iff.mp hts).1
    omega
  cases ho with
  | change f => exact absurd hj (hlt rfl)
  | write f => exact absurd hj (hlt rfl)
  | idle => exact absurd hj (hlt rfl)
  | settle => exact absurd hj (hlt rfl)
  | @count q group thread response =>
      rw [(settleGroup_threads _ group thread response).1] at hj
      exact absurd hj (hlt rfl)
  | linger => exact absurd hj (hlt (List.length_modify _ _ _))
  | spawn requester start =>
      rcases getElem?_append_singleton hj with hj | ⟨-, rfl⟩
      · exact absurd hj (hlt rfl)
      · simp
  | @turn k t m₀ course hk ht =>
      obtain ⟨hthreads, hgroups, -⟩ := ht.spec
      rcases advance_thread (m := m₀) (hthreads ▸ hk) hj with ⟨t₀, h0, -⟩ | ⟨-, hadd, -⟩
      · rw [hthreads] at h0
        exact absurd (List.getElem?_eq_some_iff.mp h0).1 (Nat.not_lt.mpr hge)
      · intro hrole
        have hnew : g = m₀.groups.length := (hadd.member_eq hrole).1
        rw [hgroups] at hnew
        omega

theorem settleGroup_queue_append (m : Machine σ ν ε) (group thread : Nat)
    (response : Response ν ε) :
    ∃ more, (settleGroup m group thread response).queue = m.queue ++ more := by
  unfold settleGroup
  split
  · exact ⟨[], (List.append_nil _).symm⟩
  · dsimp only
    split
    · exact ⟨_, rfl⟩
    · exact ⟨[], (List.append_nil _).symm⟩

/-- **The queue is served from the front and grows at the end.** Either nobody has the turn, or the
first entry is taken out; who was to begin has begun then. -/
theorem Orderly.queue (ho : Orderly h m m') :
    ∃ more, (m'.queue = m.queue ++ more ∧ ∀ {j : Nat} {t : Thread σ ν ε}, m.threads[j]? = some t →
        ∃ t' : Thread σ ν ε, m'.threads[j]? = some t' ∧ t'.state = t.state)
      ∨ ∃ handle q, m.queue = handle :: q ∧ m'.queue = q ++ more
        ∧ ∀ {j : Nat} {t : Thread σ ν ε}, handle = .begin j → m.threads[j]? = some t →
          ∃ t' : Thread σ ν ε, m'.threads[j]? = some t' ∧ ∀ start, t'.state ≠ .fresh start := by
  cases ho with
  | change f => exact ⟨[], .inl ⟨(List.append_nil _).symm, fun hj => ⟨_, hj, rfl⟩⟩⟩
  | write f => exact ⟨[], .inl ⟨(List.append_nil _).symm, fun hj => ⟨_, hj, rfl⟩⟩⟩
  | spawn requester start =>
      refine ⟨_, .inl ⟨rfl, fun {j t} hj => ⟨t, ?_, rfl⟩⟩⟩
      rw [← hj]
      exact List.getElem?_append_left (List.getElem?_eq_some_iff.mp hj).1
  | idle hq hk hbegin _ _ =>
      refine ⟨[], .inr ⟨_, _, hq, (List.append_nil _).symm, ?_⟩⟩
      rintro j t rfl hj
      injection hk with hk
      subst hk
      exact ⟨t, hj, fun start => hbegin rfl t start hj⟩
  | settle hq => exact ⟨_, .inr ⟨_, _, hq, rfl, by simp⟩⟩
  | @count q group thread response hq =>
      obtain ⟨more, hmore⟩ := settleGroup_queue_append { m with queue := q } group thread response
      exact ⟨more, .inr ⟨_, _, hq, hmore, by simp⟩⟩
  | linger hq => exact ⟨_, .inr ⟨_, _, hq, rfl, by simp⟩⟩
  | @turn k t m₀ course hk ht =>
      obtain ⟨hthreads, -, handle, q, hq, hq', hhandle⟩ := ht.spec
      obtain ⟨more, t', hqueue, ht', -, hleaves, -⟩ :=
        advance_sends (h := h) (m := m₀) course (hthreads ▸ hk)
      refine ⟨more, .inr ⟨handle, q, hq, by rw [hqueue, hq'], ?_⟩⟩
      rintro j t rfl -
      injection hhandle with hhandle
      subst hhandle
      exact ⟨t', ht', hleaves.ne_fresh⟩

/-! ## The queue speaks of what there is -/


/-- The invariant of what the queue and the threads speak of. -/
structure Tidy (m : Machine σ ν ε) : Prop where
  entry : ∀ {handle}, handle ∈ m.queue → handle.IsTidy m.threads.length m.groups.length
  member : ∀ {j : Nat} {t : Thread σ ν ε} {g}, m.threads[j]? = some t → t.role = .member g →
    g < m.groups.length

theorem tidy_atRest (world : σ) (registries : List (Registry ν)) :
    Tidy (atRest world registries : Machine σ ν ε) where
  entry := by intro handle hq; simp [atRest] at hq
  member := by intro j t g hj; simp [atRest] at hj

theorem groups_length_settleGroup (m : Machine σ ν ε) (group thread : Nat)
    (response : Response ν ε) :
    (settleGroup m group thread response).groups.length = m.groups.length := by
  unfold settleGroup
  split
  · rfl
  · dsimp only
    split <;> simp [push]

/-- A thread that runs keeps all tidy. -/
theorem Tidy.advance {m₀ : Machine σ ν ε} (hI : Tidy m₀) {k : Nat} {t : Thread σ ν ε}
    (hk : m₀.threads[k]? = some t) (course : Course σ ν ε ν) :
    Tidy (Machine.advance h m₀ k t course) := by
  have hthreads := length_le_advance (h := h) m₀ k t course
  have hgroups : m₀.groups.length ≤ (Machine.advance h m₀ k t course).groups.length := by
    rcases advance_groups (h := h) (m := m₀) k t course with he | ⟨_, _, _, _, _, he⟩ <;>
      simp [he]
  refine ⟨fun {handle} hmem => ?_, fun {j t'} g hj hrole => ?_⟩
  · obtain ⟨more, t', hqueue, -, -, -, hmore, -⟩ := advance_sends (h := h) course hk
    rw [hqueue] at hmem
    rcases List.mem_append.mp hmem with hmem | hmem
    · exact (hI.entry hmem).mono hthreads hgroups
    · cases hmore handle hmem with
      | begin hj hj' => exact hj'
      | turn => exact ⟨by simp, fun _ => rfl⟩
      | settle j a call r => exact ⟨a, call, rfl⟩
      | count hrole hs => exact Nat.lt_of_lt_of_le (hI.member hk hrole) hgroups
  · rcases advance_thread hk hj with ⟨t₀, h0, hrole', -⟩ | ⟨-, hadd, -⟩
    · exact Nat.lt_of_lt_of_le (hI.member h0 (hrole' ▸ hrole)) hgroups
    · -- a new member belongs to a new group
      obtain ⟨rfl, w, config, paths, next, hf⟩ := hadd.member_eq hrole
      rw [advance_group hf]
      simp

/-- **Every orderly move keeps all tidy.** -/
theorem tidy_step (hI : Tidy m) (ho : Orderly h m m') : Tidy m' := by
  have htail : ∀ {handle q}, m.queue = handle :: q →
      ∀ {e}, e ∈ q → e.IsTidy m.threads.length m.groups.length :=
    fun hq => fun he => hI.entry (hq ▸ List.mem_cons_of_mem _ he)
  cases ho with
  | change f => exact ⟨hI.entry, hI.member⟩
  | write f => exact ⟨hI.entry, hI.member⟩
  | idle hq => exact ⟨htail hq, hI.member⟩
  | spawn requester start =>
      have hlen : m.threads.length ≤ (m.spawn .hostCall requester start).threads.length := by
        simp [spawn, spawnAll]
      refine ⟨fun {handle} hmem => ?_, fun {j t} g hj hrole => ?_⟩
      · rcases List.mem_append.mp hmem with hmem | hmem
        · exact (hI.entry hmem).mono hlen (Nat.le_refl _)
        · obtain rfl : handle = .begin m.threads.length := by simpa using hmem
          simp [Handle.IsTidy, spawn, spawnAll]
      · rcases getElem?_append_singleton hj with hj | ⟨rfl, rfl⟩
        · exact hI.member hj hrole
        · cases hrole
  | @settle q k wait response hq =>
      obtain ⟨a, call, rfl⟩ := hI.entry (hq ▸ List.mem_cons_self)
      refine ⟨fun {handle} hmem => ?_, hI.member⟩
      rcases List.mem_append.mp hmem with hmem | hmem
      · exact htail hq hmem
      · rw [List.mem_singleton.mp hmem]
        exact ⟨by simp, by simp⟩
  | @count q group thread response hq =>
      have hthreads := (settleGroup_threads { m with queue := q } group thread response).1
      have hgroups := groups_length_settleGroup { m with queue := q } group thread response
      refine ⟨fun {handle} hmem => ?_, fun {j t} g hj hrole => ?_⟩
      · rw [hthreads, hgroups]
        rcases settleGroup_queue hmem with hmem | ⟨G, r, hG, rfl, -⟩
        · exact htail hq hmem
        · refine ⟨?_, by simp⟩
          rintro g' ⟨⟩
          exact (List.getElem?_eq_some_iff.mp hG).1
      · rw [hgroups]
        rw [hthreads] at hj
        exact hI.member hj hrole
  | @linger q k left t wait response config path next hq hk hs =>
      refine ⟨fun {handle} hmem => ?_, fun {j t'} g hj hrole => ?_⟩
      · have hlen : (({ m with queue := q } : Machine σ ν ε).setState k
            (.asking left config path next)).threads.length = m.threads.length :=
          List.length_modify _ _ _
        show handle.IsTidy (List.length _) m.groups.length
        rcases List.mem_append.mp hmem with hmem | hmem
        · exact hlen ▸ htail hq hmem
        · rw [List.mem_singleton.mp hmem]
          exact ⟨by simp, fun _ => rfl⟩
      · obtain ⟨t₀, h0, rfl⟩ := getElem?_modify_eq_some.mp hj
        refine hI.member h0 (Eq.trans ?_ hrole)
        split <;> rfl
  | @turn k t m₀ course hk ht =>
      obtain ⟨hthreads, hgroups, handle, q, hq, hq', -⟩ := ht.spec
      refine Tidy.advance ⟨fun hmem => ?_, fun hj hrole => ?_⟩ (hthreads ▸ hk) course
      · rw [hthreads, hgroups]
        exact htail hq (hq' ▸ hmem)
      · rw [hgroups]
        exact hI.member (hthreads ▸ hj) hrole

theorem tidy_reaches {world : σ} {registries : List (Registry ν)}
    (hr : ReachesBy h Move.IsOrderly (atRest world registries) m) : Tidy m :=
  hr.orderly_invariant (tidy_atRest world registries) tidy_step

/-! ## Who waits for a turn gets one -/

/-- The invariant of the threads that wait for nothing but a turn. -/
structure Prompt (h : Host σ ν ε) (m : Machine σ ν ε) : Prop where
  fresh : ∀ {k : Nat} {t : Thread σ ν ε} {start}, m.threads[k]? = some t →
    t.state = .fresh start → Handle.begin k ∈ m.queue
  turn : ∀ {k : Nat} {t : Thread σ ν ε} {next}, m.threads[k]? = some t →
    t.state = .waiting .turn next → ∃ r, Handle.resume k .turn r ∈ m.queue
  /-- There is a stand-in if somebody waits for it. -/
  asking : ∀ {k : Nat} {t : Thread σ ν ε} {left c p next}, m.threads[k]? = some t →
    t.state = .asking left c p next → h.standIn ≠ none ∧ ∃ wait r, Handle.resume k wait r ∈ m.queue
  /-- Attempts are waited for if there is none. -/
  attempt : ∀ {k : Nat} {t : Thread σ ν ε} {a call next}, m.threads[k]? = some t →
    t.state = .waiting (.attempt a call) next → h.standIn = none

theorem prompt_atRest (world : σ) (registries : List (Registry ν)) :
    Prompt h (atRest world registries : Machine σ ν ε) where
  fresh := by intro k t start hk; simp [atRest] at hk
  turn := by intro k t next hk; simp [atRest] at hk
  asking := by intro k t left c p next hk; simp [atRest] at hk
  attempt := by intro k t a call next hk; simp [atRest] at hk

/-- Who waits for a stand-in has asked it. -/
theorem standIn_of_leaves {n g left : Nat} {halt : Halt σ ν ε} {c : ConfigId} {p : String}
    {next : σ → Response ν ε → Course σ ν ε ν} (hleaves : Leaves n g halt (.asking left c p next)) :
    ∃ w, halt = .standIn w left c p next := by
  cases halt with
  | standIn w left' c' p' next' =>
      injection hleaves with h1 h2 h3 h4
      exact ⟨w, by rw [h1, h2, h3, h4]⟩
  | pause w next' => cases hleaves
  | join w call a next' => cases hleaves
  | start w call next' => cases hleaves
  | group w c' paths next' => cases hleaves
  | done w r =>
      obtain ⟨r', hr'⟩ := hleaves
      cases hr'

/-- The thread `k`, in the state `s`, finds in the queue what it waits for. -/
def IsReady (h : Host σ ν ε) (queue : List (Handle ν ε)) (k : Nat) : ThreadState σ ν ε → Prop
  | .fresh _ => .begin k ∈ queue
  | .waiting .turn _ => ∃ r, .resume k .turn r ∈ queue
  | .waiting (.attempt _ _) _ => h.standIn = none
  | .asking _ _ _ _ => h.standIn ≠ none ∧ ∃ wait r, .resume k wait r ∈ queue
  | .waiting (.group _) _ | .ended _ => True

/-- The entries that a thread waits for are its own, and it does not mind the others. -/
theorem IsReady.mono {queue queue' : List (Handle ν ε)} {k : Nat} {s : ThreadState σ ν ε}
    (hs : IsReady h queue k s)
    (hkeep : ∀ {e : Handle ν ε}, e ∈ queue → e.thread? = some k → e ∈ queue') :
    IsReady h queue' k s := by
  cases s with
  | fresh start => exact hkeep hs rfl
  | asking left c p next => exact hs.imp id fun ⟨wait, r, hr⟩ => ⟨wait, r, hkeep hr rfl⟩
  | ended r => trivial
  | waiting wait next =>
      cases wait with
      | turn => exact hs.imp fun r hr => hkeep hr rfl
      | attempt a call => exact hs
      | group g => trivial

theorem prompt_iff : Prompt h m ↔
    ∀ {k : Nat} {t : Thread σ ν ε}, m.threads[k]? = some t → IsReady h m.queue k t.state := by
  refine ⟨fun hI k t hk => ?_, fun hready => ⟨fun hk hs => ?_, fun hk hs => ?_, fun hk hs => ?_,
    fun hk hs => ?_⟩⟩
  · cases hs : t.state with
    | fresh start => exact hI.fresh hk hs
    | asking left c p next => exact hI.asking hk hs
    | ended r => trivial
    | waiting wait next =>
        cases wait with
        | turn => exact hI.turn hk hs
        | attempt a call => exact hI.attempt hk hs
        | group g => trivial
  all_goals
    have hr := hready hk
    rw [hs] at hr
    exact hr

/-- A thread is ready if it was so before and its entries stay, or if it has got ready. -/
theorem Prompt.of_cases (hI : Prompt h m)
    (hcases : ∀ {j : Nat} {t' : Thread σ ν ε}, m'.threads[j]? = some t' →
      (∃ t, m.threads[j]? = some t ∧ t'.state = t.state
          ∧ ∀ {e : Handle ν ε}, e ∈ m.queue → e.thread? = some j → e ∈ m'.queue)
        ∨ IsReady h m'.queue j t'.state) :
    Prompt h m' := by
  refine prompt_iff.mpr fun {j t'} hj => ?_
  rcases hcases hj with ⟨t, ht, hstate, hkeep⟩ | hready
  · rw [hstate]
    exact (prompt_iff.mp hI ht).mono hkeep
  · exact hready

/-- What is ready stays so if its entries stay. -/
theorem Prompt.of_threads (hI : Prompt h m) (hthreads : m'.threads = m.threads)
    (hqueue : ∀ {handle k}, handle ∈ m.queue → handle.thread? = some k → handle ∈ m'.queue) :
    Prompt h m' :=
  hI.of_cases fun hj => .inl ⟨_, hthreads ▸ hj, rfl, hqueue⟩

/-- A thread that has run is ready again or waits for others. -/
theorem isReady_of_leaves {m₀ : Machine σ ν ε} {k : Nat} {t : Thread σ ν ε}
    {course : Course σ ν ε ν} {s : ThreadState σ ν ε}
    (hleaves : Leaves m₀.threads.length m₀.groups.length
      (h.follow m₀.loading t.requester course) s) :
    IsReady h (Machine.advance h m₀ k t course).queue k s := by
  cases s with
  | fresh start => exact absurd rfl (hleaves.ne_fresh start)
  | ended r => trivial
  | asking left c p next =>
      obtain ⟨w, hf⟩ := standIn_of_leaves hleaves
      refine ⟨fun hl => ?_, .turn, .ok none, ?_⟩
      · have hspec := h.follow_spec hl m₀.loading t.requester course
        rw [hf] at hspec
        exact hspec
      · unfold Machine.advance
        rw [hf]
        exact List.mem_append_right _ List.mem_cons_self
  | waiting wait next =>
      cases wait with
      | turn => exact ⟨_, resume_mem_of_leaves hleaves⟩
      | group g => trivial
      | attempt a call =>
          -- with a stand-in nobody comes to wait for an attempt
          show h.standIn = none
          by_contra hl
          obtain ⟨hjoin, hstart⟩ := h.follow_ne_call hl m₀.loading t.requester course
          rcases halt_of_leaves hleaves with ⟨w, next', hf⟩ | ⟨-, w, next', hf⟩
          · exact hjoin w call a next' hf
          · exact hstart w call next' hf

/-- A thread that runs gets ready again or waits for others, and those that it adds will begin. -/
theorem Prompt.advance {q : List (Handle ν ε)} {m₀ : Machine σ ν ε} {k : Nat} {t : Thread σ ν ε}
    (hI : Prompt h m) (hthreads : m₀.threads = m.threads) (hq : m₀.queue = q)
    (hkeep : ∀ {handle j}, handle ∈ m.queue → handle.thread? = some j → j ≠ k → handle ∈ q)
    (hk : m.threads[k]? = some t) (course : Course σ ν ε ν) :
    Prompt h (Machine.advance h m₀ k t course) := by
  rw [← hthreads] at hk
  refine hI.of_cases fun {j t'} hj => ?_
  rcases advance_thread hk hj with ⟨t₀, h0, -, -, hself, hother, -⟩ | ⟨-, hadd, -⟩
  · by_cases hjk : j = k
    · exact .inr (hjk ▸ isReady_of_leaves (hself hjk))
    · refine .inl ⟨t₀, hthreads ▸ h0, hother hjk, fun hmem he => ?_⟩
      exact queue_subset_advance m₀ k t course (hq ▸ hkeep hmem he hjk)
  · obtain ⟨start, hfresh⟩ := fresh_of_adds hadd
    rw [hfresh]
    exact .inr (begin_mem_of_adds hadd)

/-- **Every orderly move keeps ready who waits for a turn.** -/
theorem prompt_step (hI : Prompt h m) (ho : Orderly h m m') : Prompt h m' := by
  -- an entry that speaks of no thread is missed by nobody
  have htail : ∀ {handle q}, m.queue = handle :: q → handle.thread? = none →
      ∀ {e : Handle ν ε} {j}, e ∈ m.queue → e.thread? = some j → e ∈ q := by
    intro handle q hq hnone e j hmem he
    refine (List.mem_cons.mp (hq ▸ hmem)).resolve_left ?_
    rintro rfl
    cases hnone.symm.trans he
  have hothers : ∀ {handle q k}, m.queue = handle :: q → handle.thread? = some k →
      ∀ {e : Handle ν ε} {j}, e ∈ m.queue → e.thread? = some j → j ≠ k → e ∈ q := by
    intro handle q k hq hk e j hmem he hjk
    refine (List.mem_cons.mp (hq ▸ hmem)).resolve_left ?_
    rintro rfl
    exact hjk (Option.some.inj (he.symm.trans hk))
  cases ho with
  | change f => exact hI.of_threads rfl fun hmem _ => hmem
  | write f => exact hI.of_threads rfl fun hmem _ => hmem
  | settle hq =>
      exact hI.of_threads rfl fun hmem he => List.mem_append_left _ (htail hq rfl hmem he)
  | @count q group thread response hq =>
      exact hI.of_threads (settleGroup_threads _ group thread response).1 fun hmem he =>
        queue_subset_settleGroup { m with queue := q } group thread response (htail hq rfl hmem he)
  | spawn requester start =>
      refine hI.of_cases fun {j t} hj => ?_
      rcases getElem?_append_singleton hj with hj | ⟨rfl, rfl⟩
      · exact .inl ⟨t, hj, rfl, fun hmem _ => List.mem_append_left _ hmem⟩
      · exact .inr (List.mem_append_right _ (by simp))
  | @idle handle q k hq hk hbegin hresume hasking =>
      refine prompt_iff.mpr fun {j t} hj => ?_
      have hready := prompt_iff.mp hI hj
      by_cases hjk : j = k
      · subst hjk
        -- who needs the entry would not have let it pass
        have hkeep : ∀ {e}, e ∈ m.queue → e ≠ handle → e ∈ q := fun hmem hne =>
          (List.mem_cons.mp (hq ▸ hmem)).resolve_left hne
        cases hs : t.state with
        | fresh start =>
            rw [hs] at hready
            exact hkeep hready fun he => hbegin he.symm t start hj hs
        | ended r => trivial
        | asking left c p next =>
            rw [hs] at hready
            obtain ⟨hl, wait, r, hr⟩ := hready
            refine ⟨hl, wait, r, hkeep hr fun he => hl ?_⟩
            exact hasking t left c p next hj hs ⟨wait, r, he.symm⟩
        | waiting wait next =>
            rw [hs] at hready
            cases wait with
            | turn =>
                obtain ⟨r, hr⟩ := hready
                exact ⟨r, hkeep hr fun he => hresume _ r he.symm t next hj hs⟩
            | attempt a call => exact hready
            | group g => trivial
      · exact hready.mono fun hmem he => hothers hq hk hmem he hjk
  | @linger q k left t wait response config path next hq hk hs =>
      refine hI.of_cases fun {j t'} hj => ?_
      obtain ⟨t₀, h0, -, -, hself, hother, -⟩ := getElem?_setState_eq_some (m := m) hj
      by_cases hjk : j = k
      · rw [hself hjk, hjk]
        exact .inr ⟨(hI.asking hk hs).1, .turn, .ok none,
          List.mem_append_right _ List.mem_cons_self⟩
      · exact .inl ⟨t₀, h0, hother hjk, fun hmem he =>
          List.mem_append_left _ (hothers hq rfl hmem he hjk)⟩
  | @turn k t m₀ course hk ht =>
      obtain ⟨hthreads, -, handle, q, hq, hq', hhandle⟩ := ht.spec
      exact hI.advance hthreads hq' (hothers hq hhandle) hk course

theorem prompt_reaches {world : σ} {registries : List (Registry ν)}
    (hr : ReachesBy h Move.IsOrderly (atRest world registries) m) : Prompt h m :=
  hr.orderly_invariant (prompt_atRest world registries) prompt_step

end Machine

end SourceLoader
