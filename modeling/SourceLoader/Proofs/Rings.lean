import SourceLoader.Proofs.Calls

/-!
# No ring of waits

Every call that waits in the name of an attempt is noted, and noted waits never close a ring. So
attempts never wait for one another in a ring. Three things can add to the noted waits between
paths in flight. A call joins an attempt: it is refused if that closed a ring. An attempt begins:
old notes about its path count again, but nothing is noted for the path itself, so no ring goes
through it. An attempt ends: waits only go.

The other direction is weaker. A note outlives the wait it was made for: the wait may have failed,
or have been given up, while the attempt in whose name it was made goes on. When the path is in
flight once more the note counts again, and a load may be refused although nobody waits in a ring.
What is certain is that every edge on the way was waited for once, in the name of an attempt that
is still the current one.
-/

namespace SourceLoader

open Relation

/-! ## Chains -/

/-- With one more edge there are only such chains more that lead through it. -/
theorem transGen_insert {α : Type} {r r' : α → α → Prop} {x y : α}
    (hr : ∀ a b, r' a b → r a b ∨ (a = x ∧ b = y)) {a b : α} (hc : TransGen r' a b) :
    TransGen r a b ∨ (ReflTransGen r a x ∧ ReflTransGen r y b) := by
  induction hc with
  | single hab =>
      rcases hr _ _ hab with h | ⟨rfl, rfl⟩
      · exact Or.inl (TransGen.single h)
      · exact Or.inr ⟨ReflTransGen.refl, ReflTransGen.refl⟩
  | tail _ hbc ih =>
      rcases hr _ _ hbc with h | ⟨rfl, rfl⟩
      · rcases ih with ih | ⟨hax, hyb⟩
        · exact Or.inl (TransGen.tail ih h)
        · exact Or.inr ⟨hax, hyb.tail h⟩
      · rcases ih with ih | ⟨hax, _⟩
        · exact Or.inr ⟨ih.to_reflTransGen, ReflTransGen.refl⟩
        · exact Or.inr ⟨hax, ReflTransGen.refl⟩

/-- A chain of `r` that is no chain of `s` has an edge that `s` lacks. -/
theorem exists_edge_of_not_chain {α : Type} {r s : α → α → Prop} {a b : α}
    (hc : ReflTransGen r a b) (hn : ¬ ReflTransGen s a b) :
    ∃ x y, ReflTransGen r a x ∧ r x y ∧ ReflTransGen r y b ∧ ¬ s x y := by
  induction hc using ReflTransGen.head_induction_on with
  | refl => exact absurd ReflTransGen.refl hn
  | @head a c hac hcb ih =>
      by_cases hs : s a c
      · obtain ⟨x, y, hcx, hxy, hyb, hnot⟩ := ih fun h => hn (ReflTransGen.head hs h)
        exact ⟨x, y, ReflTransGen.head hac hcx, hxy, hyb, hnot⟩
      · exact ⟨a, c, ReflTransGen.refl, hac, hcb, hs⟩

/-! ## Noted waits -/

namespace Loading

variable {ν : Type} {l : Loading ν}

/-- Nothing waits for itself along noted waits. -/
def Acyclic (l : Loading ν) : Prop := ∀ r, ¬ TransGen l.Edge r r

/-- A wait that closes no ring may be noted. -/
theorem Acyclic.await (ha : l.Acyclic) {call : LoadCall} (hc : ¬ l.ClosesRing call) :
    (l.await call).Acyclic := by
  cases hclient : call.client with
  | none => unfold Loading.await; rw [hclient]; exact ha
  | some client =>
      intro r hr
      have hedge : ∀ x y, (l.await call).Edge x y →
          l.Edge x y ∨ (x = client.path ∧ y = call.path) := by
        rintro x y ⟨hmem, hload⟩
        rw [isLoading_await] at hload
        rcases mem_waits_await.mp hmem with hmem | ⟨rfl, k, hk⟩
        · exact Or.inl ⟨hmem, hload⟩
        · rw [hclient] at hk
          injection hk with hk
          subst hk
          exact Or.inr ⟨rfl, rfl⟩
      rcases transGen_insert hedge hr with hr | ⟨h1, h2⟩
      · exact ha r hr
      · exact hc ⟨client, hclient, h2.trans h1⟩

/-- An attempt may begin at a path for which nothing is noted. -/
theorem Acyclic.start (ha : l.Acyclic) {path : String} {k : Nat} (hw : l.waits.of path = []) :
    (l.start path k).Acyclic := by
  -- nothing leads on from the path, so a chain gets there at its end only
  have hsink : ∀ y, ¬ (l.start path k).Edge path y := by
    rintro y ⟨hmem, _⟩
    rw [show (l.start path k).waits = l.waits from rfl, hw] at hmem
    simp at hmem
  have hchain : ∀ a b, TransGen (l.start path k).Edge a b → TransGen l.Edge a b ∨ b = path := by
    have hedge : ∀ a b, (l.start path k).Edge a b → l.Edge a b ∨ b = path := by
      rintro a b ⟨hmem, hload⟩
      rw [isLoading_start] at hload
      by_cases hb : b = path
      · exact Or.inr hb
      · exact Or.inl ⟨hmem, by simpa [hb] using hload⟩
    intro a b hab
    induction hab with
    | single h => exact (hedge _ _ h).imp TransGen.single id
    | tail _ h ih =>
        rcases ih with ih | rfl
        · exact (hedge _ _ h).imp ih.tail id
        · exact absurd h (hsink _)
  intro r hr
  rcases hchain r r hr with h | rfl
  · exact ha r h
  · obtain ⟨y, hy, _⟩ := TransGen.head'_iff.mp hr
    exact hsink y hy

theorem Acyclic.finish (ha : l.Acyclic) {path : String} : (l.finish path).Acyclic := by
  intro r hr
  refine ha r (TransGen.mono ?_ r r hr)
  rintro x y ⟨hmem, hload⟩
  rw [isLoading_finish] at hload
  exact ⟨(mem_waits_finish.mp hmem).2, (Bool.and_eq_true_iff.mp hload).1⟩

/-- Chains depend on the notes and the paths in flight only. -/
theorem Acyclic.congr {l' : Loading ν} (ha : l.Acyclic) (hf : l'.inFlight = l.inFlight)
    (hw : l'.waits = l.waits) : l'.Acyclic := by
  intro r hr
  refine ha r (TransGen.mono ?_ r r hr)
  rintro x y ⟨hmem, hload⟩
  unfold isLoading at hload
  rw [hf] at hload
  exact ⟨hw ▸ hmem, hload⟩

end Loading

namespace Machine

variable {σ ν ε : Type} {h : Host σ ν ε} {P : Move σ ν ε → Prop} {m m' : Machine σ ν ε}

/-- **No move closes a ring.** -/
theorem acyclic_step (hl : h.standIn = none) (hA : AttemptInv m) (ha : m.loading.Acyclic)
    (hm : Happens h P m m') : m'.loading.Acyclic := by
  rcases hm.cases with hc | ⟨f, _, rfl⟩ | ⟨q, k, t, course, _, hk, _, rfl⟩
  · rw [hc.loading]
    exact ha
  · exact ha.congr rfl rfl
  · have htables := advance_tables (h := h) (m := { m with queue := q }) hl course hk
    generalize (Machine.advance h { m with queue := q } k t course).loading = l' at htables
    cases htables with
    | same => exact ha
    | join hf hclient hnone hring hin => exact ha.await hring
    | @start w call next hf hclient hnone hidle =>
        have hnil := hA.waits_eq_nil hidle
        refine (ha.start hnil).await ?_
        -- the call is made in the name of another path, and nothing leads on from the new one
        rintro ⟨client, hc, hchain⟩
        have hin := (Loading.client?_eq_some.mp (hclient.symm.trans hc)).2
        rcases ReflTransGen.cases_head hchain with he | ⟨y, ⟨hmem, _⟩, _⟩
        · rw [← he] at hin
          rw [hidle] at hin
          simp at hin
        · rw [show (Loading.start m.loading call.path m.threads.length).waits = m.loading.waits
            from rfl, hnil] at hmem
          simp at hmem
    | finish hf hrole hres hin hw => exact (ha.congr hin hw).finish

theorem acyclic_reaches (hl : h.standIn = none) {world : σ} {registries : List (Registry ν)}
    (hr : ReachesBy h P (atRest world registries) m) : m.loading.Acyclic := by
  have hrest : (atRest world registries : Machine σ ν ε).loading.Acyclic := by
    intro r hc
    obtain ⟨y, ⟨hmem, _⟩, _⟩ := TransGen.head'_iff.mp hc
    simp [atRest] at hmem
  suffices AttemptInv m ∧ m.loading.Acyclic from this.2
  exact hr.invariant (I := fun m => AttemptInv m ∧ m.loading.Acyclic) hl
    ⟨attemptInv_atRest world registries, hrest⟩
    fun hI hm => ⟨attemptInv_step hl hI.1 hm, acyclic_step hl hI.1 hI.2 hm⟩

/-! ## A run in which a failure is caught -/

/-- Surroundings of three paths, in a world that counts the attempts at `y`. The first one at `y`
fails, a later one loads `x`. `x` loads `y`, whatever comes of it, and then `a`. -/
def retried : Host Nat Unit Unit where
  failing := fun _ w => (w, ())
  begin := fun _ w => w
  attempt := fun c p w =>
    if p = "x" then
      .ask w (.load c "y") fun w _ => .ask w (.load c "a") fun w _ => .done w (.ok ())
    else if p = "y" ∧ w = 0 then .done (w + 1) (.error ())
    else if p = "y" then .ask w (.load c "x") fun w _ => .done w (.ok ())
    else .done w (.ok ())
  conclude := fun _ _ w => w

/-- `x` is loaded, the first attempt at `y` fails, `x` goes on and waits for `a`, and then `y` is
loaded once more, up to the point where it is about to load `x`. -/
def retriedMoves : List (Move Nat Unit Unit) :=
  [.call (retried.loadCourse 0 "x"), .turn 0, .turn 0, .turn 0, .turn 0, .turn 0,
    .call (retried.loadCourse 0 "y"), .turn 1]

/-- The state that they lead to. -/
def retriedState : Machine Nat Unit Unit := (atRest 0 []).after retried retriedMoves

theorem reaches_retriedState : Reaches retried (atRest 0 []) retriedState :=
  reachesBy_after (fun _ _ => trivial) (by decide +kernel)

/-! ## Threads that wait -/

/-- In the name of the current attempt at `x`, the thread `k` waits for `y`, which is in flight. -/
def WaitsFor (m : Machine σ ν ε) (k : Nat) (x y : String) : Prop :=
  m.loading.isLoading y = true ∧ ∃ a call b, m.Outstanding k a call ∧ call.path = y
    ∧ call.client = some ⟨x, b⟩ ∧ m.loading.inFlight.lookup x = some b

theorem WaitsFor.edge {k : Nat} {x y : String} (hw : m.WaitsFor k x y) (hI : CallInv m) :
    m.loading.Edge x y := by
  obtain ⟨hload, a, call, b, ho, rfl, hc, hin⟩ := hw
  exact ⟨(hI.noted ho hc).noted hin, hload⟩

/-- **Attempts never wait for one another in a ring.** The noted waits are acyclic, every call
that waits in the name of a current attempt is among them, and so no ring of such calls exists. -/
theorem no_ring_of_waits (hl : h.standIn = none) {world : σ} {registries : List (Registry ν)}
    (hr : Reaches h (atRest world registries) m) :
    m.loading.Acyclic
      ∧ (∀ k a call x b, m.Outstanding k a call → call.client = some ⟨x, b⟩ →
          m.loading.inFlight.lookup x = some b → call.path ∈ m.loading.waits.of x)
      ∧ ∀ x, ¬ TransGen (fun x y => ∃ k, m.WaitsFor k x y) x x := by
  have hacyclic := acyclic_reaches hl hr
  have hI := callInv_reaches hl hr
  refine ⟨hacyclic, ?_, ?_⟩
  · intro k a call x b ho hc hin
    exact (hI.noted ho hc).noted hin
  · intro x hx
    refine hacyclic x (TransGen.mono ?_ x x hx)
    rintro x y ⟨k, hw⟩
    exact hw.edge hI

/-- `x` waits for `a`, that is noted, and neither of them waits for itself. -/
theorem noted_in_retriedState :
    retriedState.Outstanding 1 3 ⟨0, "a", some ⟨"x", 1⟩⟩
      ∧ "a" ∈ retriedState.loading.waits.of "x"
      ∧ ¬ TransGen (fun x y => ∃ k, retriedState.WaitsFor k x y) "x" "x" := by
  have ho : retriedState.Outstanding 1 3 ⟨0, "a", some ⟨"x", 1⟩⟩ := by
    rw [outstanding_iff]
    decide +kernel
  have hin : retriedState.loading.inFlight.lookup "x" = some 1 := by decide +kernel
  obtain ⟨_, hnoted, hno⟩ := no_ring_of_waits rfl reaches_retriedState
  exact ⟨ho, hnoted 1 3 _ "x" 1 ho rfl hin, hno "x"⟩

/-! ## Loads that are refused -/

/-- Since a run began in `m₀`, somebody has waited for `y` in the name of the attempt at `x` that
is still the current one, and `y` is in flight. The wait itself may be over. -/
def Asked (h : Host σ ν ε) (m₀ m : Machine σ ν ε) (x y : String) : Prop :=
  m.loading.isLoading y = true ∧ ∃ b, m.loading.inFlight.lookup x = some b
    ∧ ∃ m₁ k a call, Reaches h m₀ m₁ ∧ Reaches h m₁ m ∧ m₁.Outstanding k a call
      ∧ call.path = y ∧ call.client = some ⟨x, b⟩

/-- A note was there before and the attempt goes on, or a call waits that has just been noted. -/
theorem note_step (hl : h.standIn = none) (hm : Happens h P m m') {x y : String}
    (hy : y ∈ m'.loading.waits.of x) :
    (y ∈ m.loading.waits.of x ∧ ∀ b, m.loading.inFlight.lookup x = some b →
      m'.loading.inFlight.lookup x = some b)
    ∨ ∃ k a call b, m'.Outstanding k a call ∧ call.path = y ∧ call.client = some ⟨x, b⟩
      ∧ m'.loading.inFlight.lookup x = some b := by
  rcases hm.cases with hc | ⟨f, _, rfl⟩ | ⟨q, k, t, course, _, hk, _, rfl⟩
  · rw [hc.loading] at hy ⊢
    exact Or.inl ⟨hy, fun _ hb => hb⟩
  · exact Or.inl ⟨hy, fun _ hb => hb⟩
  · have hwait := fun {a : Nat} {call : LoadCall} =>
      @outstanding_advance _ _ _ h { m with queue := q } k t course hk a call
    have htables := advance_tables (h := h) (m := { m with queue := q }) hl course hk
    generalize (Machine.advance h { m with queue := q } k t course).loading = l' at htables hy ⊢
    cases htables with
    | same => exact Or.inl ⟨hy, fun _ hb => hb⟩
    | @join w call a next hf hclient hnone hring ha =>
        rw [Loading.inFlight_await]
        rcases Loading.mem_waits_await.mp hy with hy | ⟨hpath, b, hb⟩
        · exact Or.inl ⟨hy, fun _ hb => hb⟩
        · have hin := (Loading.client?_eq_some.mp (hclient.symm.trans hb)).2
          exact Or.inr ⟨k, a, call, b, hwait (Or.inl ⟨w, next, hf⟩), hpath.symm, hb, hin⟩
    | @start w call next hf hclient hnone hidle =>
        have hkeep : ∀ b, m.loading.inFlight.lookup x = some b →
            (Loading.await (Loading.start m.loading call.path m.threads.length)
              call).inFlight.lookup x = some b := by
          intro b hb
          rw [Loading.inFlight_await, Loading.lookup_start, hb]
          rfl
        rcases Loading.mem_waits_await.mp hy with hy | ⟨hpath, b, hb⟩
        · exact Or.inl ⟨hy, hkeep⟩
        · have hin := hkeep b (Loading.client?_eq_some.mp (hclient.symm.trans hb)).2
          exact Or.inr ⟨k, _, call, b, hwait (Or.inr ⟨rfl, w, next, hf⟩), hpath.symm, hb, hin⟩
    | finish hf hrole hres hin hw =>
        obtain ⟨hp, hy⟩ := Loading.mem_waits_finish.mp hy
        rw [hw] at hy
        refine Or.inl ⟨hy, fun b hb => ?_⟩
        rw [Loading.lookup_finish, hin, if_neg hp, hb]

/-- Behind each note there is a wait, by now or earlier. -/
theorem noted_origin (hl : h.standIn = none) {m₀ : Machine σ ν ε} (h₀ : m₀.loading.waits = [])
    (hr : Reaches h m₀ m) {x y : String} (hy : y ∈ m.loading.waits.of x) :
    ∃ b, m.loading.inFlight.lookup x = some b
      ∧ ∃ m₁ k a call, Reaches h m₀ m₁ ∧ Reaches h m₁ m ∧ m₁.Outstanding k a call
        ∧ call.path = y ∧ call.client = some ⟨x, b⟩ := by
  induction hr with
  | refl => rw [h₀] at hy; simp at hy
  | @tail m m' hr hg ih =>
      rcases note_step hl (hg.happens hl) hy with ⟨hy, hkeep⟩ | ⟨k, a, call, b, ho, hp, hc, hin⟩
      · -- an older note goes back to an earlier wait
        obtain ⟨b, hb, m₁, k, a, call, h1, h2, ho⟩ := ih hy
        exact ⟨b, hkeep b hb, m₁, k, a, call, h1, h2.tail hg, ho⟩
      · exact ⟨b, hin, m', k, a, call, hr.tail hg, .refl, ho, hp, hc⟩

/-- **The notes tell who has been waited for.** -/
theorem edge_iff_asked (hl : h.standIn = none) {world : σ} {registries : List (Registry ν)}
    (hr : Reaches h (atRest world registries) m) {x y : String} :
    m.loading.Edge x y ↔ Asked h (atRest world registries) m x y := by
  constructor
  · rintro ⟨hy, hload⟩
    exact ⟨hload, noted_origin hl rfl hr hy⟩
  · rintro ⟨hload, b, hb, m₁, k, a, call, h1, h2, ho, rfl, hclient⟩
    have hn := (callInv_reaches hl h1).noted ho hclient
    exact ⟨(hn.reaches hl h2).noted hb, hload⟩

/-- A load that is asked for in somebody's name is refused as it would close a ring. -/
def Refuses (m : Machine σ ν ε) (requester : Option String) (config : ConfigId) (path : String) :
    Prop :=
  ∃ cycle, m.loading.decide { config, path, client := m.loading.client? requester }
    = .circular cycle

/-- In the name of the current attempt at `x`, some thread but `k` waits for `y`. -/
def WaitsBesides (m : Machine σ ν ε) (k : Nat) (x y : String) : Prop :=
  ∃ j, j ≠ k ∧ m.WaitsFor j x y

theorem refuses_iff (m : Machine σ ν ε) (config : ConfigId) (path : String)
    {requester : Option String} {r : String} {b : Nat}
    (hclient : m.loading.client? requester = some ⟨r, b⟩) :
    m.Refuses requester config path
      ↔ (m.loading.registry config).record? path = none ∧ ReflTransGen m.loading.Edge path r := by
  have hd := m.loading.decide_spec { config, path, client := m.loading.client? requester }
  have hcloses : m.loading.ClosesRing { config, path, client := m.loading.client? requester }
      ↔ ReflTransGen m.loading.Edge path r := by
    unfold Loading.ClosesRing
    rw [hclient]
    simp
  rw [← hcloses]
  unfold Refuses
  constructor
  · rintro ⟨cycle, hc⟩
    rw [hc] at hd
    exact hd
  · rintro ⟨hnone, hring⟩
    cases hdec : m.loading.decide { config, path, client := m.loading.client? requester } with
    | registered v => rw [hdec] at hd; rw [hnone] at hd; simp at hd
    | circular cycle => exact ⟨cycle, rfl⟩
    | join a => rw [hdec] at hd; exact absurd hring hd.2.1
    | start => rw [hdec] at hd; exact absurd hring hd.2.1

/-- **When a load is refused.** A load that a thread `k` asks for in the name of an attempt in
flight is refused if and only if its path is not registered and the attempt can be reached from
it along waits that have begun in the name of current attempts. So whenever the load would close a
ring of threads that wait right then, it is refused; and where it is refused without such a ring,
the way back leads over a wait that has begun but is over. -/
theorem refused_iff_asked (hl : h.standIn = none) {world : σ} {registries : List (Registry ν)}
    (hr : Reaches h (atRest world registries) m) (k : Nat) (config : ConfigId) (path : String)
    {requester : Option String} {r : String} {b : Nat}
    (hclient : m.loading.client? requester = some ⟨r, b⟩) :
    (m.Refuses requester config path
        ↔ (m.loading.registry config).record? path = none
          ∧ ReflTransGen (Asked h (atRest world registries) m) path r)
      ∧ ((m.loading.registry config).record? path = none →
          ReflTransGen (m.WaitsBesides k) path r → m.Refuses requester config path)
      ∧ (m.Refuses requester config path → ¬ ReflTransGen (m.WaitsBesides k) path r →
          ∃ x y, ReflTransGen (Asked h (atRest world registries) m) path x
            ∧ Asked h (atRest world registries) m x y
            ∧ ReflTransGen (Asked h (atRest world registries) m) y r
            ∧ ¬ m.WaitsBesides k x y) := by
  have hedge : m.loading.Edge = Asked h (atRest world registries) m := by
    funext x y
    exact propext (edge_iff_asked hl hr)
  have hiff := refuses_iff m config path hclient
  refine ⟨by rw [hiff, hedge], ?_, ?_⟩
  · intro hnone hchain
    refine hiff.mpr ⟨hnone, ReflTransGen.mono ?_ _ _ hchain⟩
    rintro x y ⟨j, _, hw⟩
    exact hw.edge (callInv_reaches hl hr)
  · intro hc hn
    rw [hiff, hedge] at hc
    exact exists_edge_of_not_chain hc.2 hn

/-- Only `x` waits, for `a`. -/
theorem eq_of_waitsFor_retriedState {k : Nat} {x y : String} (hw : retriedState.WaitsFor k x y) :
    x = "x" ∧ y = "a" := by
  obtain ⟨_, a, call, b, ho, hy, hc, _⟩ := hw
  rw [outstanding_iff] at ho
  have hlt : k < 6 := by
    have hlen : retriedState.threads.length = 6 := by decide +kernel
    rw [← hlen]
    unfold call? at ho
    rw [Option.bind_eq_some_iff] at ho
    obtain ⟨t, ht, _⟩ := ho
    exact (List.getElem?_eq_some_iff.mp ht).1
  have hcalls : ∀ k < 6, ∀ w ∈ retriedState.call? k, ∀ client ∈ w.2.client,
      client.path = "x" ∧ w.2.path = "a" := by decide +kernel
  obtain ⟨h1, h2⟩ := hcalls k hlt (a, call) ho ⟨x, b⟩ hc
  exact ⟨h1, hy.symm.trans h2⟩

/-- Nobody waits for `y` any more, and still `y` may not load `x`. -/
theorem refused_in_retriedState :
    retriedState.Refuses (some "y") 0 "x"
      ∧ ¬ ReflTransGen (retriedState.WaitsBesides 5) "x" "y"
      ∧ ∃ x y, Asked retried (atRest 0 []) retriedState x y ∧ ¬ retriedState.WaitsBesides 5 x y := by
  have hclient : retriedState.loading.client? (some "y") = some ⟨"y", 5⟩ := by decide +kernel
  have hnone : (retriedState.loading.registry 0).record? "x" = none := by decide +kernel
  have hedge : retriedState.loading.Edge "x" "y" := ⟨by decide +kernel, by decide +kernel⟩
  obtain ⟨hiff, _, hstale⟩ := refused_iff_asked rfl reaches_retriedState 5 0 "x" hclient
  have hrefuses := hiff.mpr ⟨hnone, .single ((edge_iff_asked rfl reaches_retriedState).mp hedge)⟩
  have hno : ¬ ReflTransGen (retriedState.WaitsBesides 5) "x" "y" := by
    -- the last wait on the way to `y` would be one for `y`
    intro hway
    obtain heq | ⟨z, _, _, _, hw⟩ := ReflTransGen.cases_tail_iff _ _ _ |>.mp hway
    · exact absurd heq (by decide)
    · exact absurd (eq_of_waitsFor_retriedState hw).2 (by decide)
  obtain ⟨x, y, _, hasked, _, hover⟩ := hstale hrefuses hno
  exact ⟨hrefuses, hno, x, y, hasked, hover⟩

end Machine

end SourceLoader
