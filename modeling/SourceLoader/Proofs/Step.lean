import SourceLoader.Proofs.Loading
import SourceLoader.Proofs.Run

/-!
# What a move can do

Every invariant of the loader is owed for every move, and most moves do very little. `Happens`
lists the things that can come of a move, without a stand-in. What holds at rest and is kept by all
of them holds in every run.
-/

namespace SourceLoader

variable {σ ν ε : Type}

namespace ThreadState

/-- The thread has come to its end. -/
def IsEnded (s : ThreadState σ ν ε) : Prop := ∃ r, s = .ended r

@[simp] theorem isEnded_ended (r : Except ε ν) : (ended r : ThreadState σ ν ε).IsEnded := ⟨r, rfl⟩

@[simp] theorem not_isEnded_fresh (start : σ → Course σ ν ε ν) :
    ¬ (fresh start : ThreadState σ ν ε).IsEnded := by
  rintro ⟨r, h⟩; cases h

@[simp] theorem not_isEnded_waiting (wait : Wait) (next : σ → Response ν ε → Course σ ν ε ν) :
    ¬ (waiting wait next : ThreadState σ ν ε).IsEnded := by
  rintro ⟨r, h⟩; cases h

end ThreadState

/-! ## Following a course -/

namespace Host

variable {h : Host σ ν ε}

/-- Without a stand-in each load of several is like one that is asked for by itself. -/
theorem memberCourse_eq (hl : h.standIn = none) (c : ConfigId) (p : String) :
    h.memberCourse c p = h.loadCourse c p := by
  unfold memberCourse
  rw [hl]
  rfl

/-- What a halt says about the tables that were looked at. -/
def HaltSpec (l : Loading ν) (requester : Option String) : Halt σ ν ε → Prop
  | .join _ call attempt _ =>
      call.client = l.client? requester ∧ l.decide call = .join attempt
  | .start _ call _ => call.client = l.client? requester ∧ l.decide call = .start
  | .group _ _ paths _ => paths ≠ []
  | .standIn _ _ _ _ _ => False
  | .pause _ _ | .done _ _ => True

theorem follow_spec (hl : h.standIn = none) (l : Loading ν) (requester : Option String)
    (course : Course σ ν ε ν) : HaltSpec l requester (h.follow l requester course) := by
  induction course with
  | done world result => trivial
  | ask world request next ih =>
      unfold follow
      cases request with
      | pause => trivial
      | exports config path =>
          dsimp only
          split <;> exact ih _ _
      | load config path =>
          dsimp only
          rw [hl]
          dsimp only
          cases hd : l.decide { config, path, client := l.client? requester } with
          | registered v => exact ih _ _
          | circular cycle => exact ih _ _
          | join attempt => exact ⟨rfl, hd⟩
          | start => exact ⟨rfl, hd⟩
      | loadAll config paths =>
          dsimp only
          split
          · exact ih _ _
          · rename_i hp
            intro hc
            subst hc
            exact hp rfl

/-- An attempt ends well if and only if its exports could be registered. -/
theorem conclusion_spec (h : Host σ ν ε) (l : Loading ν) (c : ConfigId) (p : String) (w : σ)
    (result : Except ε ν) :
    (∃ v, (h.conclusion l c p w result).2.2 = .ok v ∧ result = .ok v
      ∧ l.register c p v = .ok (h.conclusion l c p w result).1)
    ∨ (∃ e, (h.conclusion l c p w result).2.2 = .error e
      ∧ (h.conclusion l c p w result).1 = l) := by
  cases result with
  | error e => exact Or.inr ⟨e, rfl, rfl⟩
  | ok v =>
      cases hr : l.register c p v with
      | ok l' => exact Or.inl ⟨v, by simp [conclusion, hr]⟩
      | error f => exact Or.inr ⟨(h.failing f w).2, by simp [conclusion, hr]⟩

end Host

namespace Machine

variable {h : Host σ ν ε} {P : Move σ ν ε → Prop} {m m' : Machine σ ν ε}

/-! ## What can come of a move -/

/-- A thread is about to run along a course: it begins, or it goes on from a response. -/
inductive TakesUp (m : Machine σ ν ε) (k : Nat) (t : Thread σ ν ε) : Course σ ν ε ν → Prop
  | begin {start : σ → Course σ ν ε ν} (hs : t.state = .fresh start) :
      TakesUp m k t (start m.world)
  | resume {wait : Wait} {next : σ → Response ν ε → Course σ ν ε ν} {response : Response ν ε}
      (hs : t.state = .waiting wait next) (hq : Handle.resume k wait response ∈ m.queue) :
      TakesUp m k t (next m.world response)

theorem TakesUp.not_isEnded {k : Nat} {t : Thread σ ν ε} {course : Course σ ν ε ν}
    (hc : TakesUp m k t course) : ¬ t.state.IsEnded := by
  cases hc with
  | begin hs => rw [hs]; simp
  | resume hs _ => rw [hs]; simp

/-- What can come of a move of a kind. -/
inductive Happens (h : Host σ ν ε) (P : Move σ ν ε → Prop) (m : Machine σ ν ε) :
    Machine σ ν ε → Prop
  /-- The world changes. -/
  | change (f : σ → σ) (hP : P (.change f)) : Happens h P m { m with world := f m.world }
  /-- Something outside writes the registries. -/
  | write (f : List (Registry ν) → List (Registry ν)) (hP : P (.write f)) :
      Happens h P m (m.writeRegistries f)
  /-- A thread is added in which something of the host runs. -/
  | spawn (requester : Option String) (start : σ → Course σ ν ε ν)
      (hP : P (.call start) ∨ ∃ k, P (.task k start)) :
      Happens h P m (m.spawn .hostCall requester start)
  /-- A thread that has not begun will only fail. -/
  | spoil {k : Nat} {t : Thread σ ν ε} {start : σ → Course σ ν ε ν} (e : ε)
      (hP : P (.cancel k e))
      (hk : m.threads[k]? = some t) (hs : t.state = .fresh start)
      (hr : ∀ c p, t.role ≠ .attempt c p) :
      Happens h P m (m.setState k (.fresh fun w => .done w (.error e)))
  /-- A wait is given up. -/
  | cancel {k : Nat} {t : Thread σ ν ε} {wait : Wait}
      {next : σ → Response ν ε → Course σ ν ε ν} (e : ε) (hP : P (.cancel k e))
      (hk : m.threads[k]? = some t) (hs : t.state = .waiting wait next) :
      Happens h P m (m.push [.resume k wait (.error e)])
  /-- An entry of the queue concerns nobody. -/
  | skip {q : List (Handle ν ε)} (hq : q ⊆ m.queue) : Happens h P m { m with queue := q }
  /-- A response is on its way. -/
  | settle {q : List (Handle ν ε)} {k : Nat} {wait : Wait} {response : Response ν ε}
      (hq : q ⊆ m.queue) (hm : Handle.settle k wait response ∈ m.queue) :
      Happens h P m (({ m with queue := q } : Machine σ ν ε).push [.resume k wait response])
  /-- A member of a group is counted. -/
  | count {q : List (Handle ν ε)} {group thread : Nat} {response : Response ν ε}
      (hq : q ⊆ m.queue) (hm : Handle.count group thread response ∈ m.queue) :
      Happens h P m (settleGroup { m with queue := q } group thread response)
  /-- A thread runs. -/
  | advance {q : List (Handle ν ε)} {k : Nat} {t : Thread σ ν ε} {course : Course σ ν ε ν}
      (hq : q ⊆ m.queue) (hk : m.threads[k]? = some t) (hc : TakesUp m k t course) :
      Happens h P m (Machine.advance h { m with queue := q } k t course)

theorem happens_of_step (hl : h.standIn = none) {n : Nat} (hs : m.step h n = some m') :
    Happens h P m m' := by
  unfold step at hs
  rw [Option.map_eq_some_iff] at hs
  obtain ⟨handle, hn, rfl⟩ := hs
  have hmem : handle ∈ m.queue := List.mem_of_getElem? hn
  have hq : m.queue.eraseIdx n ⊆ m.queue := List.eraseIdx_subset
  cases handle with
  | begin k =>
      simp only [perform, Machine.begin]
      split
      · exact .skip hq
      · rename_i t hk
        split
        · rename_i start hstate
          exact .advance hq hk (.begin hstate)
        · exact .skip hq
  | resume k wait response =>
      simp only [perform, Machine.resume]
      split
      · exact .skip hq
      · rename_i t hk
        split
        · rename_i wait' next hstate
          split
          · rename_i hw
            subst hw
            exact .advance hq hk (.resume hstate hmem)
          · exact .skip hq
        · rw [hl]
          exact .skip hq
        · exact .skip hq
  | settle k wait response => exact .settle hq hmem
  | count group thread response => exact .count hq hmem

/-- **Every move is one of the things that can happen.** -/
theorem happens_of_move (hl : h.standIn = none) {e : Move σ ν ε} (hP : P e)
    (hm : m.move h e = some m') : Happens h P m m' := by
  cases e with
  | turn place => exact happens_of_step hl hm
  | call start =>
      injection hm with hm
      subst hm
      exact .spawn none start (Or.inl hP)
  | task k start =>
      simp only [move, Option.map_eq_some_iff] at hm
      obtain ⟨t, _, rfl⟩ := hm
      exact .spawn t.requester start (Or.inr ⟨k, hP⟩)
  | cancel k e =>
      simp only [move, Machine.cancel] at hm
      split at hm
      · simp at hm
      · rename_i t hk
        split at hm
        · rename_i hs
          injection hm with hm
          subst hm
          exact .cancel e hP hk hs
        · simp at hm
        · rename_i hs hr
          injection hm with hm
          subst hm
          exact .spoil e hP hk hs (fun c p hc => hr c p hc)
        · simp at hm
  | change f =>
      injection hm with hm
      subst hm
      exact .change f hP
  | write f =>
      injection hm with hm
      subst hm
      exact .write f hP

theorem Goes.happens (hg : Goes h P m m') (hl : h.standIn = none) : Happens h P m m' := by
  obtain ⟨e, hP, he⟩ := hg
  exact happens_of_move hl hP he

/-- What holds at rest and is kept by all that can happen holds in every run. -/
theorem ReachesBy.invariant (hl : h.standIn = none) {I : Machine σ ν ε → Prop}
    {m₀ : Machine σ ν ε} (hr : ReachesBy h P m₀ m) (h₀ : I m₀)
    (hstep : ∀ {m m' : Machine σ ν ε}, I m → Happens h P m m' → I m') : I m := by
  induction hr with
  | refl => exact h₀
  | tail _ hg ih => exact hstep ih (hg.happens hl)

end Machine

end SourceLoader
