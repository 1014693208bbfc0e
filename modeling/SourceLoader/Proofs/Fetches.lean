import SourceLoader.Proofs.Bodies

/-!
# When sources are fetched

The world counts how often the source of a path was looked up. Nothing adds to the count but an
attempt, and that does so first of all, before others can run. So one more lookup of a path means
that a thread has taken up its attempt there, and such a thread never does so again. An attempt
runs only where nothing is registered yet. Hence a path that is registered is not looked up any
more.
-/

namespace SourceLoader

theorem World.steady_lookups : World.Steady World.lookups :=
  ⟨fun _ _ => rfl, fun _ _ => rfl, fun _ _ _ => rfl, fun _ _ _ => rfl⟩

theorem World.steady_sources : World.Steady World.sources :=
  ⟨fun _ _ => rfl, fun _ _ => rfl, fun _ _ _ => rfl, fun _ _ _ => rfl⟩

/-- How often the source of a path was looked up. -/
def World.fetches (w : World) (path : String) : Nat := (w.lookups.lookup path).getD 0

/-- Creating a module touches nothing but its part of the world and the list of bodies. -/
theorem keeps_createModule {γ : Type} {f : World → γ} (hf : World.Steady f)
    (hbegun : ∀ w begun, f { w with begun } = f w) (c : LoadConfig) (E : Engine)
    (config : ConfigId) (file source : String) (moduleMode : Bool) :
    (createModule c E config file source moduleMode).Keeps f := by
  refine (Create.keeps_artifact hf c file source moduleMode).bind fun a => ?_
  refine (Act.keeps_ofEval hf.aside _).bind fun _ => ?_
  refine (Act.keeps_modify fun w => hbegun w _).bind fun _ => ?_
  refine (keeps_instantiate hf E config file a.text a.lineMap).bind fun v => ?_
  exact (Act.keeps_log hf.aside _).bind fun _ => Act.keeps_pure f v

namespace ModuleLoader

theorem lookup_countLookup (path x : String) (lookups : List (String × Nat)) :
    (countLookup path lookups).lookup x
      = if x = path then some ((lookups.lookup path).getD 0 + 1) else lookups.lookup x := by
  induction lookups with
  | nil =>
      unfold countLookup
      rw [List.lookup_cons]
      by_cases hx : x = path
      · simp [hx]
      · simp [hx, beq_eq_false_iff_ne.mpr hx]
  | cons e rest ih =>
      obtain ⟨p, n⟩ := e
      unfold countLookup
      by_cases hp : p = path
      · subst hp
        by_cases hx : x = p
        · simp [hx]
        · simp [List.lookup_cons, beq_eq_false_iff_ne.mpr hx, hx]
      · have hpath : (path == p) = false := beq_eq_false_iff_ne.mpr fun hc => hp hc.symm
        by_cases hx : x = p
        · simp [hx, hp]
        · simp [List.lookup_cons, beq_eq_false_iff_ne.mpr hx, hp, hpath, ih]

theorem fetches_countLookup (path x : String) (w : World) :
    World.fetches { w with lookups := countLookup path w.lookups } x
      = if x = path then w.fetches path + 1 else w.fetches x := by
  unfold World.fetches
  rw [lookup_countLookup]
  by_cases hx : x = path
  · rw [if_pos hx, if_pos hx, Option.getD_some]
  · rw [if_neg hx, if_neg hx]

variable {configs : ConfigId → LoadConfig} {E : Engine}

/-- **An attempt looks its source up once, and at once.** Apart from that it touches its part of the
world and the list of bodies. -/
theorem keeps_attemptCourse {γ : Type} {f : World → γ} (hf : World.Steady f)
    (hbegun : ∀ w begun, f { w with begun } = f w) (config : ConfigId) (path : String) (w : World) :
    ((host configs E).attemptCourse config path w).Keeps f
      (f { w with lookups := countLookup path w.lookups }) := by
  have hattempt : ((host configs E).attemptCourse config path w).Keeps f
      (f { begin path w with lookups := countLookup path w.lookups }) := by
    refine (keeps_sourceOf hf path (begin path w)).bind fun source w' => ?_
    refine Act.Keeps.bind (keeps_noteMode hf path source.moduleMode) (fun _ => ?_) w'
    exact keeps_createModule hf hbegun (configs config) E config path _ _
  rw [← hf.openLoads { w with lookups := countLookup path w.lookups }]
  exact hattempt

end ModuleLoader

namespace Machine

open ModuleLoader

variable {configs : ConfigId → LoadConfig} {E : Engine} {m m' : Machine World Value Thrown}

/-- A move of which only the loader can change `f` or write a registry. -/
def Spares {γ : Type} (f : World → γ) : Move World Value Thrown → Prop
  | .turn _ | .cancel _ _ => True
  | .call start | .task _ start => Act.Keeps f start
  | .change g => ∀ w, f (g w) = f w
  | .write _ => False

theorem loaderOwns_spares {γ : Type} (f : World → γ) : LoaderOwns (Spares f) := fun _ hf => hf

/-- A thread that does not change `f`; others may. -/
inductive Keeping {γ : Type} (f : World → γ) (t : Thread World Value Thrown) : Prop
  | fresh {start : World → Course World Value Thrown Value} (hs : t.state = .fresh start)
      (hk : Act.Keeps f start)
  | waiting {wait : Wait} {next : World → Response Value Thrown → Course World Value Thrown Value}
      (hs : t.state = .waiting wait next) (hk : ∀ w r, (next w r).Keeps f (f w))
  | ended (hs : t.state.IsEnded)

theorem Keeping.congr {γ : Type} {f : World → γ} {t t' : Thread World Value Thrown}
    (ht : Keeping f t) (hs : t'.state = t.state) : Keeping f t' := by
  cases ht with
  | fresh hs' hk => exact .fresh (hs.trans hs') hk
  | waiting hs' hk => exact .waiting (hs.trans hs') hk
  | ended hs' => exact .ended (hs ▸ hs')

theorem Keeping.course {γ : Type} {f : World → γ} {k : Nat} {t : Thread World Value Thrown}
    {course : Course World Value Thrown Value} (ht : Keeping f t) (hc : TakesUp m k t course) :
    course.Keeps f (f m.world) := by
  cases hc with
  | begin hs =>
      cases ht with
      | fresh hs' hk =>
          rw [hs] at hs'
          injection hs' with hs'
          rw [hs']
          exact hk m.world
      | waiting hs' => rw [hs] at hs'; cases hs'
      | ended hs' => rw [hs] at hs'; exact absurd hs' (by simp)
  | @resume wait next response hs hq =>
      cases ht with
      | fresh hs' => rw [hs] at hs'; cases hs'
      | waiting hs' hk =>
          rw [hs] at hs'
          injection hs' with _ hs'
          rw [hs']
          exact hk m.world response
      | ended hs' => rw [hs] at hs'; exact absurd hs' (by simp)

/-- A thread that has run along a course that keeps `f`. -/
theorem Keeping.of_leaves {γ : Type} {f : World → γ} {b : γ} {n g : Nat}
    {t' : Thread World Value Thrown} {course : Course World Value Thrown Value}
    {l : Loading Value} {requester : Option String} (hf : World.Steady f)
    (hc : course.Keeps f b)
    (hleaves : Leaves n g ((host configs E).follow l requester course) t'.state) :
    Keeping f t' := by
  have hkeeps : (host configs E).Keeps f := keeps_host hf
  have hspec := (host configs E).follow_spec rfl l requester course
  rcases keeps_of_leaves hleaves hspec (hkeeps.follow rfl hc) with he | ⟨wait, next, hs, hk⟩
  · exact .ended he
  · exact .waiting hs hk

/-- Following a course that keeps `f`, a thread keeps it. -/
theorem keeps_advance {γ : Type} {f : World → γ} {b : γ} (hf : World.Steady f) (k : Nat)
    (t : Thread World Value Thrown) {course : Course World Value Thrown Value}
    (hc : course.Keeps f b) :
    f (Machine.advance (host configs E) m k t course).world = b := by
  have hkeeps : (host configs E).Keeps f := keeps_host hf
  exact (hkeeps.halt m k t.role t.requester _).trans (hkeeps.follow rfl hc).world

/-- A thread that has yet to take up an attempt at a path. -/
def Awaits (configs : ConfigId → LoadConfig) (E : Engine) (m : Machine World Value Thrown) (k : Nat)
    (p : String) : Prop :=
  ∃ (t : Thread World Value Thrown) (c : ConfigId), m.threads[k]? = some t
    ∧ t.role = .attempt c p ∧ t.state = .fresh ((host configs E).attemptCourse c p)

theorem Awaits.running {k : Nat} {p : String} (ha : Awaits configs E m k p) :
    ∃ c, m.Running k c p := by
  obtain ⟨t, c, hk, hrole, hs⟩ := ha
  exact ⟨c, t, hk, hrole, by rw [hs]; simp⟩

/-- A thread that looks no source up, unless it has yet to take up an attempt. -/
def Fetching (configs : ConfigId → LoadConfig) (E : Engine) (t : Thread World Value Thrown) : Prop :=
  (∃ c p, t.role = .attempt c p ∧ t.state = .fresh ((host configs E).attemptCourse c p))
  ∨ Keeping World.lookups t

/-- What a thread that takes up its course does to the lookups: nothing, unless it takes up an
attempt. -/
theorem Fetching.keeps {k : Nat} {t : Thread World Value Thrown}
    {course : Course World Value Thrown Value} (ht : Fetching configs E t)
    (hk : m.threads[k]? = some t) (hc : TakesUp m k t course) :
    course.Keeps World.lookups m.world.lookups
    ∨ ∃ p, Awaits configs E m k p ∧ course.Keeps World.lookups (countLookup p m.world.lookups) := by
  rcases ht with ⟨c, p, hrole, hs⟩ | ht
  · cases hc with
    | begin hs' =>
        have hstart := hs
        rw [hs'] at hstart
        injection hstart with hstart
        refine Or.inr ⟨p, ⟨t, c, hk, hrole, hs⟩, ?_⟩
        rw [hstart]
        exact keeps_attemptCourse World.steady_lookups (fun _ _ => rfl) c p m.world
    | resume hs' hq => rw [hs] at hs'; cases hs'
  · exact Or.inl (ht.course hc)

/-- A thread that is new begins an attempt or asks for a load. -/
theorem Fetching.of_adds {n g j : Nat} {requester : Option String} {halt : Halt World Value Thrown}
    {t' : Thread World Value Thrown}
    (hadd : Adds (host configs E) n g requester halt j t') : Fetching configs E t' := by
  cases halt with
  | start w call next => exact Or.inl ⟨_, _, hadd.2.1, hadd.2.2.2⟩
  | group w c paths next =>
      obtain ⟨_, p, _, _, _, _, hs⟩ := hadd
      exact Or.inr (.fresh hs (keeps_loadCourse World.steady_lookups c p))
  | pause w next => exact hadd.elim
  | join w call a next => exact hadd.elim
  | standIn w left c p next => exact hadd.elim
  | done w r => exact hadd.elim

/-- The invariant of the lookups. -/
def FetchInv (configs : ConfigId → LoadConfig) (E : Engine) (m : Machine World Value Thrown) :
    Prop :=
  ∀ {j : Nat} {t : Thread World Value Thrown}, m.threads[j]? = some t → Fetching configs E t

theorem fetchInv_atRest (world : World) (registries : List (Registry Value)) :
    FetchInv configs E (atRest world registries) := by
  intro j t hj
  simp [atRest] at hj

theorem fetchInv_step (hI : FetchInv configs E m)
    (hm : Happens (host configs E) (Spares World.lookups) m m') : FetchInv configs E m' := by
  intro j t' hj
  refine hm.threads (S := fun _ t => Fetching configs E t) ?_ ?_ ?_ ?_ ?_ hj
  · intro j t t' hj _ hrole _ hs
    rcases hI hj with ⟨c, p, hr, hfresh⟩ | ht
    · exact Or.inl ⟨c, p, hrole.trans hr, hs.trans hfresh⟩
    · exact Or.inr (ht.congr hs)
  · rintro requester start (hP | ⟨_, hP⟩) _
    · exact Or.inr (.fresh rfl hP)
    · exact Or.inr (.fresh rfl hP)
  · intro k t t' start e _ _ _ _ _ _ hs
    exact Or.inr (.fresh hs fun w => rfl)
  · intro q k t t' course hk hc _ _ _ _ hleaves
    rcases (hI hk).keeps hk hc with hc | ⟨p, _, hc⟩
    · exact Or.inr (.of_leaves World.steady_lookups hc hleaves)
    · exact Or.inr (.of_leaves World.steady_lookups hc hleaves)
  · intro q k j t t' course _ _ _ hadd
    exact .of_adds hadd

/-- **A source is looked up when a thread takes up its attempt.** -/
theorem lookups_step (hI : FetchInv configs E m)
    (hm : Happens (host configs E) (Spares World.lookups) m m') :
    m'.world.lookups = m.world.lookups
    ∨ ∃ k p, Awaits configs E m k p ∧ (∃ t', m'.threads[k]? = some t' ∧ ∀ s, t'.state ≠ .fresh s)
      ∧ m'.world.lookups = countLookup p m.world.lookups := by
  have hf := World.steady_lookups
  cases hm with
  | change f hf => exact Or.inl (hf m.world)
  | write f hf => exact hf.elim
  | spawn requester start hP => exact Or.inl rfl
  | spoil e hP hk hs hr => exact Or.inl rfl
  | cancel e hP hk hs => exact Or.inl rfl
  | skip hq => exact Or.inl rfl
  | settle hq hm => exact Or.inl rfl
  | @count q group thread response hq hm =>
      left
      rw [(settleGroup_threads { m with queue := q } group thread response).2.2]
  | @advance q k t course hq hk hc =>
      rcases (hI hk).keeps hk hc with hc | ⟨p, hawaits, hc⟩
      · exact Or.inl (keeps_advance (m := { m with queue := q }) hf k t hc)
      · refine Or.inr ⟨k, p, hawaits, ?_, keeps_advance (m := { m with queue := q }) hf k t hc⟩
        obtain ⟨t', ht', _⟩ :=
          advance_old (h := host configs E) (m := { m with queue := q }) course hk hk
        refine ⟨t', ht', ?_⟩
        rcases advance_thread (m := { m with queue := q }) hk ht' with
          ⟨_, _, _, _, hself, _⟩ | ⟨hge, _⟩
        · exact (hself rfl).ne_fresh
        · have hlt : k < m.threads.length := (List.getElem?_eq_some_iff.mp hk).1
          have hle : m.threads.length ≤ k := hge
          omega

theorem fetchInv_reaches {world : World} {registries : List (Registry Value)}
    (hr : ReachesBy (host configs E) (Spares World.lookups) (atRest world registries) m) :
    LoaderInv (host configs E) m ∧ FetchInv configs E m :=
  hr.invariant (I := fun m => LoaderInv (host configs E) m ∧ FetchInv configs E m) rfl
    ⟨loaderInv_atRest world registries, fetchInv_atRest world registries⟩
    fun hI hm => ⟨loaderInv_step rfl (loaderOwns_spares _) hI.1 hm, fetchInv_step hI.2 hm⟩

end Machine

end SourceLoader
