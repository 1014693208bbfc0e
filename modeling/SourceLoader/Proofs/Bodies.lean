import SourceLoader.Proofs.Courses
import SourceLoader.Proofs.Groups

/-!
# When bodies begin

A thread that runs an attempt comes to the body in one way only: it has waited for the group of
all its dependencies, and the group has gone on well. By the invariant of the groups their paths
are loaded then. So a body begins when all that it declares is loaded, and an attempt does not end
well without its body having begun.
-/

namespace SourceLoader.Machine

open ModuleLoader

variable {configs : ConfigId → LoadConfig} {E : Engine} {m m' : Machine World Value Thrown}

/-- A move of which only the loader can make a body begin or write a registry. Code that the host
calls or that runs as a task is quiet, and what changes outside is no body. -/
def Ordinary : Move World Value Thrown → Prop
  | .turn _ | .cancel _ _ => True
  | .call start | .task _ start => Act.Quiet start
  | .change f => ∀ w, (f w).begun = w.begun
  | .write _ => False

theorem loaderOwns_ordinary : LoaderOwns Ordinary := fun _ hf => hf

/-- What a body declares is loaded. -/
def Ready (configs : ConfigId → LoadConfig) (m : Machine World Value Thrown) (b : Begun) : Prop :=
  ∀ s ∈ b.specifiers, ∃ p, (configs b.config).resolver.apply b.file s = .ok p
    ∧ m.Loaded b.config p

/-- A body of a file has begun under a configuration. -/
def HasBegun (m : Machine World Value Thrown) (config : ConfigId) (file : String) : Prop :=
  ∃ b ∈ m.world.begun, b.config = config ∧ b.file = file

/-- What can be said of a thread at work. -/
inductive Sound (configs : ConfigId → LoadConfig) (m : Machine World Value Thrown)
    (t : Thread World Value Thrown) : Prop
  /-- Code of the host, or a load of a group. -/
  | quiet {start : World → Course World Value Thrown Value} (hs : t.state = .fresh start)
      (hrole : ∀ c p, t.role ≠ .attempt c p) (hq : Act.Quiet start)
  /-- No body will begin; that of an attempt has begun. -/
  | under {wait : Wait} {next : World → Response Value Thrown → Course World Value Thrown Value}
      (hs : t.state = .waiting wait next) (hb : ∀ c p, t.role = .attempt c p → m.HasBegun c p)
      (hq : ∀ w r, (next w r).Keeps World.begun w.begun)
  /-- An attempt that has yet to run. -/
  | fresh {c : ConfigId} {p : String} {start : World → Course World Value Thrown Value}
      (hs : t.state = .fresh start) (hrole : t.role = .attempt c p)
      (hg : Act.Guards (configs c).resolver c p start)
  /-- The body of an attempt has yet to begin, when a group goes on well. -/
  | waiting {c : ConfigId} {p : String} {wait : Wait}
      {next : World → Response Value Thrown → Course World Value Thrown Value}
      (hs : t.state = .waiting wait next) (hrole : t.role = .attempt c p)
      (hg : ∀ w r, (next w r).Guards (configs c).resolver c p w.begun
        ∨ ∃ g G, wait = .group g ∧ m.groups[g]? = some G
          ∧ Begins (configs c).resolver c p (.loadAll G.config G.paths) r w.begun (next w r))
  | ended (hs : t.state.IsEnded)

theorem HasBegun.mono {c : ConfigId} {p : String} (hb : m.HasBegun c p)
    (hw : m.world.begun ⊆ m'.world.begun) : m'.HasBegun c p := by
  obtain ⟨b, hb, hc, hp⟩ := hb
  exact ⟨b, hw hb, hc, hp⟩

/-- A thread that has not run is as sound as before. -/
theorem Sound.mono {t t' : Thread World Value Thrown} (ht : Sound configs m t)
    (hrole : t'.role = t.role) (hstate : t'.state = t.state)
    (hw : m.world.begun ⊆ m'.world.begun)
    (hgroup : ∀ {g : Nat} {G : Group}, m.groups[g]? = some G →
      ∃ G', m'.groups[g]? = some G' ∧ G'.config = G.config ∧ G'.paths = G.paths) :
    Sound configs m' t' := by
  cases ht with
  | quiet hs hr hq => exact .quiet (hstate.trans hs) (by rw [hrole]; exact hr) hq
  | under hs hb hq =>
      refine .under (hstate.trans hs) (fun c p hr => ?_) hq
      exact (hb c p (hrole ▸ hr)).mono hw
  | fresh hs hr hg => exact .fresh (hstate.trans hs) (hrole.trans hr) hg
  | waiting hs hr hg =>
      refine .waiting (hstate.trans hs) (hrole.trans hr) fun w r => ?_
      rcases hg w r with hg | ⟨g, G, hwait, hG, hb⟩
      · exact Or.inl hg
      · obtain ⟨G', hG', hc, hp⟩ := hgroup hG
        refine Or.inr ⟨g, G', hwait, hG', ?_⟩
        rw [hc, hp]
        exact hb
  | ended hs => exact .ended (hstate ▸ hs)

/-! ## A thread runs -/

/-- What can be said of a course that a thread takes up. -/
inductive Takes (configs : ConfigId → LoadConfig) (m : Machine World Value Thrown)
    (t : Thread World Value Thrown) (course : Course World Value Thrown Value) : Prop
  | quiet (hb : ∀ c p, t.role = .attempt c p → m.HasBegun c p)
      (hc : course.Keeps World.begun m.world.begun)
  | guards {c : ConfigId} {p : String} (hrole : t.role = .attempt c p)
      (hc : course.Guards (configs c).resolver c p m.world.begun)
  /-- The body begins now. -/
  | body {b : Begun} (hrole : t.role = .attempt b.config b.file) (hready : Ready configs m b)
      (hc : course.Keeps World.begun (b :: m.world.begun))

theorem Sound.takes {k : Nat} {t : Thread World Value Thrown}
    {course : Course World Value Thrown Value} {h : Host World Value Thrown}
    (ht : Sound configs m t) (hI : GroupInv h m) (hc : TakesUp m k t course) :
    Takes configs m t course := by
  cases hc with
  | begin hs =>
      cases ht with
      | quiet hs' hr hq =>
          rw [hs] at hs'
          injection hs' with hs'
          subst hs'
          exact .quiet (fun c p h => absurd h (hr c p)) (hq m.world)
      | under hs' => rw [hs] at hs'; cases hs'
      | fresh hs' hr hg =>
          rw [hs] at hs'
          injection hs' with hs'
          subst hs'
          exact .guards hr (hg m.world)
      | waiting hs' => rw [hs] at hs'; cases hs'
      | ended hs' => rw [hs] at hs'; exact absurd hs' (by simp)
  | @resume wait next response hs hq =>
      cases ht with
      | quiet hs' => rw [hs] at hs'; cases hs'
      | under hs' hb hk =>
          rw [hs] at hs'
          injection hs' with _ hs'
          subst hs'
          exact .quiet hb (hk m.world response)
      | fresh hs' => rw [hs] at hs'; cases hs'
      | @waiting c p _ _ hs' hr hg =>
          rw [hs] at hs'
          injection hs' with hwait hs'
          subst hwait; subst hs'
          rcases hg m.world response with hg | ⟨g, G, rfl, hG, specifiers, paths, v, he, rfl, hcovers, hk⟩
          · exact .guards hr hg
          · -- the group of the dependencies has gone on well
            injection he with hconfig hpaths
            obtain ⟨G', hG', hall⟩ := hI.answered hq
            rw [hG] at hG'
            injection hG' with hG'
            subst hG'
            refine .body (b := ⟨c, p, specifiers⟩) hr ?_ hk
            intro s hs
            obtain ⟨q, hq, hres⟩ := hcovers s hs
            exact ⟨q, hres, hconfig ▸ hall q (hpaths ▸ hq)⟩
      | ended hs' => rw [hs] at hs'; exact absurd hs' (by simp)

/-- What the halt of a thread says about bodies. -/
inductive Halts (configs : ConfigId → LoadConfig) (m : Machine World Value Thrown)
    (t : Thread World Value Thrown) (halt : Halt World Value Thrown) : List Begun → Prop
  | quiet (hb : ∀ c p, t.role = .attempt c p → m.HasBegun c p)
      (hh : halt.Keeps World.begun m.world.begun) : Halts configs m t halt m.world.begun
  | guards {c : ConfigId} {p : String} (hrole : t.role = .attempt c p)
      (hh : halt.Guards (configs c).resolver c p m.world.begun) :
      Halts configs m t halt m.world.begun
  | body {b : Begun} (hrole : t.role = .attempt b.config b.file) (hready : Ready configs m b)
      (hh : halt.Keeps World.begun (b :: m.world.begun)) :
      Halts configs m t halt (b :: m.world.begun)

theorem Halts.withQueue {t : Thread World Value Thrown} {halt : Halt World Value Thrown}
    {b : List Begun} (hh : Halts configs m t halt b) (q : List (Handle Value Thrown)) :
    Halts configs { m with queue := q } t halt b := by
  cases hh with
  | quiet hb hh => exact .quiet hb hh
  | guards hrole hh => exact .guards hrole hh
  | body hrole hready hh =>
      refine .body hrole (fun s hs => ?_) hh
      obtain ⟨p, hres, hp⟩ := hready s hs
      exact ⟨p, hres, hp.withQueue q⟩

theorem Takes.halts {t : Thread World Value Thrown} {course : Course World Value Thrown Value}
    (ht : Takes configs m t course) (l : Loading Value) :
    ∃ b, Halts configs m t ((host configs E).follow l t.requester course) b := by
  have hkeeps : (host configs E).Keeps World.begun := keeps_host World.steady_begun
  cases ht with
  | quiet hb hc => exact ⟨_, .quiet hb (hkeeps.follow rfl hc)⟩
  | guards hrole hc =>
      rcases hkeeps.follow_guards rfl hc with hh | hh
      · exact ⟨_, .guards hrole hh⟩
      · exact ⟨_, .body (b := ⟨_, _, []⟩) hrole (by simp [Ready]) hh⟩
  | body hrole hready hc => exact ⟨_, .body hrole hready (hkeeps.follow rfl hc)⟩

/-- The bodies that have begun when a thread has run are those of its halt. -/
theorem Halts.begun {k : Nat} {t : Thread World Value Thrown}
    {course : Course World Value Thrown Value} {b : List Begun}
    (hh : Halts configs m t ((host configs E).follow m.loading t.requester course) b) :
    (Machine.advance (host configs E) m k t course).world.begun = b := by
  have hkeeps : (host configs E).Keeps World.begun := keeps_host World.steady_begun
  refine (hkeeps.halt m k t.role t.requester _).trans ?_
  cases hh with
  | quiet hb hh => exact hh.world
  | guards hrole hh => exact hh.world
  | body hrole hready hh => exact hh.world

theorem Halts.subset {t : Thread World Value Thrown} {halt : Halt World Value Thrown}
    {b : List Begun} (hh : Halts configs m t halt b) : m.world.begun ⊆ b := by
  cases hh with
  | quiet => exact List.Subset.refl _
  | guards => exact List.Subset.refl _
  | body => exact List.subset_cons_self _ _

section Leaves

variable {n g : Nat} {halt : Halt World Value Thrown} {t' : Thread World Value Thrown}
  {l : Loading Value} {requester : Option String} {begun : List Begun}
  (hleaves : Leaves n g halt t'.state) (hspec : Host.HaltSpec l requester halt)

include hleaves hspec

/-- A thread that has come to a halt from which no body will begin. -/
theorem Sound.of_keeps (hkeeps : halt.Keeps World.begun begun)
    (hb : ∀ c p, t'.role = .attempt c p → m.HasBegun c p) : Sound configs m t' := by
  rcases keeps_of_leaves hleaves hspec hkeeps with he | ⟨wait, next, hs, hk⟩
  · exact .ended he
  · exact .under hs hb hk

/-- A thread that has come to a halt before the body of its attempt. -/
theorem Sound.of_guards {c : ConfigId} {p : String}
    (hguards : halt.Guards (configs c).resolver c p begun) (hrole : t'.role = .attempt c p)
    (hgroup : ∀ w config paths next, halt = .group w config paths next →
      ∃ G, m.groups[g]? = some G ∧ G.config = config ∧ G.paths = paths) :
    Sound configs m t' := by
  cases halt with
  | pause w next => exact .waiting hleaves hrole fun w r => Or.inl (hguards.2 w r)
  | join w call a next => exact .waiting hleaves hrole fun w r => Or.inl (hguards.2 w r)
  | start w call next => exact .waiting hleaves hrole fun w r => Or.inl (hguards.2 w r)
  | standIn w left c p next => exact hspec.elim
  | group w config paths next =>
      obtain ⟨G, hG, rfl, rfl⟩ := hgroup w config paths next rfl
      refine .waiting hleaves hrole fun w r => (hguards.2 w r).imp id fun hb => ?_
      exact ⟨g, G, rfl, hG, hb⟩
  | done w r => exact .ended hleaves

end Leaves

/-- A thread that a halt adds is one of the host or begins an attempt. -/
theorem Sound.of_adds {n g j : Nat} {requester : Option String} {halt : Halt World Value Thrown}
    {t' : Thread World Value Thrown}
    (hadd : Adds (host configs E) n g requester halt j t') : Sound configs m t' := by
  cases halt with
  | start w call next =>
      obtain ⟨_, hrole, _, hs⟩ := hadd
      exact .fresh hs hrole fun w => guards_attemptCourse call.config call.path w
  | group w c paths next =>
      obtain ⟨_, p, _, _, hrole, _, hs⟩ := hadd
      exact .quiet hs (by simp [hrole]) (keeps_loadCourse World.steady_begun c p)
  | pause w next => exact hadd.elim
  | join w call a next => exact hadd.elim
  | standIn w left c p next => exact hadd.elim
  | done w r => exact hadd.elim

/-- **A thread that runs leaves sound threads behind.** -/
theorem sound_advance {k : Nat} {t : Thread World Value Thrown}
    {course : Course World Value Thrown Value}
    (hall : ∀ {j : Nat} {t}, m.threads[j]? = some t → Sound configs m t)
    (hk : m.threads[k]? = some t) {b : List Begun}
    (hh : Halts configs m t ((host configs E).follow m.loading t.requester course) b) {j : Nat}
    {t' : Thread World Value Thrown}
    (hj : (Machine.advance (host configs E) m k t course).threads[j]? = some t') :
    Sound configs (Machine.advance (host configs E) m k t course) t' := by
  have hbegun := hh.begun (k := k)
  have hsub : m.world.begun ⊆ (Machine.advance (host configs E) m k t course).world.begun := by
    rw [hbegun]
    exact hh.subset
  have hspec := (host configs E).follow_spec rfl m.loading t.requester course
  rcases advance_thread hk hj with ⟨t₀, h0, hrole, _, hself, hother, _⟩ | ⟨_, hadd, _⟩
  · by_cases hjk : j = k
    · subst hjk
      rw [hk] at h0
      injection h0 with h0
      subst h0
      cases hh with
      | quiet hb hh =>
          exact .of_keeps (hself rfl) hspec hh fun c p hr => (hb c p (hrole ▸ hr)).mono hsub
      | @body b hrole' hready hh =>
          refine .of_keeps (hself rfl) hspec hh fun c p hr => ⟨b, by rw [hbegun]; simp, ?_⟩
          rw [hrole, hrole'] at hr
          injection hr with h1 h2
          exact ⟨h1, h2⟩
      | guards hr hh =>
          refine .of_guards (hself rfl) hspec hh (hrole.trans hr) fun w config paths next hf => ?_
          -- the group is the one that has just been added
          refine ⟨⟨j, config, paths, (List.range paths.length).map (m.threads.length + ·), false⟩,
            ?_, rfl, rfl⟩
          rw [advance_group hf, List.getElem?_append_right (Nat.le_refl _), Nat.sub_self]
          rfl
    · refine (hall h0).mono hrole (hother hjk) hsub fun {g G} hG => ⟨G, ?_, rfl, rfl⟩
      rcases advance_groups (h := host configs E) (m := m) k t course with
        he | ⟨_, _, _, _, _, he⟩
      · rw [he]
        exact hG
      · rw [he, List.getElem?_append_left (List.getElem?_eq_some_iff.mp hG).1]
        exact hG
  · exact .of_adds hadd

/-! ## Every move -/

/-- What a move does to the bodies that have begun: nothing, or a body begins that is ready. -/
def BeginsReady (configs : ConfigId → LoadConfig) (m m' : Machine World Value Thrown) : Prop :=
  m'.world.begun = m.world.begun
  ∨ ∃ b k, m'.world.begun = b :: m.world.begun ∧ m.Running k b.config b.file ∧ Ready configs m b

/-- The invariant of the bodies. -/
structure BodyInv (configs : ConfigId → LoadConfig) (m : Machine World Value Thrown) : Prop where
  sound : ∀ {j : Nat} {t}, m.threads[j]? = some t → Sound configs m t
  /-- What has begun was ready, and still is. -/
  ready : ∀ b ∈ m.world.begun, Ready configs m b

theorem bodyInv_atRest {world : World} (hw : world.begun = [])
    (registries : List (Registry Value)) : BodyInv configs (atRest world registries) where
  sound := by intro j t hj; simp [atRest] at hj
  ready := by intro b hb; simp [atRest, hw] at hb

theorem Ready.step {b : Begun} (hb : Ready configs m b)
    (hm : Happens (host configs E) Ordinary m m') : Ready configs m' b := by
  intro s hs
  obtain ⟨p, hres, hp⟩ := hb s hs
  exact ⟨p, hres, hp.step rfl loaderOwns_ordinary hm⟩

/-- **A body begins only when it is ready.** -/
theorem begun_step (hG : GroupInv (host configs E) m) (hI : BodyInv configs m)
    (hm : Happens (host configs E) Ordinary m m') : BeginsReady configs m m' := by
  cases hm with
  | change f hf => exact Or.inl (hf m.world)
  | write f hf => exact hf.elim
  | spawn requester start hP => exact Or.inl rfl
  | spoil e hP hk hs hr => exact Or.inl rfl
  | cancel e hP hk hs => exact Or.inl rfl
  | skip hq => exact Or.inl rfl
  | settle hq hm => exact Or.inl rfl
  | @count q group thread response hq hm =>
      left
      rw [(settleGroup_threads { m with queue := q } group thread response).2.2]
  | @advance q k t course hq hk hc =>
      obtain ⟨b, hh⟩ := ((hI.sound hk).takes hG hc).halts (E := E) m.loading
      have hbegun := Halts.begun (E := E) (m := { m with queue := q }) (k := k) (hh.withQueue q)
      cases hh with
      | quiet => exact Or.inl hbegun
      | guards => exact Or.inl hbegun
      | body hr hready hh =>
          exact Or.inr ⟨_, k, hbegun, ⟨t, hk, hr, hc.not_isEnded⟩, hready⟩

theorem bodyInv_step (hG : GroupInv (host configs E) m) (hI : BodyInv configs m)
    (hm : Happens (host configs E) Ordinary m m') : BodyInv configs m' := by
  have hstep := hm
  have hadds := begun_step hG hI hm
  have hsub : m.world.begun ⊆ m'.world.begun := by
    rcases hadds with he | ⟨b, _, he, _⟩
    · rw [he]; exact List.Subset.refl _
    · rw [he]; exact List.subset_cons_self _ _
  have hgroup : ∀ {g : Nat} {G : Group}, m.groups[g]? = some G →
      ∃ G', m'.groups[g]? = some G' ∧ G'.config = G.config ∧ G'.paths = G.paths :=
    fun hg => hstep.group hg
  have hold : ∀ {j : Nat} {t}, m.threads[j]? = some t → Sound configs m' t :=
    fun hj => (hI.sound hj).mono rfl rfl hsub hgroup
  refine ⟨?_, ?_⟩
  · intro j t' hj
    cases hm with
    | change f hf => exact hold hj
    | write f hf => exact hf.elim
    | cancel e hP hk hs => exact hold hj
    | skip hq => exact hold hj
    | settle hq hm => exact hold hj
    | @count q group thread response hq hm =>
        rw [(settleGroup_threads { m with queue := q } group thread response).1] at hj
        exact hold hj
    | spawn requester start hP =>
        rcases getElem?_append_singleton hj with hj | ⟨rfl, rfl⟩
        · exact hold hj
        · refine .quiet rfl (by simp) ?_
          rcases hP with hP | ⟨_, hP⟩
          · exact hP
          · exact hP
    | @spoil k t start e hP hk hs hr =>
        obtain ⟨t₀, h0, rfl⟩ := getElem?_modify_eq_some.mp hj
        split
        · rename_i hkj
          subst hkj
          rw [hk] at h0
          injection h0 with h0
          subst h0
          exact .quiet rfl hr fun w => rfl
        · exact hold h0
    | @advance q k t course hq hk hc =>
        obtain ⟨b, hh⟩ := ((hI.sound hk).takes hG hc).halts (E := E) m.loading
        refine sound_advance (m := { m with queue := q }) (fun hj => ?_) hk (hh.withQueue q) hj
        exact (hI.sound hj).mono rfl rfl (List.Subset.refl _) fun hg => ⟨_, hg, rfl, rfl⟩
  · intro b hb
    rcases hadds with he | ⟨b', _, he, _, hready⟩
    · rw [he] at hb
      exact (hI.ready b hb).step hstep
    · rw [he] at hb
      rcases List.mem_cons.mp hb with rfl | hb
      · exact hready.step hstep
      · exact (hI.ready b hb).step hstep

/-- **An attempt that registers something has run its body.** -/
theorem hasBegun_of_registered (hG : GroupInv (host configs E) m) (hI : BodyInv configs m)
    (hm : Happens (host configs E) Ordinary m m') {c : ConfigId} {p : String}
    (hnone : (m.loading.registry c).record? p = none)
    (hsome : ((m'.loading.registry c).record? p).isSome) : m'.HasBegun c p := by
  obtain ⟨q, k, t, course, w, v, hk, hc, hrole, hf, rfl⟩ :=
    hm.registers rfl loaderOwns_ordinary hnone hsome
  obtain ⟨b, hh⟩ := ((hI.sound hk).takes hG hc).halts (E := E) m.loading
  have hbegun := Halts.begun (E := E) (m := { m with queue := q }) (k := k) (hh.withQueue q)
  rw [hf] at hh
  cases hh with
  | quiet hb hh =>
      obtain ⟨b, hb, h1, h2⟩ := hb c p hrole
      exact ⟨b, by rw [hbegun]; exact hb, h1, h2⟩
  | guards hr hh =>
      -- before its body an attempt ends with an error only
      obtain ⟨_, e, he⟩ := hh
      cases he
  | @body b hr hready hh =>
      rw [hr] at hrole
      injection hrole with h1 h2
      exact ⟨b, by rw [hbegun]; simp, h1, h2⟩

theorem bodyInv_reaches {world : World} (hw : world.begun = []) {registries : List (Registry Value)}
    (hr : ReachesBy (host configs E) Ordinary (atRest world registries) m) :
    LoaderInv (host configs E) m ∧ BodyInv configs m :=
  hr.invariant (I := fun m => LoaderInv (host configs E) m ∧ BodyInv configs m) rfl
    ⟨loaderInv_atRest world registries, bodyInv_atRest hw registries⟩
    fun hI hm => ⟨loaderInv_step rfl loaderOwns_ordinary hI.1 hm, bodyInv_step hI.1.groups hI.2 hm⟩

/-! ## Calls of the host -/

section Keeps

variable {γ : Type} {f : World → γ} (hf : World.Steady f)

include hf

theorem keeps_load (config : ConfigId) (path : String) : (Session.load config path).Keeps f :=
  (Act.keeps_ofEval hf.aside _).bind fun _ => Act.keeps_pure f _

end Keeps

theorem quiet_load (config : ConfigId) (path : String) : Act.Quiet (Session.load config path) :=
  keeps_load World.steady_begun config path

/-- The evaluator of a session resolves specifiers as its configurations say. -/
theorem resolver_engine (s : Session) (c : ConfigId) :
    s.engine.resolver c = (s.config c).resolver := by
  have hdepth : ∀ (r : ConfigId → Resolver) (depth : Nat), (Engine.ofDepth r depth).resolver = r := by
    intro r depth
    induction depth with
    | zero => rfl
    | succ depth ih => exact ih
  unfold Session.engine
  rw [hdepth]

/-- **What a session runs are ordinary moves.** -/
theorem reachesBy_session {s : Session} (hs : s.standIn = none) {calls : List (Act Value)}
    (hq : ∀ call ∈ calls, Act.Quiet call) :
    ReachesBy (host s.config E) Ordinary s.machine (s.run E calls).1.machine := by
  have hhost : s.host E = host s.config E := by
    unfold Session.host
    rw [hs]
    rfl
  have hcalls : ReachesBy (host s.config E) Ordinary s.machine
      (calls.foldl (fun m call => m.spawn .hostCall none call) s.machine) := by
    generalize s.machine = m
    induction calls generalizing m with
    | nil => exact Relation.ReflTransGen.refl
    | cons call calls ih =>
        have hgo : Goes (host s.config E) Ordinary m (m.spawn .hostCall none call) :=
          ⟨.call call, hq call List.mem_cons_self, rfl⟩
        have hrest := ih (fun c hc => hq c (List.mem_cons_of_mem _ hc)) (m.spawn .hostCall none call)
        exact Relation.ReflTransGen.head hgo hrest
  unfold Session.run
  rw [hhost]
  exact Relation.ReflTransGen.trans hcalls (reachesBy_run trivial _ _)

/-!
## Loads under several configurations

Each configuration has a registry of its own, but attempts are shared by path alone. So a load
may be answered by an attempt that was begun under another configuration, and what that attempt
loads is registered there. Whoever asked under the same configuration as the attempt finds the
exports in the registry he has asked for; for whoever did not, they are missing when the attempt
ends. What a body declares is loaded in the same sense: it may stand in the registry of another
configuration only.
-/

/-- **Where the exports of a load are registered.** A load that is answered at once finds them in
its own registry. A load that waits is answered with what an attempt at its path has registered,
under the configuration of the attempt. If that is its own one, the exports stand in its own
registry; if not, its path is not registered there when the attempt ends. And what a body declares
is in the registry of the body when it begins, unless an attempt under another configuration has
registered it there. -/
theorem registered_by_attempt {world : World} (hw : world.begun = [])
    {registries : List (Registry Value)}
    (hr : ReachesBy (host configs E) Ordinary (atRest world registries) m) :
    (∀ call v, m.loading.decide call = .registered v →
        (m.loading.registry call.config).record? call.path = some ⟨call.path, v⟩)
      ∧ (∀ k a call r, Handle.resume k (.attempt a call) (.ok r) ∈ m.queue →
          ∃ c v, r = some v ∧ m.Made a c call.path v ∧ (c = call.config →
            (m.loading.registry call.config).record? call.path = some ⟨call.path, v⟩))
      ∧ (∀ m' a c p v j call, Goes (host configs E) Ordinary m m' → m.Running a c p →
          m'.result? a = some (.ok v) → m.Outstanding j a call →
          (m'.loading.registry call.config).record? call.path
            = if call.config = c then some ⟨call.path, v⟩ else none)
      ∧ (∀ m' b, Goes (host configs E) Ordinary m m' → m'.world.begun = b :: m.world.begun →
          ∀ s ∈ b.specifiers, ∃ p, (configs b.config).resolver.apply b.file s = .ok p
            ∧ (p ∈ (m.loading.registry b.config).paths
              ∨ ∃ a c' v, c' ≠ b.config ∧ m.Made a c' p v)) := by
  obtain ⟨hL, hB⟩ := bodyInv_reaches hw hr
  refine ⟨?_, ?_, ?_, ?_⟩
  · intro call v hd
    have hspec := m.loading.decide_spec call
    rw [hd] at hspec
    exact hspec
  · intro k a call r hq
    obtain ⟨c, v, hv, hmade⟩ := hL.answers.resume hq
    exact ⟨c, v, hv, hmade, fun hc => hc ▸ hmade.record⟩
  · intro m' a c p v j call hg hrun hres ho
    unfold result? at hres
    rw [Option.bind_eq_some_iff] at hres
    obtain ⟨t, ht, hres⟩ := hres
    split at hres
    · rename_i hs
      injection hres with hres
      subst hres
      exact record_of_ended rfl hL.calls hL.opens (hg.happens rfl) hrun ht hs ho
    · cases hres
  · intro m' b hg hb s hs
    rcases begun_step hL.groups hB (hg.happens rfl) with hsame | ⟨b', k, hb', _, hready⟩
    · rw [hb] at hsame
      exact absurd hsame (List.cons_ne_self b m.world.begun)
    · rw [hb] at hb'
      injection hb' with hb'
      subst hb'
      obtain ⟨p, hres, hp⟩ := hready s hs
      exact ⟨p, hres, hp.mem_paths_or⟩

/-- Two configurations, and a module that declares nothing. -/
def twoConfigs : Session :=
  Session.start [{ store := some "cache" }, { store := some "cache" }]
    { sources := .table [("/p.py", ⟨"", true⟩)]
      stores := [("cache", { entries := [
        ("40d207ff", "\x7b\"dependency_specifiers\": [], "
          ++ "\"transformed_source\": \"\", \"line_map\": null\x7d")] })] }
    none

/-- The module is asked for under either of them, and one attempt at it is about to run. -/
def askedTwice : Machine World Value Thrown :=
  twoConfigs.machine.after (host twoConfigs.config twoConfigs.engine)
    [.call (Session.load 0 "/p.py"), .call (Session.load 1 "/p.py"), .turn 0, .turn 0]

/-- The attempt ends well, and under the second configuration the module is not registered. -/
theorem missing_when_askedTwice :
    let ended := askedTwice.after (host twoConfigs.config twoConfigs.engine) [.turn 0]
    askedTwice.Outstanding 1 2 ⟨1, "/p.py", none⟩
      ∧ (∃ v, ended.result? 2 = some (.ok v)
        ∧ (ended.loading.registry 0).record? "/p.py" = some ⟨"/p.py", v⟩)
      ∧ (ended.loading.registry 1).record? "/p.py" = none := by
  intro ended
  have hr : ReachesBy (host twoConfigs.config twoConfigs.engine) Ordinary
      (atRest twoConfigs.machine.world [{}, {}]) askedTwice := by
    refine reachesBy_after (m := twoConfigs.machine) ?_ (by decide +kernel)
    simp [Ordinary, quiet_load]
  have hg : Goes (host twoConfigs.config twoConfigs.engine) Ordinary askedTwice ended :=
    goes_after trivial (by decide +kernel)
  have hin : askedTwice.loading.inFlight.lookup "/p.py" = some 2 := by decide +kernel
  have hrole : askedTwice.threads[2]?.map Thread.role = some (.attempt 0 "/p.py") := by
    decide +kernel
  obtain ⟨t, ht, hrole⟩ := Option.map_eq_some_iff.mp hrole
  obtain ⟨c, hrun⟩ := (attemptInv_reaches rfl hr).running hin
  have hc : c = 0 := by
    have hsame := hrun.role ht
    rw [hrole] at hsame
    injection hsame with hc
    exact hc.symm
  subst hc
  have h0 : askedTwice.Outstanding 0 2 ⟨0, "/p.py", none⟩ := by
    rw [outstanding_iff]
    decide +kernel
  have h1 : askedTwice.Outstanding 1 2 ⟨1, "/p.py", none⟩ := by
    rw [outstanding_iff]
    decide +kernel
  have hok : ((ended.result? 2).bind Except.toOption).isSome = true := by decide +kernel
  obtain ⟨v, hv⟩ := Option.isSome_iff_exists.mp hok
  obtain ⟨r, hres, hr'⟩ := Option.bind_eq_some_iff.mp hv
  cases r with
  | error e => cases hr'
  | ok v' =>
      obtain ⟨_, _, hrecord, _⟩ := registered_by_attempt rfl hr
      refine ⟨h1, ⟨v', hres, ?_⟩, ?_⟩
      · exact hrecord ended 2 0 "/p.py" v' 0 _ hg hrun hres h0
      · exact hrecord ended 2 0 "/p.py" v' 1 _ hg hrun hres h1

end SourceLoader.Machine
