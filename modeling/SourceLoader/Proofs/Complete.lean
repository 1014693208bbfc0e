import Mathlib.Data.Fintype.Card
import Mathlib.Data.Set.Finite.List
import SourceLoader.Proofs.SmoothTurn

/-!
# Loads that cannot fail come to an end

When nothing is ready to go on, everything has ended. Otherwise an attempt would run. It would wait
for what it declares, and some load of that would wait for an attempt at a path that it declares,
which would run too. So from each attempt that runs a declaration would lead to another one, and as
there are only finitely many of them, declarations would lead around in a ring.

When everything has ended, the registry holds what was there in advance and what the loads of the
host came to, in each case just once. That is the same set of paths in whatever order the threads
took their turns.
-/

namespace SourceLoader

open Relation

/-- Where no path leads back to itself, paths of a finite set cannot lead on and on. -/
theorem not_leads_on {D : String → String → Prop} (hD : ∀ p, ¬ TransGen D p p)
    {R : String → Prop} (ps : List String) (hR : ∀ p, R p → p ∈ ps)
    (hnext : ∀ p, R p → ∃ q, D p q ∧ R q) (p : String) : ¬ R p := by
  let r : {p // p ∈ ps} → {p // p ∈ ps} → Prop := fun q p => TransGen D p.1 q.1
  have hfinite : Finite {p // p ∈ ps} := (List.finite_toSet ps).to_subtype
  have htrans : IsTrans _ r := ⟨fun _ _ _ h1 h2 => h2.trans h1⟩
  have hirrefl : Std.Irrefl r := ⟨fun p => hD p.1⟩
  have hwf : WellFounded r := Finite.wellFounded_of_trans_of_irrefl r
  suffices hall : ∀ p : {p // p ∈ ps}, ¬ R p.1 from fun hp => hall ⟨p, hR p hp⟩ hp
  intro p
  induction p using hwf.induction with
  | _ p ih =>
      intro hp
      obtain ⟨q, hq, hRq⟩ := hnext p.1 hp
      exact ih ⟨q, hR q hRq⟩ (.single hq) hRq

namespace Machine

open ModuleLoader

variable {configs : ConfigId → LoadConfig} {E : Engine} {c : ConfigId}
  {sources : SourceProvider} {registered paths : List String} {calls : List (Nat × String)}
  {m m' : Machine World Value Thrown}

/-! ## Registries grow by paths that are new -/

/-- A registry holds what it held before, and some more paths, each once. -/
def Grown (r r' : Registry Value) : Prop :=
  ∃ new, r'.records = r.records ++ new ∧ (new.map Record.path).Nodup
    ∧ ∀ p ∈ new.map Record.path, p ∉ r.paths

theorem Grown.refl (r : Registry Value) : Grown r r := ⟨[], by simp⟩

/-- One more path is registered. -/
theorem Grown.register {r r' r'' : Registry Value} (hr : Grown r r') {p : String} {v : Value}
    (hnone : r'.record? p = none) (hrecords : r''.records = r'.records ++ [⟨p, v⟩]) :
    Grown r r'' := by
  obtain ⟨new, he, hnodup, hnew⟩ := hr
  have hp : p ∉ r'.paths := by
    rw [Registry.mem_paths_iff, hnone]
    simp
  have hpaths : r'.paths = r.paths ++ new.map Record.path := by
    unfold Registry.paths
    rw [he, List.map_append]
  rw [hpaths, List.mem_append, not_or] at hp
  refine ⟨new ++ [⟨p, v⟩], by rw [hrecords, he, List.append_assoc], ?_, ?_⟩
  · rw [List.map_append]
    refine List.nodup_append.mpr ⟨hnodup, List.nodup_singleton _, ?_⟩
    rintro x hx y hy rfl
    have he : x = p := List.mem_singleton.mp hy
    exact hp.2 (he ▸ hx)
  · intro x hx
    rw [List.map_append, List.mem_append] at hx
    rcases hx with hx | hx
    · exact hnew x hx
    · have he : x = p := List.mem_singleton.mp hx
      exact he ▸ hp.1

theorem grown_step {P : Move World Value Thrown → Prop} (hP : LoaderOwns P) {r : Registry Value}
    (hr : Grown r (m.loading.registry c)) (hm : Happens (host configs E) P m m') :
    Grown r (m'.loading.registry c) := by
  rcases hm.cases with hcalm | ⟨f, hf, _⟩ | ⟨q, k, t, course, _, hk, _, rfl⟩
  · rw [hcalm.loading]
    exact hr
  · exact absurd hf (hP f)
  · have htables := advance_tables (h := host configs E) (m := { m with queue := q }) rfl course hk
    generalize (Machine.advance (host configs E) { m with queue := q } k t course).loading = l
      at htables
    cases htables with
    | same => exact hr
    | join =>
        rw [Loading.registry_await]
        exact hr
    | start =>
        rw [Loading.registry_await, Loading.registry_start]
        exact hr
    | @finish w result c' p l hf hrole hres =>
        rw [Loading.registry_finish]
        rcases hres with ⟨v, _, hreg⟩ | rfl
        · obtain ⟨hnone, _, hrecords, hother, _⟩ := Loading.registry_of_register hreg
          by_cases hcc : c = c'
          · subst hcc
            exact hr.register hnone hrecords
          · rw [hother c hcc]
            exact hr
        · exact hr

theorem grown_reaches {P : Move World Value Thrown → Prop} (hP : LoaderOwns P) {world : World}
    {registries : List (Registry Value)}
    (hr : ReachesBy (host configs E) P (atRest world registries) m) :
    Grown (registries.getD c {}) (m.loading.registry c) :=
  hr.invariant (I := fun m => Grown (registries.getD c {}) (m.loading.registry c)) rfl
    (.refl _) fun hI hm => grown_step hP hI hm

/-! ## Nobody waits for ever -/

/-- Nothing is left to be done. -/
def IsOver (m : Machine World Value Thrown) : Prop :=
  ∀ (k : Nat) (t : Thread World Value Thrown), m.threads[k]? = some t → t.state.IsEnded

theorem Does.not_asking {k : Nat} {t : Thread World Value Thrown}
    (ht : Does configs E c sources registered paths calls m k t) (left : Nat) (c' : ConfigId)
    (p : String) (next : World → Response Value Thrown → Course World Value Thrown Value) :
    t.state ≠ .asking left c' p next := by
  intro he
  cases ht with
  | ask _ hs =>
      rw [he] at hs
      cases hs
  | attempt _ _ _ _ _ hs =>
      rw [he] at hs
      cases hs

section Rest

variable (hI : SmoothInv configs E c sources registered paths calls m) (hA : AwakeInv m)
  (hC : CallInv m) (hO : OutcomeInv m) (hq : m.queue = [])

include hI hA hC hO hq

/-- Whoever asks for a load and has not ended waits for an attempt at the path. -/
theorem running_of_asks {k : Nat} {t : Thread World Value Thrown} (hk : m.threads[k]? = some t)
    {p : String} (hs : Asks c m p t.state) (hne : ¬ t.state.IsEnded) : ∃ a, m.Running a c p := by
  rcases hA.ended_or_stuck hC hO hq hk fun _ _ _ _ => (hI.does hk).not_asking _ _ _ _ with he | he
  · exact absurd he hne
  · cases he with
    | @attempt a call c' ho hrun =>
        obtain ⟨t', next, hk', hs'⟩ := ho
        rw [hk] at hk'
        injection hk' with hk'
        subst hk'
        rw [hs'] at hs
        cases hs with
        | waiting hcc hp =>
            obtain ⟨t₀, h0, hrole, _⟩ := id hrun
            have hunder := hI.onlyUnder h0 hrole
            subst hunder
            exact ⟨a, hp ▸ hrun⟩
    | group hk' hs' =>
        rw [hk] at hk'
        injection hk' with hk'
        subst hk'
        rw [hs'] at hs
        cases hs

/-- An attempt that has not ended waits for one at a path that it declares. -/
theorem declares_running {k : Nat} {p : String} (hrun : m.Running k c p) :
    ∃ q, Declares (configs c) sources paths p q ∧ ∃ a, m.Running a c q := by
  obtain ⟨t, hk, hrole, hne⟩ := hrun
  obtain ⟨_, _, _, _, a, _, hs⟩ := hI.attempt hk hrole
  rcases hA.ended_or_stuck hC hO hq hk fun _ _ _ _ => (hI.does hk).not_asking _ _ _ _ with he | he
  · exact absurd he hne
  · cases he with
    | attempt ho _ =>
        obtain ⟨t', next, hk', hs'⟩ := ho
        rw [hk] at hk'
        injection hk' with hk'
        subst hk'
        rw [hs'] at hs
        cases hs
    | @group g j t₀ t' next hk' hs' hj hrole' hne' =>
        rw [hk] at hk'
        injection hk' with hk'
        subst hk'
        obtain ⟨G, hG, hasker, _⟩ := hA.asker hk hs'
        cases hI.does hj with
        | attempt hr => rw [hr] at hrole'; cases hrole'
        | @ask q hasked hsj =>
            cases hasked with
            | call hr => rw [hr] at hrole'; cases hrole'
            | @member g' x G' asker hr hreq hd hG' hthread hx =>
                rw [hr] at hrole'
                injection hrole' with hgg
                subst hgg
                rw [hG] at hG'
                injection hG' with hG'
                subst hG'
                rw [hasker, hk] at hthread
                injection hthread with hthread
                subst hthread
                rw [hrole] at hx
                injection hx with _ hx
                subst hx
                exact ⟨q, hd, running_of_asks hI hA hC hO hq hj hsj hne'⟩

/-- **When nothing is ready to go on, everything has ended.** -/
theorem isOver_of_queue (hD : ∀ p, ¬ TransGen (Declares (configs c) sources paths) p p) :
    m.IsOver := by
  have hno : ∀ p, ¬ ∃ a, m.Running a c p := by
    refine not_leads_on hD paths ?_ fun p hp => ?_
    · rintro p ⟨a, t, hk, hrole, _⟩
      exact (hI.attempt hk hrole).2.2.2.1
    · obtain ⟨a, hrun⟩ := hp
      exact declares_running hI hA hC hO hq hrun
  intro k t hk
  refine Classical.byContradiction fun hne => ?_
  cases hI.does hk with
  | ask _ hs => exact hno _ (running_of_asks hI hA hC hO hq hk hs hne)
  | attempt hr => exact hno _ ⟨k, t, hk, hr, hne⟩

end Rest

/-! ## When everything has ended -/

/-- Where a body has begun, an attempt was made. -/
theorem SmoothInv.attempt_of_begun (hI : SmoothInv configs E c sources registered paths calls m)
    {p : String} (hb : m.HasBegun c p) :
    ∃ (k : Nat) (t : Thread World Value Thrown), m.threads[k]? = some t
      ∧ t.role = .attempt c p := by
  refine Classical.byContradiction fun hnot => ?_
  have hledger := hI.idle (p := p) fun {k t} hk hrole => hnot ⟨k, t, hk, hrole⟩
  obtain ⟨b, hb, _, hfile⟩ := hb
  have hmem : b ∈ m.world.begun.filter (·.file = p) :=
    List.mem_filter.mpr ⟨hb, by simpa using hfile⟩
  rw [hledger.bodies] at hmem
  cases hmem

section Over

variable (hI : SmoothInv configs E c sources registered paths calls m) (hover : m.IsOver)

include hI hover

/-- A path that was attempted is registered, and its ledger is complete. -/
theorem SmoothInv.attempted {k : Nat} {t : Thread World Value Thrown} (hk : m.threads[k]? = some t)
    {c' : ConfigId} {p : String} (hrole : t.role = .attempt c' p) :
    (∃ a, CompilesTo (configs c) sources p a ∧ Ledger m.world p 1 [⟨c, p, a.dependencies⟩])
      ∧ ∃ v, (m.loading.registry c).record? p = some ⟨p, v⟩ := by
  obtain ⟨_, _, _, _, a, ha, hs⟩ := hI.attempt hk hrole
  obtain ⟨r, hr⟩ := hover _ _ hk
  rw [hr] at hs
  cases hs with
  | ended hw hv => exact ⟨⟨a, ha, hw⟩, _, hv⟩

/-- A call has ended with the registered exports of its path. -/
theorem SmoothInv.answered {k : Nat} {p : String} (hp : (k, p) ∈ calls) :
    ∃ v, m.result? k = some (.ok v) ∧ (m.loading.registry c).record? p = some ⟨p, v⟩ := by
  obtain ⟨hsame, t, hk, hrole⟩ := hI.called hp
  cases hI.does hk with
  | attempt hr => rw [hr] at hrole; cases hrole
  | ask hasked hs =>
      cases hasked with
      | member hr => rw [hr] at hrole; cases hrole
      | call _ _ hp' =>
          obtain ⟨r, hr⟩ := hover _ _ hk
          rw [hr] at hs
          cases hs with
          | @ended v hv =>
              rw [hsame hp'] at hv
              exact ⟨v, result?_eq_some.mpr ⟨t, hk, hr⟩, hv⟩

/-- **A path is needed if and only if it was attempted.** -/
theorem SmoothInv.needed_iff (hB : BodyInv configs m)
    (horigin : ∀ p ∈ (m.loading.registry c).paths, p ∈ registered ∨ m.HasBegun c p) {p : String} :
    Needed registered (Declares (configs c) sources paths) (fun p => ∃ k, (k, p) ∈ calls) p
      ↔ ∃ (k : Nat) (t : Thread World Value Thrown), m.threads[k]? = some t
        ∧ t.role = .attempt c p := by
  -- what is registered and was not there in advance was attempted
  have hattempt : ∀ {p v}, (m.loading.registry c).record? p = some ⟨p, v⟩ → p ∉ registered →
      ∃ (k : Nat) (t : Thread World Value Thrown), m.threads[k]? = some t
        ∧ t.role = .attempt c p := by
    intro p v hv hnew
    refine hI.attempt_of_begun ((horigin p ?_).resolve_left hnew)
    rw [Registry.mem_paths_iff, hv]
    rfl
  constructor
  · intro hp
    induction hp with
    | root hp hnew =>
        obtain ⟨k, hk⟩ := hp
        obtain ⟨v, _, hv⟩ := hI.answered hover hk
        exact hattempt hv hnew
    | @dependency p q _ hd hnew ih =>
        -- the body of `p` has begun, so all that it declares is registered
        obtain ⟨k, t, hk, hrole⟩ := ih
        obtain ⟨⟨a, ha, hledger⟩, _⟩ := hI.attempted hover hk hrole
        obtain ⟨_, a', ha', s, hs, hres⟩ := hd
        have hsame := ha'.unique ha
        subst hsame
        have hb : (⟨c, p, a'.dependencies⟩ : Begun) ∈ m.world.begun := by
          have hmem : (⟨c, p, a'.dependencies⟩ : Begun)
              ∈ m.world.begun.filter (·.file = p) := by
            rw [hledger.bodies]
            exact List.mem_cons_self
          exact (List.mem_filter.mp hmem).1
        obtain ⟨q', hq', hloaded⟩ := hB.ready _ hb s hs
        rw [hres] at hq'
        injection hq' with hq'
        subst hq'
        have hmem := OnlyUnder.mem_paths hI.onlyUnder hloaded
        rw [Registry.mem_paths_iff] at hmem
        obtain ⟨record, hrecord⟩ := Option.isSome_iff_exists.mp hmem
        have hv : (m.loading.registry c).record? q = some ⟨q, record.exports⟩ := by
          rw [hrecord, ← Registry.path_of_record? hrecord]
        exact hattempt hv hnew
  · rintro ⟨k, t, hk, hrole⟩
    exact (hI.attempt hk hrole).2.2.1

end Over

/-! ## Any run -/

/-- The paths that the calls of the host come to. -/
def NeededBy (config : LoadConfig) (sources : SourceProvider) (registered paths : List String)
    (calls : List (Nat × String)) (p : String) : Prop :=
  Needed registered (Declares config sources paths) (fun p => ∃ k, (k, p) ∈ calls) p

theorem NeededBy.congr {config : LoadConfig} {calls' : List (Nat × String)}
    (hroots : ∀ p, (∃ k, (k, p) ∈ calls') ↔ ∃ k, (k, p) ∈ calls) (p : String) :
    NeededBy config sources registered paths calls' p
      ↔ NeededBy config sources registered paths calls p :=
  ⟨fun hp => hp.mono fun q hq => (hroots q).mp hq, fun hp => hp.mono fun q hq => (hroots q).mpr hq⟩

section Loads

variable {world : World} {registries : List (Registry Value)} (hbegun : world.begun = [])
  (hlookups : world.lookups = [])
  (hL : Loadable (configs c) world.sources (registries.getD c {}).paths paths)

include hbegun hlookups hL

/-- When a run is over, the registry has grown by the paths that were needed. -/
theorem registry_of_over
    (hr : Loads configs E c ((registries.getD c {}).paths ++ paths) (atRest world registries) calls
      m) (hover : m.IsOver) :
    ∃ new, (m.loading.registry c).records = (registries.getD c {}).records ++ new
      ∧ (new.map Record.path).Nodup
      ∧ ∀ p, p ∈ new.map Record.path
        ↔ NeededBy (configs c) world.sources (registries.getD c {}).paths paths calls p := by
  have hI := smoothInv_loads hbegun hlookups hL hr
  obtain ⟨_, hB⟩ := bodyInv_reaches hbegun (hr.reaches.mono ordinary_of_isLoad)
  have hO := orderInv_reaches hbegun (hr.reaches.mono ordinary_of_isLoad) hI.onlyUnder
  have hneeded := fun p => hI.needed_iff hover hB hO.origin (p := p)
  obtain ⟨new, he, hnodup, hnew⟩ :=
    grown_reaches (c := c) (P := IsLoad c) (fun f hf => hf) hr.reaches
  have hpaths : ∀ p, p ∈ (m.loading.registry c).paths
      ↔ p ∈ (registries.getD c {}).paths ∨ p ∈ new.map Record.path := by
    intro p
    unfold Registry.paths
    rw [he, List.map_append, List.mem_append]
  refine ⟨new, he, hnodup, fun p => ?_⟩
  constructor
  · intro hp
    have hbegun := (hO.origin p ((hpaths p).mpr (Or.inr hp))).resolve_left (hnew p hp)
    exact (hneeded p).mpr (hI.attempt_of_begun hbegun)
  · intro hp
    obtain ⟨k, t, hk, hrole⟩ := (hneeded p).mp hp
    obtain ⟨_, v, hv⟩ := hI.attempted hover hk hrole
    have hmem : p ∈ (m.loading.registry c).paths := by
      rw [Registry.mem_paths_iff, hv]
      rfl
    refine ((hpaths p).mp hmem).resolve_left ?_
    cases hp with
    | root _ hnot => exact hnot
    | dependency _ _ hnot => exact hnot

/-- **Loads that cannot fail do not fail, and load what they need, each once.** Under one
configuration, let the sources compile, let what they declare be resolved to paths that are
registered in advance or have a source too, and let no path declare itself, directly or over others.
Then in any run in which no body fails and none waits for a load of its own, whenever the host calls
and in whatever order threads take their turns:

* nothing ends with an error;
* when nothing is ready to go on, everything has ended;
* when everything has ended, the registry holds what it held in advance, and exactly the paths that
  the calls have come to along declarations over paths not registered in advance, each once; the
  source of each of these was looked up once and its body has begun once, and no other source was
  looked up and no other body has begun; each call has ended with the registered exports of its
  path; and any other such run with calls of the same paths has registered the same paths. -/
theorem loads_complete
    (hr : Loads configs E c ((registries.getD c {}).paths ++ paths) (atRest world registries) calls
      m) :
    (∀ k e, m.result? k ≠ some (.error e))
      ∧ (m.queue = [] → m.IsOver)
      ∧ (m.IsOver →
          (∃ new, (m.loading.registry c).records = (registries.getD c {}).records ++ new
            ∧ (new.map Record.path).Nodup
            ∧ ∀ p, p ∈ new.map Record.path
              ↔ NeededBy (configs c) world.sources (registries.getD c {}).paths paths calls p)
          ∧ (∀ p, NeededBy (configs c) world.sources (registries.getD c {}).paths paths calls p →
              ∃ a, CompilesTo (configs c) world.sources p a
                ∧ Ledger m.world p 1 [⟨c, p, a.dependencies⟩])
          ∧ (∀ p, ¬ NeededBy (configs c) world.sources (registries.getD c {}).paths paths calls p →
              Ledger m.world p 0 [])
          ∧ (∀ k p, (k, p) ∈ calls → ∃ v, m.result? k = some (.ok v)
              ∧ (m.loading.registry c).record? p = some ⟨p, v⟩)
          ∧ ∀ calls' m', Loads configs E c ((registries.getD c {}).paths ++ paths)
                (atRest world registries) calls' m' →
              (∀ p, (∃ k, (k, p) ∈ calls') ↔ ∃ k, (k, p) ∈ calls) → m'.IsOver →
              ∀ p, p ∈ (m'.loading.registry c).paths ↔ p ∈ (m.loading.registry c).paths) := by
  have hI := smoothInv_loads hbegun hlookups hL hr
  have hown : LoaderOwns (IsLoad c) := fun f hf => hf
  refine ⟨?_, ?_, fun hover => ⟨registry_of_over hbegun hlookups hL hr hover, ?_, ?_, ?_, ?_⟩⟩
  · intro k e he
    obtain ⟨t, hk, hs⟩ := result?_eq_some.mp he
    obtain ⟨v, hv⟩ := (hI.does hk).ok_of_ended hs
    cases hv
  · intro hq
    obtain ⟨hLo, hO⟩ := outcomeInv_reaches rfl hown hr.reaches
    exact isOver_of_queue hI (awakeInv_reaches rfl hr.reaches) hLo.calls hO hq hL.acyclic
  · intro p hp
    obtain ⟨_, hB⟩ := bodyInv_reaches hbegun (hr.reaches.mono ordinary_of_isLoad)
    have hO := orderInv_reaches hbegun (hr.reaches.mono ordinary_of_isLoad) hI.onlyUnder
    obtain ⟨k, t, hk, hrole⟩ := (hI.needed_iff hover hB hO.origin).mp hp
    exact (hI.attempted hover hk hrole).1
  · intro p hp
    exact hI.idle fun hk hrole => hp (hI.attempt hk hrole).2.2.1
  · intro k p hp
    exact hI.answered hover hp
  · intro calls' m' hr' hroots hover' p
    obtain ⟨new, he, _, hnew⟩ := registry_of_over hbegun hlookups hL hr hover
    obtain ⟨new', he', _, hnew'⟩ := registry_of_over hbegun hlookups hL hr' hover'
    unfold Registry.paths
    rw [he, he', List.map_append, List.map_append, List.mem_append, List.mem_append, hnew, hnew',
      NeededBy.congr hroots]

end Loads

/-! ## A run that can be followed -/

/-- The courses that a thread can take up next. -/
def courses (m : Machine World Value Thrown) (k : Nat) (t : Thread World Value Thrown) :
    List (Course World Value Thrown Value) :=
  match t.state with
  | .fresh start => [start m.world]
  | .waiting wait next => m.queue.filterMap fun handle =>
      match handle with
      | .resume k' wait' response =>
          if k' = k ∧ wait' = wait then some (next m.world response) else none
      | _ => none
  | _ => []

theorem mem_courses_of_takesUp {k : Nat} {t : Thread World Value Thrown}
    {course : Course World Value Thrown Value} (hc : TakesUp m k t course) :
    course ∈ m.courses k t := by
  unfold courses
  cases hc with
  | begin hs =>
      rw [hs]
      exact List.mem_cons_self
  | resume hs hq =>
      rw [hs]
      exact List.mem_filterMap.mpr ⟨_, hq, by simp⟩

/-- Is this a halt at which others may run, or a good end? -/
def isSmooth : Halt World Value Thrown → Bool
  | .pause _ _ | .done _ (.ok _) => true
  | _ => false

theorem isSmooth_iff {halt : Halt World Value Thrown} : isSmooth halt = true ↔ halt.IsSmooth := by
  cases halt with
  | done w r => cases r <;> simp [isSmooth, Halt.IsSmooth]
  | _ => simp [isSmooth, Halt.IsSmooth]

/-- Does no attempt fail or wait for a load in its body, whatever is taken up next? -/
def bodiesRun (configs : ConfigId → LoadConfig) (E : Engine) (m : Machine World Value Thrown) :
    Bool :=
  m.threads.zipIdx.all fun e => (m.courses e.2 e.1).all fun course =>
    match e.1.role with
    | .attempt _ path =>
        let halt := (host configs E).follow m.loading e.1.requester course
        isSmooth halt || !halt.world.begun.any (·.file = path)
    | _ => true

theorem bodiesRun_of_check (hcheck : m.bodiesRun configs E = true) : m.BodiesRun configs E c := by
  intro k t course b hk hc hrole _ hb _
  have hmem : (t, k) ∈ m.threads.zipIdx := List.mem_zipIdx_iff_getElem?.mpr hk
  have hall := List.all_eq_true.mp (List.all_eq_true.mp hcheck _ hmem) course
    (mem_courses_of_takesUp hc)
  simp only [hrole] at hall
  rcases Bool.or_eq_true_iff.mp hall with hsmooth | hnot
  · exact isSmooth_iff.mp hsmooth
  · have : ((host configs E).follow m.loading t.requester course).world.begun.any
        (·.file = b.file) = true := List.any_eq_true.mpr ⟨b, hb, by simp⟩
    rw [this] at hnot
    cases hnot

/-- Follows a run: the host calls for a path, or the first entry of the queue is carried out. -/
def followLoads (configs : ConfigId → LoadConfig) (E : Engine) (c : ConfigId)
    (known : List String) : List (Nat × String) → Machine World Value Thrown →
    List (Option String) → Option (List (Nat × String) × Machine World Value Thrown)
  | calls, m, [] => some (calls, m)
  | calls, m, some p :: rest =>
      if known.contains p then
        followLoads configs E c known ((m.threads.length, p) :: calls)
          (m.spawn .hostCall none (Session.load c p)) rest
      else none
  | calls, m, none :: rest =>
      if m.bodiesRun configs E then
        (m.step (host configs E) 0).bind fun m => followLoads configs E c known calls m rest
      else none

theorem loads_of_followLoads {known : List String} {m₀ : Machine World Value Thrown}
    {steps : List (Option String)} {calls' : List (Nat × String)}
    (hr : Loads configs E c known m₀ calls m)
    (hsteps : followLoads configs E c known calls m steps = some (calls', m')) :
    Loads configs E c known m₀ calls' m' := by
  induction steps generalizing calls m with
  | nil =>
      injection hsteps with hsteps
      injection hsteps with h1 h2
      exact h1 ▸ h2 ▸ hr
  | cons step rest ih =>
      cases step with
      | some p =>
          rw [followLoads] at hsteps
          split at hsteps
          · rename_i hp
            exact ih (hr.call (List.contains_iff_mem.mp hp)) hsteps
          · cases hsteps
      | none =>
          rw [followLoads] at hsteps
          split at hsteps
          · rename_i hcheck
            obtain ⟨m₁, hs, hsteps⟩ := Option.bind_eq_some_iff.mp hsteps
            exact ih (hr.turn (bodiesRun_of_check hcheck) hs) hsteps
          · cases hsteps

/-- `/r.py` declares `/p.py`, and both have a body. -/
def forked : Session :=
  Session.start [{}]
    { sources := .table [("/p.py", ⟨"x = 1", true⟩), ("/r.py", ⟨"from . import p", true⟩)] } none

/-- What the two sources declare. -/
theorem dependencies_forked :
    (["/p.py", "/r.py"].map fun p =>
      (compiled? (forked.config 0) forked.machine.world.sources p).map Artifact.dependencies)
    = [some [], some [".p"]] := by decide +kernel

theorem loadable_forked :
    Loadable (forked.config 0) forked.machine.world.sources [] ["/p.py", "/r.py"] := by
  have hdependencies := dependencies_forked
  simp only [List.map_cons, List.map_nil, List.cons.injEq, and_true] at hdependencies
  obtain ⟨hp, hr⟩ := hdependencies
  -- only `/r.py` declares anything
  have hdeclares : ∀ {p a s}, p ∈ ["/p.py", "/r.py"] →
      CompilesTo (forked.config 0) forked.machine.world.sources p a → s ∈ a.dependencies →
      p = "/r.py" ∧ s = ".p" := by
    intro p a s hmem ha hs
    rw [compilesTo_iff] at ha
    rcases List.mem_cons.mp hmem with rfl | hmem
    · rw [ha] at hp
      injection hp with hp
      rw [hp] at hs
      cases hs
    · rcases List.mem_cons.mp hmem with rfl | hmem
      · rw [ha] at hr
        injection hr with hr
        rw [hr] at hs
        exact ⟨rfl, List.mem_singleton.mp hs⟩
      · cases hmem
  have hresolve : (forked.config 0).resolver.apply "/r.py" ".p" = .ok "/p.py" := rfl
  refine ⟨rfl, ?_, ?_, ?_⟩
  · intro p hmem
    rcases List.mem_cons.mp hmem with rfl | hmem
    · obtain ⟨a, ha, _⟩ := Option.map_eq_some_iff.mp hp
      exact ⟨a, compilesTo_iff.mpr ha⟩
    · rcases List.mem_cons.mp hmem with rfl | hmem
      · obtain ⟨a, ha, _⟩ := Option.map_eq_some_iff.mp hr
        exact ⟨a, compilesTo_iff.mpr ha⟩
      · cases hmem
  · intro p hmem a ha s hs
    obtain ⟨rfl, rfl⟩ := hdeclares hmem ha hs
    exact ⟨"/p.py", hresolve, Or.inr List.mem_cons_self⟩
  · -- a declaration leads from `/r.py` to `/p.py`, where it ends
    have hedge : ∀ {x y}, Declares (forked.config 0) forked.machine.world.sources
        ["/p.py", "/r.py"] x y → x = "/r.py" ∧ y = "/p.py" := by
      rintro x y ⟨hmem, a, ha, s, hs, hy⟩
      obtain ⟨rfl, rfl⟩ := hdeclares hmem ha hs
      rw [hresolve] at hy
      injection hy with hy
      exact ⟨rfl, hy.symm⟩
    intro x hx
    obtain ⟨y, hxy, _⟩ := TransGen.head'_iff.mp hx
    obtain ⟨y', _, hyx⟩ := TransGen.tail'_iff.mp hx
    have h1 := (hedge hxy).1
    have h2 := (hedge hyx).2
    rw [h1] at h2
    exact absurd h2 (by decide)

/-- Both paths are loaded at the same time. -/
def forkedRun : Option (List (Nat × String) × Machine World Value Thrown) :=
  followLoads forked.config forked.engine 0 ["/p.py", "/r.py"] [] (atRest forked.machine.world [{}])
    ([some "/r.py", some "/p.py"] ++ List.replicate 11 none)

/-- The loads have ended well, and what was needed was looked up and run once. -/
theorem loaded_once_in_forkedRun :
    ∃ calls m, forkedRun = some (calls, m) ∧ m.IsOver ∧ (∀ k e, m.result? k ≠ some (.error e))
      ∧ ∀ k p, (k, p) ∈ calls → ∃ a,
        CompilesTo (forked.config 0) forked.machine.world.sources p a
          ∧ Ledger m.world p 1 [⟨0, p, a.dependencies⟩] := by
  have hsome : (forkedRun.map fun r => r.2.queue.isEmpty) = some true := by decide +kernel
  obtain ⟨⟨calls, m⟩, hrun, hempty⟩ := Option.map_eq_some_iff.mp hsome
  have hr : Loads forked.config forked.engine 0 (([{}].getD 0 {} : Registry Value).paths
      ++ ["/p.py", "/r.py"]) (atRest forked.machine.world [{}]) calls m :=
    loads_of_followLoads .rest hrun
  obtain ⟨hok, hrest, hover⟩ := loads_complete rfl rfl loadable_forked hr
  have hend := hrest (List.isEmpty_iff.mp hempty)
  exact ⟨calls, m, hrun, hend, hok, fun k p hp =>
    (hover hend).2.1 p (.root ⟨k, hp⟩ List.not_mem_nil)⟩

end Machine

end SourceLoader
