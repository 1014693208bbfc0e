import SourceLoader.Proofs.Smooth

/-!
# Turns of loads that cannot fail

A thread that runs changes the ledger of its own path only. If it asks for a load, it is not
refused, since that would close a ring of declarations. If it is an attempt, it passes to its next
phase: what it waited for is there, so its body does not fail, and no other attempt at its path has
registered anything.
-/

namespace SourceLoader.Machine

open ModuleLoader Relation

variable {configs : ConfigId → LoadConfig} {E : Engine} {c : ConfigId}
  {sources : SourceProvider} {registered paths : List String} {calls : List (Nat × String)}
  {m m' : Machine World Value Thrown}

/-! ## No load is refused -/

/-- A load in the name of a path that declares what it asks for closes no ring. -/
theorem not_closesRing (hA : ∀ p, ¬ TransGen (Declares (configs c) sources paths) p p)
    (hwaits : ∀ {x y}, y ∈ m.loading.waits.of x → Declares (configs c) sources paths x y)
    {requester : Option String} {p : String}
    (hreq : ∀ x, requester = some x → Declares (configs c) sources paths x p) :
    ¬ m.loading.ClosesRing ⟨c, p, m.loading.client? requester⟩ := by
  rintro ⟨client, hclient, hreach⟩
  have hx := hreq client.path (Loading.client?_eq_some.mp hclient).1
  have hchain : ReflTransGen (Declares (configs c) sources paths) p client.path :=
    ReflTransGen.mono (fun _ _ hedge => hwaits hedge.1) _ _ hreach
  exact hA client.path (TransGen.head' hx hchain)

/-! ## A thread changes the ledger of its own path only -/

section Ledger

variable {k : Nat} {t : Thread World Value Thrown} {course : Course World Value Thrown Value}
  {q : List (Handle Value Thrown)}

theorem begun_advance (m : Machine World Value Thrown) (k : Nat) (t : Thread World Value Thrown)
    (course : Course World Value Thrown Value) :
    (Machine.advance (host configs E) m k t course).world.begun
      = ((host configs E).follow m.loading t.requester course).world.begun := by
  have hkeeps : (host configs E).Keeps World.begun := keeps_host World.steady_begun
  exact hkeeps.halt m k t.role t.requester _

variable (hB : BodyInv configs m) (hG : GroupInv (host configs E) m)
  (hk : m.threads[k]? = some t) (hc : TakesUp m k t course)

include hB hG hk hc

/-- The bodies that have begun when a thread comes to a halt are ready. -/
theorem ready_of_takesUp {b : Begun}
    (hb : b ∈ ((host configs E).follow m.loading t.requester course).world.begun) :
    Ready configs m b := by
  obtain ⟨bs, hh⟩ := ((hB.sound hk).takes hG hc).halts (E := E) m.loading
  cases hh with
  | quiet _ hh =>
      rw [hh.world] at hb
      exact hB.ready b hb
  | guards _ hh =>
      rw [hh.world] at hb
      exact hB.ready b hb
  | body _ hready hh =>
      rw [hh.world] at hb
      rcases List.mem_cons.mp hb with rfl | hb
      · exact hready
      · exact hB.ready b hb

/-- **What is known of another path stays so.** -/
theorem ledger_advance (hF : FetchInv configs E m) (honly : m.OnlyUnder c) {p : String}
    (hne : t.role ≠ .attempt c p) {n : Nat} {bodies : List Begun}
    (hw : Ledger m.world p n bodies) :
    Ledger (Machine.advance (host configs E) { m with queue := q } k t course).world p n
      bodies := by
  have hown : ∀ {c' p'}, t.role = .attempt c' p' → p ≠ p' := by
    rintro c' p' hrole rfl
    have hc' : c' = c := honly hk hrole
    exact hne (hc' ▸ hrole)
  constructor
  · rw [← hw.fetches]
    have hf := World.steady_lookups
    rcases (hF hk).keeps hk hc with hkeeps | ⟨p', ⟨t', c', ht', hrole, _⟩, hkeeps⟩
    · unfold World.fetches
      rw [keeps_advance (m := { m with queue := q }) hf k t hkeeps]
    · rw [hk] at ht'
      injection ht' with ht'
      subst ht'
      have hlookups : (Machine.advance (host configs E) { m with queue := q } k t
          course).world.lookups = countLookup p' m.world.lookups := keeps_advance hf k t hkeeps
      have hcount := fetches_countLookup p' p m.world
      rw [if_neg (hown hrole)] at hcount
      rw [← hcount]
      unfold World.fetches
      rw [hlookups]
  · rw [← hw.bodies]
    obtain ⟨bs, hh⟩ := ((hB.sound hk).takes hG hc).halts (E := E) m.loading
    rw [Halts.begun (E := E) (m := { m with queue := q }) (k := k) (hh.withQueue q)]
    cases hh with
    | quiet => rfl
    | guards => rfl
    | body hrole =>
        rw [List.filter_cons_of_neg]
        simpa using fun he => hown hrole he.symm

end Ledger

/-! ## Attempts pass to their next phase -/

/-- Where an attempt comes to that cannot fail. -/
inductive AttemptHalts (configs : ConfigId → LoadConfig) (c : ConfigId)
    (sources : SourceProvider) (m : Machine World Value Thrown) (p : String) (a : Artifact) :
    Halt World Value Thrown → Prop
  | before {w : World} {next : World → Response Value Thrown → Course World Value Thrown Value}
      (hw : w.begun.filter (·.file = p) = [])
      (hn : ∀ w v, w.sources = sources → (next w (.ok v)).Approaches sources (configs c).resolver c p
        a.dependencies w.begun) :
      AttemptHalts configs c sources m p a (.pause w next)
  | collecting {w : World} {paths : List String}
      {next : World → Response Value Thrown → Course World Value Thrown Value}
      (hw : w.begun.filter (·.file = p) = [])
      (hres : Resolves (configs c).resolver p a.dependencies paths)
      (hn : ∀ w v, (next w (.ok v)).Keeps World.begun (⟨c, p, a.dependencies⟩ :: w.begun)) :
      AttemptHalts configs c sources m p a (.group w c paths next)
  | body {w : World} {next : World → Response Value Thrown → Course World Value Thrown Value}
      (hw : w.begun.filter (·.file = p) = [⟨c, p, a.dependencies⟩])
      (hn : ∀ w r, (next w r).Keeps World.begun w.begun) :
      AttemptHalts configs c sources m p a (.pause w next)
  | done {w : World} {v : Value} (hw : w.begun.filter (·.file = p) = [⟨c, p, a.dependencies⟩]) :
      AttemptHalts configs c sources m p a (.done w (.ok v))

/-- In its body, an attempt that does not fail lets others run or ends well. -/
theorem AttemptHalts.of_smooth {p : String} {a : Artifact} {halt : Halt World Value Thrown}
    (hsmooth : halt.IsSmooth) {bs : List Begun} (hkeeps : halt.Keeps World.begun bs)
    (hbs : bs.filter (·.file = p) = [⟨c, p, a.dependencies⟩]) :
    AttemptHalts configs c sources m p a halt := by
  cases halt with
  | pause w next =>
      refine .body ?_ hkeeps.2
      rw [hkeeps.1]
      exact hbs
  | done w r =>
      obtain ⟨v, rfl⟩ := hsmooth
      have hw : w.begun = bs := hkeeps
      exact .done (hw ▸ hbs)
  | join w call a next => exact hsmooth.elim
  | start w call next => exact hsmooth.elim
  | standIn w left c p next => exact hsmooth.elim
  | group w c paths next => exact hsmooth.elim

section Phase

variable {k : Nat} {t : Thread World Value Thrown} {course : Course World Value Thrown Value}
  {p : String} {a : Artifact} (hL : Loadable (configs c) sources registered paths) (hp : p ∈ paths)
  (ha : CompilesTo (configs c) sources p a) (hsources : m.world.sources = sources)
  (hgood : ∀ {handle}, handle ∈ m.queue → IsGood handle) (hk : m.threads[k]? = some t)
  (hc : TakesUp m k t course) (hrole : t.role = .attempt c p)
  (hs : Phase configs E c sources m p a t.state)

include hL hp ha hsources hgood hc hs in
/-- What an attempt does when it runs, by its phase. -/
theorem Phase.takes :
    (course.Approaches sources (configs c).resolver c p a.dependencies m.world.begun
        ∧ m.world.begun.filter (·.file = p) = [])
    ∨ ∃ bs, course.Keeps World.begun bs ∧ bs.filter (·.file = p) = [⟨c, p, a.dependencies⟩] := by
  cases hc with
  | begin hstate =>
      rw [hstate] at hs
      cases hs with
      | fresh hw =>
          refine Or.inl ⟨approaches_attemptCourse hL.store ha (fun s hs => ?_) m.world hsources,
            hw.bodies⟩
          obtain ⟨q, hq, _⟩ := hL.closed p hp a ha s hs
          exact ⟨q, hq⟩
  | @resume wait next response hstate hq =>
      obtain ⟨v, hv⟩ : ∃ v, response = .ok v := hgood hq
      subst hv
      rw [hstate] at hs
      cases hs with
      | before hw hn => exact Or.inl ⟨hn m.world v hsources, hw.bodies⟩
      | collecting hw hn =>
          refine Or.inr ⟨_, hn m.world v, ?_⟩
          rw [List.filter_cons_of_pos (by simp), hw.bodies]
      | body hw hn => exact Or.inr ⟨_, hn m.world (.ok v), hw.bodies⟩

include hL hp ha hsources hgood hk hc hrole hs in
/-- **An attempt passes to its next phase.** -/
theorem Phase.halts (hB : BodyInv configs m) (hG : GroupInv (host configs E) m)
    (hruns : m.BodiesRun configs E c) :
    AttemptHalts configs c sources m p a
      ((host configs E).follow m.loading t.requester course) := by
  have hkeeps : (host configs E).Keeps World.begun := keeps_host World.steady_begun
  -- once the body has begun, all that it declares is there
  have hbody : ∀ {bs}, ((host configs E).follow m.loading t.requester course).Keeps World.begun bs →
      bs.filter (·.file = p) = [⟨c, p, a.dependencies⟩] →
      AttemptHalts configs c sources m p a
        ((host configs E).follow m.loading t.requester course) := by
    intro bs hh hbs
    have hmem : ⟨c, p, a.dependencies⟩
        ∈ ((host configs E).follow m.loading t.requester course).world.begun := by
      rw [hh.world]
      have : (⟨c, p, a.dependencies⟩ : Begun) ∈ bs.filter (·.file = p) := by
        rw [hbs]
        exact List.mem_cons_self
      exact (List.mem_filter.mp this).1
    exact .of_smooth (hruns hk hc hrole rfl hmem (ready_of_takesUp hB hG hk hc hmem)) hh hbs
  rcases Phase.takes hL hp ha hsources hgood hc hs with ⟨happ, hnil⟩ | ⟨bs, hk, hbs⟩
  · have hhalt : ((host configs E).follow m.loading t.requester course).Approaches sources
        (configs c).resolver c p a.dependencies m.world.begun := hkeeps.follow_approaches rfl happ
    generalize (host configs E).follow m.loading t.requester course = halt at hbody hhalt ⊢
    cases hhalt with
    | pause hw hn => exact .before (hw ▸ hnil) hn
    | group hw hres hn => exact .collecting (hw ▸ hnil) hres hn
    | body hh =>
        refine hbody hh ?_
        rw [List.filter_cons_of_pos (by simp), hnil]
  · exact hbody (hkeeps.follow rfl hk) hbs

include hk hc hs in
/-- When an attempt has run, its source has been looked up once. -/
theorem Phase.fetches (hF : FetchInv configs E m) (q : List (Handle Value Thrown)) :
    (Machine.advance (host configs E) { m with queue := q } k t course).world.fetches p = 1 := by
  have hf := World.steady_lookups
  -- whoever is past the lookup leaves the count alone
  have hpast : m.world.fetches p = 1 → (∀ start, t.state ≠ .fresh start) →
      (Machine.advance (host configs E) { m with queue := q } k t course).world.fetches p = 1 := by
    intro hone hnot
    rcases (hF hk).keeps hk hc with hkeeps | ⟨p', ⟨t', c', ht', _, hfresh⟩, _⟩
    · rw [← hone]
      unfold World.fetches
      rw [keeps_advance (m := { m with queue := q }) hf k t hkeeps]
    · rw [hk] at ht'
      injection ht' with ht'
      exact absurd (ht' ▸ hfresh) (hnot _)
  cases hc with
  | begin hstate =>
      rw [hstate] at hs
      cases hs with
      | fresh hw =>
          have hkeeps : ((host configs E).attemptCourse c p m.world).Keeps World.lookups
              (countLookup p m.world.lookups) :=
            keeps_attemptCourse hf (fun _ _ => rfl) c p m.world
          have hlookups : (Machine.advance (host configs E) { m with queue := q } k t
              ((host configs E).attemptCourse c p m.world)).world.lookups
              = countLookup p m.world.lookups := keeps_advance hf k t hkeeps
          have hcount := fetches_countLookup p p m.world
          rw [if_pos rfl, hw.fetches] at hcount
          refine Eq.trans ?_ hcount
          unfold World.fetches
          rw [hlookups]
  | resume hstate hq =>
      have hnot : ∀ start, t.state ≠ .fresh start := by
        intro start he
        rw [hstate] at he
        cases he
      rw [hstate] at hs
      cases hs with
      | before hw => exact hpast hw.fetches hnot
      | collecting hw => exact hpast hw.fetches hnot
      | body hw => exact hpast hw.fetches hnot

end Phase

/-! ## A thread runs -/

/-- Where a thread comes to, in a run of loads that cannot fail. -/
inductive Turns (configs : ConfigId → LoadConfig) (c : ConfigId) (sources : SourceProvider)
    (paths : List String) (calls : List (Nat × String)) (m : Machine World Value Thrown) (k : Nat)
    (t : Thread World Value Thrown) (halt : Halt World Value Thrown) : Prop
  | ask {p : String} (hasked : AskedFor c (configs c) sources paths calls m k t p)
      (hh : AskHalts c m p t.requester halt)
  | attempt {p : String} {a : Artifact} (hrole : t.role = .attempt c p)
      (hreq : t.requester = some p) (hp : p ∈ paths) (ha : CompilesTo (configs c) sources p a)
      (hh : AttemptHalts configs c sources m p a halt)

section Turn

variable (hL : Loadable (configs c) sources registered paths)
  (hI : SmoothInv configs E c sources registered paths calls m)
  (hLo : LoaderInv (host configs E) m) (hF : FetchInv configs E m) {k : Nat}
  {t : Thread World Value Thrown} {course : Course World Value Thrown Value}
  {q : List (Handle Value Thrown)} (hk : m.threads[k]? = some t) (hc : TakesUp m k t course)
  (hm' : m' = Machine.advance (host configs E) { m with queue := q } k t course)

include hL hI hLo hk hc in
theorem SmoothInv.turns (hB : BodyInv configs m) (hruns : m.BodiesRun configs E c) :
    Turns configs c sources paths calls m k t
      ((host configs E).follow m.loading t.requester course) := by
  cases hI.does hk with
  | ask hasked hs =>
      exact .ask hasked (hs.halts hc hI.good hLo.answers hI.onlyUnder
        (not_closesRing hL.acyclic hI.waits fun x hx => hasked.declared hx))
  | attempt hr hreq _ hp ha hs =>
      exact .attempt hr hreq hp ha
        (Phase.halts hL hp ha hI.sources hI.good hk hc hr hs hB hLo.groups hruns)

include hI hLo hF hk hc hm' in
/-- **The thread that has run goes on with what it is there for.** -/
theorem SmoothInv.ran (hm : Happens (host configs E) (IsLoad c) m m') {t' : Thread World Value Thrown}
    (hk' : m'.threads[k]? = some t') (hrole' : t'.role = t.role) (hreq' : t'.requester = t.requester)
    (hleaves : Leaves m.threads.length m.groups.length
      ((host configs E).follow m.loading t.requester course) t'.state)
    (hturns : Turns configs c sources paths calls m k t
      ((host configs E).follow m.loading t.requester course)) :
    Does configs E c sources registered paths calls m' k t' := by
  have hext : m.loading.Extends m'.loading :=
    hm.extends rfl fun f hf => hf
  have hbegun : m'.world.begun
      = ((host configs E).follow m.loading t.requester course).world.begun := by
    rw [hm']
    exact begun_advance { m with queue := q } k t course
  cases hturns with
  | @ask p hasked hh =>
      have hasked' : AskedFor c (configs c) sources paths calls m' k t' p := by
        refine hasked.mono (List.Subset.refl _) hrole' hreq' (fun hG => ?_) fun hj => ?_
        · obtain ⟨G', hG', ha, _⟩ := hm.asker hG
          exact ⟨G', hG', ha⟩
        · obtain ⟨t₁, h1, hr, _⟩ := hm.old hj
          exact ⟨t₁, h1, hr⟩
      refine .ask hasked' ?_
      generalize hf : (host configs E).follow m.loading t.requester course = halt at hleaves hh
      cases hh with
      | @done w v hv =>
          have hthread := advance_done (m := { m with queue := q }) hk hasked.role hf
          rw [← hm', hk'] at hthread
          injection hthread with hthread
          rw [hthread]
          exact .ended (hext.record hv)
      | join hn =>
          have hs : t'.state = _ := hleaves
          rw [hs]
          exact .waiting rfl rfl hn
      | start hn =>
          have hs : t'.state = _ := hleaves
          rw [hs]
          exact .waiting rfl rfl hn
  | @attempt p a hr hreq hp ha hh =>
      obtain ⟨_, _, hneed, _, a', ha', hs⟩ := hI.attempt hk hr
      have hsame := ha.unique ha'
      subst hsame
      refine .attempt (hrole'.trans hr) (hreq'.trans hreq) hneed hp ha ?_
      have hfetch : m'.world.fetches p = 1 := by
        rw [hm']
        exact Phase.fetches hk hc hs hF q
      generalize hf : (host configs E).follow m.loading t.requester course = halt
        at hleaves hh hbegun
      cases hh with
      | before hw hn =>
          have hs : t'.state = _ := hleaves
          rw [hs]
          exact .before ⟨hfetch, hbegun ▸ hw⟩ hn
      | collecting hw _ hn =>
          have hs : t'.state = _ := hleaves
          rw [hs]
          exact .collecting ⟨hfetch, hbegun ▸ hw⟩ hn
      | body hw hn =>
          have hs : t'.state = _ := hleaves
          rw [hs]
          exact .body ⟨hfetch, hbegun ▸ hw⟩ hn
      | @done w v hw =>
          have hnone := hLo.opens.running (k := k) ⟨t, hk, hr, hc.not_isEnded⟩
          obtain ⟨hthread, hv⟩ := advance_attempt_ok (m := { m with queue := q }) hk hr hf hnone
          rw [← hm'] at hthread hv
          rw [hk'] at hthread
          injection hthread with hthread
          rw [hthread]
          exact .ended ⟨hfetch, hbegun ▸ hw⟩ hv

/-- What a thread that comes to ask for a new attempt knows. -/
theorem SmoothInv.start_spec (hL : Loadable (configs c) sources registered paths)
    (hI : SmoothInv configs E c sources registered paths calls m) (hA : AttemptInv m) {p : String}
    (hasked : AskedFor c (configs c) sources paths calls m k t p) {w : World}
    {next : World → Response Value Thrown → Course World Value Thrown Value}
    (hf : (host configs E).follow m.loading t.requester course
      = .start w ⟨c, p, m.loading.client? t.requester⟩ next) :
    p ∉ registered ∧ p ∈ paths
      ∧ ∀ {j : Nat} {t' : Thread World Value Thrown}, m.threads[j]? = some t' →
        t'.role ≠ .attempt c p := by
  have hspec := (host configs E).follow_spec rfl m.loading t.requester course
  rw [hf] at hspec
  have hd := m.loading.decide_spec ⟨c, p, m.loading.client? t.requester⟩
  rw [hspec.2] at hd
  obtain ⟨hnone, _, hidle⟩ := hd
  have hnew : p ∉ registered := by
    intro hp
    have hsome := hI.registered p hp
    rw [show (m.loading.registry c).record? p = none from hnone] at hsome
    cases hsome
  exact ⟨hnew, (hI.known_of_asked hL hasked).resolve_left hnew,
    fun hj => hI.not_attempted hA hnone hidle hj⟩

include hL hI hLo hF hk hc hm' in
/-- **A thread that is new is there for a load or an attempt.** -/
theorem SmoothInv.added (hB : BodyInv configs m) (hm : Happens (host configs E) (IsLoad c) m m')
    {j : Nat} {t' : Thread World Value Thrown}
    (hadd : Adds (host configs E) m.threads.length m.groups.length t.requester
      ((host configs E).follow m.loading t.requester course) j t')
    (hturns : Turns configs c sources paths calls m k t
      ((host configs E).follow m.loading t.requester course)) :
    Does configs E c sources registered paths calls m' j t' := by
  cases hturns with
  | @ask p hasked hh =>
      generalize hf : (host configs E).follow m.loading t.requester course = halt at hadd hh
      cases hh with
      | done => exact hadd.elim
      | join => exact hadd.elim
      | start hn =>
          obtain ⟨_, hrole, hreq, hs⟩ := hadd
          obtain ⟨hnew, hp, hnot⟩ := hI.start_spec hL hLo.attempts hasked hf
          obtain ⟨a, ha⟩ := hL.compiles p hp
          refine .attempt hrole hreq (hI.needed_of_asked hasked hnew) hp ha ?_
          rw [hs, hm']
          exact .fresh (ledger_advance hB hLo.groups hk hc hF hI.onlyUnder (hasked.role c p)
            (hI.idle hnot))
  | @attempt p a hr hreq hp ha hh =>
      generalize hf : (host configs E).follow m.loading t.requester course = halt at hadd hh
      cases hh with
      | before => exact hadd.elim
      | body => exact hadd.elim
      | done => exact hadd.elim
      | @collecting w declared next _ hres _ =>
          obtain ⟨i, path, _, hi, hrole, hreq', hs⟩ := hadd
          obtain ⟨asker, hasker, hx, _⟩ := hm.old hk
          obtain ⟨s, hs', hpath⟩ := hres.declared path (List.mem_of_getElem? hi)
          have hgroup := advance_group (h := host configs E) (m := { m with queue := q })
            (k := k) hf
          rw [← hm'] at hgroup
          have hasked : AskedFor c (configs c) sources paths calls m' j t' path :=
            .member hrole (hreq'.trans hreq) ⟨hp, a, ha, s, hs', hpath⟩
              (by rw [hgroup]; exact List.getElem?_concat_length) hasker (hx.trans hr)
          refine .ask hasked ?_
          rw [hs]
          exact asks_loadCourse path

include hL hI hLo hF hk hc hm' in
/-- After a thread has run, all threads do what they are there for. -/
theorem SmoothInv.does_advance (hB : BodyInv configs m)
    (hm : Happens (host configs E) (IsLoad c) m m')
    (hturns : Turns configs c sources paths calls m k t
      ((host configs E).follow m.loading t.requester course)) {j : Nat}
    {t' : Thread World Value Thrown} (hj : m'.threads[j]? = some t') :
    Does configs E c sources registered paths calls m' j t' := by
  have hj' := hj
  rw [hm'] at hj'
  rcases advance_thread (m := { m with queue := q }) hk hj' with
    ⟨t₀, h0, hrole, hreq, hself, hother, _⟩ | ⟨_, hadd, _⟩
  · by_cases hjk : j = k
    · subst hjk
      rw [hk] at h0
      injection h0 with h0
      subst h0
      exact hI.ran hLo hF hk hc hm' hm hj hrole hreq (hself rfl) hturns
    · refine (hI.does h0).mono (List.Subset.refl _) hrole hreq (hother hjk)
        (hm.extends rfl fun f hf => hf) (fun {p n bodies} hp hw => ?_) (fun hG => ?_) fun hi => ?_
      · -- two threads do not attempt one path
        rw [hm']
        exact ledger_advance hB hLo.groups hk hc hF hI.onlyUnder
          (fun hr => hjk (hI.unique h0 hk hp hr)) hw
      · obtain ⟨G', hG', ha, _⟩ := hm.asker hG
        exact ⟨G', hG', ha⟩
      · obtain ⟨t₁, h1, hr, _⟩ := hm.old hi
        exact ⟨t₁, h1, hr⟩
  · exact hI.added hL hLo hF hk hc hm' hB hm hadd hturns

include hL hI hLo hk hm' in
/-- A path is attempted once. -/
theorem SmoothInv.unique_advance
    (hturns : Turns configs c sources paths calls m k t
      ((host configs E).follow m.loading t.requester course)) {i j : Nat}
    {t₁ t₂ : Thread World Value Thrown} {p : String} (hi : m'.threads[i]? = some t₁)
    (hj : m'.threads[j]? = some t₂) (h1 : t₁.role = .attempt c p) (h2 : t₂.role = .attempt c p) :
    i = j := by
  rw [hm'] at hi hj
  -- a thread that is new attempts a path that nobody has attempted
  have hnew : ∀ {i : Nat} {t₁ : Thread World Value Thrown}, t₁.role = .attempt c p →
      Adds (host configs E) m.threads.length m.groups.length t.requester
        ((host configs E).follow m.loading t.requester course) i t₁ →
      i = m.threads.length ∧ ∀ {j : Nat} {t₀ : Thread World Value Thrown},
        m.threads[j]? = some t₀ → t₀.role ≠ .attempt c p := by
    intro i t₁ h1 hadd
    obtain ⟨hi, w, call, next, hf, _, hpath⟩ := start_of_adds hadd h1
    refine ⟨hi, ?_⟩
    cases hturns with
    | ask hasked hh =>
        rw [hf] at hh
        cases hh with
        | start =>
            rw [hpath]
            exact (hI.start_spec hL hLo.attempts hasked hf).2.2
    | attempt _ _ _ _ hh => rw [hf] at hh; cases hh
  rcases advance_thread (m := { m with queue := q }) hk hi with
    ⟨t₁', h1', hr1, _⟩ | ⟨_, hadd1, _⟩
  · rcases advance_thread (m := { m with queue := q }) hk hj with
      ⟨t₂', h2', hr2, _⟩ | ⟨_, hadd2, _⟩
    · exact hI.unique h1' h2' (hr1.symm.trans h1) (hr2.symm.trans h2)
    · exact absurd (hr1.symm.trans h1) ((hnew h2 hadd2).2 h1')
  · rcases advance_thread (m := { m with queue := q }) hk hj with
      ⟨t₂', h2', hr2, _⟩ | ⟨_, hadd2, _⟩
    · exact absurd (hr2.symm.trans h2) ((hnew h1 hadd1).2 h2')
    · exact (hnew h1 hadd1).1.trans (hnew h2 hadd2).1.symm

include hI hk hm' in
/-- Noted waits lead along declarations. -/
theorem SmoothInv.waits_advance
    (hturns : Turns configs c sources paths calls m k t
      ((host configs E).follow m.loading t.requester course)) {x y : String}
    (hy : y ∈ m'.loading.waits.of x) : Declares (configs c) sources paths x y := by
  -- what is noted now is a load in the name of a path that declares it
  have hcall : ∀ {p b}, AskedFor c (configs c) sources paths calls m k t p →
      m.loading.client? t.requester = some ⟨x, b⟩ → Declares (configs c) sources paths x p :=
    fun hasked hclient => hasked.declared (Loading.client?_eq_some.mp hclient).1
  have htables := advance_tables (h := host configs E) (m := { m with queue := q }) rfl course hk
  rw [← hm'] at htables
  generalize m'.loading = l at htables hy
  cases htables with
  | same => exact hI.waits hy
  | @join w call a next hf hclient =>
      rcases Loading.mem_waits_await.mp hy with hy | ⟨rfl, b, hb⟩
      · exact hI.waits hy
      · cases hturns with
        | ask hasked hh =>
            dsimp only at hf
            rw [hf] at hh
            cases hh with
            | join => exact hcall hasked hb
        | attempt _ _ _ _ hh => dsimp only at hf; rw [hf] at hh; cases hh
  | @start w call next hf hclient =>
      rcases Loading.mem_waits_await.mp hy with hy | ⟨rfl, b, hb⟩
      · exact hI.waits hy
      · cases hturns with
        | ask hasked hh =>
            dsimp only at hf
            rw [hf] at hh
            cases hh with
            | start => exact hcall hasked hb
        | attempt _ _ _ _ hh => dsimp only at hf; rw [hf] at hh; cases hh
  | finish hf hrole hres hin hw =>
      rw [Loading.mem_waits_finish, hw] at hy
      exact hI.waits hy.2

end Turn

/-! ## Every move -/

/-- What a thread that does its part ends with is no error. -/
theorem Does.ok_of_ended {k : Nat} {t : Thread World Value Thrown}
    (ht : Does configs E c sources registered paths calls m k t) {r : Except Thrown Value}
    (hr : t.state = .ended r) : ∃ v, r = .ok v := by
  cases ht with
  | ask _ hs =>
      rw [hr] at hs
      cases hs with
      | ended => exact ⟨_, rfl⟩
  | attempt _ _ _ _ _ hs =>
      rw [hr] at hs
      cases hs with
      | ended => exact ⟨_, rfl⟩

/-- The threads of calls are those of before. -/
theorem SmoothInv.called_step (hI : SmoothInv configs E c sources registered paths calls m)
    {P : Move World Value Thrown → Prop} (hm : Happens (host configs E) P m m') {k : Nat}
    {p : String} (hp : (k, p) ∈ calls) : (∀ {p'}, (k, p') ∈ calls → p' = p)
      ∧ ∃ t : Thread World Value Thrown, m'.threads[k]? = some t ∧ t.role = .hostCall := by
  obtain ⟨hsame, t, ht, hrole⟩ := hI.called hp
  obtain ⟨t', ht', hrole', _⟩ := hm.old ht
  exact ⟨hsame, t', ht', hrole'.trans hrole⟩

/-- No error comes into the queue. -/
theorem good_step {P : Move World Value Thrown → Prop} (hP : ∀ k e, ¬ P (.cancel k e))
    (hgood : ∀ {handle}, handle ∈ m.queue → IsGood handle)
    (hdoes : ∀ {k : Nat} {t : Thread World Value Thrown}, m'.threads[k]? = some t →
      Does configs E c sources registered paths calls m' k t)
    (hm : Happens (host configs E) P m m') {handle : Handle Value Thrown}
    (hq : handle ∈ m'.queue) : IsGood handle := by
  rcases hm.queue rfl hq with hq | hq
  · exact hgood hq
  · cases hq with
    | begin => exact trivial
    | turn => exact ⟨none, rfl⟩
    | cancel k wait e hcancel => exact absurd hcancel (hP k e)
    | settle hs =>
        have hr := hgood hs
        exact hr
    | @group g k G r response hs hG hok hbad =>
        obtain ⟨v, hv⟩ := hgood hs
        cases r with
        | ok v => exact ⟨v, rfl⟩
        | error e =>
            have := hbad e rfl
            rw [hv] at this
            cases this
    | ended hk hrole hne hw ht' hs' =>
        obtain ⟨v, rfl⟩ := (hdoes ht').ok_of_ended hs'
        exact ⟨some v, rfl⟩
    | counted ht' hs' =>
        obtain ⟨v, rfl⟩ := (hdoes ht').ok_of_ended hs'
        exact ⟨some v, rfl⟩

/-- Threads that halts add change nothing but what is theirs to change. -/
theorem Keeping.of_adds {γ : Type} {f : World → γ} (hf : World.Steady f)
    (hbegun : ∀ w begun, f { w with begun } = f w)
    (hlookups : ∀ w lookups, f { w with lookups } = f w) {n g j : Nat}
    {requester : Option String} {halt : Halt World Value Thrown} {t' : Thread World Value Thrown}
    (hadd : Adds (host configs E) n g requester halt j t') : Keeping f t' := by
  cases halt with
  | start w call next =>
      refine .fresh hadd.2.2.2 fun w => ?_
      have hkeeps : ((host configs E).attemptCourse call.config call.path w).Keeps f
          (f { w with lookups := countLookup call.path w.lookups }) :=
        keeps_attemptCourse hf hbegun call.config call.path w
      rw [hlookups] at hkeeps
      exact hkeeps
  | group w c paths next =>
      obtain ⟨_, p, _, _, _, _, hs⟩ := hadd
      exact .fresh hs (keeps_loadCourse hf c p)
  | pause w next => exact hadd.elim
  | join w call a next => exact hadd.elim
  | standIn w left c p next => exact hadd.elim
  | done w r => exact hadd.elim

/-- **A thread that runs keeps the invariant.** -/
theorem SmoothInv.advance (hL : Loadable (configs c) sources registered paths)
    (hI : SmoothInv configs E c sources registered paths calls m)
    (hLo : LoaderInv (host configs E) m) (hB : BodyInv configs m) (hF : FetchInv configs E m)
    (hruns : m.BodiesRun configs E c) {k : Nat} {t : Thread World Value Thrown}
    {course : Course World Value Thrown Value} {q : List (Handle Value Thrown)}
    (hk : m.threads[k]? = some t) (hc : TakesUp m k t course)
    (hm' : m' = Machine.advance (host configs E) { m with queue := q } k t course)
    (hm : Happens (host configs E) (IsLoad c) m m') :
    SmoothInv configs E c sources registered paths calls m' := by
  have hturns := hI.turns hL hLo hk hc hB hruns
  have hcourse := (hI.steady hk).course hc
  have hdoes : ∀ {j : Nat} {t' : Thread World Value Thrown}, m'.threads[j]? = some t' →
      Does configs E c sources registered paths calls m' j t' :=
    fun hj => hI.does_advance hL hLo hF hk hc hm' hB hm hturns hj
  have hext : m.loading.Extends m'.loading := hm.extends rfl fun f hf => hf
  refine ⟨hI.known, fun hp => hI.called_step hm hp, hdoes,
    fun hi hj => hI.unique_advance hL hLo hk hm' hturns hi hj, ?_,
    fun hy => hI.waits_advance hk hm' hturns hy,
    fun hq => good_step (P := IsLoad c) (fun k e h => h) hI.good hdoes hm hq, ?_, ?_, ?_⟩
  · intro p hnot
    have hold : ∀ {j : Nat} {t₀ : Thread World Value Thrown}, m.threads[j]? = some t₀ →
        t₀.role ≠ .attempt c p := by
      intro j t₀ hj
      obtain ⟨t₁, h1, hr, _⟩ := hm.old hj
      exact hr ▸ hnot h1
    rw [hm']
    exact ledger_advance hB hLo.groups hk hc hF hI.onlyUnder (hold hk) (hI.idle hold)
  · rw [← hI.sources, hm']
    exact keeps_advance (m := { m with queue := q }) World.steady_sources k t hcourse
  · intro j t' hj
    rw [hm'] at hj
    rcases advance_thread (m := { m with queue := q }) hk hj with
      ⟨t₀, h0, _, _, hself, hother, _⟩ | ⟨_, hadd, _⟩
    · by_cases hjk : j = k
      · exact .of_leaves World.steady_sources hcourse (hself hjk)
      · exact (hI.steady h0).congr (hother hjk)
    · exact .of_adds World.steady_sources (fun _ _ => rfl) (fun _ _ => rfl) hadd
  · intro p hp
    obtain ⟨record, hrecord⟩ := Option.isSome_iff_exists.mp (hI.registered p hp)
    rw [hext.record hrecord]
    rfl

/-- A move in which no thread runs keeps the invariant. -/
theorem SmoothInv.still (hI : SmoothInv configs E c sources registered paths calls m)
    (hthreads : m'.threads = m.threads) (hworld : m'.world = m.world)
    (hload : m'.loading = m.loading) (hm : Happens (host configs E) (IsLoad c) m m') :
    SmoothInv configs E c sources registered paths calls m' := by
  have hdoes : ∀ {j : Nat} {t' : Thread World Value Thrown}, m'.threads[j]? = some t' →
      Does configs E c sources registered paths calls m' j t' := by
    intro j t' hj
    rw [hthreads] at hj
    refine (hI.does hj).mono (List.Subset.refl _) rfl rfl rfl (hm.extends rfl fun f hf => hf)
      (fun _ hw => hworld ▸ hw) (fun hG => ?_) fun hi => ?_
    · obtain ⟨G', hG', ha, _⟩ := hm.asker hG
      exact ⟨G', hG', ha⟩
    · rw [hthreads]
      exact ⟨_, hi, rfl⟩
  exact {
    known := hI.known
    called := fun hp => hI.called_step hm hp
    does := hdoes
    unique := by rw [hthreads]; exact hI.unique
    idle := by rw [hthreads, hworld]; exact hI.idle
    waits := by rw [hload]; exact hI.waits
    good := fun hq => good_step (P := IsLoad c) (fun k e h => h) hI.good hdoes hm hq
    sources := by rw [hworld]; exact hI.sources
    steady := by rw [hthreads]; exact hI.steady
    registered := by rw [hload]; exact hI.registered }

/-- **A turn keeps the invariant.** -/
theorem SmoothInv.turn (hL : Loadable (configs c) sources registered paths)
    (hI : SmoothInv configs E c sources registered paths calls m)
    (hLo : LoaderInv (host configs E) m) (hB : BodyInv configs m) (hF : FetchInv configs E m)
    (hruns : m.BodiesRun configs E c) {place : Nat}
    (hs : m.step (host configs E) place = some m') :
    SmoothInv configs E c sources registered paths calls m' := by
  have hm : Happens (host configs E) (IsLoad c) m m' := happens_of_step rfl hs
  have hturn : Happens (host configs E) (fun _ => False) m m' := happens_of_step rfl hs
  cases hturn with
  | change f hP => exact hP.elim
  | write f hP => exact hP.elim
  | spawn requester start hP => exact (hP.elim id fun ⟨_, h⟩ => h).elim
  | spoil e hP => exact hP.elim
  | cancel e hP => exact hP.elim
  | skip hq => exact hI.still rfl rfl rfl hm
  | settle hq hmem => exact hI.still rfl rfl rfl hm
  | @count q group thread response hq hmem =>
      obtain ⟨h1, h2, h3⟩ := settleGroup_threads { m with queue := q } group thread response
      exact hI.still h1 h3 h2 hm
  | advance hq hk hc => exact hI.advance hL hLo hB hF hruns hk hc rfl hm

/-- **A call of the host keeps the invariant.** -/
theorem SmoothInv.call (hI : SmoothInv configs E c sources registered paths calls m) {p : String}
    (hp : p ∈ registered ∨ p ∈ paths) :
    SmoothInv configs E c sources registered paths ((m.threads.length, p) :: calls)
      (m.spawn .hostCall none (Session.load c p)) := by
  have hsub : calls ⊆ (m.threads.length, p) :: calls := List.subset_cons_self _ _
  have hold : ∀ {j : Nat} {t₀ : Thread World Value Thrown}, m.threads[j]? = some t₀ →
      (m.spawn .hostCall none (Session.load c p)).threads[j]? = some t₀ := by
    intro j t₀ hj
    rw [← hj]
    exact List.getElem?_append_left (List.getElem?_eq_some_iff.mp hj).1
  have hlast : ∀ {q}, (m.threads.length, q) ∉ calls := by
    intro q hq
    obtain ⟨_, t, ht, _⟩ := hI.called hq
    have := (List.getElem?_eq_some_iff.mp ht).1
    omega
  refine ⟨?_, ?_, ?_, ?_, ?_, hI.waits, ?_, hI.sources, ?_, hI.registered⟩
  · intro k q hq
    rcases List.mem_cons.mp hq with he | hq
    · injection he with _ he
      exact he ▸ hp
    · exact hI.known hq
  · intro k q hq
    rcases List.mem_cons.mp hq with he | hq
    · injection he with hk hpath
      subst hk; subst hpath
      refine ⟨fun hp' => ?_, _, List.getElem?_concat_length, rfl⟩
      rcases List.mem_cons.mp hp' with he | hp'
      · injection he with _ he
      · exact absurd hp' hlast
    · obtain ⟨hsame, t, ht, hrole⟩ := hI.called hq
      refine ⟨fun hp' => ?_, t, hold ht, hrole⟩
      rcases List.mem_cons.mp hp' with he | hp'
      · injection he with hk _
        exact absurd (hk ▸ hq) hlast
      · exact hsame hp'
  · intro j t hj
    rcases getElem?_append_singleton hj with hj | ⟨rfl, rfl⟩
    · exact (hI.does hj).mono hsub rfl rfl rfl (.refl _) (fun _ hw => hw)
        (fun hG => ⟨_, hG, rfl⟩) fun hi => ⟨_, hold hi, rfl⟩
    · exact .ask (.call rfl rfl List.mem_cons_self) (asks_load p)
  · intro i j t₁ t₂ p' hi hj h1 h2
    rcases getElem?_append_singleton hi with hi | ⟨_, rfl⟩
    · rcases getElem?_append_singleton hj with hj | ⟨_, rfl⟩
      · exact hI.unique hi hj h1 h2
      · cases h2
    · cases h1
  · intro p' hnot
    exact hI.idle fun hj => hnot (hold hj)
  · intro handle hq
    rcases List.mem_append.mp hq with hq | hq
    · exact hI.good hq
    · obtain ⟨n, _, rfl⟩ := List.mem_map.mp hq
      exact trivial
  · intro j t hj
    rcases getElem?_append_singleton hj with hj | ⟨rfl, rfl⟩
    · exact hI.steady hj
    · exact .fresh rfl (keeps_load World.steady_sources c p)

theorem smoothInv_atRest {world : World} (hbegun : world.begun = []) (hlookups : world.lookups = [])
    (registries : List (Registry Value)) :
    SmoothInv configs E c world.sources (registries.getD c {}).paths paths []
      (atRest world registries) where
  known := by intro k p hp; simp at hp
  called := by intro k p hp; simp at hp
  does := by intro k t hk; simp [atRest] at hk
  unique := by intro j k t t' p hj; simp [atRest] at hj
  idle := fun _ => ⟨by simp [atRest, World.fetches, hlookups], by simp [atRest, hbegun]⟩
  waits := by intro x y hy; simp [atRest] at hy
  good := by intro handle hq; simp [atRest] at hq
  sources := rfl
  steady := by intro k t hk; simp [atRest] at hk
  registered := fun _ hp => Registry.mem_paths_iff.mp hp

/-- **The invariant of loads that cannot fail.** -/
theorem smoothInv_loads {world : World} (hbegun : world.begun = []) (hlookups : world.lookups = [])
    {registries : List (Registry Value)}
    (hL : Loadable (configs c) world.sources (registries.getD c {}).paths paths)
    (hr : Loads configs E c ((registries.getD c {}).paths ++ paths) (atRest world registries) calls
      m) :
    SmoothInv configs E c world.sources (registries.getD c {}).paths paths calls m := by
  induction hr with
  | rest => exact smoothInv_atRest hbegun hlookups registries
  | call _ hp ih => exact ih.call (List.mem_append.mp hp)
  | turn hr hruns hs ih =>
      obtain ⟨hLo, hB⟩ := bodyInv_reaches hbegun (hr.reaches.mono ordinary_of_isLoad)
      obtain ⟨_, hF⟩ := fetchInv_reaches (hr.reaches.mono (spares_of_isLoad World.steady_lookups))
      exact ih.turn hL hLo hB hF hruns hs

end SourceLoader.Machine
