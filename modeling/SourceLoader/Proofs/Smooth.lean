import SourceLoader.Proofs.Approach
import SourceLoader.Proofs.Awake

/-!
# Loads that cannot fail

Suppose that the sources under one configuration compile, that what they declare can be resolved to
paths that are registered in advance or have a source too, that no path declares itself over
others, and that bodies do not fail once all is there that they declare. Then nothing can go wrong.

A thread is one of three things. It is a call of the host or a load of a group, and gets exports
that are registered. Or it is an attempt, which goes through its phases: it has yet to begin, it is
on the way to its body, it waits for what it declares, its body runs, it has ended. The ledger of a
path says how often its source was looked up and which bodies of it have begun, and in each phase
there is only one thing that it can say.

Noted waits lead from a path to one that it declares. So a ring of waits would be a ring of
declarations, and no load is refused.
-/

namespace SourceLoader

open Relation

/-! ## Sources that can all be loaded -/

/-- The source of `p` declares `q`. -/
def Declares (config : LoadConfig) (sources : SourceProvider) (paths : List String)
    (p q : String) : Prop :=
  p ∈ paths ∧ ∃ a, CompilesTo config sources p a
    ∧ ∃ s ∈ a.dependencies, config.resolver.apply p s = .ok q

/-- Paths whose sources can all be loaded, when some more are registered in advance. -/
structure Loadable (config : LoadConfig) (sources : SourceProvider)
    (registered paths : List String) : Prop where
  /-- Compiled sources are not kept. -/
  store : config.store = none
  compiles : ∀ p ∈ paths, ∃ a, CompilesTo config sources p a
  closed : ∀ p ∈ paths, ∀ a, CompilesTo config sources p a → ∀ s ∈ a.dependencies,
    ∃ q, config.resolver.apply p s = .ok q ∧ (q ∈ registered ∨ q ∈ paths)
  acyclic : ∀ p, ¬ TransGen (Declares config sources paths) p p

theorem Declares.known {config : LoadConfig} {sources : SourceProvider}
    {registered paths : List String} {x p : String} (hd : Declares config sources paths x p)
    (hL : Loadable config sources registered paths) : p ∈ registered ∨ p ∈ paths := by
  obtain ⟨hx, a, ha, s, hs, hp⟩ := hd
  obtain ⟨q, hq, hknown⟩ := hL.closed x hx a ha s hs
  rw [hp] at hq
  injection hq with hq
  exact hq ▸ hknown

/-- The paths that loads of some roots come to: from the roots along declarations, over paths that
are not registered in advance. -/
inductive Needed (registered : List String) (D : String → String → Prop) (roots : String → Prop) :
    String → Prop
  | root {p : String} (hp : roots p) (hnew : p ∉ registered) : Needed registered D roots p
  | dependency {p q : String} (hp : Needed registered D roots p) (hd : D p q)
      (hnew : q ∉ registered) : Needed registered D roots q

theorem Needed.mono {registered : List String} {D : String → String → Prop}
    {roots roots' : String → Prop} (hsub : ∀ p, roots p → roots' p) {p : String}
    (hp : Needed registered D roots p) : Needed registered D roots' p := by
  induction hp with
  | root hp hnew => exact .root (hsub _ hp) hnew
  | dependency _ hd hnew ih => exact .dependency ih hd hnew

/-! ## Halts of attempts that cannot fail -/

/-- A halt at which others may run, or a good end. -/
def Halt.IsSmooth {σ ν ε : Type} : Halt σ ν ε → Prop
  | .pause _ _ => True
  | .done _ r => ∃ v, r = .ok v
  | _ => False

/-- Where an attempt comes to that cannot fail before its body. -/
inductive Halt.Approaches (sources : SourceProvider) (resolver : Resolver) (config : ConfigId)
    (file : String) (specifiers : List String) (b : List Begun) :
    Halt World Value Thrown → Prop
  | pause {w : World} {next : World → Response Value Thrown → Course World Value Thrown Value}
      (hw : w.begun = b)
      (hn : ∀ w' v, w'.sources = sources → (next w' (.ok v)).Approaches sources resolver config file
        specifiers w'.begun) :
      Approaches sources resolver config file specifiers b (.pause w next)
  | group {w : World} {paths : List String}
      {next : World → Response Value Thrown → Course World Value Thrown Value}
      (hw : w.begun = b) (hres : Resolves resolver file specifiers paths)
      (hn : ∀ w' v, (next w' (.ok v)).Keeps World.begun (⟨config, file, specifiers⟩ :: w'.begun)) :
      Approaches sources resolver config file specifiers b (.group w config paths next)
  /-- Nothing is declared, and the body has begun. -/
  | body {halt : Halt World Value Thrown}
      (hh : halt.Keeps World.begun (⟨config, file, specifiers⟩ :: b)) :
      Approaches sources resolver config file specifiers b halt

/-- **How far an attempt gets that cannot fail before its body.** -/
theorem Host.Keeps.follow_approaches {h : Host World Value Thrown} (hh : h.Keeps World.begun)
    (hl : h.standIn = none) {l : Loading Value} {requester : Option String}
    {sources : SourceProvider} {resolver : Resolver} {config : ConfigId} {file : String}
    {specifiers : List String} {c : Course World Value Thrown Value} {b : List Begun}
    (hc : c.Approaches sources resolver config file specifiers b) :
    (h.follow l requester c).Approaches sources resolver config file specifiers b := by
  cases c with
  | done w r => exact hc.elim
  | ask w request next =>
      obtain ⟨hw, ⟨rfl, hn⟩ | ⟨paths, rfl, hres, hn⟩⟩ := hc
      · exact .pause hw hn
      · unfold Host.follow
        dsimp only
        split
        · refine .body (hh.follow hl ?_)
          rw [← hw]
          exact hn w none
        · exact .group hw hres hn

namespace Machine

open ModuleLoader

variable {configs : ConfigId → LoadConfig} {E : Engine} {c : ConfigId}
  {sources : SourceProvider} {registered paths : List String} {calls : List (Nat × String)}
  {m m' : Machine World Value Thrown}

/-! ## Runs in which bodies do not fail -/

/-- An attempt that runs in its body, when all is there that the body declares, does not fail, and
waits for no load. -/
def BodiesRun (configs : ConfigId → LoadConfig) (E : Engine) (c : ConfigId)
    (m : Machine World Value Thrown) : Prop :=
  ∀ {k : Nat} {t : Thread World Value Thrown} {course : Course World Value Thrown Value}
    {b : Begun}, m.threads[k]? = some t → TakesUp m k t course → t.role = .attempt c b.file →
    b.config = c → b ∈ ((host configs E).follow m.loading t.requester course).world.begun →
    Ready configs m b → ((host configs E).follow m.loading t.requester course).IsSmooth

/-- A run in which the host asks for loads of known paths, threads take their turns in any order,
and no body fails. The calls of the host are listed, each with its thread. -/
inductive Loads (configs : ConfigId → LoadConfig) (E : Engine) (c : ConfigId)
    (known : List String) (m₀ : Machine World Value Thrown) :
    List (Nat × String) → Machine World Value Thrown → Prop
  | rest : Loads configs E c known m₀ [] m₀
  | call {calls : List (Nat × String)} {m : Machine World Value Thrown} {p : String}
      (hr : Loads configs E c known m₀ calls m) (hp : p ∈ known) :
      Loads configs E c known m₀ ((m.threads.length, p) :: calls)
        (m.spawn .hostCall none (Session.load c p))
  | turn {calls : List (Nat × String)} {m m' : Machine World Value Thrown} {place : Nat}
      (hr : Loads configs E c known m₀ calls m) (hb : m.BodiesRun configs E c)
      (hs : m.step (host configs E) place = some m') : Loads configs E c known m₀ calls m'

/-- A call of the host, or a turn. -/
def IsLoad (c : ConfigId) : Move World Value Thrown → Prop
  | .turn _ => True
  | .call start => ∃ p, start = Session.load c p
  | _ => False

theorem Loads.reaches {known : List String} {m₀ : Machine World Value Thrown}
    (hr : Loads configs E c known m₀ calls m) : ReachesBy (host configs E) (IsLoad c) m₀ m := by
  induction hr with
  | rest => exact .refl
  | @call calls m p _ _ ih => exact ih.tail ⟨.call (Session.load c p), ⟨p, rfl⟩, rfl⟩
  | @turn calls m m' place _ _ hs ih => exact ih.tail ⟨.turn place, trivial, hs⟩

theorem ordinary_of_isLoad {e : Move World Value Thrown} (he : IsLoad c e) : Ordinary e := by
  cases e with
  | turn place => trivial
  | call start =>
      obtain ⟨p, rfl⟩ := he
      exact quiet_load c p
  | _ => exact he.elim

theorem spares_of_isLoad {γ : Type} {f : World → γ} (hf : World.Steady f)
    {e : Move World Value Thrown} (he : IsLoad c e) : Spares f e := by
  cases e with
  | turn place => trivial
  | call start =>
      obtain ⟨p, rfl⟩ := he
      exact keeps_load hf c p
  | _ => exact he.elim

/-! ## Threads that ask for one load -/

/-- Goes on with the exports that it gets. -/
def Gets (next : World → Response Value Thrown → Course World Value Thrown Value) : Prop :=
  ∀ w v, ∃ w', next w (.ok (some v)) = .done w' (.ok v)

/-- The states of a thread that asks for one load. -/
inductive Asks (c : ConfigId) (m : Machine World Value Thrown) (p : String) :
    ThreadState World Value Thrown → Prop
  | fresh {start : World → Course World Value Thrown Value}
      (hs : ∀ w, ∃ w' next, start w = .ask w' (.load c p) next ∧ Gets next) :
      Asks c m p (.fresh start)
  | waiting {a : Nat} {call : LoadCall}
      {next : World → Response Value Thrown → Course World Value Thrown Value}
      (hc : call.config = c) (hp : call.path = p) (hn : Gets next) :
      Asks c m p (.waiting (.attempt a call) next)
  | ended {v : Value} (hv : (m.loading.registry c).record? p = some ⟨p, v⟩) :
      Asks c m p (.ended (.ok v))

theorem asks_load (p : String) : Asks c m p (.fresh (Session.load c p)) :=
  .fresh fun _ => ⟨_, _, rfl, fun _ _ => ⟨_, rfl⟩⟩

theorem asks_loadCourse (p : String) : Asks c m p (.fresh ((host configs E).loadCourse c p)) :=
  .fresh fun w => ⟨w, _, rfl, fun w _ => ⟨w, rfl⟩⟩

theorem Asks.mono {p : String} {s : ThreadState World Value Thrown} (hs : Asks c m p s)
    (hext : m.loading.Extends m'.loading) : Asks c m' p s := by
  cases hs with
  | fresh hs => exact .fresh hs
  | waiting hc hp hn => exact .waiting hc hp hn
  | ended hv => exact .ended (hext.record hv)

/-- An entry of the queue that brings no error. -/
def IsGood : Handle Value Thrown → Prop
  | .begin _ => True
  | .resume _ _ r | .settle _ _ r | .count _ _ r => ∃ v, r = .ok v

/-- Where a thread comes to that asks for one load. -/
inductive AskHalts (c : ConfigId) (m : Machine World Value Thrown) (p : String)
    (requester : Option String) : Halt World Value Thrown → Prop
  | done {w : World} {v : Value} (hv : (m.loading.registry c).record? p = some ⟨p, v⟩) :
      AskHalts c m p requester (.done w (.ok v))
  | join {w : World} {a : Nat}
      {next : World → Response Value Thrown → Course World Value Thrown Value} (hn : Gets next) :
      AskHalts c m p requester (.join w ⟨c, p, m.loading.client? requester⟩ a next)
  | start {w : World}
      {next : World → Response Value Thrown → Course World Value Thrown Value} (hn : Gets next) :
      AskHalts c m p requester (.start w ⟨c, p, m.loading.client? requester⟩ next)

/-- **A thread that asks for one load gets registered exports, or waits.** -/
theorem Asks.halts {k : Nat} {t : Thread World Value Thrown}
    {course : Course World Value Thrown Value} {p : String} (hs : Asks c m p t.state)
    (hc : TakesUp m k t course) (hgood : ∀ {handle}, handle ∈ m.queue → IsGood handle)
    (hA : AnswerInv m) (honly : m.OnlyUnder c)
    (hring : ¬ m.loading.ClosesRing ⟨c, p, m.loading.client? t.requester⟩) :
    AskHalts c m p t.requester ((host configs E).follow m.loading t.requester course) := by
  -- exports that come back are handed on
  have hdone : ∀ {next w v}, Gets next → (m.loading.registry c).record? p = some ⟨p, v⟩ →
      AskHalts c m p t.requester
        ((host configs E).follow m.loading t.requester (next w (.ok (some v)))) := by
    intro next w v hn hv
    obtain ⟨w', he⟩ := hn w v
    rw [he]
    exact .done hv
  cases hc with
  | begin hstate =>
      rw [hstate] at hs
      cases hs with
      | fresh hs =>
          obtain ⟨w, next, he, hn⟩ := hs m.world
          rw [he, Host.follow]
          dsimp only
          have hd := m.loading.decide_spec ⟨c, p, m.loading.client? t.requester⟩
          rw [show (host configs E).standIn = none from rfl]
          dsimp only
          cases hdec : m.loading.decide ⟨c, p, m.loading.client? t.requester⟩ with
          | registered v =>
              rw [hdec] at hd
              exact hdone hn hd
          | circular cycle =>
              rw [hdec] at hd
              exact absurd hd.2 hring
          | join a => exact .join hn
          | start => exact .start hn
  | @resume wait next response hstate hq =>
      rw [hstate] at hs
      cases hs with
      | @waiting a call _ hcc hp hn =>
          obtain ⟨r, rfl⟩ := hgood hq
          obtain ⟨c', v, rfl, ⟨t₀, h0, hrole⟩, hv⟩ := hA.resume hq
          have hunder : c' = c := honly h0 hrole
          subst hunder; subst hp
          exact hdone hn hv

/-! ## The ledger of a path -/

/-- How often the source of a path was looked up, and which bodies of it have begun. -/
structure Ledger (w : World) (p : String) (fetches : Nat) (bodies : List Begun) : Prop where
  fetches : w.fetches p = fetches
  bodies : w.begun.filter (·.file = p) = bodies

/-- The phases of an attempt that cannot fail. -/
inductive Phase (configs : ConfigId → LoadConfig) (E : Engine) (c : ConfigId)
    (sources : SourceProvider) (m : Machine World Value Thrown) (p : String) (a : Artifact) :
    ThreadState World Value Thrown → Prop
  | fresh (hw : Ledger m.world p 0 []) :
      Phase configs E c sources m p a (.fresh ((host configs E).attemptCourse c p))
  /-- On the way to the body. -/
  | before {next : World → Response Value Thrown → Course World Value Thrown Value}
      (hw : Ledger m.world p 1 [])
      (hn : ∀ w v, w.sources = sources → (next w (.ok v)).Approaches sources (configs c).resolver c p
        a.dependencies w.begun) :
      Phase configs E c sources m p a (.waiting .turn next)
  /-- What is declared is being loaded. -/
  | collecting {g : Nat} {next : World → Response Value Thrown → Course World Value Thrown Value}
      (hw : Ledger m.world p 1 [])
      (hn : ∀ w v, (next w (.ok v)).Keeps World.begun (⟨c, p, a.dependencies⟩ :: w.begun)) :
      Phase configs E c sources m p a (.waiting (.group g) next)
  | body {next : World → Response Value Thrown → Course World Value Thrown Value}
      (hw : Ledger m.world p 1 [⟨c, p, a.dependencies⟩])
      (hn : ∀ w r, (next w r).Keeps World.begun w.begun) :
      Phase configs E c sources m p a (.waiting .turn next)
  | ended {v : Value} (hw : Ledger m.world p 1 [⟨c, p, a.dependencies⟩])
      (hv : (m.loading.registry c).record? p = some ⟨p, v⟩) :
      Phase configs E c sources m p a (.ended (.ok v))

theorem Phase.mono {p : String} {a : Artifact} {s : ThreadState World Value Thrown}
    (hs : Phase configs E c sources m p a s) (hext : m.loading.Extends m'.loading)
    (hledger : ∀ {n bodies}, Ledger m.world p n bodies → Ledger m'.world p n bodies) :
    Phase configs E c sources m' p a s := by
  cases hs with
  | fresh hw => exact .fresh (hledger hw)
  | before hw hn => exact .before (hledger hw) hn
  | collecting hw hn => exact .collecting (hledger hw) hn
  | body hw hn => exact .body (hledger hw) hn
  | ended hw hv => exact .ended (hledger hw) (hext.record hv)

/-! ## The invariant -/

/-- Who has asked a thread for one load: the host has called for it, or an attempt has asked for
what it declares. -/
inductive AskedFor (c : ConfigId) (config : LoadConfig) (sources : SourceProvider)
    (paths : List String) (calls : List (Nat × String)) (m : Machine World Value Thrown) (k : Nat)
    (t : Thread World Value Thrown) (p : String) : Prop
  | call (hrole : t.role = .hostCall) (hreq : t.requester = none) (hp : (k, p) ∈ calls)
  | member {g : Nat} {x : String} {G : Group} {asker : Thread World Value Thrown}
      (hrole : t.role = .member g) (hreq : t.requester = some x)
      (hd : Declares config sources paths x p) (hG : m.groups[g]? = some G)
      (hasker : m.threads[G.asker]? = some asker) (hx : asker.role = .attempt c x)

/-- What a thread is there for, in a run of loads that cannot fail. -/
inductive Does (configs : ConfigId → LoadConfig) (E : Engine) (c : ConfigId)
    (sources : SourceProvider) (registered paths : List String) (calls : List (Nat × String))
    (m : Machine World Value Thrown) (k : Nat) (t : Thread World Value Thrown) : Prop
  | ask {p : String} (hasked : AskedFor c (configs c) sources paths calls m k t p)
      (hs : Asks c m p t.state)
  | attempt {p : String} {a : Artifact} (hrole : t.role = .attempt c p)
      (hreq : t.requester = some p)
      (hneed : Needed registered (Declares (configs c) sources paths)
        (fun p => ∃ k, (k, p) ∈ calls) p)
      (hp : p ∈ paths) (ha : CompilesTo (configs c) sources p a)
      (hs : Phase configs E c sources m p a t.state)

theorem AskedFor.role {config : LoadConfig} {k : Nat} {t : Thread World Value Thrown} {p : String}
    (ht : AskedFor c config sources paths calls m k t p) (c' : ConfigId) (p' : String) :
    t.role ≠ .attempt c' p' := by
  cases ht with
  | call hrole => simp [hrole]
  | member hrole => simp [hrole]

/-- Who asks in the name of a path asks for what that declares. -/
theorem AskedFor.declared {config : LoadConfig} {k : Nat} {t : Thread World Value Thrown} {p x : String}
    (ht : AskedFor c config sources paths calls m k t p) (hx : t.requester = some x) :
    Declares config sources paths x p := by
  cases ht with
  | call _ hreq => rw [hreq] at hx; cases hx
  | member _ hreq hd =>
      rw [hreq] at hx
      injection hx with hx
      exact hx ▸ hd

/-- The invariant of loads that cannot fail. -/
structure SmoothInv (configs : ConfigId → LoadConfig) (E : Engine) (c : ConfigId)
    (sources : SourceProvider) (registered paths : List String) (calls : List (Nat × String))
    (m : Machine World Value Thrown) : Prop where
  known : ∀ {k p}, (k, p) ∈ calls → p ∈ registered ∨ p ∈ paths
  /-- A call has a thread of its own. -/
  called : ∀ {k p}, (k, p) ∈ calls → (∀ {p'}, (k, p') ∈ calls → p' = p)
    ∧ ∃ t : Thread World Value Thrown, m.threads[k]? = some t ∧ t.role = .hostCall
  does : ∀ {k : Nat} {t : Thread World Value Thrown}, m.threads[k]? = some t →
    Does configs E c sources registered paths calls m k t
  /-- A path is attempted once. -/
  unique : ∀ {j k : Nat} {t t' : Thread World Value Thrown} {p}, m.threads[j]? = some t →
    m.threads[k]? = some t' → t.role = .attempt c p → t'.role = .attempt c p → j = k
  /-- Nothing has happened to a path that was not attempted. -/
  idle : ∀ {p}, (∀ {k : Nat} {t : Thread World Value Thrown}, m.threads[k]? = some t →
    t.role ≠ .attempt c p) → Ledger m.world p 0 []
  /-- Noted waits lead along declarations. -/
  waits : ∀ {x y}, y ∈ m.loading.waits.of x → Declares (configs c) sources paths x y
  good : ∀ {handle}, handle ∈ m.queue → IsGood handle
  sources : m.world.sources = sources
  steady : ∀ {k : Nat} {t : Thread World Value Thrown}, m.threads[k]? = some t →
    Keeping World.sources t
  registered : ∀ p ∈ registered, ((m.loading.registry c).record? p).isSome

/-- A thread that has not run is asked for the same. -/
theorem AskedFor.mono {config : LoadConfig} {k : Nat} {t t' : Thread World Value Thrown} {p : String}
    (ht : AskedFor c config sources paths calls m k t p) {calls' : List (Nat × String)}
    (hcalls : calls ⊆ calls') (hrole : t'.role = t.role) (hreq : t'.requester = t.requester)
    (hgroup : ∀ {g : Nat} {G : Group}, m.groups[g]? = some G →
      ∃ G', m'.groups[g]? = some G' ∧ G'.asker = G.asker)
    (hold : ∀ {j : Nat} {t₀ : Thread World Value Thrown}, m.threads[j]? = some t₀ →
      ∃ t₁, m'.threads[j]? = some t₁ ∧ t₁.role = t₀.role) :
    AskedFor c config sources paths calls' m' k t' p := by
  cases ht with
  | call hr hq hp => exact .call (hrole.trans hr) (hreq.trans hq) (hcalls hp)
  | member hr hq hd hG hasker hx =>
      obtain ⟨G', hG', ha⟩ := hgroup hG
      obtain ⟨asker', hasker', hx'⟩ := hold hasker
      exact .member (hrole.trans hr) (hreq.trans hq) hd hG' (ha ▸ hasker') (hx'.trans hx)

/-- A thread that has not run is there for what it was there for. -/
theorem Does.mono {k : Nat} {t t' : Thread World Value Thrown}
    (ht : Does configs E c sources registered paths calls m k t)
    {calls' : List (Nat × String)} (hcalls : calls ⊆ calls') (hrole : t'.role = t.role)
    (hreq : t'.requester = t.requester) (hstate : t'.state = t.state)
    (hext : m.loading.Extends m'.loading)
    (hledger : ∀ {p n bodies}, t.role = .attempt c p → Ledger m.world p n bodies →
      Ledger m'.world p n bodies)
    (hgroup : ∀ {g : Nat} {G : Group}, m.groups[g]? = some G →
      ∃ G', m'.groups[g]? = some G' ∧ G'.asker = G.asker)
    (hold : ∀ {j : Nat} {t₀ : Thread World Value Thrown}, m.threads[j]? = some t₀ →
      ∃ t₁, m'.threads[j]? = some t₁ ∧ t₁.role = t₀.role) :
    Does configs E c sources registered paths calls' m' k t' := by
  cases ht with
  | ask hasked hs =>
      refine .ask (hasked.mono hcalls hrole hreq hgroup hold) ?_
      rw [hstate]
      exact hs.mono hext
  | attempt hr hq hneed hp ha hs =>
      refine .attempt (hrole.trans hr) (hreq.trans hq) (hneed.mono ?_) hp ha ?_
      · rintro p ⟨k, hk⟩
        exact ⟨k, hcalls hk⟩
      · rw [hstate]
        exact hs.mono hext (hledger hr)

namespace SmoothInv

variable (hI : SmoothInv configs E c sources registered paths calls m)

include hI

/-- What an attempt is there for. -/
theorem attempt {k : Nat} {t : Thread World Value Thrown} (hk : m.threads[k]? = some t)
    {c' : ConfigId} {p : String} (hrole : t.role = .attempt c' p) :
    c' = c ∧ t.requester = some p
      ∧ Needed registered (Declares (configs c) sources paths) (fun p => ∃ k, (k, p) ∈ calls) p
      ∧ p ∈ paths ∧ ∃ a, CompilesTo (configs c) sources p a
        ∧ Phase configs E c sources m p a t.state := by
  cases hI.does hk with
  | ask hasked => exact absurd hrole (hasked.role c' p)
  | attempt hr hreq hneed hp ha hs =>
      rw [hr] at hrole
      injection hrole with hc hpath
      subst hc; subst hpath
      exact ⟨rfl, hreq, hneed, hp, _, ha, hs⟩

theorem onlyUnder : m.OnlyUnder c := fun hk hrole => (hI.attempt hk hrole).1

/-- Only known paths are asked for. -/
theorem known_of_asked (hL : Loadable (configs c) sources registered paths) {k : Nat}
    {t : Thread World Value Thrown} {p : String}
    (ht : AskedFor c (configs c) sources paths calls m k t p) : p ∈ registered ∨ p ∈ paths := by
  cases ht with
  | call _ _ hp => exact hI.known hp
  | member _ _ hd => exact hd.known hL

/-- A path that is asked for is needed, unless it is registered in advance. -/
theorem needed_of_asked {k : Nat} {t : Thread World Value Thrown} {p : String}
    (ht : AskedFor c (configs c) sources paths calls m k t p) (hnew : p ∉ registered) :
    Needed registered (Declares (configs c) sources paths) (fun p => ∃ k, (k, p) ∈ calls) p := by
  cases ht with
  | call _ _ hp => exact .root ⟨k, hp⟩ hnew
  | member _ _ hd _ hasker hx => exact .dependency (hI.attempt hasker hx).2.2.1 hd hnew

/-- A path that is neither registered nor in flight was not attempted. -/
theorem not_attempted (hA : AttemptInv m) {p : String}
    (hnone : (m.loading.registry c).record? p = none)
    (hidle : m.loading.inFlight.lookup p = none) {j : Nat} {t : Thread World Value Thrown}
    (hj : m.threads[j]? = some t) : t.role ≠ .attempt c p := by
  intro hrole
  by_cases he : t.state.IsEnded
  · obtain ⟨r, hr⟩ := he
    obtain ⟨_, _, _, _, a, _, hs⟩ := hI.attempt hj hrole
    rw [hr] at hs
    cases hs with
    | ended _ hv =>
        rw [hnone] at hv
        cases hv
  · have hin := hA.inFlight (k := j) ⟨t, hj, hrole, he⟩
    rw [hidle] at hin
    cases hin

end SmoothInv

end Machine

end SourceLoader
