import Mathlib.Data.List.TakeWhile
import SourceLoader.Proofs.Bodies

/-!
# Dependencies come first

When all attempts are made under one configuration, what is loaded is registered there. So a body
begins when all that it declares stands in the registry, and its own path does not: an attempt
has yet to register it. Registries only grow at the end. Hence what a body declares stands ahead
of its path for good, the order of a registry is an order of the dependencies, and a path that
depends on itself, however indirectly, is never registered.
-/

namespace SourceLoader

/-! ## What stands ahead -/

namespace Registry

variable {α : Type} {r r' : Registry α} {path x : String}

/-- The paths that were registered before a path; all of them if it is not registered. -/
def ahead (r : Registry α) (path : String) : List String := r.paths.takeWhile (· ≠ path)

theorem mem_paths_of_mem_ahead (h : x ∈ r.ahead path) : x ∈ r.paths :=
  (List.takeWhile_prefix _).subset h

/-- Everything stands ahead of a path that is not registered. -/
theorem ahead_eq_paths (h : path ∉ r.paths) : r.ahead path = r.paths := by
  unfold ahead
  rw [List.takeWhile_eq_self_iff]
  intro y hy
  rw [decide_eq_true_iff]
  rintro rfl
  exact h hy

/-- What stands ahead stays there. -/
theorem mem_ahead_of_prefix (h : r.records <+: r'.records) (hx : x ∈ r.ahead path) :
    x ∈ r'.ahead path := by
  obtain ⟨more, hm⟩ := h
  unfold ahead paths at hx ⊢
  rw [← hm, List.map_append]
  generalize r.records.map Record.path = ps at hx
  induction ps with
  | nil => simp at hx
  | cons p ps ih =>
      rw [List.cons_append, List.takeWhile_cons]
      rw [List.takeWhile_cons] at hx
      split
      · rename_i hp
        rw [if_pos hp] at hx
        rcases List.mem_cons.mp hx with rfl | hx
        · exact List.mem_cons_self
        · exact List.mem_cons_of_mem _ (ih hx)
      · rename_i hp
        rw [if_neg hp] at hx
        simp at hx

/-- What stands ahead has a smaller place. -/
theorem idxOf_lt_of_mem_ahead (h : x ∈ r.ahead path) :
    r.paths.idxOf x < r.paths.idxOf path := by
  unfold ahead at h
  generalize r.paths = ps at h ⊢
  induction ps with
  | nil => simp at h
  | cons p ps ih =>
      rw [List.takeWhile_cons] at h
      split at h
      · rename_i hp
        have hne : p ≠ path := by simpa using hp
        rw [List.idxOf_cons (y := path), beq_eq_false_iff_ne.mpr hne, cond_false]
        rcases List.mem_cons.mp h with rfl | h
        · rw [List.idxOf_cons_self]
          omega
        · have := ih h
          by_cases hpx : p = x
          · rw [hpx, List.idxOf_cons_self]
            omega
          · rw [List.idxOf_cons, beq_eq_false_iff_ne.mpr hpx, cond_false]
            omega
      · simp at h

end Registry

namespace Machine

open ModuleLoader Relation

variable {configs : ConfigId → LoadConfig} {E : Engine} {m m' : Machine World Value Thrown}
  {c : ConfigId}

/-! ## One configuration -/

/-- All attempts are made under one configuration. -/
def OnlyUnder (m : Machine World Value Thrown) (c : ConfigId) : Prop :=
  ∀ {k : Nat} {t : Thread World Value Thrown} {c' : ConfigId} {p : String},
    m.threads[k]? = some t → t.role = .attempt c' p → c' = c

theorem OnlyUnder.back (ho : m'.OnlyUnder c) (hm : Happens (host configs E) Ordinary m m') :
    m.OnlyUnder c := by
  intro k t c' p hk hrole
  obtain ⟨t', ht', hr, _⟩ := hm.old hk
  exact ho ht' (hr.trans hrole)

/-- What is loaded is registered. -/
theorem OnlyUnder.mem_paths (ho : m.OnlyUnder c) {p : String} (hp : m.Loaded c p) :
    p ∈ (m.loading.registry c).paths := by
  rcases hp.mem_paths_or with hp | ⟨a, c', v, hne, ⟨t, ht, hrole⟩, _⟩
  · exact hp
  · exact absurd (ho ht hrole) hne

/-- The invariant of the order, as against the registry that the run began with. -/
structure OrderInv (configs : ConfigId → LoadConfig) (c : ConfigId) (initial : Registry Value)
    (m : Machine World Value Thrown) : Prop where
  config : ∀ b ∈ m.world.begun, b.config = c
  /-- What a body declares stands ahead of its path. -/
  ahead : ∀ b ∈ m.world.begun, ∀ s ∈ b.specifiers, ∃ p,
    (configs c).resolver.apply b.file s = .ok p ∧ p ∈ (m.loading.registry c).ahead b.file
  /-- What was not there at the beginning has run its body. -/
  origin : ∀ p ∈ (m.loading.registry c).paths, p ∈ initial.paths ∨ m.HasBegun c p

theorem orderInv_atRest {world : World} (hw : world.begun = [])
    (registries : List (Registry Value)) :
    OrderInv configs c (registries.getD c {}) (atRest world registries) where
  config := by intro b hb; simp [atRest, hw] at hb
  ahead := by intro b hb; simp [atRest, hw] at hb
  origin := fun p hp => Or.inl hp

/-- **A body that begins finds what it declares in the registry, and its path is not there.** -/
theorem orderInv_step {initial : Registry Value} (hL : LoaderInv (host configs E) m)
    (hB : BodyInv configs m) (hI : OrderInv configs c initial m) (ho : m'.OnlyUnder c)
    (hm : Happens (host configs E) Ordinary m m') : OrderInv configs c initial m' := by
  have hadds := begun_step hL.groups hB hm
  have hext := hm.extends rfl loaderOwns_ordinary
  have hsub : m.world.begun ⊆ m'.world.begun := by
    rcases hadds with he | ⟨b, _, he, _⟩
    · rw [he]; exact List.Subset.refl _
    · rw [he]; exact List.subset_cons_self _ _
  have hahead : ∀ b ∈ m.world.begun, ∀ s ∈ b.specifiers, ∃ p,
      (configs c).resolver.apply b.file s = .ok p ∧ p ∈ (m'.loading.registry c).ahead b.file := by
    intro b hb s hs
    obtain ⟨p, hres, hp⟩ := hI.ahead b hb s hs
    exact ⟨p, hres, Registry.mem_ahead_of_prefix (hext c) hp⟩
  -- the body that begins, if one does
  have hnew : ∀ {b k}, m.Running k b.config b.file → Ready configs m b →
      b.config = c ∧ ∀ s ∈ b.specifiers, ∃ p, (configs c).resolver.apply b.file s = .ok p
        ∧ p ∈ (m'.loading.registry c).ahead b.file := by
    intro b k hrun hready
    obtain ⟨t, hk, hrole, _⟩ := id hrun
    have hc : b.config = c := (ho.back hm) hk hrole
    refine ⟨hc, fun s hs => ?_⟩
    obtain ⟨p, hres, hp⟩ := hready s hs
    rw [hc] at hres hp
    have hfile : b.file ∉ (m.loading.registry c).paths := by
      rw [Registry.mem_paths_iff, ← hc, hL.opens.running hrun]
      simp
    refine ⟨p, hres, Registry.mem_ahead_of_prefix (hext c) ?_⟩
    rw [Registry.ahead_eq_paths hfile]
    exact OnlyUnder.mem_paths (ho.back hm) hp
  refine ⟨?_, ?_, ?_⟩
  · intro b hb
    rcases hadds with he | ⟨b', k, he, hrun, hready⟩
    · exact hI.config b (he ▸ hb)
    · rw [he] at hb
      rcases List.mem_cons.mp hb with rfl | hb
      · exact (hnew hrun hready).1
      · exact hI.config b hb
  · intro b hb
    rcases hadds with he | ⟨b', k, he, hrun, hready⟩
    · exact hahead b (he ▸ hb)
    · rw [he] at hb
      rcases List.mem_cons.mp hb with rfl | hb
      · exact (hnew hrun hready).2
      · exact hahead b hb
  · intro p hp
    by_cases hold : p ∈ (m.loading.registry c).paths
    · exact (hI.origin p hold).imp id fun hb => hb.mono hsub
    · right
      rw [Registry.mem_paths_iff] at hp hold
      exact hasBegun_of_registered hL.groups hB hm (Option.not_isSome_iff_eq_none.mp hold) hp

theorem orderInv_reaches {world : World} (hw : world.begun = [])
    {registries : List (Registry Value)}
    (hr : ReachesBy (host configs E) Ordinary (atRest world registries) m) (ho : m.OnlyUnder c) :
    OrderInv configs c (registries.getD c {}) m := by
  induction hr with
  | refl => exact orderInv_atRest hw registries
  | tail hr hg ih =>
      obtain ⟨hL, hB⟩ := bodyInv_reaches hw hr
      have hm := hg.happens rfl
      exact orderInv_step hL hB (ih (ho.back hm)) ho hm

/-! ## Looking a dependency up -/

/-- What a specifier in a file stands for. -/
theorem resolve_text {r : Resolver} (hE : E.resolver c = r) {file s p : String}
    (hres : r.apply file s = .ok p) (memory : Memory) :
    Call.resolve E c file (.text s) memory = .done memory (.ok p) := by
  have hmemory : Eval.memory memory = .done memory (.ok memory) := rfl
  unfold Call.resolve
  rw [Eval.bind_apply, hmemory, hE]
  show Eval.ofExcept (r.apply file s) memory = _
  rw [hres]
  rfl

theorem tool_require_eq (file s : String) (memory : Memory) :
    Call.tool E .require c file [.text s] [] memory
      = (Call.resolve E c file (.text s) memory).bind
          fun path memory => Call.exports (.exports c path) memory := by
  have hbind : Call.bind (Call.toolFunction .require) [.text s] [] memory
      = .done memory (.ok [("specifier", .text s)]) := rfl
  unfold Call.tool
  rw [Eval.bind_apply, hbind]
  rfl

/-- Looking up what a specifier stands for asks for the exports of its path. -/
theorem tool_require {r : Resolver} (hE : E.resolver c = r) {file s p : String}
    (hres : r.apply file s = .ok p) (memory : Memory) :
    ∃ next, Call.tool E .require c file [.text s] [] memory = .ask memory (.exports c p) next
      ∧ (∀ memory v, next memory (.ok v) = .done memory (.ok (v.getD .none)))
      ∧ ∀ memory e, ∃ e', next memory (.error e) = .done memory (.error e') := by
  rw [tool_require_eq, resolve_text hE hres]
  exact ⟨_, rfl, fun _ _ => rfl, fun _ _ => ⟨_, rfl⟩⟩

/-- Code of a file that looks a registered path up goes on with the exports at once. -/
theorem follow_require {r : Resolver} (hE : E.resolver c = r) {file s p : String}
    (hres : r.apply file s = .ok p) {l : Loading Value} {v : Value}
    (hv : (l.registry c).record? p = some ⟨p, v⟩) (requester : Option String) (w : World)
    (k : Value → Eval Value) :
    (host configs E).follow l requester
        (Act.ofEval (Call.tool E .require c file [.text s] [] >>= k) w)
      = (host configs E).follow l requester (Act.ofEval (k v) w) := by
  obtain ⟨next, htool, hnext, -⟩ := tool_require hE hres w.memory
  have hexports : (l.registry c).exports p = .ok v := by
    unfold Registry.exports
    rw [hv]
  have hask : Act.ofEval (Call.tool E .require c file [.text s] [] >>= k) w
      = .ask w (.exports c p) fun w response =>
          ((next w.memory response).bind k).within World.memory World.withMemory w := by
    unfold Act.ofEval
    rw [Eval.bind_apply, htool]
    rfl
  rw [hask, Host.follow]
  dsimp only
  rw [hexports]
  dsimp only
  rw [hnext]
  rfl

/-- What a specifier in a file stands for is registered, and code of the file that looks it up goes
on with the exports at once. -/
def Finds (configs : ConfigId → LoadConfig) (E : Engine) (l : Loading Value) (c : ConfigId)
    (file s : String) : Prop :=
  ∃ p v, (configs c).resolver.apply file s = .ok p ∧ (l.registry c).record? p = some ⟨p, v⟩
    ∧ ∀ requester w k, (host configs E).follow l requester
        (Act.ofEval (Call.tool E .require c file [.text s] [] >>= k) w)
      = (host configs E).follow l requester (Act.ofEval (k v) w)

theorem finds_of_mem_paths (hE : E.resolver c = (configs c).resolver) {l : Loading Value}
    {file s p : String} (hres : (configs c).resolver.apply file s = .ok p)
    (hp : p ∈ (l.registry c).paths) : Finds configs E l c file s := by
  rw [Registry.mem_paths_iff] at hp
  obtain ⟨record, hrecord⟩ := Option.isSome_iff_exists.mp hp
  have hv : (l.registry c).record? p = some ⟨p, record.exports⟩ := by
    rw [hrecord, ← Registry.path_of_record? hrecord]
  exact ⟨p, record.exports, hres, hv, follow_require hE hres hv⟩

/-! ## The order of the dependencies -/

/-- **Dependencies come first.** When all attempts of a run are made under one configuration,
a body begins only when everything that it declares is registered. So a lookup of what a body
declares always comes back with the exports, when the body begins and ever after; each path that
the loader has registered has run a body, and what a body of it declares stands ahead of it in the
registry; and a path that declares itself, directly or over others, is never registered. For the
last, `D` are the declarations on which all bodies of a file agree; a module that was registered in
advance declares nothing. -/
theorem dependencies_first (hE : E.resolver c = (configs c).resolver) {world : World}
    (hw : world.begun = []) {registries : List (Registry Value)}
    (hr : ReachesBy (host configs E) Ordinary (atRest world registries) m) (ho : m.OnlyUnder c) :
    (∀ m', Goes (host configs E) Ordinary m m' → m'.world.begun = m.world.begun
        ∨ ∃ b, m'.world.begun = b :: m.world.begun ∧ b.config = c
          ∧ ∀ s ∈ b.specifiers, Finds configs E m.loading c b.file s)
      ∧ (∀ b ∈ m.world.begun, ∀ s ∈ b.specifiers, Finds configs E m.loading c b.file s)
      ∧ (∀ b ∈ m.world.begun, ∀ s ∈ b.specifiers, ∃ p,
          (configs c).resolver.apply b.file s = .ok p ∧ p ∈ (m.loading.registry c).ahead b.file)
      ∧ (∀ p ∈ (m.loading.registry c).paths, p ∈ (registries.getD c {}).paths ∨ m.HasBegun c p)
      ∧ ∀ D : String → String → Prop, (∀ x y, D x y → x ∉ (registries.getD c {}).paths) →
          (∀ b ∈ m.world.begun, ∀ y, D b.file y →
            ∃ s ∈ b.specifiers, (configs c).resolver.apply b.file s = .ok y) →
          ∀ x, TransGen D x x → x ∉ (m.loading.registry c).paths := by
  obtain ⟨hL, hB⟩ := bodyInv_reaches hw hr
  have hI := orderInv_reaches hw hr ho
  refine ⟨?_, ?_, hI.ahead, hI.origin, ?_⟩
  · intro m' hg
    rcases begun_step hL.groups hB (hg.happens rfl) with hsame | ⟨b, k, hb, hrun, hready⟩
    · exact Or.inl hsame
    · obtain ⟨t, hk, hrole, _⟩ := hrun
      have hc : b.config = c := ho hk hrole
      refine Or.inr ⟨b, hb, hc, fun s hs => ?_⟩
      obtain ⟨p, hres, hp⟩ := hready s hs
      rw [hc] at hres hp
      exact finds_of_mem_paths hE hres (OnlyUnder.mem_paths ho hp)
  · intro b hb s hs
    obtain ⟨p, hres, hp⟩ := hI.ahead b hb s hs
    exact finds_of_mem_paths hE hres (Registry.mem_paths_of_mem_ahead hp)
  · intro D hinitial hdeclares x hx hmem
    -- along the declarations the places in the registry get smaller
    have hstep : ∀ {y z}, D y z → y ∈ (m.loading.registry c).paths →
        z ∈ (m.loading.registry c).paths
          ∧ (m.loading.registry c).paths.idxOf z < (m.loading.registry c).paths.idxOf y := by
      intro y z hyz hy
      rcases hI.origin y hy with hy | ⟨b, hb, _, rfl⟩
      · exact absurd hy (hinitial y z hyz)
      · obtain ⟨s, hs, hres⟩ := hdeclares b hb z hyz
        obtain ⟨p, hres', hp⟩ := hI.ahead b hb s hs
        rw [hres] at hres'
        injection hres' with hzp
        subst hzp
        exact ⟨Registry.mem_paths_of_mem_ahead hp, Registry.idxOf_lt_of_mem_ahead hp⟩
    have hchain : ∀ z, TransGen D x z → z ∈ (m.loading.registry c).paths
        ∧ (m.loading.registry c).paths.idxOf z < (m.loading.registry c).paths.idxOf x := by
      intro z hz
      induction hz with
      | single h => exact hstep h hmem
      | tail _ h ih =>
          obtain ⟨h1, h2⟩ := hstep h ih.1
          exact ⟨h1, Nat.lt_trans h2 ih.2⟩
    exact absurd (hchain x hx).2 (Nat.lt_irrefl _)

/-- `/r.py` declares `.p`, which is `/p.py`. -/
def linked : Session :=
  Session.start [{ store := some "cache" }]
    { sources := .table [("/p.py", ⟨"", true⟩), ("/r.py", ⟨"", true⟩)]
      stores := [("cache", { entries := [
        ("703abb76", "\x7b\"dependency_specifiers\": [\".p\"], "
          ++ "\"transformed_source\": \"\", \"line_map\": null\x7d"),
        ("40d207ff", "\x7b\"dependency_specifiers\": [], "
          ++ "\"transformed_source\": \"\", \"line_map\": null\x7d")] })] }
    none

/-- The host has loaded `/r.py`. -/
def linkedState : Machine World Value Thrown :=
  (linked.run linked.engine [Session.load 0 "/r.py"]).1.machine

theorem begun_linkedState : linkedState.world.begun = [⟨0, "/r.py", [".p"]⟩, ⟨0, "/p.py", []⟩] := by
  decide +kernel

theorem onlyUnder_linkedState : linkedState.OnlyUnder 0 := by
  intro k t c p hk hrole
  have hroles : linkedState.threads.map Thread.role
      = [.hostCall, .attempt 0 "/r.py", .member 0, .attempt 0 "/p.py"] := by decide +kernel
  have hmem : t.role ∈ linkedState.threads.map Thread.role :=
    List.mem_map_of_mem (List.mem_of_getElem? hk)
  rw [hroles, hrole] at hmem
  have hcases : (c = 0 ∧ p = "/r.py") ∨ (c = 0 ∧ p = "/p.py") := by simpa using hmem
  rcases hcases with ⟨hc, _⟩ | ⟨hc, _⟩
  · exact hc
  · exact hc

/-- `/p.py` stands ahead of `/r.py`, and in the body of `/r.py` it can be looked up. -/
theorem dependency_first_in_linkedState :
    "/p.py" ∈ (linkedState.loading.registry 0).ahead "/r.py"
      ∧ Finds linked.config linked.engine linkedState.loading 0 "/r.py" ".p" := by
  have hw : linked.machine.world.begun = [] := rfl
  have hr : ReachesBy (host linked.config linked.engine) Ordinary
      (atRest linked.machine.world [{}]) linkedState :=
    reachesBy_session (s := linked) rfl (by simp [quiet_load])
  have hb : ⟨0, "/r.py", [".p"]⟩ ∈ linkedState.world.begun := by simp [begun_linkedState]
  have hres : (linked.config 0).resolver.apply "/r.py" ".p" = .ok "/p.py" := rfl
  obtain ⟨_, hfinds, hahead, _⟩ :=
    dependencies_first (resolver_engine linked 0) hw hr onlyUnder_linkedState
  obtain ⟨p, hp, hmem⟩ := hahead _ hb ".p" List.mem_cons_self
  rw [hres] at hp
  injection hp with hp
  exact ⟨hp ▸ hmem, hfinds _ hb ".p" List.mem_cons_self⟩

end Machine

end SourceLoader
