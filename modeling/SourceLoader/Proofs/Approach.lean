import SourceLoader.Proofs.Artifacts
import SourceLoader.Proofs.Courses

/-!
# The way to a body

Where a source is found, compiles, and declares what can be resolved, an attempt cannot fail before
its body. It lets others run now and then, and at last it asks for all that it declares at the same
time. When that is there the body begins.

This holds as long as nothing is kept in a store, nobody changes where sources come from, and
nobody gives the attempt up.
-/

namespace SourceLoader

/-- What the source of a path is compiled to. -/
def CompilesTo (config : LoadConfig) (sources : SourceProvider) (path : String) (a : Artifact) :
    Prop :=
  ∃ source compiled, (sources.get path).outcome = .ok source
    ∧ (compile (config.request path source.text source.moduleMode)).outcome = .ok compiled
    ∧ compiled.toArtifact = a

theorem CompilesTo.unique {config : LoadConfig} {sources : SourceProvider} {path : String}
    {a a' : Artifact} (ha : CompilesTo config sources path a)
    (ha' : CompilesTo config sources path a') : a = a' := by
  obtain ⟨source, compiled, hs, hc, rfl⟩ := ha
  obtain ⟨source', compiled', hs', hc', rfl⟩ := ha'
  rw [hs] at hs'
  injection hs' with hs'
  subst hs'
  rw [hc] at hc'
  injection hc' with hc'
  rw [hc']

/-- What the source of a path is compiled to, if it is there and compiles. -/
def compiled? (config : LoadConfig) (sources : SourceProvider) (path : String) : Option Artifact := do
  let source ← (sources.get path).outcome.toOption
  let compiled ← (compile (config.request path source.text source.moduleMode)).outcome.toOption
  pure compiled.toArtifact

theorem compilesTo_iff {config : LoadConfig} {sources : SourceProvider} {path : String}
    {a : Artifact} : CompilesTo config sources path a ↔ compiled? config sources path = some a := by
  have htoOption : ∀ {α : Type} {r : Except Failure α} {a : α}, r.toOption = some a ↔ r = .ok a := by
    intro α r a
    cases r <;> simp [Except.toOption]
  unfold CompilesTo compiled?
  simp [Option.bind_eq_some_iff, htoOption]

/-! ## Courses that come to a good result -/

/-- A course that begins no body and comes to a good result: it only lets others run, and goes on
from any world in which sources come from where they did. -/
def Course.Passes {α : Type} (sources : SourceProvider) (Q : α → Prop) :
    List Begun → Course World Value Thrown α → Prop
  | b, .done w r => w.begun = b ∧ w.sources = sources ∧ ∃ a, r = .ok a ∧ Q a
  | b, .ask w request next => w.begun = b ∧ request = .pause
      ∧ ∀ w' v, w'.sources = sources → Passes sources Q w'.begun (next w' (.ok v))

/-- What is declared can be resolved, and the paths are those that it stands for. -/
structure Resolves (resolver : Resolver) (file : String) (specifiers paths : List String) :
    Prop where
  covers : Covers resolver file specifiers paths
  declared : ∀ p ∈ paths, ∃ s ∈ specifiers, resolver.apply file s = .ok p

/-- The course of an attempt that cannot fail before its body. It lets others run, and at last it
asks for what the file declares; when that is there the body begins. -/
def Course.Approaches (sources : SourceProvider) (resolver : Resolver) (config : ConfigId)
    (file : String) (specifiers : List String) :
    List Begun → Course World Value Thrown Value → Prop
  | _, .done _ _ => False
  | b, .ask w request next => w.begun = b
      ∧ ((request = .pause ∧ ∀ w' v, w'.sources = sources →
          Approaches sources resolver config file specifiers w'.begun (next w' (.ok v)))
        ∨ ∃ paths, request = .loadAll config paths ∧ Resolves resolver file specifiers paths
          ∧ ∀ w' v, (next w' (.ok v)).Keeps World.begun (⟨config, file, specifiers⟩ :: w'.begun))

namespace Course

variable {α β : Type} {sources : SourceProvider} {Q : α → Prop} {R : β → Prop} {b : List Begun}
  {c : Course World Value Thrown α}

theorem Passes.bind (hc : c.Passes sources Q b) {k : α → World → Course World Value Thrown β}
    (hk : ∀ a w, Q a → w.sources = sources → (k a w).Passes sources R w.begun) :
    (c.bind k).Passes sources R b := by
  unfold Course.bind
  induction c generalizing b with
  | done w r =>
      obtain ⟨hw, hs, a, rfl, ha⟩ := hc
      rw [← hw]
      exact hk a w ha hs
  | ask w request next ih =>
      exact ⟨hc.1, hc.2.1, fun w' v hs => ih w' (.ok v) (hc.2.2 w' v hs)⟩

theorem Passes.approaches {resolver : Resolver} {config : ConfigId} {file : String}
    {specifiers : List String} (hc : c.Passes sources Q b)
    {k : α → World → Course World Value Thrown Value}
    (hk : ∀ a w, Q a → w.sources = sources →
      (k a w).Approaches sources resolver config file specifiers w.begun) :
    (c.bind k).Approaches sources resolver config file specifiers b := by
  unfold Course.bind
  induction c generalizing b with
  | done w r =>
      obtain ⟨hw, hs, a, rfl, ha⟩ := hc
      rw [← hw]
      exact hk a w ha hs
  | ask w request next ih =>
      exact ⟨hc.1, Or.inl ⟨hc.2.1, fun w' v hs => ih w' (.ok v) (hc.2.2 w' v hs)⟩⟩

end Course

/-! ## Steps that come to a good result -/

/-- A step that is on the way to the body of a file. -/
def Act.Approaches (sources : SourceProvider) (resolver : Resolver) (config : ConfigId)
    (file : String) (specifiers : List String) (x : Act Value) : Prop :=
  ∀ w, w.sources = sources → (x w).Approaches sources resolver config file specifiers w.begun

namespace Act

variable {α β : Type} {x : Act α} {Q : α → Prop} {R : β → Prop} {sources : SourceProvider}

/-- A step that begins no body and comes to a good result. -/
def Passes (sources : SourceProvider) (Q : α → Prop) (x : Act α) : Prop :=
  ∀ w, w.sources = sources → (x w).Passes sources Q w.begun

theorem Passes.bind (hx : x.Passes sources Q) {k : α → Act β}
    (hk : ∀ a, Q a → (k a).Passes sources R) : (x >>= k).Passes sources R :=
  fun w hs => (hx w hs).bind fun a w' ha hs' => hk a ha w' hs'

theorem Passes.approaches (hx : x.Passes sources Q) {resolver : Resolver} {config : ConfigId}
    {file : String} {specifiers : List String} {k : α → Act Value}
    (hk : ∀ a, Q a → (k a).Approaches sources resolver config file specifiers) :
    (x >>= k).Approaches sources resolver config file specifiers :=
  fun w hs => Course.Passes.approaches (hx w hs) fun a w' ha hs' => hk a ha w' hs'

theorem passes_pure {a : α} (ha : Q a) : (pure a : Act α).Passes sources Q :=
  fun _ hs => ⟨rfl, hs, a, rfl, ha⟩

theorem passes_world : world.Passes sources fun w => w.sources = sources :=
  fun w hs => ⟨rfl, hs, w, rfl, hs⟩

theorem passes_modify {g : World → World} (hb : ∀ w, (g w).begun = w.begun)
    (hg : ∀ w, (g w).sources = w.sources) : (modify g).Passes sources fun _ => True :=
  fun w hs => ⟨hb w, (hg w).trans hs, (), rfl, trivial⟩

theorem passes_ofExcept {a : α} (ha : Q a) : (ofExcept (.ok a)).Passes sources Q :=
  fun _ hs => ⟨rfl, hs, a, rfl, ha⟩

theorem passes_pause : pause.Passes sources fun _ => True :=
  fun _ _ => ⟨rfl, rfl, fun _ _ hs => ⟨rfl, hs, (), rfl, trivial⟩⟩

theorem passes_forIn {δ : Type} (xs : List δ) (b : β) {g : δ → β → Act (ForInStep β)}
    (hg : ∀ x b, (g x b).Passes sources fun s => ∃ b, s = .yield b) :
    (forIn xs b g : Act β).Passes sources fun _ => True := by
  induction xs generalizing b with
  | nil => exact passes_pure trivial
  | cons x xs ih =>
      rw [List.forIn_cons]
      refine (hg x b).bind fun s hs => ?_
      obtain ⟨b, rfl⟩ := hs
      exact ih b

end Act

namespace Create

open Act

variable {sources : SourceProvider}

/-- A change of the journal. -/
theorem passes_journal (g : World → Journal) :
    (modify fun w => { w with journal := g w }).Passes sources fun _ => True :=
  passes_modify (fun _ => rfl) fun _ => rfl

theorem passes_play (isOpen : List Nat) (effects : List Effect) :
    (play isOpen effects).Passes sources fun _ => True := by
  induction effects generalizing isOpen with
  | nil => exact passes_pure trivial
  | cons e rest ih =>
      unfold play
      split
      · exact passes_pure trivial
      · rename_i he
        cases he
        exact passes_pause.bind fun _ _ => ih _
      · rename_i he
        cases he
        exact passes_world.bind fun w _ => (passes_journal _).bind fun _ _ => ih _
      · rename_i he
        cases he
        exact (passes_journal _).bind fun _ _ => ih _
      · rename_i he
        cases he
        exact (passes_journal _).bind fun _ _ => ih _
      · rename_i he
        cases he
        exact (passes_journal _).bind fun _ _ => ih _

/-- A script that ends well comes to its outcome. -/
theorem passes_perform {α : Type} {s : Script α} {a : α} (hs : s.outcome = .ok a) :
    (perform s).Passes sources (· = a) := by
  refine (passes_play [] s.effects).bind fun _ _ => ?_
  rw [hs]
  exact passes_ofExcept rfl

/-- Without a store, each attempt compiles its source. -/
theorem passes_artifact {c : LoadConfig} (hstore : c.store = none) {file source : String}
    {moduleMode : Bool} {compiled : Compiled}
    (hc : (compile (c.request file source moduleMode)).outcome = .ok compiled) :
    (artifact c file source moduleMode).Passes sources (· = compiled.toArtifact) := by
  unfold artifact
  rw [hstore]
  refine Passes.bind (Q := fun d => d.1 = compiled.toArtifact.toData) ?_ fun d hd => ?_
  · refine (passes_perform hc).bind fun made hmade => ?_
    subst hmade
    exact passes_pure rfl
  · refine Passes.bind (passes_pure (Q := (· = compiled.toArtifact.toData)) hd) fun d hd => ?_
    subst hd
    have hread := Artifact.ofData_toData compiled.toArtifact
    dsimp only
    rw [hread]
    exact passes_ofExcept rfl

end Create

/-! ## An attempt -/

section Attempt

variable {resolver : Resolver} {config : ConfigId} {file : String} {sources : SourceProvider}

/-- Specifiers that can all be resolved come to their paths. -/
theorem each_resolve {specifiers : List String}
    (hall : ∀ s ∈ specifiers, ∃ p, resolver.apply file s = .ok p) (m : Memory) :
    ∃ paths, Eval.each (fun s => Eval.ofExcept (resolver.apply file s)) specifiers m
        = .done m (.ok paths) ∧ Resolves resolver file specifiers paths := by
  induction specifiers with
  | nil => exact ⟨[], rfl, ⟨by simp [Covers], by simp⟩⟩
  | cons s rest ih =>
      obtain ⟨p, hp⟩ := hall s List.mem_cons_self
      obtain ⟨paths, hpaths, hres⟩ := ih fun s hs => hall s (List.mem_cons_of_mem _ hs)
      refine ⟨p :: paths, ?_, ?_, ?_⟩
      · show (Eval.ofExcept (resolver.apply file s) m).bind _ = _
        rw [hp]
        show (Eval.each (fun s => Eval.ofExcept (resolver.apply file s)) rest m).bind _ = _
        rw [hpaths]
        rfl
      · intro x hx
        rcases List.mem_cons.mp hx with rfl | hx
        · exact ⟨p, List.mem_cons_self, hp⟩
        · obtain ⟨q, hq, hxq⟩ := hres.covers x hx
          exact ⟨q, List.mem_cons_of_mem _ hq, hxq⟩
      · intro q hq
        rcases List.mem_cons.mp hq with rfl | hq
        · exact ⟨s, List.mem_cons_self, hp⟩
        · obtain ⟨x, hx, hxq⟩ := hres.declared q hq
          exact ⟨x, List.mem_cons_of_mem _ hx, hxq⟩

/-- What is declared is asked for at once, and then the body begins. -/
theorem approaches_dependencies {specifiers : List String}
    (hall : ∀ s ∈ specifiers, ∃ p, resolver.apply file s = .ok p) {k : Act Value}
    (hk : k.Keeps World.begun) :
    Act.Approaches sources resolver config file specifiers (do
      loadDependencies resolver config file specifiers
      Create.note ⟨config, file, specifiers⟩
      k) := by
  intro w _
  obtain ⟨paths, hpaths, hres⟩ := each_resolve hall w.memory
  show (((loadDependencies resolver config file specifiers w.memory).within World.memory
    World.withMemory w).bind _).Approaches sources resolver config file specifiers w.begun
  rw [loadDependencies_eq_ask hpaths]
  refine ⟨rfl, Or.inr ⟨paths, rfl, hres, fun w' v => ?_⟩⟩
  exact hk { w' with begun := ⟨config, file, specifiers⟩ :: w'.begun }

end Attempt

namespace ModuleLoader

open Act

variable {configs : ConfigId → LoadConfig} {E : Engine} {sources : SourceProvider}

/-- A source that is there is found. -/
theorem passes_sourceOf {path : String} {source : ModuleSource}
    (hs : (sources.get path).outcome = .ok source) :
    (sourceOf path).Passes sources (· = source) := by
  have hcount : (modify fun w => { w with lookups := countLookup path w.lookups }).Passes sources
      fun _ => True := passes_modify (fun _ => rfl) fun _ => rfl
  refine hcount.bind fun _ _ => passes_world.bind fun w _ => ?_
  refine Passes.bind (Q := fun _ => True) (passes_forIn _ _ fun _ _ => ?_) fun _ _ => ?_
  · exact passes_pause.bind fun _ _ => passes_pure ⟨_, rfl⟩
  · refine passes_world.bind fun w hw => ?_
    rw [hw]
    exact Create.passes_perform hs

/-- **An attempt at a path that compiles cannot fail before its body.** -/
theorem approaches_attemptCourse {config : ConfigId} {path : String} {a : Artifact}
    (hstore : (configs config).store = none) (ha : CompilesTo (configs config) sources path a)
    (hall : ∀ s ∈ a.dependencies, ∃ p, (configs config).resolver.apply path s = .ok p) :
    Act.Approaches sources (configs config).resolver config path a.dependencies
      ((host configs E).attemptCourse config path) := by
  obtain ⟨source, compiled, hsource, hcompiled, rfl⟩ := ha
  have hattempt : (attempt configs E config path).Approaches sources (configs config).resolver
      config path compiled.toArtifact.dependencies := by
    refine (passes_sourceOf hsource).approaches fun found hfound => ?_
    subst hfound
    have hnote : (noteMode path found.moduleMode).Passes sources fun _ => True :=
      passes_modify (fun _ => rfl) fun _ => rfl
    refine hnote.approaches fun _ _ => ?_
    refine (Create.passes_artifact hstore hcompiled).approaches fun made hmade => ?_
    subst hmade
    refine approaches_dependencies hall ?_
    refine (keeps_instantiate World.steady_begun E config path _ _).bind fun v => ?_
    exact (Act.keeps_log World.steady_begun.aside _).bind fun _ => Act.keeps_pure _ v
  intro w hw
  exact hattempt (begin path w) hw

end ModuleLoader

end SourceLoader
