import SourceLoader.Proofs.Kept
import SourceLoader.Proofs.Pauses

/-!
# Calls that share a store

A call to create a module first gets a compiled source, from the store or by compiling; then it
loads the dependencies and runs the text. The first part only pauses, and the rest leaves the stores
alone. `History` puts calls one after the other: what a call is left with when it has compiled is
the world for the next one, with anything else in between that leaves the store alone.

One call takes a store that holds what the calls so far have left to one that holds what they and
it have left. So after any calls the next one goes on with what the first call under its key has
left, or else with what it compiles. Source and file go into the key, the mode does not.
-/

namespace SourceLoader

/-! ## The compiled source of a call -/

/-- The store of a name in a world. -/
def World.store (w : World) (name : String) : Store := (w.stores.lookup name).getD {}

/-- Others leave a store alone. -/
def World.SameStore (name : String) (w w' : World) : Prop :=
  w'.stores.lookup name = w.stores.lookup name

theorem World.sameStore_self (name : String) (w : World) : w.SameStore name w := rfl

theorem World.aside_store (name : String) : World.Aside fun w => w.stores.lookup name :=
  ⟨fun _ _ => rfl, fun _ _ => rfl⟩

theorem World.aside_unit : World.Aside fun _ => () := ⟨fun _ _ => rfl, fun _ _ => rfl⟩

theorem World.SameStore.store {name : String} {w w' : World} (h : w.SameStore name w') :
    w'.store name = w.store name := by
  rw [World.store, h, World.store]

namespace Create

open World (SameStore aside_store aside_unit)

variable {c : LoadConfig} {name : String} {w : World} {xs : List Creation} {x : Creation}

/-- The world after a store was replaced. -/
def replaceStore (name : String) (store : Store) (log : List Entry) (w : World) : World :=
  { w with
    stores := (name, store) :: w.stores.filter (·.1 ≠ name)
    journal := log.foldl Journal.log w.journal }

theorem store_replaceStore (name : String) (store : Store) (log : List Entry) (w : World) :
    (replaceStore name store log w).store name = store := by
  simp [World.store, replaceStore]

theorem stored_yields (h : (w.store name).Holds c xs) :
    (stored c name x.file x.source x.moduleMode w).Yields (SameStore name) fun w' r =>
      (w'.store name).Holds c (xs ++ [x])
        ∧ Comes w' r ((c.compiledAfter xs x).map fun d => d.toArtifact.toData) := by
  have hresult := h.ask_result (c.key x)
  generalize hw' : replaceStore name (Cache.ask (w.store name) (c.key x)).store
    (Cache.ask (w.store name) (c.key x)).log w = w'
  have hstore : (w'.store name).Holds c xs := by
    rw [← hw', store_replaceStore]
    exact h.ask (c.key x)
  refine Act.yields_step (show Act.ofExcept (fingerprint _) w = .done w (.ok (c.key x)) by
    rw [c.fingerprint_eq_key]; rfl) ?_
  refine Act.yields_step (show storeOf name w = .done w (.ok (w.store name)) from rfl) ?_
  refine Act.yields_step (show putStore name _ _ w = .done w' (.ok ()) from hw' ▸ rfl) ?_
  refine Act.yields_step (show Act.ofExcept _ w'
    = .done w' (.ok ((c.kept? xs (c.key x)).map fun d => d.toArtifact.toData)) by
      rw [hresult]; rfl) ?_
  -- reading the store alone settles a hit; only a miss compiles and pauses
  cases hkept : c.kept? xs (c.key x) with
  | some d =>
      have hafter : c.compiledAfter xs x = .ok d := by rw [LoadConfig.compiledAfter, hkept]
      refine ⟨hstore.of_nothing_left (Or.inl (by simp [hkept])), ?_⟩
      rw [hafter]
      rfl
  | none =>
      have hafter : c.compiledAfter xs x = c.compiled x := by rw [LoadConfig.compiledAfter, hkept]
      rw [hafter]
      have hproduce : (produce c x.file x.source x.moduleMode w').Yields (SameStore name)
          fun v r => w'.SameStore name v
            ∧ Comes v r ((c.compiled x).map fun d => (d.toArtifact.toData, !d.warnings.isEmpty)) :=
        produce_yields (fun _ _ h => h) (aside_store name) c x.file x.source x.moduleMode w'
      refine Act.yields_bind hproduce (fun made v hmade => ?_) fun e v hmade => ?_
      · have hv : (v.store name).Holds c xs := by rwa [hmade.1.store]
        obtain ⟨d, hd, rfl⟩ := hmade.2.exists_ok_of_map
        rw [hd]
        obtain ⟨hkeep, hkeeps⟩ := hv.keep hd hkept
        generalize hv' : replaceStore name
          (Cache.keep (v.store name) (c.key x) d.toArtifact.toData (!d.warnings.isEmpty)).store
          (Cache.keep (v.store name) (c.key x) d.toArtifact.toData (!d.warnings.isEmpty)).log v
          = v'
        refine Act.yields_step (show storeOf name v = .done v (.ok (v.store name)) from rfl) ?_
        refine Act.yields_step (show putStore name _ _ v = .done v' (.ok ()) from hv' ▸ rfl) ?_
        refine Act.yields_step (show Act.ofExcept _ v' = .done v' (.ok ()) by
          rw [hkeep]; rfl) ?_
        refine ⟨?_, rfl⟩
        rw [← hv', store_replaceStore]
        exact hkeeps
      · -- a compilation that fails leaves nothing behind
        have herror := (Comes.error_map_iff _).mp hmade.2
        obtain ⟨f, hf⟩ := herror.exists_error
        have hleaves : c.leaves? x = none := by rw [LoadConfig.leaves?, hf]
        refine ⟨?_, ?_⟩
        · rw [hmade.1.store]
          exact hstore.of_nothing_left (Or.inr hleaves)
        · exact (Comes.error_map_iff _).mpr herror

/-- What was written of an artifact is read. -/
theorem yields_ofData {Other : World → World → Prop} {a : Artifact}
    {P : World → Except Thrown Artifact → Prop} (h : P w (.ok a)) :
    (Act.ofExcept (Artifact.ofData a.toData) w).Yields Other P := by
  rw [Artifact.ofData_toData]
  exact h

/-- **A call takes what the calls before it have left, or compiles and leaves what it may.** -/
theorem artifact_yields (hname : c.store = some name) (h : (w.store name).Holds c xs) :
    (artifact c x.file x.source x.moduleMode w).Yields (SameStore name) fun w' r =>
      (w'.store name).Holds c (xs ++ [x])
        ∧ Comes w' r ((c.compiledAfter xs x).map Compiled.toArtifact) := by
  unfold artifact
  rw [hname]
  refine Act.yields_bind (stored_yields h) (fun d w' hd => ?_) fun e w' he =>
    ⟨he.1, (Comes.error_map_iff _).mpr ((Comes.error_map_iff _).mp he.2)⟩
  obtain ⟨compiled, hafter, rfl⟩ := hd.2.exists_ok_of_map
  rw [hafter]
  exact yields_ofData ⟨hd.1, rfl⟩

/-- Without a store a call compiles. -/
theorem artifact_yields_of_no_store {Other : World → World → Prop} (hname : c.store = none) :
    (artifact c x.file x.source x.moduleMode w).Yields Other fun w' r =>
      Comes w' r ((c.compiled x).map Compiled.toArtifact) := by
  unfold artifact
  rw [hname]
  have hproduce : (produce c x.file x.source x.moduleMode w).Yields Other
      fun v r => () = () ∧ Comes v r ((c.compiled x).map fun d =>
        (d.toArtifact.toData, !d.warnings.isEmpty)) :=
    produce_yields (fun _ _ _ => rfl) aside_unit c x.file x.source x.moduleMode w
  refine Act.yields_bind hproduce (fun made v h => ?_) fun e v h =>
    (Comes.error_map_iff _).mpr ((Comes.error_map_iff _).mp h.2)
  obtain ⟨compiled, hd, rfl⟩ := h.2.exists_ok_of_map
  rw [hd]
  have hread : (Act.ofExcept (Artifact.ofData compiled.toArtifact.toData) v).Yields Other
      fun v r => Comes v r (.ok compiled.toArtifact) := yields_ofData rfl
  exact hread

/-! ## The rest of a call -/

/-- What a call does with a compiled source: it loads the dependencies and runs the text. -/
def goOn (resolver : Resolver) (E : Engine) (config : ConfigId) (file : String) (a : Artifact) :
    Act Value := do
  loadDependencies resolver config file a.dependencies
  note ⟨config, file, a.dependencies⟩
  let exports ← instantiate E config file a.text a.lineMap
  Act.log (entry file a.dependencies.length)
  pure exports

theorem createModule_eq (c : LoadConfig) (E : Engine) (config : ConfigId) (file source : String)
    (moduleMode : Bool) : createModule c E config file source moduleMode
      = (artifact c file source moduleMode >>= goOn c.resolver E config file) := rfl

theorem goOn_apply (resolver : Resolver) (E : Engine) (config : ConfigId) (file : String)
    (a : Artifact) (w : World) : goOn resolver E config file a w
      = ((loadDependencies resolver config file a.dependencies w.memory).within World.memory
          World.withMemory w).bind fun _ => (do
            note ⟨config, file, a.dependencies⟩
            let exports ← instantiate E config file a.text a.lineMap
            Act.log (entry file a.dependencies.length)
            pure exports : Act Value) := rfl

/-- The rest of a call asks for all dependencies, or it fails. -/
theorem goOn_eq (resolver : Resolver) (E : Engine) (config : ConfigId) (file : String)
    (a : Artifact) (w : World) :
    (∃ paths next, goOn resolver E config file a w = .ask w (.loadAll config paths) next)
      ∨ ∃ m e, goOn resolver E config file a w = .done (w.withMemory m) (.error e) := by
  rcases each_ofExcept (resolver.apply file) a.dependencies w.memory with
    ⟨paths, hpaths, _⟩ | ⟨m, e, he⟩
  · rw [goOn_apply, loadDependencies_eq_ask hpaths]
    exact Or.inl ⟨paths, _, rfl⟩
  · have hdone : loadDependencies resolver config file a.dependencies w.memory
        = .done m (.error e) := by
      show (Eval.each _ a.dependencies w.memory).bind _ = _
      rw [he]
      rfl
    rw [goOn_apply, hdone]
    exact Or.inr ⟨m, e, rfl⟩

theorem each_relative (file : String) (specifiers : List String) (m : Memory) :
    Eval.each (fun s => Eval.ofExcept (Resolver.relative.apply file s)) specifiers m
      = .done m (.ok (specifiers.map (resolve file))) := by
  induction specifiers with
  | nil => rfl
  | cons s ss ih =>
      show (Eval.each _ ss m).bind _ = _
      rw [ih]
      rfl

/-- The rest of a call leaves the stores alone, whatever others do. -/
theorem goOn_keeps_stores (resolver : Resolver) (E : Engine) (config : ConfigId) (file : String)
    (a : Artifact) : (goOn resolver E config file a).Keeps World.stores := by
  have heval : ∀ {α : Type} (x : Eval α), (Act.ofEval x).Keeps World.stores := fun x w =>
    Course.keeps_within World.withMemory (fun _ _ => rfl) (x w.memory) w
  have hnote : (note ⟨config, file, a.dependencies⟩).Keeps World.stores := fun _ => rfl
  have hlog : (Act.log (entry file a.dependencies.length)).Keeps World.stores := fun _ => rfl
  have hlines : (Instantiate.keepLines file a.text).Keeps World.stores := fun _ => rfl
  have hrun : (instantiate E config file a.text a.lineMap).Keeps World.stores :=
    (heval _).bind fun _ => hlines.bind fun _ => heval _
  exact (heval _).bind fun _ => hnote.bind fun _ => hrun.bind fun exports => hlog.bind fun _ =>
    Act.keeps_pure _ exports

end Create

/-! ## Calls one after the other -/

/-- The course of a call. -/
def Creation.course (x : Creation) (c : LoadConfig) (E : Engine) (config : ConfigId) : Act Value :=
  createModule c E config x.file x.source x.moduleMode

/-- Where a call stands when it has compiled: it loads the dependencies of the compiled source and
runs its text, or it fails. -/
inductive Arrives (resolver : Resolver) (E : Engine) (config : ConfigId) (file : String) :
    Course World Value Thrown Value → Except Failure Compiled → Prop where
  | goesOn (compiled : Compiled) (w : World) :
      Arrives resolver E config file
        (Create.goOn resolver E config file compiled.toArtifact w) (.ok compiled)
  | fails (f : Failure) (w : World) :
      Arrives resolver E config file (.done (w.fail f).1 (.error (w.fail f).2)) (.error f)

/-- What a call asks for is what the compiled source declares. -/
theorem Arrives.request? {E : Engine} {config : ConfigId} {file : String}
    {course : Course World Value Thrown Value} {o : Except Failure Compiled}
    (h : Arrives .relative E config file course o) (specifiers : List String)
    (ho : o.toOption.map Compiled.dependencies = some specifiers) :
    course.request? = some (.loadAll config (specifiers.map (resolve file))) := by
  cases h with
  | fails f w => cases ho
  | goesOn compiled w =>
      cases ho
      rw [Create.goOn_apply, loadDependencies_eq_ask (Create.each_relative file _ w.memory)]
      rfl

/-- Worlds that calls under one configuration lead to. Between the calls anything may happen that
leaves the store of the configuration alone, among it what is left of the calls so far; the same
holds while a call pauses. -/
inductive History (c : LoadConfig) (E : Engine) (config : ConfigId) (name : String)
    (start : World) : List Creation → World → Prop where
  | nil : History c E config name start [] start
  | other {xs : List Creation} {w w' : World} (before : History c E config name start xs w)
      (alone : w.SameStore name w') : History c E config name start xs w'
  | call {xs : List Creation} {w : World} (before : History c E config name start xs w)
      (x : Creation) {course : Course World Value Thrown Value}
      (runs : (x.course c E config w).RunsTo (World.SameStore name) course) :
      History c E config name start (xs ++ [x]) course.world

section History

variable {c : LoadConfig} {E : Engine} {config : ConfigId} {name : String} {w start : World}
  {xs : List Creation} {x : Creation} {course : Course World Value Thrown Value}

/-- Where a call stands when it has compiled, whatever it takes for it. -/
theorem arrives_of_yields {Other : World → World → Prop} {P : World → Prop}
    {o : Except Failure Compiled}
    (hyields : (Create.artifact c x.file x.source x.moduleMode w).Yields Other fun w' r =>
      P w' ∧ Comes w' r (o.map Compiled.toArtifact))
    (hP : ∀ w w' : World, w'.stores = w.stores → P w → P w')
    (hruns : (x.course c E config w).RunsTo Other course) :
    P course.world ∧ Arrives c.resolver E config x.file course o := by
  rw [Creation.course, Create.createModule_eq] at hruns
  have hsplit : ((Create.artifact c x.file x.source x.moduleMode w).bind
      (Create.goOn c.resolver E config x.file)).RunsTo Other course := hruns
  rcases hsplit.of_bind hyields with ⟨a, v, ⟨hv, hcomes⟩, hrest⟩ | ⟨e, v, ⟨hv, hcomes⟩, rfl⟩
  · obtain ⟨compiled, rfl, rfl⟩ := hcomes.exists_ok_of_map
    -- the rest of a call does not start with a pause, so the call stands right at its start
    rcases Create.goOn_eq c.resolver E config x.file compiled.toArtifact v with
      ⟨paths, next, heq⟩ | ⟨m, e, heq⟩
    · obtain rfl := hrest.eq_of_awake (by rw [heq]; rintro ⟨⟩)
      refine ⟨?_, .goesOn compiled v⟩
      rw [heq]
      exact hv
    · obtain rfl := hrest.eq_of_awake (by rw [heq]; rintro ⟨⟩)
      refine ⟨?_, .goesOn compiled v⟩
      rw [heq]
      exact hP v _ rfl hv
  · obtain ⟨f, rfl⟩ := ((Comes.error_map_iff _).mp hcomes).exists_error
    obtain ⟨u, rfl, he⟩ := hcomes
    cases he
    exact ⟨hv, .fails f u⟩

/-- **What one call does to the store, and what it goes on with.** -/
theorem call_step (hname : c.store = some name) (hw : (w.store name).Holds c xs)
    (hruns : (x.course c E config w).RunsTo (World.SameStore name) course) :
    (course.world.store name).Holds c (xs ++ [x])
      ∧ Arrives c.resolver E config x.file course (c.compiledAfter xs x) :=
  arrives_of_yields (Create.artifact_yields hname hw)
    (fun w w' h hw => by rwa [World.store, h]) hruns

/-- **After any calls the store holds what they have left.** -/
theorem History.holds (hname : c.store = some name) (hstart : (start.store name).Holds c [])
    (h : History c E config name start xs w) : (w.store name).Holds c xs := by
  induction h with
  | nil => exact hstart
  | other _ alone ih =>
      rw [alone.store]
      exact ih
  | call _ x runs ih => exact (call_step hname ih runs).1

/-- A store that is empty and works. -/
def Store.IsFresh (s : Store) : Prop := s.entries = [] ∧ s.failing = none

theorem Store.IsFresh.holds {s : Store} (h : s.IsFresh) : s.Holds c [] := by
  obtain ⟨hentries, hworks⟩ := h
  refine ⟨hworks, fun key => ?_⟩
  rw [Store.text?, hentries]
  rfl

/-- Any calls can follow. -/
theorem History.exists_append {ys : List Creation} (h : History c E config name start ys w)
    (xs : List Creation) : ∃ w', History c E config name start (ys ++ xs) w' := by
  induction xs generalizing ys w with
  | nil => exact ⟨w, by rwa [List.append_nil]⟩
  | cons x xs ih =>
      obtain ⟨course, hcourse⟩ := Course.exists_runsTo (World.sameStore_self name)
        (x.course c E config w)
      obtain ⟨w', hw'⟩ := ih (h.call x hcourse)
      exact ⟨w', by simpa using hw'⟩

/-! ## Whose compilation counts -/

/-- Is a call for the same source and file, and has it compiled them without remarks? -/
def Creation.countsFor (y x : Creation) (c : LoadConfig) : Bool :=
  y.source = x.source && y.file = x.file && (c.leaves? y).isSome

/-- The mode that counts for a call after others: that of the first one that has compiled the same
source and file without remarks, and its own one if there is none. -/
def LoadConfig.countingMode (c : LoadConfig) (xs : List Creation) (x : Creation) : Bool :=
  ((xs.find? fun y => y.countsFor x c).getD x).moduleMode

/-- Calls are told apart by their keys: different texts have different keys, and different sources
or files make different texts. -/
structure LoadConfig.TellsApart (c : LoadConfig) (xs : List Creation) : Prop where
  keys : ∀ x ∈ xs, ∀ y ∈ xs, c.key x = c.key y → c.keyText x = c.keyText y
  texts : ∀ x ∈ xs, ∀ y ∈ xs, x.source ++ x.file = y.source ++ y.file →
    x.source = y.source ∧ x.file = y.file

namespace LoadConfig

theorem TellsApart.key_eq_iff (h : c.TellsApart xs) {x y : Creation} (hx : x ∈ xs) (hy : y ∈ xs) :
    c.key x = c.key y ↔ x.source = y.source ∧ x.file = y.file := by
  constructor
  · intro hkey
    have htext := h.keys x hx y hy hkey
    rw [keyText, keyText, String.append_assoc, String.append_assoc,
      String.append_right_inj] at htext
    exact h.texts x hx y hy htext
  · rintro ⟨hsource, hfile⟩
    rw [key, key, keyText, keyText, hsource, hfile]

/-- What is kept under the key of a call is what the first call that counts for it has left. -/
theorem kept?_eq (hkeys : ∀ y ∈ xs, c.key y = c.key x ↔ y.source = x.source ∧ y.file = x.file) :
    c.kept? xs (c.key x) = (xs.find? fun y => y.countsFor x c).bind c.leaves? := by
  induction xs with
  | nil => rfl
  | cons y xs ih =>
      have hrest := ih fun z hz => hkeys z (List.mem_cons_of_mem _ hz)
      have hkey := hkeys y List.mem_cons_self
      rw [kept?, List.findSome?_cons, ← kept?, hrest, List.find?_cons]
      by_cases hsame : y.source = x.source ∧ y.file = x.file
      · rw [if_pos (hkey.mpr hsame)]
        cases hleaves : c.leaves? y with
        | some d => simp [Creation.countsFor, hsame, hleaves]
        | none => simp [Creation.countsFor, hleaves]
      · have hno : y.countsFor x c = false := by
          simp only [Creation.countsFor, Bool.and_eq_false_iff, decide_eq_false_iff_not]
          exact Or.inl (Classical.not_and_iff_not_or_not.mp hsame)
        rw [if_neg (fun h => hsame (hkey.mp h)), hno]

/-- **What a call goes on with is what compiling its own source and file comes to, in the mode that
counts.** -/
theorem TellsApart.compiledAfter_eq (h : c.TellsApart (x :: xs)) :
    c.compiledAfter xs x = c.compiled { x with moduleMode := c.countingMode xs x } := by
  have hkeys : ∀ y ∈ xs, c.key y = c.key x ↔ y.source = x.source ∧ y.file = x.file :=
    fun y hy => h.key_eq_iff (List.mem_cons_of_mem _ hy) List.mem_cons_self
  rw [compiledAfter, kept?_eq hkeys, countingMode]
  cases hfind : xs.find? fun y => y.countsFor x c with
  | none => rfl
  | some y =>
      have hcounts := List.find?_some hfind
      simp only [Creation.countsFor, Bool.and_eq_true, decide_eq_true_eq] at hcounts
      obtain ⟨d, hd⟩ := Option.isSome_iff_exists.mp hcounts.2
      have hy : ({ x with moduleMode := y.moduleMode } : Creation) = y := by
        rw [← hcounts.1.1, ← hcounts.1.2]
      rw [Option.bind_some, hd, Option.getD_some, hy]
      exact (leaves?_eq_some.mp hd).1.symm

end LoadConfig

/-- Without a store a call goes on with what it compiles. -/
theorem arrives_of_no_store {Other : World → World → Prop} (hname : c.store = none)
    (hruns : (x.course c E config w).RunsTo Other course) :
    Arrives c.resolver E config x.file course (c.compiled x) := by
  have hyields : (Create.artifact c x.file x.source x.moduleMode w).Yields Other fun w' r =>
      True ∧ Comes w' r ((c.compiled x).map Compiled.toArtifact) :=
    (Create.artifact_yields_of_no_store hname).mono fun _ _ h => ⟨trivial, h⟩
  exact (arrives_of_yields hyields (fun _ _ _ _ => trivial) hruns).2

end History

/-! ## Two calls that differ in their mode -/

/-- A configuration with a store. -/
def storing : LoadConfig := { store := some "kept" }

/-- A source with an import, as a module and as a script. -/
def importCall (moduleMode : Bool) : Creation := ⟨"/a.py", "import b", moduleMode⟩

/-- An evaluator that goes no deeper than the statements of a body. -/
def shallowEngine : Engine := Engine.ofDepth (fun _ => .relative) 0

/-- The second of two calls goes on with what the key leads it to. -/
theorem exists_second (x y : Creation) : ∃ w course,
    History storing shallowEngine 0 "kept" {} [x] w
      ∧ (y.course storing shallowEngine 0 w).RunsTo (World.SameStore "kept") course
      ∧ Arrives .relative shallowEngine 0 y.file course (storing.compiledAfter [x] y) := by
  obtain ⟨w, hw⟩ :=
    History.exists_append (.nil : History storing shallowEngine 0 "kept" {} [] {}) [x]
  obtain ⟨course, hcourse⟩ := Course.exists_runsTo (World.sameStore_self "kept")
    (y.course storing shallowEngine 0 w)
  have hfresh : (({} : World).store "kept").IsFresh := ⟨rfl, rfl⟩
  rw [List.nil_append] at hw
  exact ⟨w, course, hw, hcourse, (call_step rfl (hw.holds rfl hfresh.holds) hcourse).2⟩

end SourceLoader
