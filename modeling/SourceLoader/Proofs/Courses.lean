import SourceLoader.Module.Loader
import SourceLoader.Proofs.Advance

/-!
# What the course of an attempt does

The world keeps a list of the bodies that have begun. Nothing but the creation of a module adds to
it, and that adds one entry, at one place: when the loads of all its dependencies have come back
without an error. `Guards` says so of a course, step by step, whatever others do to the world
while the course waits. Code is no exception, because it works on memory only.

Followed by the loader, such a course comes to a halt in one of three ways. No body has begun, and
when one begins it will be because a group goes on well. Or the body has begun, since there was
nothing to load. Or it fails.
-/

namespace SourceLoader

/-! ## What a course keeps -/

namespace Course

variable {σ τ ν ε α β γ : Type}

/-- A course that starts where `f` is `b` does not change `f`; others may, while it waits. -/
def Keeps (f : σ → γ) : γ → Course σ ν ε α → Prop
  | b, done w _ => f w = b
  | b, ask w _ next => f w = b ∧ ∀ w' r, Keeps f (f w') (next w' r)

variable {f : σ → γ} {b : γ}

theorem Keeps.andThen {c : Course σ ν ε α} (hc : c.Keeps f b)
    {k : σ → Except ε α → Course σ ν ε β} (hk : ∀ w r, (k w r).Keeps f (f w)) :
    (c.andThen k).Keeps f b := by
  induction c generalizing b with
  | done w r =>
      have hw : f w = b := hc
      rw [← hw]
      exact hk w r
  | ask w request next ih => exact ⟨hc.1, fun w' r => ih w' r (hc.2 w' r)⟩

theorem Keeps.bind {c : Course σ ν ε α} (hc : c.Keeps f b) {k : α → σ → Course σ ν ε β}
    (hk : ∀ a w, (k a w).Keeps f (f w)) : (c.bind k).Keeps f b := by
  refine hc.andThen fun w r => ?_
  cases r with
  | ok a => exact hk a w
  | error e => exact rfl

/-- A course over a part of the world keeps what does not depend on that part. -/
theorem keeps_within {f : τ → γ} {get : τ → σ} (put : τ → σ → τ)
    (hput : ∀ w s, f (put w s) = f w) (c : Course σ ν ε α) (w : τ) :
    (c.within get put w).Keeps f (f w) := by
  induction c generalizing w with
  | done s r => exact hput w s
  | ask s request next ih => exact ⟨hput w s, fun w' r => ih (get w') r w'⟩

end Course

/-- What a halt keeps, now and when the course goes on. -/
def Halt.Keeps {σ ν ε γ : Type} (f : σ → γ) (b : γ) : Halt σ ν ε → Prop
  | .pause w next | .join w _ _ next | .start w _ next | .standIn w _ _ _ next
  | .group w _ _ next => f w = b ∧ ∀ w' r, (next w' r).Keeps f (f w')
  | .done w _ => f w = b

/-- The surroundings do not change `f`. -/
structure Host.Keeps {σ ν ε γ : Type} (h : Host σ ν ε) (f : σ → γ) : Prop where
  failing : ∀ e w, f (h.failing e w).1 = f w
  begin : ∀ p w, f (h.begin p w) = f w
  conclude : ∀ p r w, f (h.conclude p r w) = f w

theorem Host.Keeps.follow {σ ν ε γ : Type} {h : Host σ ν ε} {f : σ → γ} (hh : h.Keeps f)
    (hl : h.standIn = none) {l : Loading ν} {requester : Option String} {c : Course σ ν ε ν}
    {b : γ} (hc : c.Keeps f b) : (h.follow l requester c).Keeps f b := by
  induction c generalizing b with
  | done w r => exact hc
  | ask w request next ih =>
      obtain ⟨hw, hnext⟩ := hc
      -- an immediate answer comes to the same world, or to one with a new error in it
      have hsame : ∀ r, (h.follow l requester (next w r)).Keeps f b := by
        intro r
        rw [← hw]
        exact ih w r (hnext w r)
      have hfail : ∀ e, (h.follow l requester
          (next (h.failing e w).1 (.error (h.failing e w).2))).Keeps f b := by
        intro e
        have := ih (h.failing e w).1 (.error (h.failing e w).2) (hnext _ _)
        rw [hh.failing, hw] at this
        exact this
      unfold Host.follow
      cases request with
      | pause => exact ⟨hw, hnext⟩
      | exports config path =>
          dsimp only
          split
          · exact hsame _
          · exact hfail _
      | load config path =>
          dsimp only
          rw [hl]
          dsimp only
          split
          · exact hsame _
          · exact hfail _
          · exact ⟨hw, hnext⟩
          · exact ⟨hw, hnext⟩
      | loadAll config paths =>
          dsimp only
          split
          · exact hsame _
          · exact ⟨hw, hnext⟩

/-- The world that a course has come to. -/
def Halt.world {σ ν ε : Type} : Halt σ ν ε → σ
  | .pause w _ | .join w _ _ _ | .start w _ _ | .standIn w _ _ _ _ | .group w _ _ _ | .done w _ => w

theorem Halt.Keeps.world {σ ν ε γ : Type} {f : σ → γ} {b : γ} {halt : Halt σ ν ε}
    (hh : halt.Keeps f b) : f halt.world = b := by
  cases halt with
  | done w r => exact hh
  | _ => exact hh.1

/-- What the machine makes of a halt keeps what the surroundings keep. -/
theorem Host.Keeps.halt {σ ν ε γ : Type} {h : Host σ ν ε} {f : σ → γ} (hh : h.Keeps f)
    (m : Machine σ ν ε) (k : Nat) (role : Role) (requester : Option String) (halt : Halt σ ν ε) :
    f (Machine.halt h m k role requester halt).world = f halt.world := by
  cases halt with
  | done w r =>
      cases role with
      | attempt c p =>
          have hconclusion : f (h.conclusion m.loading c p w r).2.1 = f w := by
            unfold Host.conclusion
            cases r with
            | error e => rfl
            | ok v =>
                dsimp only
                split
                · rfl
                · exact hh.failing _ w
          exact (hh.conclude p _ _).trans hconclusion
      | member g => rfl
      | hostCall => rfl
  | _ => rfl

/-- The state that a thread is left in, when what comes keeps `f`. -/
theorem Machine.keeps_of_leaves {σ ν ε γ : Type} {f : σ → γ} {b : γ} {n g : Nat}
    {halt : Halt σ ν ε} {s : ThreadState σ ν ε} {l : Loading ν} {requester : Option String}
    (hleaves : Machine.Leaves n g halt s) (hspec : Host.HaltSpec l requester halt)
    (hkeeps : halt.Keeps f b) :
    s.IsEnded ∨ ∃ wait next, s = .waiting wait next ∧ ∀ w r, (next w r).Keeps f (f w) := by
  cases halt with
  | pause w next => exact Or.inr ⟨_, next, hleaves, hkeeps.2⟩
  | join w call a next => exact Or.inr ⟨_, next, hleaves, hkeeps.2⟩
  | start w call next => exact Or.inr ⟨_, next, hleaves, hkeeps.2⟩
  | standIn w left c p next => exact hspec.elim
  | group w c paths next => exact Or.inr ⟨_, next, hleaves, hkeeps.2⟩
  | done w r => exact Or.inl hleaves

/-! ## What steps keep -/

/-- A value of the world that has nothing to do with memory and the journal. -/
structure World.Aside {γ : Type} (f : World → γ) : Prop where
  memory : ∀ w memory, f { w with memory } = f w
  journal : ∀ w journal, f { w with journal } = f w

/-- A value of the world that compiling and code do not touch. -/
structure World.Steady {γ : Type} (f : World → γ) : Prop where
  memory : ∀ w memory, f { w with memory } = f w
  lines : ∀ w lines, f { w with lines } = f w
  stores : ∀ w stores journal, f { w with stores, journal } = f w
  openLoads : ∀ w openLoads journal, f { w with openLoads, journal } = f w

theorem World.Steady.aside {γ : Type} {f : World → γ} (hf : World.Steady f) : World.Aside f :=
  ⟨hf.memory, fun w journal => hf.stores w w.stores journal⟩

theorem World.steady_begun : World.Steady World.begun :=
  ⟨fun _ _ => rfl, fun _ _ => rfl, fun _ _ _ => rfl, fun _ _ _ => rfl⟩

theorem Eval.bind_apply {α β : Type} (x : Eval α) (k : α → Eval β) (memory : Memory) :
    (x >>= k) memory = (x memory).bind k := rfl

namespace Act

variable {α β γ : Type} {x : Act α} {f : World → γ}

/-- A step that does not change `f`; others may, while it waits. -/
def Keeps (f : World → γ) (x : Act α) : Prop := ∀ w, (x w).Keeps f (f w)

/-- A step that begins no body. -/
def Quiet (x : Act α) : Prop := ∀ w, (x w).Keeps World.begun w.begun

theorem Keeps.bind (hx : x.Keeps f) {k : α → Act β} (hk : ∀ a, (k a).Keeps f) :
    (x >>= k).Keeps f :=
  fun w => (hx w).bind fun a w' => hk a w'

theorem keeps_pure (f : World → γ) (a : α) : (pure a : Act α).Keeps f := fun _ => rfl

theorem keeps_world (f : World → γ) : Act.world.Keeps f := fun _ => rfl

theorem keeps_modify {g : World → World} (hg : ∀ w, f (g w) = f w) : (modify g).Keeps f :=
  fun w => hg w

theorem keeps_forIn {δ : Type} (xs : List δ) (b : β) {g : δ → β → Act (ForInStep β)}
    (hg : ∀ x b, (g x b).Keeps f) : (forIn xs b g : Act β).Keeps f := by
  induction xs generalizing b with
  | nil => exact keeps_pure f b
  | cons x xs ih =>
      rw [List.forIn_cons]
      refine (hg x b).bind fun s => ?_
      cases s with
      | done b => exact keeps_pure f b
      | yield b => exact ih b

section Aside

variable (hf : World.Aside f)

include hf

/-- Code works on memory only. -/
theorem keeps_ofEval (x : Eval α) : (ofEval x).Keeps f :=
  fun w => Course.keeps_within World.withMemory hf.memory (x w.memory) w

theorem keeps_ofExcept (r : Except Failure α) : (ofExcept r).Keeps f := keeps_ofEval hf _

theorem keeps_pause : pause.Keeps f := (keeps_ofEval hf _).bind fun _ => keeps_pure f ()

theorem keeps_log (e : Entry) : (log e).Keeps f := keeps_modify fun w => hf.journal w _

end Aside

end Act

namespace Create

open Act

section Aside

variable {γ : Type} {f : World → γ} (hf : World.Aside f)

include hf

theorem keeps_play (isOpen : List Nat) (effects : List Effect) :
    (play isOpen effects).Keeps f := by
  induction effects generalizing isOpen with
  | nil => exact keeps_pure f ()
  | cons e rest ih =>
      unfold play
      split
      · exact keeps_pure f ()
      · rename_i he
        cases he
        exact (keeps_pause hf).bind fun _ => ih _
      · rename_i he
        cases he
        refine (keeps_world f).bind fun w => ?_
        exact (keeps_modify fun w => hf.journal w _).bind fun _ => ih _
      · rename_i he
        cases he
        exact (keeps_modify fun w => hf.journal w _).bind fun _ => ih _
      · rename_i he
        cases he
        exact (keeps_modify fun w => hf.journal w _).bind fun _ => ih _
      · rename_i he
        cases he
        exact (keeps_modify fun w => hf.journal w _).bind fun _ => ih _

theorem keeps_perform {α : Type} (s : Script α) : (perform s).Keeps f :=
  (keeps_play hf _ _).bind fun _ => keeps_ofExcept hf _

theorem keeps_produce (c : LoadConfig) (file source : String) (moduleMode : Bool) :
    (produce c file source moduleMode).Keeps f :=
  (keeps_perform hf _).bind fun _ => keeps_pure f _

end Aside

section Steady

variable {γ : Type} {f : World → γ} (hf : World.Steady f)

include hf

theorem keeps_putStore (name : String) (store : Store) (log : List Entry) :
    (putStore name store log).Keeps f :=
  keeps_modify fun w => hf.stores w _ _

theorem keeps_stored (c : LoadConfig) (name file source : String) (moduleMode : Bool) :
    (stored c name file source moduleMode).Keeps f := by
  have hstore : (storeOf name).Keeps f := (keeps_world f).bind fun _ => keeps_pure f _
  refine (keeps_ofExcept hf.aside _).bind fun key => hstore.bind fun store => ?_
  refine (keeps_putStore hf _ _ _).bind fun _ => (keeps_ofExcept hf.aside _).bind fun found => ?_
  cases found with
  | some d => exact keeps_pure f d
  | none =>
      refine (keeps_produce hf.aside c file source moduleMode).bind fun made => ?_
      refine hstore.bind fun store => (keeps_putStore hf _ _ _).bind fun _ => ?_
      exact (keeps_ofExcept hf.aside _).bind fun _ => keeps_pure f _

/-- Compiling writes stores and the journal only. -/
theorem keeps_artifact (c : LoadConfig) (file source : String) (moduleMode : Bool) :
    (artifact c file source moduleMode).Keeps f := by
  unfold artifact
  cases c.store with
  | some name =>
      exact (keeps_stored hf c name file source moduleMode).bind fun _ => keeps_ofExcept hf.aside _
  | none =>
      refine (keeps_produce hf.aside c file source moduleMode).bind fun _ => ?_
      exact (keeps_pure f _).bind fun _ => keeps_ofExcept hf.aside _

end Steady

end Create

open Act in
/-- Running a body writes memory, and the lines of its source. -/
theorem keeps_instantiate {γ : Type} {f : World → γ} (hf : World.Steady f) (E : Engine)
    (config : ConfigId) (file source : String) (lineMap : Option (List Int)) :
    (instantiate E config file source lineMap).Keeps f := by
  refine (keeps_ofEval hf.aside _).bind fun _ => ?_
  exact (keeps_modify fun w => hf.lines w _).bind fun _ => keeps_ofEval hf.aside _

/-! ## The one place where a body begins -/

/-- Each specifier of a file stands for one of some paths. -/
def Covers (resolver : Resolver) (file : String) (specifiers paths : List String) : Prop :=
  ∀ s ∈ specifiers, ∃ p ∈ paths, resolver.apply file s = .ok p

/-- The body of a file begins, after the loads of all that it declares have come back well. -/
def Begins {α : Type} (resolver : Resolver) (config : ConfigId) (file : String) (request : Request)
    (response : Response Value Thrown) (begun : List Begun)
    (course : Course World Value Thrown α) : Prop :=
  ∃ specifiers paths v, request = .loadAll config paths ∧ response = .ok v
    ∧ Covers resolver file specifiers paths
    ∧ course.Keeps World.begun (⟨config, file, specifiers⟩ :: begun)

/-- A course in which the body of a file has yet to begin. It does so when the loads of all that it
declares have come back well, and without a body the course fails. -/
def Course.Guards {α : Type} (resolver : Resolver) (config : ConfigId) (file : String) :
    List Begun → Course World Value Thrown α → Prop
  | b, .done w r => w.begun = b ∧ ∃ e, r = .error e
  | b, .ask w request next => w.begun = b ∧ ∀ w' r,
      Guards resolver config file w'.begun (next w' r)
      ∨ Begins resolver config file request r w'.begun (next w' r)

/-- What a halt says when the body has yet to begin. -/
def Halt.Guards (resolver : Resolver) (config : ConfigId) (file : String) (b : List Begun) :
    Halt World Value Thrown → Prop
  | .pause w next | .join w _ _ next | .start w _ next | .standIn w _ _ _ next =>
      w.begun = b ∧ ∀ w' r, (next w' r).Guards resolver config file w'.begun
  | .group w c paths next => w.begun = b ∧ ∀ w' r,
      (next w' r).Guards resolver config file w'.begun
      ∨ Begins resolver config file (.loadAll c paths) r w'.begun (next w' r)
  | .done w r => w.begun = b ∧ ∃ e, r = .error e

theorem Halt.Guards.world {resolver : Resolver} {config : ConfigId} {file : String}
    {b : List Begun} {halt : Halt World Value Thrown}
    (hh : halt.Guards resolver config file b) : halt.world.begun = b := by
  cases halt with
  | _ => exact hh.1

/-- **How far the course of an attempt gets.** Its body has yet to begin, or has just begun as it
declares nothing. -/
theorem Host.Keeps.follow_guards {h : Host World Value Thrown} (hh : h.Keeps World.begun)
    (hl : h.standIn = none) {l : Loading Value} {requester : Option String} {resolver : Resolver}
    {config : ConfigId} {file : String} {c : Course World Value Thrown Value} {b : List Begun}
    (hc : c.Guards resolver config file b) :
    (h.follow l requester c).Guards resolver config file b
    ∨ (h.follow l requester c).Keeps World.begun (⟨config, file, []⟩ :: b) := by
  induction c generalizing b with
  | done w r => exact Or.inl hc
  | ask w request next ih =>
      obtain ⟨hw, hnext⟩ := hc
      have hnot : ∀ {r w'}, (∀ paths, request ≠ .loadAll config paths) →
          (next w' r).Guards resolver config file w'.begun := by
        intro r w' hr
        rcases hnext w' r with hg | ⟨_, paths, _, he, _⟩
        · exact hg
        · exact absurd he (hr paths)
      have hsame : ∀ r, (∀ paths, request ≠ .loadAll config paths) →
          (h.follow l requester (next w r)).Guards resolver config file b
          ∨ (h.follow l requester (next w r)).Keeps World.begun (⟨config, file, []⟩ :: b) := by
        intro r hr
        rw [← hw]
        exact ih w r (hnot hr)
      have hfail : ∀ e, (∀ paths, request ≠ .loadAll config paths) →
          (h.follow l requester (next (h.failing e w).1 (.error (h.failing e w).2))).Guards
            resolver config file b
          ∨ (h.follow l requester (next (h.failing e w).1 (.error (h.failing e w).2))).Keeps
            World.begun (⟨config, file, []⟩ :: b) := by
        intro e hr
        have := ih (h.failing e w).1 (.error (h.failing e w).2) (hnot hr)
        rw [hh.failing, hw] at this
        exact this
      unfold Host.follow
      cases request with
      | pause => exact Or.inl ⟨hw, fun w' r => hnot (by simp)⟩
      | exports c path =>
          dsimp only
          split
          · exact hsame _ (by simp)
          · exact hfail _ (by simp)
      | load c path =>
          dsimp only
          rw [hl]
          dsimp only
          split
          · exact hsame _ (by simp)
          · exact hfail _ (by simp)
          · exact Or.inl ⟨hw, fun w' r => hnot (by simp)⟩
          · exact Or.inl ⟨hw, fun w' r => hnot (by simp)⟩
      | loadAll c paths =>
          dsimp only
          split
          · rename_i hempty
            rcases hnext w (.ok none) with hg | ⟨specifiers, paths', v, he, _, hcovers, hkeeps⟩
            · rw [← hw]
              exact ih w _ hg
            · -- nothing is declared
              injection he with _ he
              subst he
              have hnil : specifiers = [] := by
                rw [List.eq_nil_iff_forall_not_mem]
                intro s hs
                obtain ⟨p, hp, _⟩ := hcovers s hs
                rw [List.isEmpty_iff.mp hempty] at hp
                simp at hp
              rw [hnil, hw] at hkeeps
              exact Or.inr (hh.follow hl hkeeps)
          · exact Or.inl ⟨hw, hnext⟩

/-! ## The attempt -/

/-- A step that guards the beginning of a body. -/
def Act.Guards {α : Type} (resolver : Resolver) (config : ConfigId) (file : String) (x : Act α) :
    Prop :=
  ∀ w, (x w).Guards resolver config file w.begun

section Attempt

variable {α β : Type} {resolver : Resolver} {config : ConfigId} {file : String}

theorem Course.Keeps.guards_bind {b : List Begun} {c : Course World Value Thrown α}
    (hc : c.Keeps World.begun b) {k : α → World → Course World Value Thrown β}
    (hk : ∀ a w, (k a w).Guards resolver config file w.begun) :
    (c.bind k).Guards resolver config file b := by
  unfold Course.bind
  induction c generalizing b with
  | done w r =>
      have hw : w.begun = b := hc
      cases r with
      | ok a =>
          rw [← hw]
          exact hk a w
      | error e => exact ⟨hw, e, rfl⟩
  | ask w request next ih => exact ⟨hc.1, fun w' r => Or.inl (ih w' r (hc.2 w' r))⟩

theorem Act.Keeps.guards {x : Act α} (hx : x.Keeps World.begun) {k : α → Act β}
    (hk : ∀ a, (k a).Guards resolver config file) : (x >>= k).Guards resolver config file :=
  fun w => (hx w).guards_bind fun a w' => hk a w'

section Each

variable {f : String → Except Failure String}

theorem each_ofExcept_cons {x y : String} (hx : f x = .ok y) (xs : List String) (m : Memory) :
    Eval.each (fun x => Eval.ofExcept (f x)) (x :: xs) m
      = (Eval.each (fun x => Eval.ofExcept (f x)) xs m).bind fun ys m => .done m (.ok (y :: ys)) := by
  show (Eval.ofExcept (f x) m).bind _ = _
  rw [hx]
  rfl

theorem each_ofExcept_cons_error {x : String} {e : Failure} (hx : f x = .error e)
    (xs : List String) (m : Memory) :
    Eval.each (fun x => Eval.ofExcept (f x)) (x :: xs) m = .done (m.fail e).1 (.error (m.fail e).2) := by
  show (Eval.ofExcept (f x) m).bind _ = _
  rw [hx]
  rfl

/-- Steps that may fail, one after the other, with the result of each. -/
theorem each_ofExcept_ok {xs ys : List String} (hall : xs.map f = ys.map .ok) (m : Memory) :
    Eval.each (fun x => Eval.ofExcept (f x)) xs m = .done m (.ok ys) := by
  induction xs generalizing ys with
  | nil =>
      obtain rfl : ys = [] := by simpa using hall.symm
      rfl
  | cons x xs ih =>
      obtain ⟨y, ys, rfl, hy, hys⟩ := List.map_eq_cons_iff.mp hall.symm
      rw [each_ofExcept_cons hy.symm, ih hys.symm]
      rfl

/-- The first step that fails fails them all. -/
theorem each_ofExcept_error {pre post : List String} {x : String} {e : Failure}
    (hpre : ∀ y ∈ pre, ∃ z, f y = .ok z) (hx : f x = .error e) (m : Memory) :
    Eval.each (fun x => Eval.ofExcept (f x)) (pre ++ x :: post) m
      = .done (m.fail e).1 (.error (m.fail e).2) := by
  induction pre with
  | nil => exact each_ofExcept_cons_error hx post m
  | cons y pre ih =>
      obtain ⟨z, hz⟩ := hpre y List.mem_cons_self
      rw [List.cons_append, each_ofExcept_cons hz, ih fun y hy => hpre y (List.mem_cons_of_mem _ hy)]
      rfl

/-- Steps that may fail, one after the other: all come to a result, or one fails. -/
theorem each_ofExcept (f : String → Except Failure String) (xs : List String) (m : Memory) :
    (∃ ys, Eval.each (fun x => Eval.ofExcept (f x)) xs m = .done m (.ok ys)
        ∧ ∀ x ∈ xs, ∃ y ∈ ys, f x = .ok y)
    ∨ ∃ m' e, Eval.each (fun x => Eval.ofExcept (f x)) xs m = .done m' (.error e) := by
  induction xs with
  | nil => exact Or.inl ⟨[], rfl, by simp⟩
  | cons x xs ih =>
      cases hx : f x with
      | error e => exact Or.inr ⟨_, _, each_ofExcept_cons_error hx xs m⟩
      | ok y =>
          have hfirst := each_ofExcept_cons hx xs m
          rcases ih with ⟨ys, hys, hall⟩ | ⟨m', e, he⟩
          · refine Or.inl ⟨y :: ys, by rw [hfirst, hys]; rfl, ?_⟩
            intro z hz
            rcases List.mem_cons.mp hz with rfl | hz
            · exact ⟨y, by simp, hx⟩
            · obtain ⟨y', hy', hz⟩ := hall z hz
              exact ⟨y', List.mem_cons_of_mem _ hy', hz⟩
          · exact Or.inr ⟨m', e, by rw [hfirst, he]; rfl⟩

end Each

/-- When all specifiers can be resolved, what they stand for is asked for at once. -/
theorem loadDependencies_eq_ask {specifiers paths : List String} {m : Memory}
    (hpaths : Eval.each (fun s => Eval.ofExcept (resolver.apply file s)) specifiers m
      = .done m (.ok paths)) :
    loadDependencies resolver config file specifiers m
      = .ask m (.loadAll config paths) fun m r =>
          match r with
          | .ok _ => .done m (.ok ())
          | .error e => .done m (.error { e with isPlaced := false }) := by
  show (Eval.each (fun s => Eval.ofExcept (resolver.apply file s)) specifiers m).bind _ = _
  rw [hpaths]
  show Course.ask _ _ _ = _
  congr 1
  funext m r
  cases r <;> rfl

/-- **The body begins when the loads of all dependencies have come back.** -/
theorem guards_dependencies (specifiers : List String) {k : Act α}
    (hk : k.Keeps World.begun) :
    Act.Guards resolver config file (do
      loadDependencies resolver config file specifiers
      Create.note ⟨config, file, specifiers⟩
      k) := by
  intro w
  rcases each_ofExcept (resolver.apply file) specifiers w.memory with
    ⟨paths, hpaths, hall⟩ | ⟨m', e, he⟩
  · show (((loadDependencies resolver config file specifiers w.memory).within World.memory
      World.withMemory w).bind _).Guards resolver config file w.begun
    rw [loadDependencies_eq_ask hpaths]
    refine ⟨rfl, fun w' r => ?_⟩
    cases r with
    | error e => exact Or.inl ⟨rfl, _, rfl⟩
    | ok v =>
        refine Or.inr ⟨specifiers, paths, v, rfl, rfl, hall, ?_⟩
        exact hk { w' with begun := ⟨config, file, specifiers⟩ :: w'.begun }
  · have hdone : loadDependencies resolver config file specifiers w.memory
        = .done m' (.error e) := by
      show (Eval.each (fun s => Eval.ofExcept (resolver.apply file s)) specifiers w.memory).bind _ = _
      rw [he]
      rfl
    show (((loadDependencies resolver config file specifiers w.memory).within World.memory
      World.withMemory w).bind _).Guards resolver config file w.begun
    rw [hdone]
    exact ⟨rfl, e, rfl⟩

theorem guards_createModule (c : LoadConfig) (E : Engine) (config : ConfigId)
    (file source : String) (moduleMode : Bool) :
    (createModule c E config file source moduleMode).Guards c.resolver config file := by
  have hb := World.steady_begun
  refine (Create.keeps_artifact hb c file source moduleMode).guards fun a => ?_
  refine guards_dependencies a.dependencies ?_
  refine (keeps_instantiate hb E config file a.text a.lineMap).bind fun v => ?_
  exact (Act.keeps_log hb.aside _).bind fun _ => Act.keeps_pure _ v

end Attempt

namespace ModuleLoader

/-- The lookup of a source counts, and changes nothing else. -/
theorem keeps_sourceOf {γ : Type} {f : World → γ} (hf : World.Steady f) (path : String) (w : World) :
    (sourceOf path w).Keeps f (f { w with lookups := countLookup path w.lookups }) := by
  have hrest : Act.Keeps f (do
      let w ← Act.world
      for _ in List.range w.sourcePauses do Act.pause
      let w ← Act.world
      Create.perform (w.sources.get path)) := by
    refine (Act.keeps_world f).bind fun w => ?_
    refine Act.Keeps.bind (Act.keeps_forIn _ _ fun _ _ => ?_) fun _ => ?_
    · exact (Act.keeps_pause hf.aside).bind fun _ => Act.keeps_pure f _
    · exact (Act.keeps_world f).bind fun w => Create.keeps_perform hf.aside _
  exact hrest { w with lookups := countLookup path w.lookups }

theorem keeps_noteMode {γ : Type} {f : World → γ} (hf : World.Steady f) (path : String)
    (moduleMode : Bool) : (noteMode path moduleMode).Keeps f :=
  Act.keeps_modify fun w => hf.openLoads w _ w.journal

variable {configs : ConfigId → LoadConfig} {E : Engine}

/-- The loader itself makes errors and keeps the journal. -/
theorem keeps_host {γ : Type} {f : World → γ} (hf : World.Steady f) : (host configs E).Keeps f where
  failing := fun _ w => hf.memory w _
  begin := fun _ w => hf.openLoads w _ _
  conclude := by
    intro p r w
    show f (conclude p r w) = f w
    unfold conclude
    split
    · rfl
    · exact hf.openLoads w _ _

/-- One load that is asked for by itself leaves all but memory alone. -/
theorem keeps_loadCourse {γ : Type} {f : World → γ} (hf : World.Steady f) (c : ConfigId)
    (p : String) : Act.Keeps f ((host configs E).loadCourse c p) := by
  intro w
  refine ⟨rfl, fun w' r => ?_⟩
  rcases r with e | v
  · exact rfl
  · cases v with
    | none =>
        have hkeeps : (host configs E).Keeps f := keeps_host hf
        exact hkeeps.failing (.notLoaded p) w'
    | some v => exact rfl

/-- **An attempt guards the beginning of its body.** -/
theorem guards_attemptCourse (config : ConfigId) (path : String) (w : World) :
    ((host configs E).attemptCourse config path w).Guards (configs config).resolver config path
      w.begun := by
  have hattempt : (attempt configs E config path).Guards (configs config).resolver config path := by
    have hsource : (sourceOf path).Keeps World.begun := keeps_sourceOf World.steady_begun path
    refine hsource.guards fun source => ?_
    refine (keeps_noteMode World.steady_begun path source.moduleMode).guards fun _ => ?_
    exact guards_createModule (configs config) E config path source.text source.moduleMode
  exact hattempt (begin path w)

end ModuleLoader

end SourceLoader
