import SourceLoader.Proofs.Courses

/-!
# Courses that pause

While a course pauses others change the world. `RunsTo` says what a course may come to behind its
pauses, and `Yields` how one ends that does nothing but pause, whatever the others do. A course that
begins with such a part comes to what the rest comes to.
-/

namespace SourceLoader

namespace Course

variable {σ ν ε α β : Type} {Other : σ → σ → Prop}

/-- The world in which a course stands. -/
def world : Course σ ν ε α → σ
  | done w _ => w
  | ask w _ _ => w

/-- What a course asks for first, if it does not end right there. -/
def request? : Course σ ν ε α → Option Request
  | done _ _ => none
  | ask _ request _ => some request

/-- A course runs to another one: it pauses some times, in each of which others change the world
as they may, and then it pauses no more. -/
inductive RunsTo (Other : σ → σ → Prop) : Course σ ν ε α → Course σ ν ε α → Prop where
  | here {c : Course σ ν ε α} (awake : c.request? ≠ some .pause) : RunsTo Other c c
  | pause {w w' : σ} {next : σ → Response ν ε → Course σ ν ε α} {c : Course σ ν ε α}
      (other : Other w w') (rest : RunsTo Other (next w' (.ok none)) c) :
      RunsTo Other (ask w .pause next) c

/-- There is something that a course runs to. -/
theorem exists_runsTo (hrefl : ∀ w, Other w w) (c : Course σ ν ε α) :
    ∃ c', c.RunsTo Other c' := by
  induction c with
  | done w r => exact ⟨_, .here fun h => by cases h⟩
  | ask w request next ih =>
      by_cases hpause : request = .pause
      · subst hpause
        obtain ⟨c', hc'⟩ := ih w (.ok none)
        exact ⟨c', .pause (hrefl w) hc'⟩
      · exact ⟨_, .here fun h => hpause (Option.some.inj h)⟩

/-- A course that does not pause runs to itself only. -/
theorem RunsTo.eq_of_awake {c c' : Course σ ν ε α} (h : c.RunsTo Other c')
    (hawake : c.request? ≠ some .pause) : c' = c := by
  cases h with
  | here => rfl
  | pause => exact absurd rfl hawake

/-- Whatever others do meanwhile, a course does nothing but pause, and it ends in this way. -/
def Yields (Other : σ → σ → Prop) (Post : σ → Except ε α → Prop) : Course σ ν ε α → Prop
  | done w r => Post w r
  | ask w request next =>
    request = .pause ∧ ∀ w', Other w w' → Yields Other Post (next w' (.ok none))

variable {P Q : σ → Except ε α → Prop}

theorem Yields.mono {c : Course σ ν ε α} (hc : c.Yields Other P) (h : ∀ w r, P w r → Q w r) :
    c.Yields Other Q := by
  induction c with
  | done w r => exact h w r hc
  | ask w request next ih => exact ⟨hc.1, fun w' hw' => ih w' _ (hc.2 w' hw')⟩

theorem Yields.bind {c : Course σ ν ε α} (hc : c.Yields Other P)
    {f : α → σ → Course σ ν ε β} {R : σ → Except ε β → Prop}
    (hok : ∀ a w, P w (.ok a) → (f a w).Yields Other R)
    (herror : ∀ e w, P w (.error e) → R w (.error e)) : (c.bind f).Yields Other R := by
  induction c with
  | done w r =>
      cases r with
      | ok a => exact hok a w hc
      | error e => exact herror e w hc
  | ask w request next ih => exact ⟨hc.1, fun w' hw' => ih w' _ (hc.2 w' hw')⟩

/-- **Behind a part that only pauses a course goes on as the rest does.** -/
theorem RunsTo.of_bind {c : Course σ ν ε α} (hc : c.Yields Other P)
    {f : α → σ → Course σ ν ε β} {c' : Course σ ν ε β} (h : (c.bind f).RunsTo Other c') :
    (∃ a w, P w (.ok a) ∧ (f a w).RunsTo Other c')
      ∨ ∃ e w, P w (.error e) ∧ c' = .done w (.error e) := by
  induction c with
  | done w r =>
      cases r with
      | ok a => exact Or.inl ⟨a, w, hc, h⟩
      | error e => exact Or.inr ⟨e, w, hc, h.eq_of_awake fun h => by cases h⟩
  | ask w request next ih =>
      obtain ⟨rfl, hnext⟩ := hc
      cases h with
      | here hawake => exact absurd rfl hawake
      | pause other rest => exact ih _ _ (hnext _ other) rest

end Course

/-! ## The steps around a compilation -/

namespace Act

variable {α β : Type} {Other : World → World → Prop} {P : World → Except Thrown α → Prop}
  {w : World}

theorem yields_bind {x : Act α} (hx : (x w).Yields Other P) {f : α → Act β}
    {Q : World → Except Thrown β → Prop} (hok : ∀ a w', P w' (.ok a) → (f a w').Yields Other Q)
    (herror : ∀ e w', P w' (.error e) → Q w' (.error e)) : ((x >>= f) w).Yields Other Q :=
  hx.bind hok herror

/-- A step that neither pauses nor fails. -/
theorem yields_step {x : Act α} {a : α} {w' : World} (hx : x w = .done w' (.ok a))
    {f : α → Act β} {Q : World → Except Thrown β → Prop} (hf : (f a w').Yields Other Q) :
    ((x >>= f) w).Yields Other Q := by
  show ((x w).bind f).Yields Other Q
  rw [hx]
  exact hf

end Act

/-- What a step comes to for a result that may be a failure. -/
def Comes {α : Type} (w : World) (r : Except Thrown α) : Except Failure α → Prop
  | .ok a => r = .ok a
  | .error f => ∃ v : World, w = (v.fail f).1 ∧ r = .error (v.fail f).2

namespace Comes

variable {α β : Type} {w : World} {o : Except Failure α}

theorem eq_ok {a : α} (h : Comes w (.ok a) o) : o = .ok a := by
  cases o with
  | ok b => exact congrArg _ (Except.ok.inj h).symm
  | error f => obtain ⟨_, _, h⟩ := h; cases h

theorem exists_error {e : Thrown} (h : Comes w (.error e) o) : ∃ f, o = .error f := by
  cases o with
  | ok a => cases h
  | error f => exact ⟨f, rfl⟩

theorem exists_ok_of_map {b : β} {f : α → β} (h : Comes w (.ok b) (o.map f)) :
    ∃ a, o = .ok a ∧ b = f a := by
  cases o with
  | ok a => exact ⟨a, rfl, Except.ok.inj h⟩
  | error g => obtain ⟨_, _, h⟩ := h; cases h

/-- A step fails before something is made of its result. -/
theorem error_map_iff {e : Thrown} (f : α → β) :
    Comes w (.error e) (o.map f) ↔ Comes w (.error e) o := by
  cases o with
  | ok a =>
      constructor
      · intro h
        cases h
      · intro h
        cases h
  | error g =>
      constructor
      · rintro ⟨v, hw, he⟩
        cases he
        exact ⟨v, hw, rfl⟩
      · rintro ⟨v, hw, he⟩
        cases he
        exact ⟨v, hw, rfl⟩

end Comes

namespace Create

variable {α γ : Type} {f : World → γ}

section Script

variable {Other : World → World → Prop} (hother : ∀ w w', Other w w' → f w' = f w)
  (hf : World.Aside f)

include hother hf

/-- The effects of a script are written into the journal; meanwhile others may run. -/
theorem play_yields (isOpen : List Nat) (effects : List Effect) (w : World) :
    (play isOpen effects w).Yields Other fun w' r => f w' = f w ∧ r = .ok () := by
  induction effects generalizing isOpen w with
  | nil => exact ⟨rfl, rfl⟩
  | cons e rest ih =>
      have hjournal : ∀ isOpen journal, (play isOpen rest { w with journal }).Yields Other
          fun w' r => f w' = f w ∧ r = .ok () :=
        fun isOpen journal => (ih isOpen { w with journal }).mono fun v r h =>
          ⟨h.1.trans (hf.journal w journal), h.2⟩
      cases e with
      | pause =>
          refine ⟨rfl, fun w' hw' => ?_⟩
          exact (ih isOpen w').mono fun v r h => ⟨h.1.trans (hother w w' hw'), h.2⟩
      | enter name attributes => exact hjournal _ _
      | log entry => exact hjournal _ _
      | call values => exact hjournal _ _
      | leave =>
          cases isOpen with
          | nil => exact hjournal _ _
          | cons stage outer => exact hjournal _ _
      | fail c message =>
          cases isOpen with
          | nil => exact hjournal _ _
          | cons stage outer => exact hjournal _ _

/-- **A script that is performed comes to its outcome.** -/
theorem perform_yields (s : Script α) (w : World) :
    (perform s w).Yields Other fun w' r => f w' = f w ∧ Comes w' r s.outcome := by
  refine Act.yields_bind (play_yields hother hf [] s.effects w) (fun _ w' h => ?_)
    fun e w' h => by cases h.2
  cases hs : s.outcome with
  | ok a => exact ⟨h.1, rfl⟩
  | error failure => exact ⟨(hf.memory w' _).trans h.1, w', rfl, rfl⟩

/-- What is produced is what compiling comes to. -/
theorem produce_yields (c : LoadConfig) (file source : String) (moduleMode : Bool) (w : World) :
    (produce c file source moduleMode w).Yields Other fun w' r => f w' = f w
      ∧ Comes w' r ((compile (c.request file source moduleMode)).outcome.map fun d =>
          (d.toArtifact.toData, !d.warnings.isEmpty)) := by
  refine Act.yields_bind (perform_yields hother hf _ w) (fun d w' h => ⟨h.1, ?_⟩) fun e w' h =>
    ⟨h.1, (Comes.error_map_iff _).mpr h.2⟩
  rw [h.2.eq_ok]
  rfl

end Script

end Create

end SourceLoader
