import SourceLoader.Proofs.Histories

/-!
# Calls that overlap

`History` puts calls one after the other. Here calls to create modules run at the same time, each
under a configuration of its own: whichever has its turn goes on from any response, good or bad, and
in between anything happens that leaves the store alone. A call asks the store, compiles, and then
writes; while it pauses others may have written under the same key.

Still each entry of the store is what one of the calls has compiled and gone on with
(`Overlap.entries_compiled`). The reason is that a call never copies what it finds: it writes its
own compiled source under its own key, or nothing. So no call needs to know of the others, and the
proof looks at one call at a time: wherever it stands, since its last halt it has added nothing but
what it has just compiled (`Caller.adds_course`).
-/

namespace SourceLoader

/-! ## What a course adds -/

namespace Course

variable {σ ν ε α β δ : Type}

/-- The course goes on from a response in a world. -/
def reply (w : σ) (response : Response ν ε) : Course σ ν ε α → Course σ ν ε α
  | done v r => done v r
  | ask _ _ next => next w response

/-- The courses that a course may come to. -/
inductive LeadsTo (c : Course σ ν ε α) : Course σ ν ε α → Prop where
  | here : LeadsTo c c
  | reply {c' : Course σ ν ε α} (before : LeadsTo c c') (w : σ) (response : Response ν ε) :
      LeadsTo c (c'.reply w response)

/-- If the course ends well its result satisfies `P`. -/
def Ends (P : α → Prop) : Course σ ν ε α → Prop
  | done _ r => ∀ a, r = .ok a → P a
  | ask _ _ next => ∀ w response, Ends P (next w response)

/-- A course that starts where `f` holds the entries `b`. Others add what they like while it waits.
The entries that it adds itself are in the relation `K` to where it then stands. -/
def Adds (f : σ → List δ) (K : Course σ ν ε α → δ → Prop) : List δ → Course σ ν ε α → Prop
  | b, done w r => ∀ e ∈ f w, e ∈ b ∨ K (done w r) e
  | b, ask w request next => (∀ e ∈ f w, e ∈ b ∨ K (ask w request next) e)
      ∧ ∀ w' response, Adds f K (f w') (next w' response)

/-- The course has come to a result, and the entry belongs to it. -/
def HasEnded (L : α → δ → Prop) (c : Course σ ν ε α) (e : δ) : Prop :=
  ∃ w a, c = done w (.ok a) ∧ L a e

variable {f : σ → List δ} {L : α → δ → Prop} {P : α → Prop} {b : List δ} {c : Course σ ν ε α}

theorem Ends.bind {Q : β → Prop} (hc : c.Ends P) {k : α → σ → Course σ ν ε β}
    (hk : ∀ a, P a → ∀ w, (k a w).Ends Q) : (c.bind k).Ends Q := by
  induction c with
  | done w r =>
      cases r with
      | ok a => exact hk a (hc a rfl) w
      | error e => exact fun a ha => by cases ha
  | ask w request next ih => exact fun w' response => ih w' response (hc w' response)

theorem ends_true (c : Course σ ν ε α) : c.Ends fun _ => True := by
  induction c with
  | done w r => exact fun _ _ => trivial
  | ask w request next ih => exact fun w' response => ih w' response

theorem Adds.world {K : Course σ ν ε α → δ → Prop} (hc : c.Adds f K b) :
    ∀ e ∈ f c.world, e ∈ b ∨ K c e := by
  cases c with
  | done w r => exact hc
  | ask w request next => exact hc.1

theorem Adds.reply {K : Course σ ν ε α → δ → Prop} (hc : c.Adds f K b)
    (waits : c.request?.isSome) (w : σ) (response : Response ν ε) :
    (c.reply w response).Adds f K (f w) := by
  cases c with
  | done v r => cases waits
  | ask v request next => exact hc.2 w response

theorem Keeps.comp {τ : Type} {get : σ → τ} {t : τ} (hc : c.Keeps get t) (g : τ → List δ) :
    c.Keeps (fun w => g (get w)) (g t) := by
  induction c generalizing t with
  | done w r => exact congrArg g hc
  | ask w request next ih =>
      exact ⟨congrArg g hc.1, fun w' response => ih w' response (hc.2 w' response)⟩

theorem Adds.since {K : Course σ ν ε α → δ → Prop} {b' : List δ} (hc : c.Adds f K b')
    (hb : ∀ e ∈ b', e ∈ b) : c.Adds f K b := by
  cases c with
  | done w r => exact fun e he => (hc e he).imp_left (hb e)
  | ask w request next => exact ⟨fun e he => (hc.1 e he).imp_left (hb e), hc.2⟩

/-- A course that leaves the entries alone adds what there was to add when it started. -/
theorem Keeps.adds {K : Course σ ν ε α → δ → Prop} {b' : List δ} (hc : c.Keeps f b')
    (hb : ∀ e ∈ b', e ∈ b ∨ K c e) : c.Adds f K b := by
  induction c generalizing b b' with
  | done w r =>
      intro e he
      have hw : f w = b' := hc
      exact hb e (hw ▸ he)
  | ask w request next ih =>
      refine ⟨fun e he => hb e (hc.1 ▸ he), fun w' response => ?_⟩
      exact ih w' response (hc.2 w' response) fun e he => Or.inl he

/-- Nothing is added in a first part that leaves the entries alone. -/
theorem Keeps.bind_adds {K : Course σ ν ε β → δ → Prop} (hc : c.Keeps f b) (hends : c.Ends P)
    {k : α → σ → Course σ ν ε β} (hk : ∀ a, P a → ∀ w, (k a w).Adds f K (f w)) :
    (c.bind k).Adds f K b := by
  induction c generalizing b with
  | done w r =>
      have hw : f w = b := hc
      cases r with
      | ok a => exact hw ▸ hk a (hends a rfl) w
      | error e => exact fun e he => Or.inl (hw ▸ he)
  | ask w request next ih =>
      refine ⟨fun e he => Or.inl (hc.1 ▸ he), fun w' response => ?_⟩
      exact ih w' response (hc.2 w' response) (hends w' response)

/-- What a first part adds at its end is there when the rest starts. -/
theorem Adds.bind {K : Course σ ν ε β → δ → Prop} (hc : c.Adds f (HasEnded L) b)
    {k : α → σ → Course σ ν ε β}
    (hk : ∀ a w b, (∀ e ∈ f w, e ∈ b ∨ L a e) → (k a w).Adds f K b) : (c.bind k).Adds f K b := by
  induction c generalizing b with
  | done w r =>
      cases r with
      | ok a =>
          refine hk a w b fun e he => (hc e he).imp_right ?_
          rintro ⟨w', a', heq, hL⟩
          cases heq
          exact hL
      | error e' =>
          refine fun e he => (hc e he).imp_right ?_
          rintro ⟨w', a', heq, _⟩
          cases heq
  | ask w request next ih =>
      refine ⟨fun e he => (hc.1 e he).imp_right ?_,
        fun w' response => ih w' response (hc.2 w' response)⟩
      rintro ⟨w', a', heq, _⟩
      cases heq

end Course

theorem World.aside_entries (name : String) : World.Aside fun w => (w.store name).entries :=
  ⟨fun _ _ => rfl, fun _ _ => rfl⟩

/-! ## Calls and what they leave -/

/-- A call to create a module: of which source, and under which configuration it runs. -/
structure Caller where
  creation : Creation
  config : LoadConfig
  number : ConfigId := 0
  engine : Engine

namespace Caller

/-- The course of a call. -/
def course (x : Caller) : Act Value := x.creation.course x.config x.engine x.number

/-- What a call is kept under. -/
def key? (x : Caller) : Except Failure String :=
  fingerprint [.text x.config.version, .text x.creation.source, .text x.creation.file]

/-- What a call does with a compiled source. -/
def goOn (x : Caller) (a : Artifact) : Act Value :=
  Create.goOn x.config.resolver x.engine x.number x.creation.file a

/-- An entry of the store is what a call leaves there of an artifact: it has compiled it without
remarks, and the entry is the artifact as JSON text, under the key of the call. -/
def Leaves (name : String) (x : Caller) (a : Artifact) (e : String × String) : Prop :=
  x.config.store = some name
    ∧ (∃ d, x.config.compiled x.creation = .ok d ∧ d.warnings = [] ∧ a = d.toArtifact)
    ∧ x.key? = .ok e.1 ∧ Json.write .spaced a.toData = .ok e.2

/-- A call that stands at a course has left an entry, and has gone on with what it has left. -/
def HasLeft (name : String) (x : Caller) (c : Course World Value Thrown Value)
    (e : String × String) : Prop :=
  ∃ a w, x.Leaves name a e ∧ (x.goOn a w).LeadsTo c

theorem HasLeft.reply {name : String} {x : Caller} {c : Course World Value Thrown Value}
    {e : String × String} (h : x.HasLeft name c e) (w : World) (response : Response Value Thrown) :
    x.HasLeft name (c.reply w response) e := by
  obtain ⟨a, v, hleaves, hleads⟩ := h
  exact ⟨a, v, hleaves, hleads.reply w response⟩

end Caller

theorem Store.mem_insert {key text : String} {es : List (String × String)} {e : String × String}
    (he : e ∈ insert key text es) : e = (key, text) ∨ e ∈ es := by
  induction es with
  | nil => exact Or.inl (List.mem_singleton.mp he)
  | cons e' es ih =>
      unfold insert at he
      split at he
      · rcases List.mem_cons.mp he with rfl | he
        · exact Or.inl rfl
        · exact Or.inr (List.mem_cons_of_mem _ he)
      · rcases List.mem_cons.mp he with rfl | he
        · exact Or.inr List.mem_cons_self
        · exact (ih he).imp_right (List.mem_cons_of_mem _)

/-- What is kept is put under the key, and then all went well; or nothing is. -/
theorem Cache.mem_keep {store : Store} {key : String} {d : Data} {prevented : Bool}
    {e : String × String} (he : e ∈ (keep store key d prevented).store.entries) :
    e ∈ store.entries
      ∨ prevented = false ∧ (keep store key d prevented).result = .ok () ∧ e.1 = key
        ∧ Json.write .spaced d = .ok e.2 := by
  by_cases hprevented : prevented = true
  · rw [keep, if_pos hprevented] at he
    exact Or.inl he
  rw [keep, if_neg hprevented] at he ⊢
  cases hwrite : Json.write .spaced d with
  | error obstacle =>
      rw [hwrite] at he
      exact Or.inl he
  | ok text =>
      rw [hwrite] at he
      by_cases hfailing : store.failing = some .set
      · simp only [Store.set, if_pos hfailing] at he
        exact Or.inl he
      · simp only [Store.set, if_neg hfailing] at he ⊢
        rcases Store.mem_insert he with rfl | he
        · exact Or.inr ⟨by simpa using hprevented, trivial, rfl, rfl⟩
        · exact Or.inl he

/-! ## One call -/

namespace Create

variable {name own : String} {x : Caller} {w : World}

theorem store_replaceStore_of_ne (hne : own ≠ name) (store : Store) (log : List Entry) (w : World) :
    (replaceStore own store log w).store name = w.store name := by
  have hother : (w.stores.filter (·.1 ≠ own)).lookup name = w.stores.lookup name := by
    induction w.stores with
    | nil => rfl
    | cons s ss ih =>
        by_cases hn : s.1 = own
        · have hname : (name == s.1) = false := by simpa [hn] using Ne.symm hne
          rw [List.filter_cons_of_neg (by simpa using hn), ih, List.lookup_cons, hname]
        · rw [List.filter_cons_of_pos (by simpa using hn), List.lookup_cons, List.lookup_cons, ih]
  have hname : (name == own) = false := by simpa using Ne.symm hne
  rw [World.store, World.store, ← hother]
  show ((List.lookup name ((own, store) :: _)).getD {}) = _
  rw [List.lookup_cons, hname]

/-- An entry of a store, after some store was replaced. -/
theorem mem_replaceStore {store : Store} {log : List Entry} {e : String × String}
    (he : e ∈ ((replaceStore own store log w).store name).entries) :
    e ∈ (w.store name).entries ∨ own = name ∧ e ∈ store.entries := by
  by_cases hown : own = name
  · subst hown
    rw [store_replaceStore] at he
    exact Or.inr ⟨rfl, he⟩
  · rw [store_replaceStore_of_ne hown] at he
    exact Or.inl he

theorem ofExcept_ends {α : Type} (r : Except Failure α) (w : World) :
    (Act.ofExcept r w).Ends fun a => r = .ok a := by
  cases r with
  | ok a => exact fun b hb => by cases hb; rfl
  | error f => exact fun b hb => by cases hb

/-- What a compilation ends with. -/
theorem produce_ends (c : LoadConfig) (x : Creation) (w : World) :
    (produce c x.file x.source x.moduleMode w).Ends fun made =>
      ∃ d, c.compiled x = .ok d ∧ made = (d.toArtifact.toData, !d.warnings.isEmpty) := by
  have hperform : ∀ (s : Script Compiled) w, (perform s w).Ends fun d => s.outcome = .ok d :=
    fun s w => (Course.ends_true (play [] s.effects w)).bind fun _ _ w => ofExcept_ends _ w
  exact (hperform _ w).bind fun d hd w made hmade => by cases hmade; exact ⟨d, hd, rfl⟩

/-- A call writes what it has compiled itself, at once with its end, or it writes nothing. -/
theorem stored_adds (hown : x.config.store = some own) (w : World) :
    (stored x.config own x.creation.file x.creation.source x.creation.moduleMode w).Adds
      (fun w => (w.store name).entries)
      (Course.HasEnded fun d e => ∃ a, d = a.toData ∧ x.Leaves name a e)
      (w.store name).entries := by
  have haside := World.aside_entries name
  refine (Act.keeps_ofExcept haside _ w).bind_adds (ofExcept_ends _ w) fun key hkey w => ?_
  -- asking counts and logs, and leaves the entries as they are
  let asked := Cache.ask (w.store own) key
  let w' := replaceStore own asked.store asked.log w
  have hasked : ∀ e ∈ (w'.store name).entries, e ∈ (w.store name).entries := fun e he => by
    rcases mem_replaceStore he with hbefore | ⟨rfl, hstored⟩
    · exact hbefore
    · rwa [Cache.ask_store] at hstored
  suffices hadds : Course.Adds _ _ (w'.store name).entries _ from hadds.since hasked
  refine (Act.keeps_ofExcept haside asked.result w').bind_adds (ofExcept_ends _ w')
    fun found _ w => ?_
  cases found with
  | some d => exact fun e => Or.inl
  | none =>
      refine (keeps_produce haside x.config _ _ _ w).bind_adds (produce_ends x.config x.creation w)
        fun made hmade w => ?_
      obtain ⟨d, hd, rfl⟩ := hmade
      let kept := Cache.keep (w.store own) key d.toArtifact.toData (!d.warnings.isEmpty)
      have hkept : ∀ e ∈ ((replaceStore own kept.store kept.log w).store name).entries,
          e ∈ (w.store name).entries
            ∨ kept.result = .ok () ∧ x.Leaves name d.toArtifact e := fun e he => by
        rcases mem_replaceStore he with hbefore | ⟨rfl, hstored⟩
        · exact Or.inl hbefore
        · rcases Cache.mem_keep hstored with hbefore | ⟨hprevented, hresult, rfl, hwrite⟩
          · exact Or.inl hbefore
          · have hwarnings : d.warnings = [] := by simpa using hprevented
            exact Or.inr ⟨hresult, hown, ⟨d, hd, hwarnings, rfl⟩, hkey, hwrite⟩
      show ((Act.ofExcept kept.result (replaceStore own kept.store kept.log w)).bind _).Adds _ _ _
      cases hresult : kept.result with
      | ok u =>
          refine fun e he => (hkept e he).imp_right fun h => ?_
          exact ⟨_, _, rfl, d.toArtifact, rfl, h.2⟩
      | error f =>
          refine fun e he => (hkept e he).imp_right fun h => ?_
          rw [hresult] at h
          cases h.1

/-- What a call adds before it goes on is what it goes on with. -/
theorem artifact_adds (name : String) (x : Caller) (w : World) :
    (artifact x.config x.creation.file x.creation.source x.creation.moduleMode w).Adds
      (fun w => (w.store name).entries) (Course.HasEnded (x.Leaves name))
      (w.store name).entries := by
  have haside := World.aside_entries name
  unfold artifact
  cases hstore : x.config.store with
  | some own =>
      refine (stored_adds hstore w).bind fun d w b hadded => ?_
      show (Act.ofExcept (Artifact.ofData d) w).Adds _ _ _
      cases hread : Artifact.ofData d with
      | ok a =>
          refine fun e he => (hadded e he).imp_right ?_
          rintro ⟨a', rfl, hleaves⟩
          rw [Artifact.ofData_toData] at hread
          cases hread
          exact ⟨_, _, rfl, hleaves⟩
      | error f =>
          refine fun e he => (hadded e he).imp_right ?_
          rintro ⟨a', rfl, hleaves⟩
          rw [Artifact.ofData_toData] at hread
          cases hread
  | none =>
      have hall := (keeps_produce haside x.config x.creation.file x.creation.source
        x.creation.moduleMode).bind fun made => Act.keeps_ofExcept haside (Artifact.ofData made.1)
      exact (hall w).adds fun e => Or.inl

end Create

/-- **What one call does to a store.** Whatever it finds there, and whatever others do while it
waits, it adds nothing but what it leaves, and it then goes on with that. -/
theorem Caller.adds_course (name : String) (x : Caller) (w : World) :
    (x.course w).Adds (fun w => (w.store name).entries) (x.HasLeft name)
      (w.store name).entries := by
  have hgoOn : ∀ a w, (x.goOn a w).Keeps (fun w => (w.store name).entries)
      (w.store name).entries := fun a w =>
    (Create.goOn_keeps_stores _ x.engine x.number x.creation.file a w).comp
      fun stores => ((stores.lookup name).getD {}).entries
  rw [course, Creation.course, Create.createModule_eq]
  refine (Create.artifact_adds name x w).bind fun a w b hadded => (hgoOn a w).adds fun e he => ?_
  exact (hadded e he).imp_right fun hleaves => ⟨a, w, hleaves, .here⟩

/-! ## Any calls at the same time -/

/-- What calls at the same time lead to: where each of the calls so far stands, and the world. The
store of the name is empty at first. A call begins at any time, and a call that waits goes on from
any response at any time. Between all that anything may happen that leaves the store alone. -/
inductive Overlap (name : String) :
    List (Caller × Course World Value Thrown Value) → World → Prop where
  | start {w : World} (isEmpty : (w.store name).entries = []) : Overlap name [] w
  | other {calls : List (Caller × Course World Value Thrown Value)} {w w' : World}
      (before : Overlap name calls w) (alone : w.SameStore name w') : Overlap name calls w'
  | call {calls : List (Caller × Course World Value Thrown Value)} {w : World}
      (before : Overlap name calls w) (x : Caller) :
      Overlap name (calls ++ [(x, x.course w)]) (x.course w).world
  | resume {calls : List (Caller × Course World Value Thrown Value)} {w : World} {n : Nat}
      {x : Caller} {c : Course World Value Thrown Value} (before : Overlap name calls w)
      (hn : calls[n]? = some (x, c)) (waits : c.request?.isSome)
      (response : Response Value Thrown) :
      Overlap name (calls.set n (x, c.reply w response)) (c.reply w response).world

namespace Overlap

variable {name : String} {calls : List (Caller × Course World Value Thrown Value)} {w : World}

/-- The store holds what calls have left, and each call that waits adds what it leaves. -/
structure Inv (name : String) (calls : List (Caller × Course World Value Thrown Value))
    (w : World) : Prop where
  entries : ∀ e ∈ (w.store name).entries, ∃ p ∈ calls, p.1.HasLeft name p.2 e
  adds : ∀ p ∈ calls, p.2.request?.isSome → ∀ w response,
    (p.2.reply w response).Adds (fun w => (w.store name).entries) (p.1.HasLeft name)
      (w.store name).entries

theorem inv (h : Overlap name calls w) : Inv name calls w := by
  induction h with
  | start isEmpty =>
      refine ⟨fun e he => ?_, fun p hp => by cases hp⟩
      rw [isEmpty] at he
      cases he
  | other before alone ih =>
      refine ⟨?_, ih.adds⟩
      rw [alone.store]
      exact ih.entries
  | @call calls w before x ih =>
      have hadds := x.adds_course name w
      refine ⟨fun e he => ?_, fun p hp => ?_⟩
      · rcases hadds.world e he with he | hleft
        · obtain ⟨p, hp, hleft⟩ := ih.entries e he
          exact ⟨p, List.mem_append_left _ hp, hleft⟩
        · exact ⟨_, List.mem_append_right _ List.mem_cons_self, hleft⟩
      · rcases List.mem_append.mp hp with hp | hp
        · exact ih.adds p hp
        · obtain rfl := List.mem_singleton.mp hp
          exact hadds.reply
  | @resume calls w n x c before hn waits response ih =>
      have hadds := ih.adds (x, c) (List.mem_of_getElem? hn) waits w response
      have hset : (calls.set n (x, c.reply w response))[n]? = some (x, c.reply w response) := by
        rw [List.getElem?_set_self (List.getElem?_eq_some_iff.mp hn).1]
      refine ⟨fun e he => ?_, fun p hp => ?_⟩
      · rcases hadds.world e he with he | hleft
        · -- what was left before, perhaps by this very call
          obtain ⟨p, hp, hleft⟩ := ih.entries e he
          obtain ⟨m, hm⟩ := List.mem_iff_getElem?.mp hp
          by_cases hmn : m = n
          · subst hmn
            obtain rfl := Option.some.inj (hn.symm.trans hm)
            exact ⟨_, List.mem_of_getElem? hset, hleft.reply w response⟩
          · refine ⟨p, List.mem_of_getElem? (i := m) ?_, hleft⟩
            rw [List.getElem?_set_ne (Ne.symm hmn), hm]
        · exact ⟨_, List.mem_of_getElem? hset, hleft⟩
      · rcases List.mem_or_eq_of_mem_set hp with hp | rfl
        · exact ih.adds p hp
        · exact hadds.reply

/-- **Each entry of a store is what one of the calls has compiled.** Whichever calls overlap, and
however, an entry is the JSON text of an artifact that one of them has compiled without remarks and
gone on with, under its key; so it can be read, and the artifact is what is read. Under a key whose
calls all fail or make remarks there is nothing. -/
theorem entries_compiled (h : Overlap name calls w) :
    (∀ e ∈ (w.store name).entries, ∃ p ∈ calls, ∃ d v,
      p.1.config.store = some name
        ∧ p.1.config.compiled p.1.creation = .ok d ∧ d.warnings = []
        ∧ (p.1.goOn d.toArtifact v).LeadsTo p.2
        ∧ p.1.key? = .ok e.1
        ∧ Json.write .spaced d.toArtifact.toData = .ok e.2
        ∧ Json.read e.2 = .ok d.toArtifact.toData
        ∧ Artifact.ofData d.toArtifact.toData = .ok d.toArtifact)
      ∧ ∀ key, (∀ p ∈ calls, p.1.key? = .ok key →
          p.1.config.leaves? p.1.creation = none) → (w.store name).text? key = none := by
  have hentries : ∀ e ∈ (w.store name).entries, ∃ p ∈ calls, ∃ d v,
      p.1.config.compiled p.1.creation = .ok d ∧ d.warnings = []
        ∧ p.1.Leaves name d.toArtifact e ∧ (p.1.goOn d.toArtifact v).LeadsTo p.2 := fun e he => by
    obtain ⟨p, hp, _, v, hleaves, hleads⟩ := h.inv.entries e he
    obtain ⟨d, hd, hwarnings, rfl⟩ := hleaves.2.1
    exact ⟨p, hp, d, v, hd, hwarnings, hleaves, hleads⟩
  constructor
  · intro e he
    obtain ⟨p, hp, d, v, hd, hwarnings, ⟨hname, -, hkey, hwrite⟩, hleads⟩ := hentries e he
    obtain ⟨text, htext, hread⟩ := Compiled.write_toArtifact hd
    obtain rfl : text = e.2 := Except.ok.inj (htext.symm.trans hwrite)
    exact ⟨p, hp, d, v, hname, hd, hwarnings, hleads, hkey, hwrite, hread,
      Artifact.ofData_toData _⟩
  · intro key hkey
    rw [Store.text?, Option.map_eq_none_iff, List.find?_eq_none]
    intro e he heq
    obtain ⟨p, hp, d, v, hd, hwarnings, hleaves, -⟩ := hentries e he
    obtain rfl : e.1 = key := by simpa using heq
    have hnone := hkey p hp hleaves.2.2.1
    rw [LoadConfig.leaves?_eq_some.mpr ⟨hd, hwarnings⟩] at hnone
    cases hnone

/-! ## Two calls for one key -/

/-- A call under a configuration with a store and a pass that pauses. -/
def pausing : Caller where
  creation := importCall true
  config := { storing with passes := [Pass.identity.paused] }
  engine := shallowEngine

/-- Both calls miss before one of them writes; then each of them writes. -/
theorem overlapping_pair : ∃ calls w, Overlap "kept" calls w
    ∧ calls.map Prod.fst = [pausing, pausing]
    ∧ ∃ e ∈ (w.store "kept").entries, ∃ p ∈ calls, ∃ d, p.1.config.compiled p.1.creation = .ok d
      ∧ p.1.key? = .ok e.1 ∧ Json.read e.2 = .ok d.toArtifact.toData := by
  let c := pausing.course ({} : World)
  let c' := pausing.course c.world
  let d := c.reply c'.world (.ok none)
  have hoverlap : Overlap "kept"
      [(pausing, d), (pausing, c'.reply d.world (.ok none))] (c'.reply d.world (.ok none)).world :=
    (((Overlap.start (w := {}) rfl).call pausing).call pausing).resume (n := 0) (c := c) rfl
      (by decide +kernel) (.ok none) |>.resume (n := 1) (c := c') rfl (by decide +kernel) (.ok none)
  refine ⟨_, _, hoverlap, rfl, ?_⟩
  have hsome : ((c'.reply d.world (.ok none)).world.store "kept").entries ≠ [] := by decide +kernel
  obtain ⟨e, he⟩ := List.exists_mem_of_ne_nil _ hsome
  obtain ⟨p, hp, d, v, -, hd, -, -, hkey, -, hread, -⟩ := (Overlap.entries_compiled hoverlap).1 e he
  exact ⟨e, he, p, hp, d, hd, hkey, hread⟩

end Overlap

end SourceLoader
