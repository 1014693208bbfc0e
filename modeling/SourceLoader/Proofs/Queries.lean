import SourceLoader.Cache.Query
import SourceLoader.Proofs.Kept

/-!
# What a call for a value does

Whatever a store holds, a call ends in one of six ways (`Query.Settles`): its parts have no
fingerprint; a text is found under its key, and is read or refused; or nothing counts there, and
the producer fails, forbids to keep its value, has a value that cannot be written, or has one that
is kept. All that is said of calls here is read off these six.

Only the last way writes, and it writes under the key of the call. So a value that was kept stays
until the end of any sequence of calls: a later call under its key finds it, and writes nothing.
-/

namespace SourceLoader

namespace Store

variable {s : Store} {key text : String}

/-- The text that counts under a key. An empty one does not. -/
def held? (s : Store) (key : String) : Option String := (s.text? key).filter (· ≠ "")

theorem held?_eq_none : s.held? key = none ↔ ∀ text, s.text? key = some text → text = "" := by
  simp [held?, Option.filter_eq_none_iff]

theorem held?_eq_some : s.held? key = some text ↔ s.text? key = some text ∧ text ≠ "" := by
  simp [held?, Option.filter_eq_some_iff]

end Store

namespace Cache

theorem Control.prevented_repeat (n : Nat) :
    (Nat.repeat Control.prevent n {}).prevented = decide (0 < n) := by
  cases n with
  | zero => rfl
  | succ n => simp [Nat.repeat, Control.prevent]

theorem Producer.prevented_run (p : Producer) : p.run.prevented = decide (0 < p.prevents) :=
  Control.prevented_repeat p.prevents

variable {s : Store} {key text : String}

theorem ask_of_held (hworks : s.failing = none) (hheld : s.held? key = some text) :
    (ask s key).result = ((Json.read text).mapError (.unreadable text)).map some := by
  obtain ⟨htext, hne⟩ := Store.held?_eq_some.mp hheld
  cases hread : Json.read text <;>
    simp [ask, Store.get, hworks, htext, hne, hread, Except.mapError, Except.map]

theorem ask_of_missing (hworks : s.failing = none) (hmissing : s.held? key = none) :
    (ask s key).result = .ok none := by
  cases htext : s.text? key with
  | none => exact ask_of_none hworks htext
  | some text =>
      obtain rfl := Store.held?_eq_none.mp hmissing text htext
      simp [ask, Store.get, hworks, htext]

theorem entries_ask (s : Store) (key : String) : (ask s key).store.entries = s.entries := by
  rw [ask_store]

theorem failing_ask (s : Store) (key : String) : (ask s key).store.failing = s.failing := by
  rw [ask_store]

theorem keep_of_prevented (value : Data) :
    (keep s key value true).store = s ∧ (keep s key value true).result = .ok () :=
  ⟨rfl, rfl⟩

theorem keep_of_unwritable {value : Data} {obstacle : Json.Obstacle}
    (hwrite : Json.write .spaced value = .error obstacle) :
    (keep s key value false).store = s
      ∧ (keep s key value false).result = .error (.unwritable obstacle) := by
  simp [keep, hwrite]

theorem keep_of_written (hworks : s.failing = none) {value : Data}
    (hwrite : Json.write .spaced value = .ok text) :
    (keep s key value false).store
        = { s with sets := s.sets + 1, entries := Store.insert key text s.entries }
      ∧ (keep s key value false).result = .ok () := by
  simp [keep, hwrite, Store.set, hworks]

theorem failing_keep (s : Store) (key : String) (value : Data) (prevented : Bool) :
    (keep s key value prevented).store.failing = s.failing := by
  cases prevented with
  | true => rfl
  | false =>
      cases hwrite : Json.write .spaced value with
      | error obstacle => rw [(keep_of_unwritable hwrite).1]
      | ok text =>
          simp only [keep, hwrite, Store.set, Bool.false_eq_true, if_false]
          split <;> rfl

namespace Query

variable {q : Query}

/-! ## The steps of a call -/

/-- All steps of a call, with nobody between them. -/
def alone (q : Query) (s : Store) : Store × Phase :=
  let asked := q.step s .begun
  let made := q.step asked.1 asked.2
  q.step made.1 made.2

/-- **A call is its steps.** -/
theorem alone_eq (q : Query) (s : Store) :
    q.alone s = ((q.call s).store, .ended (q.call s).result) := by
  -- a call that has ended early takes its last steps to no effect
  unfold alone call Cache.call
  cases hkey : fingerprint q.parts with
  | error f => simp [step, hkey]
  | ok key =>
      cases hasked : (ask s key).result with
      | error f => simp [step, hkey, hasked, Phase.ofAnswer]
      | ok found =>
          cases found with
          | some value => simp [step, hkey, hasked, Phase.ofAnswer]
          | none =>
              cases hvalue : q.producer.run.value with
              | error f => simp [step, hkey, hasked, Phase.ofAnswer, Phase.ofProduction, hvalue]
              | ok value => simp [step, hkey, hasked, Phase.ofAnswer, Phase.ofProduction, hvalue]

/-- A call runs its producer if that is where it stands when it has asked. -/
theorem runsProducer_eq_true :
    q.runsProducer s = true ↔ ∃ key, (q.step s .begun).2 = .producing key := by
  unfold runsProducer produces step
  cases fingerprint q.parts with
  | error f => simp
  | ok key =>
      cases hasked : (ask s key).result with
      | error f => simp [hasked, Phase.ofAnswer]
      | ok found => cases found <;> simp [hasked, Phase.ofAnswer]

/-- How a call ends: whether its producer has run, the entries that it leaves, and what it comes
to. -/
structure Ends (q : Query) (s : Store) (runs : Bool) (entries : List (String × String))
    (result : Except Failure Data) : Prop where
  runs : q.runsProducer s = runs
  entries : (q.call s).store.entries = entries
  result : (q.call s).result = result

theorem ends_of_alone {s' : Store} {result : Except Failure Data}
    (halone : q.alone s = (s', .ended result)) {runs : Bool} (hruns : q.runsProducer s = runs) :
    q.Ends s runs s'.entries result := by
  rw [alone_eq] at halone
  obtain ⟨hstore, hresult⟩ := Prod.mk.inj halone
  exact ⟨hruns, congrArg Store.entries hstore, Phase.ended.inj hresult⟩

/-- A call that ends when it has asked. -/
theorem ends_of_answered {s' : Store} {result : Except Failure Data}
    (hasked : q.step s .begun = (s', .ended result)) : q.Ends s false s'.entries result := by
  have halone : q.alone s = (s', .ended result) := by
    simp only [alone, hasked]
    rfl
  refine ends_of_alone halone ?_
  rw [Bool.eq_false_iff, ne_eq, runsProducer_eq_true, hasked]
  rintro ⟨key, hkey⟩
  cases hkey

/-- A call that has asked in vain. -/
theorem ends_of_missing (hworks : s.failing = none) (hkey : fingerprint q.parts = .ok key)
    (hmissing : s.held? key = none) {s' : Store} {result : Except Failure Data}
    (hmade : q.step (ask s key).store (.ofProduction key q.producer.run) = (s', .ended result)) :
    q.Ends s true s'.entries result := by
  have hasked : q.step s .begun = ((ask s key).store, .producing key) := by
    simp [step, hkey, ask_of_missing hworks hmissing, Phase.ofAnswer]
  refine ends_of_alone ?_ (runsProducer_eq_true.mpr ⟨key, congrArg Prod.snd hasked⟩)
  simp only [alone, hasked]
  exact hmade

/-! ## The six ways in which a call ends -/

theorem ends_of_unkeyed {f : Failure} (hkey : fingerprint q.parts = .error f) :
    q.Ends s false s.entries (.error f) :=
  ends_of_answered (by simp [step, hkey])

theorem ends_of_held (hworks : s.failing = none) (hkey : fingerprint q.parts = .ok key)
    (hheld : s.held? key = some text) :
    q.Ends s false s.entries ((Json.read text).mapError (.unreadable text)) := by
  have hasked : q.step s .begun = ((ask s key).store,
      .ended ((Json.read text).mapError (.unreadable text))) := by
    simp only [step, hkey, ask_of_held hworks hheld]
    cases Json.read text <;> rfl
  exact entries_ask s key ▸ ends_of_answered hasked

theorem ends_of_failed (hworks : s.failing = none) (hkey : fingerprint q.parts = .ok key)
    (hmissing : s.held? key = none) {f : Failure} (hvalue : q.producer.value = .error f) :
    q.Ends s true s.entries (.error f) := by
  have hmade : q.step (ask s key).store (.ofProduction key q.producer.run)
      = ((ask s key).store, .ended (.error f)) := by
    simp [step, Phase.ofProduction, Producer.run, hvalue]
  exact entries_ask s key ▸ ends_of_missing hworks hkey hmissing hmade

/-- Where a call stands whose producer has a value. -/
theorem ofProduction_run {value : Data} (hvalue : q.producer.value = .ok value) (key : String) :
    Phase.ofProduction key q.producer.run = .produced key value (0 < q.producer.prevents) := by
  rw [Phase.ofProduction, Producer.prevented_run]
  simp [Producer.run, hvalue]

theorem ends_of_prevented (hworks : s.failing = none) (hkey : fingerprint q.parts = .ok key)
    (hmissing : s.held? key = none) {value : Data} (hvalue : q.producer.value = .ok value)
    (hprevents : 0 < q.producer.prevents) : q.Ends s true s.entries (.ok value) := by
  have hmade : q.step (ask s key).store (.ofProduction key q.producer.run)
      = ((ask s key).store, .ended (.ok value)) := by
    simp [ofProduction_run hvalue, step, hprevents, keep_of_prevented, Except.map]
  exact entries_ask s key ▸ ends_of_missing hworks hkey hmissing hmade

theorem ends_of_unwritable (hworks : s.failing = none) (hkey : fingerprint q.parts = .ok key)
    (hmissing : s.held? key = none) {value : Data} (hvalue : q.producer.value = .ok value)
    (hallowed : q.producer.prevents = 0) {obstacle : Json.Obstacle}
    (hwrite : Json.write .spaced value = .error obstacle) :
    q.Ends s true s.entries (.error (.unwritable obstacle)) := by
  have hmade : q.step (ask s key).store (.ofProduction key q.producer.run)
      = ((ask s key).store, .ended (.error (.unwritable obstacle))) := by
    simp [ofProduction_run hvalue, step, hallowed, keep_of_unwritable hwrite, Except.map]
  exact entries_ask s key ▸ ends_of_missing hworks hkey hmissing hmade

/-- A call runs its producer and keeps the value as a text. -/
structure Keeps (q : Query) (s : Store) (key : String) (value : Data) (text : String) :
    Prop where
  keyed : fingerprint q.parts = .ok key
  missing : s.held? key = none
  produced : q.producer.value = .ok value
  allowed : q.producer.prevents = 0
  written : Json.write .spaced value = .ok text

theorem Keeps.ends {value : Data} (h : q.Keeps s key value text) (hworks : s.failing = none) :
    q.Ends s true (Store.insert key text s.entries) (.ok value) := by
  have hworks' : (ask s key).store.failing = none := (failing_ask s key).trans hworks
  have hmade : q.step (ask s key).store (.ofProduction key q.producer.run)
      = ({ (ask s key).store with
          sets := (ask s key).store.sets + 1
          entries := Store.insert key text (ask s key).store.entries }, .ended (.ok value)) := by
    simp [ofProduction_run h.produced, step, h.allowed, keep_of_written hworks' h.written,
      Except.map]
  exact entries_ask s key ▸ ends_of_missing hworks h.keyed h.missing hmade

/-- What a call comes upon; each case is one of the ways in which it ends. -/
inductive Settles (q : Query) (s : Store) : Prop where
  | unkeyed {f : Failure} (hkey : fingerprint q.parts = .error f)
  | found {key text : String} (hkey : fingerprint q.parts = .ok key)
      (hheld : s.held? key = some text)
  | failed {key : String} {f : Failure} (hkey : fingerprint q.parts = .ok key)
      (hmissing : s.held? key = none) (hvalue : q.producer.value = .error f)
  | prevented {key : String} {value : Data} (hkey : fingerprint q.parts = .ok key)
      (hmissing : s.held? key = none) (hvalue : q.producer.value = .ok value)
      (hprevents : 0 < q.producer.prevents)
  | unwritable {key : String} {value : Data} {obstacle : Json.Obstacle}
      (hkey : fingerprint q.parts = .ok key) (hmissing : s.held? key = none)
      (hvalue : q.producer.value = .ok value) (hallowed : q.producer.prevents = 0)
      (hwrite : Json.write .spaced value = .error obstacle)
  | kept {key text : String} {value : Data} (hkeeps : q.Keeps s key value text)

theorem settles (q : Query) (s : Store) : q.Settles s := by
  cases hkey : fingerprint q.parts with
  | error f => exact .unkeyed hkey
  | ok key =>
      cases hheld : s.held? key with
      | some text => exact .found hkey hheld
      | none =>
          cases hvalue : q.producer.value with
          | error f => exact .failed hkey hheld hvalue
          | ok value =>
              rcases Nat.eq_zero_or_pos q.producer.prevents with hallowed | hprevents
              · cases hwrite : Json.write .spaced value with
                | error obstacle => exact .unwritable hkey hheld hvalue hallowed hwrite
                | ok text => exact .kept ⟨hkey, hheld, hvalue, hallowed, hwrite⟩
              · exact .prevented hkey hheld hvalue hprevents

/-! ## What follows from the six ways -/

theorem runsProducer_iff (hworks : s.failing = none) :
    q.runsProducer s = true ↔ ∃ key, fingerprint q.parts = .ok key ∧ s.held? key = none := by
  cases q.settles s with
  | unkeyed hkey => simp [(ends_of_unkeyed hkey).runs, hkey]
  | found hkey hheld => simp [(ends_of_held hworks hkey hheld).runs, hkey, hheld]
  | failed hkey hmissing hvalue =>
      simp [(ends_of_failed hworks hkey hmissing hvalue).runs, hkey, hmissing]
  | prevented hkey hmissing hvalue hprevents =>
      simp [(ends_of_prevented hworks hkey hmissing hvalue hprevents).runs, hkey, hmissing]
  | unwritable hkey hmissing hvalue hallowed hwrite =>
      simp [(ends_of_unwritable hworks hkey hmissing hvalue hallowed hwrite).runs, hkey, hmissing]
  | kept hkeeps => simp [(hkeeps.ends hworks).runs, hkeeps.keyed, hkeeps.missing]

/-- A call that keeps no value leaves the entries as they are. -/
theorem entries_of_not_keeps (hworks : s.failing = none)
    (h : ∀ key value text, ¬ q.Keeps s key value text) :
    (q.call s).store.entries = s.entries := by
  cases q.settles s with
  | unkeyed hkey => exact (ends_of_unkeyed hkey).entries
  | found hkey hheld => exact (ends_of_held hworks hkey hheld).entries
  | failed hkey hmissing hvalue => exact (ends_of_failed hworks hkey hmissing hvalue).entries
  | prevented hkey hmissing hvalue hprevents =>
      exact (ends_of_prevented hworks hkey hmissing hvalue hprevents).entries
  | unwritable hkey hmissing hvalue hallowed hwrite =>
      exact (ends_of_unwritable hworks hkey hmissing hvalue hallowed hwrite).entries
  | kept hkeeps => exact absurd hkeeps (h _ _ _)

/-- Why a call fails. -/
inductive Fails (q : Query) (s : Store) : Failure → Prop where
  | unkeyed {f : Failure} (hkey : fingerprint q.parts = .error f) : Fails q s f
  | unreadable {key text : String} {rejection : Json.Rejection}
      (hkey : fingerprint q.parts = .ok key) (hheld : s.held? key = some text)
      (hread : Json.read text = .error rejection) : Fails q s (.unreadable text rejection)
  | failed {f : Failure} (hruns : q.runsProducer s = true) (hvalue : q.producer.value = .error f) :
      Fails q s f
  | unwritable {value : Data} {obstacle : Json.Obstacle} (hruns : q.runsProducer s = true)
      (hvalue : q.producer.value = .ok value) (hallowed : q.producer.prevents = 0)
      (hwrite : Json.write .spaced value = .error obstacle) : Fails q s (.unwritable obstacle)

/-- A call that fails has one of four reasons, and it keeps nothing. -/
theorem fails_of_error (hworks : s.failing = none) {f : Failure}
    (h : (q.call s).result = .error f) :
    q.Fails s f ∧ ∀ key value text, ¬ q.Keeps s key value text := by
  refine ⟨?_, fun key value text hkeeps => by cases (hkeeps.ends hworks).result.symm.trans h⟩
  -- a text that is found can be read or not; a value that is forbidden or kept is no failure
  cases q.settles s with
  | unkeyed hkey =>
      obtain rfl := Except.error.inj ((ends_of_unkeyed hkey).result.symm.trans h)
      exact .unkeyed hkey
  | @found key text hkey hheld =>
      rw [(ends_of_held hworks hkey hheld).result] at h
      cases hread : Json.read text with
      | ok value => simp [hread, Except.mapError] at h
      | error rejection =>
          rw [hread] at h
          obtain rfl := Except.error.inj h
          exact .unreadable hkey hheld hread
  | failed hkey hmissing hvalue =>
      have hends := ends_of_failed hworks hkey hmissing hvalue
      obtain rfl := Except.error.inj (hends.result.symm.trans h)
      exact .failed hends.runs hvalue
  | prevented hkey hmissing hvalue hprevents =>
      cases (ends_of_prevented hworks hkey hmissing hvalue hprevents).result.symm.trans h
  | unwritable hkey hmissing hvalue hallowed hwrite =>
      have hends := ends_of_unwritable hworks hkey hmissing hvalue hallowed hwrite
      obtain rfl := Except.error.inj (hends.result.symm.trans h)
      exact .unwritable hends.runs hvalue hallowed hwrite
  | kept hkeeps => cases (hkeeps.ends hworks).result.symm.trans h

/-- For each of the four reasons a call fails. -/
theorem Fails.result (hworks : s.failing = none) {f : Failure} (h : q.Fails s f) :
    (q.call s).result = .error f := by
  cases h with
  | unkeyed hkey => exact (ends_of_unkeyed hkey).result
  | unreadable hkey hheld hread =>
      rw [(ends_of_held hworks hkey hheld).result, hread]
      rfl
  | failed hruns hvalue =>
      obtain ⟨key, hkey, hmissing⟩ := (runsProducer_iff hworks).mp hruns
      exact (ends_of_failed hworks hkey hmissing hvalue).result
  | unwritable hruns hvalue hallowed hwrite =>
      obtain ⟨key, hkey, hmissing⟩ := (runsProducer_iff hworks).mp hruns
      exact (ends_of_unwritable hworks hkey hmissing hvalue hallowed hwrite).result

/-- A call whose producer does not run does what it would do with any other producer. -/
theorem call_congr (hruns : q.runsProducer s = false) (p : Producer) :
    ({ q with producer := p } : Query).call s = q.call s := by
  unfold runsProducer produces at hruns
  unfold call Cache.call
  -- the producer is looked at in the last case only, and that is excluded
  cases hkey : fingerprint q.parts with
  | error f => rfl
  | ok key =>
      rw [hkey] at hruns
      dsimp only at hruns ⊢
      cases hasked : (ask s key).result with
      | error f => rfl
      | ok found =>
          cases found with
          | some value => rfl
          | none => simp [hasked] at hruns

/-! ## Calls one after the other -/

theorem failing_call (q : Query) (s : Store) : (q.call s).store.failing = s.failing := by
  unfold call Cache.call
  cases fingerprint q.parts with
  | error f => rfl
  | ok key =>
      dsimp only
      cases (ask s key).result with
      | error f => exact failing_ask s key
      | ok found =>
          cases found with
          | some value => exact failing_ask s key
          | none =>
              dsimp only
              cases q.producer.run.value with
              | error f => exact failing_ask s key
              | ok value => exact (failing_keep _ _ _ _).trans (failing_ask s key)

theorem text?_of_entries {s' : Store} (h : s'.entries = s.entries) (key : String) :
    s'.text? key = s.text? key := by
  rw [Store.text?, h, Store.text?]

theorem Keeps.text? {value : Data} (h : q.Keeps s key value text) (hworks : s.failing = none)
    (other : String) :
    (q.call s).store.text? other = if other = key then some text else s.text? other := by
  rw [← Store.text?_insert]
  exact text?_of_entries (h.ends hworks).entries other

/-- A text that counts stays through a call. -/
theorem held?_call (hworks : s.failing = none) (hheld : s.held? key = some text) (q : Query) :
    (q.call s).store.held? key = some text := by
  -- a call that keeps a value has found nothing under its key, so that is another key
  by_cases hkeeps : ∃ other value written, q.Keeps s other value written
  · obtain ⟨other, value, written, hkeeps⟩ := hkeeps
    have hne : key ≠ other := by
      rintro rfl
      cases hheld.symm.trans hkeeps.missing
    rw [Store.held?, hkeeps.text? hworks, if_neg hne]
    exact hheld
  · have hentries := entries_of_not_keeps hworks fun key value text h => hkeeps ⟨_, _, _, h⟩
    rw [Store.held?, text?_of_entries hentries]
    exact hheld

end Query

open Query

theorem failing_callAll (s : Store) (qs : List Query) : (callAll s qs).failing = s.failing := by
  induction qs generalizing s with
  | nil => rfl
  | cons q qs ih => exact (ih (q.call s).store).trans (failing_call q s)

/-- A text that counts stays through all calls. -/
theorem held?_callAll (hworks : s.failing = none) (hheld : s.held? key = some text)
    (qs : List Query) : (callAll s qs).held? key = some text := by
  induction qs generalizing s with
  | nil => exact hheld
  | cons q qs ih => exact ih ((failing_call q s).trans hworks) (held?_call hworks hheld q)

/-- What was written of a value that JSON has a form for counts, and is read. -/
theorem read_of_native {value : Data} (hnative : value.Native)
    (hwrite : Json.write .spaced value = .ok text) : text ≠ "" ∧ Json.read text = .ok value := by
  obtain ⟨written, hwritten, hread⟩ := Json.read_write hnative
  obtain rfl := Except.ok.inj (hwritten.symm.trans hwrite)
  refine ⟨?_, hread⟩
  rintro rfl
  cases hread

end Cache

end SourceLoader
