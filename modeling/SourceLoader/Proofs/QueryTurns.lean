import Mathlib.Data.List.Nodup
import SourceLoader.Proofs.Overlaps
import SourceLoader.Proofs.Queries
import SourceLoader.Proofs.Turns

/-!
# Calls for values that take turns

Several calls may all ask in vain under a key, produce, and write, each over what the others have
written. That does no harm if calls under the same key agree on the value (`Agree`): then each text
under a key is the one that any call under the key would write, and writing it again changes
nothing. So a text that is there stays (`Grows`), and it is what an asking call needs to find. The
calls can thus be looked at one by one (`Query.does_step`), and nothing depends on the order of
their steps.
-/

namespace SourceLoader

namespace Store

variable {s : Store} {key text : String} {es : List (String × String)}

theorem mem_of_text? (h : s.text? key = some text) : (key, text) ∈ s.entries := by
  obtain ⟨e, hfind, rfl⟩ := Option.map_eq_some_iff.mp h
  obtain rfl : e.1 = key := by simpa using List.find?_some hfind
  exact List.mem_of_find?_eq_some hfind

theorem mem_insert_self (key text : String) (es : List (String × String)) :
    (key, text) ∈ insert key text es := by
  induction es with
  | nil => exact List.mem_singleton_self _
  | cons e es ih =>
      unfold insert
      split
      · exact List.mem_cons_self
      · exact List.mem_cons_of_mem _ ih

theorem mem_insert_of_ne {e : String × String} (he : e ∈ es) (hne : e.1 ≠ key) :
    e ∈ insert key text es := by
  induction es with
  | nil => cases he
  | cons e' es ih =>
      unfold insert
      rcases List.mem_cons.mp he with rfl | he
      · rw [if_neg hne]
        exact List.mem_cons_self
      · split
        · exact List.mem_cons_of_mem _ he
        · exact List.mem_cons_of_mem _ (ih he)

/-- A store holds one text under a key. -/
theorem nodup_insert (h : (es.map Prod.fst).Nodup) :
    ((insert key text es).map Prod.fst).Nodup := by
  induction es with
  | nil => exact List.nodup_cons.mpr ⟨List.not_mem_nil, List.nodup_nil⟩
  | cons e es ih =>
      obtain ⟨hnew, hrest⟩ := List.nodup_cons.mp h
      unfold insert
      split
      · rename_i heq
        exact List.nodup_cons.mpr ⟨heq ▸ hnew, hrest⟩
      · rename_i hne
        refine List.nodup_cons.mpr ⟨fun hmem => ?_, ih hrest⟩
        obtain ⟨e', he', heq⟩ := List.mem_map.mp hmem
        rcases mem_insert he' with rfl | he'
        · exact hne heq.symm
        · exact hnew (List.mem_map.mpr ⟨e', he', heq⟩)

/-- All texts are still there. -/
def Grows (s s' : Store) : Prop := ∀ e ∈ s.entries, e ∈ s'.entries

theorem Grows.of_entries {s' : Store} (h : s'.entries = s.entries) : s.Grows s' :=
  fun _ he => h ▸ he

end Store

namespace Cache

/-! ## What a call leaves -/

/-- An entry of the store is what a call leaves there: the text of its value, under its key, unless
the producer forbids that. -/
def Query.Leaves (q : Query) (e : String × String) : Prop :=
  fingerprint q.parts = .ok e.1 ∧ q.producer.prevents = 0
    ∧ ∃ value, q.producer.value = .ok value ∧ Json.write .spaced value = .ok e.2

/-- No producer fails, and JSON has a form of its own for each value. Calls under the same key agree
on the value, and on whether it may be kept. -/
structure Agree (qs : List Query) : Prop where
  value : ∀ q ∈ qs, ∃ value, q.producer.value = .ok value ∧ value.Native
  same : ∀ q ∈ qs, ∀ q' ∈ qs, ∀ key, fingerprint q.parts = .ok key →
    fingerprint q'.parts = .ok key → q.producer.value = q'.producer.value
      ∧ (q.producer.prevents = 0 ↔ q'.producer.prevents = 0)

/-- What a call comes to by itself. -/
def Query.own (q : Query) : Except Failure Data :=
  (fingerprint q.parts).bind fun _ => q.producer.value

variable {qs : List Query} {q q' : Query} {s : Store} {key : String}

/-- What one call leaves under a key, all calls under the key leave. -/
theorem Agree.leaves (hagree : Agree qs) (hq : q ∈ qs) (hq' : q' ∈ qs) {e : String × String}
    (hleaves : q.Leaves e) (hkey : fingerprint q'.parts = .ok e.1) : q'.Leaves e := by
  obtain ⟨hown, hallowed, hvalue⟩ := hleaves
  obtain ⟨hsame, hprevents⟩ := hagree.same q hq q' hq' e.1 hown hkey
  exact ⟨hkey, hprevents.mp hallowed, hsame ▸ hvalue⟩

theorem Query.Leaves.eq_text {text text' : String} (h : q.Leaves (key, text))
    (h' : q.Leaves (key, text')) : text = text' := by
  obtain ⟨-, -, value, hvalue, hwrite⟩ := h
  obtain ⟨-, -, value', hvalue', hwrite'⟩ := h'
  cases hvalue.symm.trans hvalue'
  cases hwrite.symm.trans hwrite'
  rfl

/-! ## A call among others -/

/-- Each text is what one of the calls leaves, and there is one at most under each key. -/
structure LeftBy (qs : List Query) (s : Store) : Prop where
  works : s.failing = none
  distinct : (s.entries.map Prod.fst).Nodup
  leaves : ∀ e ∈ s.entries, ∃ q ∈ qs, q.Leaves e

theorem LeftBy.of_entries {s' : Store} (h : LeftBy qs s) (hentries : s'.entries = s.entries)
    (hfailing : s'.failing = s.failing) : LeftBy qs s' :=
  ⟨hfailing.trans h.works, hentries ▸ h.distinct, hentries ▸ h.leaves⟩

/-- How many steps a call has to go at most. -/
def Phase.left : Phase → Nat
  | begun => 3
  | producing _ => 2
  | produced _ _ _ => 1
  | ended _ => 0

namespace Query

theorem left_step (q : Query) (s : Store) (phase : Phase) :
    (q.step s phase).2.left ≤ phase.left - 1 := by
  have hanswer : ∀ key answer, (Phase.ofAnswer key answer).left ≤ 2 := by
    rintro key (f | - | value)
    · exact Nat.zero_le 2
    · exact Nat.le_refl 2
    · exact Nat.zero_le 2
  cases phase with
  | begun =>
      unfold step
      cases fingerprint q.parts with
      | error f => exact Nat.zero_le 2
      | ok key => exact hanswer key _
  | producing key =>
      unfold step Phase.ofProduction
      cases q.producer.run.value with
      | error f => exact Nat.zero_le 1
      | ok value => exact Nat.le_refl 1
  | produced key value prevented => exact Nat.le_refl 0
  | ended result => exact Nat.le_refl 0

/-- What a call has come to so far, with a store. -/
def Stands (q : Query) (s : Store) : Phase → Prop
  | .begun => True
  | .producing key => fingerprint q.parts = .ok key
  | .produced key value prevented =>
    fingerprint q.parts = .ok key ∧ q.producer.value = .ok value
      ∧ prevented = decide (0 < q.producer.prevents)
  | .ended result => result = q.own ∧ ∀ e, q.Leaves e → e ∈ s.entries

theorem Stands.grows {s' : Store} {phase : Phase} (h : q.Stands s phase) (hgrows : s.Grows s') :
    q.Stands s' phase := by
  cases phase with
  | begun => trivial
  | producing key => exact h
  | produced key value prevented => exact h
  | ended result => exact ⟨h.1, fun e he => hgrows e (h.2 e he)⟩

/-- What a step of a call comes to, if it is one of some calls that agree. -/
structure Does (qs : List Query) (q : Query) (s : Store) (next : Store × Phase) : Prop where
  left : LeftBy qs next.1
  grows : s.Grows next.1
  stands : q.Stands next.1 next.2

/-- A step that leaves the entries alone. -/
theorem Does.of_entries {next : Store × Phase} (hleft : LeftBy qs s)
    (hentries : next.1.entries = s.entries) (hfailing : next.1.failing = s.failing)
    (hstands : q.Stands s next.2) : Does qs q s next :=
  ⟨hleft.of_entries hentries hfailing, .of_entries hentries, hstands.grows (.of_entries hentries)⟩

/-- A call that asks finds what it would write itself, if it finds anything. -/
theorem does_ask (hagree : Agree qs) (hq : q ∈ qs) (hleft : LeftBy qs s) :
    Does qs q s (q.step s .begun) := by
  unfold step
  cases hkey : fingerprint q.parts with
  | error f =>
      refine .of_entries hleft rfl rfl ⟨by rw [own, hkey]; rfl, fun e he => ?_⟩
      cases hkey.symm.trans he.1
  | ok key =>
      refine .of_entries hleft (entries_ask s key) (failing_ask s key) ?_
      cases hheld : s.held? key with
      | none =>
          simp only [ask_of_missing hleft.works hheld]
          exact hkey
      | some text =>
          -- some call has left the text, and this call would leave the same
          have hmem := Store.mem_of_text? (Store.held?_eq_some.mp hheld).1
          obtain ⟨q', hq', hleaves'⟩ := hleft.leaves _ hmem
          have hleaves : q.Leaves (key, text) := hagree.leaves hq' hq hleaves' hkey
          obtain ⟨value, hvalue, hwrite⟩ := hleaves.2.2
          obtain ⟨value', hvalue', hnative⟩ := hagree.value q hq
          cases hvalue.symm.trans hvalue'
          simp only [ask_of_held hleft.works hheld, (read_of_native hnative hwrite).2]
          refine ⟨by rw [own, hkey, hvalue]; rfl, fun e he => ?_⟩
          obtain rfl : key = e.1 := Except.ok.inj (hkey.symm.trans he.1)
          obtain rfl : text = e.2 := hleaves.eq_text he
          exact hmem

/-- A call that writes leaves all texts as they are, for it agrees with the call that wrote one
under its key. -/
theorem does_keep (hagree : Agree qs) (hq : q ∈ qs) (hleft : LeftBy qs s) {value : Data}
    {prevented : Bool} (hstands : q.Stands s (.produced key value prevented)) :
    Does qs q s (q.step s (.produced key value prevented)) := by
  obtain ⟨hkey, hvalue, rfl⟩ := hstands
  have hown : Except.ok value = q.own := by
    rw [own, hkey, hvalue]
    rfl
  rcases Nat.eq_zero_or_pos q.producer.prevents with hallowed | hprevents
  · obtain ⟨value', hvalue', hnative⟩ := hagree.value q hq
    cases hvalue.symm.trans hvalue'
    obtain ⟨text, hwrite, -⟩ := Json.read_write hnative
    obtain ⟨hstore, hresult⟩ :
        (keep s key value false).store
            = { s with sets := s.sets + 1, entries := Store.insert key text s.entries }
          ∧ (keep s key value false).result = .ok () := keep_of_written hleft.works hwrite
    have hleaves : q.Leaves (key, text) := ⟨hkey, hallowed, value, hvalue, hwrite⟩
    simp only [step, hallowed, Nat.lt_irrefl, decide_false, hstore, hresult, Except.map]
    refine ⟨⟨hleft.works, Store.nodup_insert hleft.distinct, fun e he => ?_⟩, fun e he => ?_,
      hown, fun e he => ?_⟩
    · rcases Store.mem_insert he with rfl | he
      · exact ⟨q, hq, hleaves⟩
      · exact hleft.leaves e he
    · -- a text that is there under the key is overwritten with itself
      by_cases heq : e.1 = key
      · obtain ⟨q', hq', hleaves'⟩ := hleft.leaves e he
        have hmine : q.Leaves e := hagree.leaves hq' hq hleaves' (heq ▸ hkey)
        subst heq
        exact hleaves.eq_text hmine ▸ Store.mem_insert_self _ _ _
      · exact Store.mem_insert_of_ne he heq
    · obtain rfl : key = e.1 := Except.ok.inj (hkey.symm.trans he.1)
      exact hleaves.eq_text he ▸ Store.mem_insert_self _ _ _
  · simp only [step, hprevents, decide_true, keep_of_prevented, Except.map]
    refine .of_entries hleft rfl rfl ⟨hown, fun e he => ?_⟩
    exact absurd he.2.1 (Nat.ne_of_gt hprevents)

/-- **One step of a call among others.** -/
theorem does_step (hagree : Agree qs) (hq : q ∈ qs) (hleft : LeftBy qs s) {phase : Phase}
    (hstands : q.Stands s phase) : Does qs q s (q.step s phase) := by
  cases phase with
  | begun => exact does_ask hagree hq hleft
  | producing key =>
      obtain ⟨value, hvalue, -⟩ := hagree.value q hq
      rw [step, ofProduction_run hvalue]
      exact .of_entries hleft rfl rfl ⟨hstands, hvalue, rfl⟩
  | produced key value prevented => exact does_keep hagree hq hleft hstands
  | ended result => exact .of_entries hleft rfl rfl hstands

/-- A member of the crowd after some turns of its own. -/
structure AtTurn (qs : List Query) (n k : Nat) (s : Store) (member : Query × Phase) : Prop where
  call : qs[n]? = some member.1
  soon : member.2.left ≤ 3 - k
  stands : member.1.Stands s member.2

theorem AtTurn.exists_ended {n k : Nat} {member : Query × Phase} (h : AtTurn qs n k s member)
    (hk : 3 ≤ k) : ∃ result, member.2 = .ended result := by
  obtain ⟨q, phase⟩ := member
  have hsoon : phase.left ≤ 3 - k := h.soon
  have hzero : phase.left = 0 := by omega
  cases phase with
  | ended result => exact ⟨result, rfl⟩
  | _ => cases hzero

theorem reliable (hagree : Agree qs) :
    Crowd.Reliable turn (LeftBy qs) Store.Grows (AtTurn qs) where
  refl s e he := he
  trans hfirst hsecond e he := hsecond e (hfirst e he)
  does {n k s member} hleft hat := by
    have hdoes := does_step hagree (List.mem_of_getElem? hat.call) hleft hat.stands
    refine ⟨hdoes.left, hdoes.grows, hat.call, ?_, hdoes.stands⟩
    have hless : (turn s member).2.2.left ≤ member.2.left - 1 := left_step _ _ _
    have hsoon := hat.soon
    omega
  withstands hat hgrows := ⟨hat.call, hat.soon, hat.stands.grows hgrows⟩

end Query

/-! ## All calls -/

/-- How the calls stand after any turns. -/
theorem stands_together (hagree : Agree qs) (schedule : List Nat) :
    ((together qs).run Query.turn schedule).Stands (LeftBy qs) (Query.AtTurn qs)
      schedule.count := by
  have hstart : (together qs).Stands (LeftBy qs) (Query.AtTurn qs) fun _ => 0 := by
    refine ⟨⟨rfl, List.nodup_nil, fun e he => by cases he⟩, fun n member hmember => ?_⟩
    obtain ⟨q, hq, rfl⟩ : ∃ q, qs[n]? = some q ∧ (q, Phase.begun) = member := by
      simpa [together] using hmember
    exact ⟨hq, Nat.le_refl 3, trivial⟩
  simpa using (Crowd.stands_run (Query.reliable hagree) hstart schedule).1

/-- A call keeps its place. -/
theorem exists_phase (hagree : Agree qs) (schedule : List Nat) {n : Nat} (hn : qs[n]? = some q) :
    ∃ phase, ((together qs).run Query.turn schedule).members[n]? = some (q, phase) := by
  have hfirst : (together qs).members[n]? = some (q, .begun) := by
    simp only [together, List.getElem?_map, hn, Option.map_some]
  obtain ⟨⟨q', phase⟩, hmember⟩ := Crowd.exists_member schedule hfirst
  have hcall := ((stands_together hagree schedule).each n _ hmember).call
  obtain rfl : q' = q := Option.some.inj (hcall.symm.trans hn)
  exact ⟨phase, hmember⟩

/-- All calls have come to an end. -/
def AllEnded (c : Crowd Store (Query × Phase)) : Prop :=
  ∀ member ∈ c.members, ∃ result, member.2 = .ended result

theorem allEnded_of_turns (hagree : Agree qs) {schedule : List Nat}
    (hturns : ∀ n < qs.length, 3 ≤ schedule.count n) :
    AllEnded ((together qs).run Query.turn schedule) := by
  intro member hmember
  obtain ⟨n, hn⟩ := List.mem_iff_getElem?.mp hmember
  have hat := (stands_together hagree schedule).each n member hn
  exact hat.exists_ended (hturns n (List.getElem?_eq_some_iff.mp hat.call).1)

end Cache

end SourceLoader
