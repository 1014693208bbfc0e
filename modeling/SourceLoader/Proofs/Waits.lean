import Mathlib.Data.List.Chain
import SourceLoader.Load.Wait

/-!
# The search for rings

`Waits.cycle?` answers whether a wait would close a ring. The search is taken apart into turns: a
turn takes a path off the stack and, if it is new, puts onto it what the path waits for, in any
order. Three things hold of every search, whatever order it takes.

**It ends.** Each path that is looked at uses up its own notes, so a turn leaves less to do
(`Turn.left_lt`).

**What is found is there.** The trail of a path on the stack leads to it along noted waits, and
all that lies on it has been looked at. So a path that is looked at for the first time is not on
its own trail, and the trail that arrives at the goal is a ring without repetitions (`IsRing`).

**What is there is found.** When the search runs dry, the paths it has looked at are closed under
noted waits and the goal is not among them, so no chain of waits that starts among them ever
arrives at the goal.

`Search.Sound` holds what the last two rest on, and a turn keeps it (`Search.Sound.turn`).
-/

namespace SourceLoader.Waits

open Relation

variable {w : Waits} {isLoading : String → Bool}

/-- `x` is noted to wait for `y`, and `y` is being loaded. -/
def Edge (w : Waits) (isLoading : String → Bool) (x y : String) : Prop :=
  y ∈ w.of x ∧ isLoading y = true

/-! ## The notes -/

@[simp] theorem of_nil (x : String) : of [] x = [] := rfl

theorem of_cons (p : String) (ps : List String) (w : Waits) (x : String) :
    of ((p, ps) :: w) x = if x = p then ps else of w x := by
  unfold of
  by_cases h : x = p
  · subst h; simp
  · rw [List.lookup_cons, beq_eq_false_iff_ne.mpr h, if_neg h]

theorem mem_of_add {requester path x y : String} :
    y ∈ (w.add requester path).of x ↔ y ∈ w.of x ∨ (x = requester ∧ y = path) := by
  induction w with
  | nil => by_cases h : x = requester <;> simp [add, of_cons, h]
  | cons e w ih =>
      obtain ⟨p, ps⟩ := e
      unfold add
      by_cases hp : p = requester
      · rw [if_pos hp, of_cons, of_cons]
        by_cases hx : x = p
        · by_cases hc : path ∈ ps
          · simp only [hx, if_true, List.contains_iff_mem, hc, hp, true_and]
            constructor
            · exact Or.inl
            · rintro (h | rfl)
              · exact h
              · exact hc
          · simp [hx, hp, hc]
        · have : x ≠ requester := by rw [← hp]; exact hx
          simp [hx, this]
      · rw [if_neg hp, of_cons, of_cons]
        by_cases hx : x = p
        · have : x ≠ requester := by rw [hx]; exact hp
          simp [hx, hp]
        · rw [if_neg hx, if_neg hx, ih]

theorem of_drop (w : Waits) (path x : String) :
    (w.drop path).of x = if x = path then [] else w.of x := by
  induction w with
  | nil => simp [drop]
  | cons e w ih =>
      obtain ⟨p, ps⟩ := e
      unfold drop at ih ⊢
      by_cases hp : p = path
      · rw [List.filter_cons_of_neg (by simp [hp]), ih, of_cons]
        by_cases hx : x = path
        · simp [hx]
        · have : x ≠ p := by rw [hp]; exact hx
          simp [hx, this]
      · rw [List.filter_cons_of_pos (by simp [hp]), of_cons, of_cons, ih]
        by_cases hx : x = p
        · have : x ≠ path := by rw [hx]; exact hp
          simp [hx, hp]
        · simp [hx]

theorem mem_keys_of_mem {x y : String} (h : y ∈ w.of x) : x ∈ w.map Prod.fst := by
  induction w with
  | nil => simp at h
  | cons e w ih =>
      rw [of_cons] at h
      by_cases hx : x = e.1
      · simp [hx]
      · rw [if_neg hx] at h
        exact List.mem_cons_of_mem _ (ih h)

theorem mem_keys_add {requester path x : String} :
    x ∈ (w.add requester path).map Prod.fst ↔ x ∈ w.map Prod.fst ∨ x = requester := by
  induction w with
  | nil => simp [add]
  | cons e w ih =>
      obtain ⟨p, ps⟩ := e
      unfold add
      by_cases hp : p = requester
      · rw [if_pos hp]
        simp only [List.map_cons, List.mem_cons]
        constructor
        · exact Or.inl
        · rintro (h | h)
          · exact h
          · exact Or.inl (h.trans hp.symm)
      · rw [if_neg hp, List.map_cons, List.map_cons, List.mem_cons, List.mem_cons, ih, or_assoc]

theorem mem_keys_drop {path x : String} :
    x ∈ (w.drop path).map Prod.fst ↔ x ∈ w.map Prod.fst ∧ x ≠ path := by
  unfold drop
  simp only [List.mem_map, List.mem_filter, decide_eq_true_eq]
  constructor
  · rintro ⟨e, ⟨he, hne⟩, rfl⟩
    exact ⟨⟨e, he, rfl⟩, hne⟩
  · rintro ⟨⟨e, he, rfl⟩, hne⟩
    exact ⟨e, ⟨he, hne⟩, rfl⟩

/-! ## Turns of the search -/

/-- Where a search stands. -/
structure Search where
  /-- The paths that are left to look at, each with the trail to it. -/
  stack : List (String × List String)
  /-- The paths that were looked at. -/
  seen : List String

namespace Search

/-- The search for a way from `path` back to `requester` begins. -/
def start (path requester : String) : Search := ⟨[(path, [requester, path])], []⟩

/-- What a search for `goal` has come to, once it is over. -/
def answer? (goal : String) : Search → Option (Option (List String))
  | ⟨[], _⟩ => some none
  | ⟨(path, trail) :: _, _⟩ => if path = goal then some (some trail) else none

end Search

/-- A turn of the search for `goal`. -/
inductive Turn (w : Waits) (isLoading : String → Bool) (goal : String) : Search → Search → Prop
  /-- A path that was looked at before is dropped. -/
  | old {path : String} {trail seen : List String} {stack : List (String × List String)}
      (other : path ≠ goal) (looked : path ∈ seen) :
      Turn w isLoading goal ⟨(path, trail) :: stack, seen⟩ ⟨stack, seen⟩
  /-- What a new path waits for is put onto the stack, in some order. -/
  | new {path : String} {trail seen : List String} {stack : List (String × List String)}
      (other : path ≠ goal) (fresh : path ∉ seen) {waited : List String}
      (order : waited.Perm ((w.of path).filter isLoading)) :
      Turn w isLoading goal ⟨(path, trail) :: stack, seen⟩
        ⟨waited.map (fun next => (next, trail ++ [next])) ++ stack, path :: seen⟩

/-- A search has an answer, or it takes another turn. -/
theorem answer?_eq_none_iff {goal : String} {s : Search} :
    s.answer? goal = none ↔ ∃ t, Turn w isLoading goal s t := by
  constructor
  · intro h
    match s with
    | ⟨[], _⟩ => cases h
    | ⟨(path, trail) :: stack, seen⟩ =>
      have hgoal : path ≠ goal := by
        intro hgoal
        rw [Search.answer?, if_pos hgoal] at h
        cases h
      by_cases hold : path ∈ seen
      · exact ⟨_, .old hgoal hold⟩
      · exact ⟨_, .new hgoal hold (.refl _)⟩
  · rintro ⟨t, hturn⟩
    cases hturn with
    | old hgoal _ => rw [Search.answer?, if_neg hgoal]
    | new hgoal _ _ => rw [Search.answer?, if_neg hgoal]

/-! ## A search ends -/

/-- The notes on paths that the search has not looked at. -/
def unseen (w : Waits) (seen : List String) : Nat :=
  ((w.filter fun e => !seen.contains e.1).flatMap Prod.snd).length

theorem unseen_nil (w : Waits) : w.unseen [] = w.count := by
  unfold unseen count
  rw [List.filter_eq_self.mpr (by simp)]

/-- Looking at a path uses up its notes. -/
theorem unseen_cons {seen : List String} {path : String} (h : path ∉ seen) :
    w.unseen (path :: seen) + (w.of path).length ≤ w.unseen seen := by
  induction w with
  | nil => simp [unseen]
  | cons e w ih =>
      obtain ⟨p, ps⟩ := e
      have hof := of_cons p ps w path
      unfold unseen at ih ⊢
      by_cases hp : path = p
      · have h1 : List.length (List.flatMap Prod.snd (w.filter fun e => !(path :: seen).contains e.1))
            ≤ List.length (List.flatMap Prod.snd (w.filter fun e => !seen.contains e.1)) := by
          omega
        subst hp
        rw [List.filter_cons_of_neg (by simp), List.filter_cons_of_pos (by simp [h]), hof]
        simp only [if_true, List.flatMap_cons, List.length_append]
        omega
      · by_cases hs : p ∈ seen
        · rw [List.filter_cons_of_neg (by simp [hs]), List.filter_cons_of_neg (by simp [hs]), hof,
            if_neg hp]
          exact ih
        · have hne : p ≠ path := fun hc => hp hc.symm
          rw [List.filter_cons_of_pos (by simp [hs, hne]), List.filter_cons_of_pos (by simp [hs]),
            hof, if_neg hp]
          simp only [List.flatMap_cons, List.length_append]
          omega

/-- What a search has left to do, at most. -/
def Search.left (w : Waits) (s : Search) : Nat := s.stack.length + w.unseen s.seen

/-- **A turn leaves less to do.** -/
theorem Turn.left_lt {goal : String} {s t : Search} (h : Turn w isLoading goal s t) :
    t.left w < s.left w := by
  cases h with
  | old _ _ => simp [Search.left]
  | @new path trail seen stack _ hnew waited horder =>
      have hused := unseen_cons (w := w) hnew
      have hfilter := List.length_filter_le isLoading (w.of path)
      have hlength := horder.length_eq
      simp only [Search.left, List.length_append, List.length_map, List.length_cons]
      omega

theorem wellFounded_turn (w : Waits) (isLoading : String → Bool) (goal : String) :
    WellFounded fun t s => Turn w isLoading goal s t :=
  Subrelation.wf Turn.left_lt (measure (Search.left w)).wf

/-- With fuel for all that is left, `search` goes on turn by turn to an answer. -/
theorem search_turns {goal : String} {fuel : Nat} {s : Search} (hfuel : s.left w < fuel) :
    ∃ t, ReflTransGen (Turn w isLoading goal) s t
      ∧ t.answer? goal = some (search w isLoading goal fuel s.stack s.seen) := by
  induction fuel generalizing s with
  | zero => omega
  | succ fuel ih =>
      match s with
      | ⟨[], seen⟩ => exact ⟨_, .refl, rfl⟩
      | ⟨(path, trail) :: stack, seen⟩ =>
        unfold search
        by_cases hgoal : path = goal
        · exact ⟨_, .refl, by rw [Search.answer?, if_pos hgoal, if_pos hgoal]⟩
        · rw [if_neg hgoal]
          by_cases hold : path ∈ seen
          · have hturn : Turn w isLoading goal ⟨(path, trail) :: stack, seen⟩ ⟨stack, seen⟩ :=
              .old hgoal hold
            have hless := hturn.left_lt
            obtain ⟨t, hrun, hanswer⟩ := ih (s := ⟨stack, seen⟩) (by omega)
            exact ⟨t, .head hturn hrun, by rw [if_pos (by simpa using hold), hanswer]⟩
          · -- the last path put onto the stack is taken first
            have hturn : Turn w isLoading goal ⟨(path, trail) :: stack, seen⟩ _ :=
              .new hgoal hold (List.reverse_perm _)
            have hless := hturn.left_lt
            rw [List.map_reverse] at hturn hless
            obtain ⟨t, hrun, hanswer⟩ := ih (Nat.lt_of_lt_of_le hless (Nat.le_of_lt_succ hfuel))
            exact ⟨t, .head hturn hrun, by rw [if_neg (by simpa using hold), hanswer]⟩

/-! ## What a turn keeps -/

/-- A trail along noted waits from `path` to `last`: `way` is what lies before `last`. -/
structure Trail (w : Waits) (isLoading : String → Bool) (path last : String)
    (seen way : List String) : Prop where
  begins : (way ++ [last]).head? = some path
  chain : (way ++ [last]).IsChain (Edge w isLoading)
  simple : way.Nodup
  looked : ∀ x ∈ way, x ∈ seen

/-- A path that has not been looked at is not on the trail to it. -/
theorem Trail.nodup {path last : String} {seen way : List String}
    (h : Trail w isLoading path last seen way) (hnew : last ∉ seen) : (way ++ [last]).Nodup := by
  rw [List.nodup_append]
  refine ⟨h.simple, by simp, ?_⟩
  rintro x hx y hy rfl
  obtain rfl := List.mem_singleton.mp hy
  exact hnew (h.looked x hx)

/-- A trail goes on from a path that is looked at for the first time. -/
theorem Trail.extend {path last next : String} {seen way : List String}
    (h : Trail w isLoading path last seen way) (hnew : last ∉ seen)
    (hnext : Edge w isLoading last next) :
    Trail w isLoading path next (last :: seen) (way ++ [last]) where
  begins := by rw [List.head?_append, h.begins]; rfl
  chain := h.chain.append (.singleton next) (by simpa using hnext)
  simple := h.nodup hnew
  looked := by
    intro x hx
    rcases List.mem_append.mp hx with hx | hx
    · exact List.mem_cons_of_mem _ (h.looked x hx)
    · exact List.mem_singleton.mp hx ▸ List.mem_cons_self

theorem Trail.mono {path last : String} {seen seen' way : List String}
    (h : Trail w isLoading path last seen way) (hseen : ∀ x ∈ seen, x ∈ seen') :
    Trail w isLoading path last seen' way :=
  { h with looked := fun x hx => hseen x (h.looked x hx) }

/-- What holds of a search for a way from `path` to `goal` after every turn. -/
structure Search.Sound (w : Waits) (isLoading : String → Bool) (path goal : String)
    (s : Search) : Prop where
  /-- Each path on the stack stands at the end of its trail. -/
  trails : ∀ e ∈ s.stack, ∃ way, e.2 = goal :: (way ++ [e.1])
    ∧ Trail w isLoading path e.1 s.seen way
  /-- The goal has not been looked at. -/
  goal : goal ∉ s.seen
  /-- The search has begun at `path`. -/
  begun : path ∈ s.seen ∨ path ∈ s.stack.map Prod.fst
  /-- What a path waits for that was looked at has been looked at, or will be. -/
  next : ∀ x ∈ s.seen, ∀ y, Edge w isLoading x y → y ∈ s.seen ∨ y ∈ s.stack.map Prod.fst

namespace Search.Sound

variable {path goal : String} {s t : Search}

theorem start : (Search.start path goal).Sound w isLoading path goal where
  trails := by
    intro e he
    obtain rfl := List.mem_singleton.mp he
    exact ⟨[], rfl, rfl, .singleton path, .nil, by simp⟩
  goal := by simp [Search.start]
  begun := by simp [Search.start]
  next := by simp [Search.start]

theorem turn (h : s.Sound w isLoading path goal) (hturn : Turn w isLoading goal s t) :
    t.Sound w isLoading path goal := by
  cases hturn with
  | @old node trail seen stack hother hold =>
      -- the path that is dropped has been looked at
      have hkeep : ∀ y, y ∈ seen ∨ y ∈ node :: stack.map Prod.fst →
          y ∈ seen ∨ y ∈ stack.map Prod.fst := by
        rintro y (hy | hy)
        · exact .inl hy
        · rcases List.mem_cons.mp hy with rfl | hy
          · exact .inl hold
          · exact .inr hy
      exact
        { trails := fun e he => h.trails e (List.mem_cons_of_mem _ he)
          goal := h.goal
          begun := hkeep _ h.begun
          next := fun x hx y hy => hkeep y (h.next x hx y hy) }
  | @new node trail seen stack hother hnew waited horder =>
      have hmem : ∀ y, y ∈ waited ↔ Edge w isLoading node y := fun y => by
        rw [horder.mem_iff, List.mem_filter]
        rfl
      have hfst : ∀ y, y ∈ (waited.map (fun next => (next, trail ++ [next])) ++ stack).map Prod.fst
          ↔ Edge w isLoading node y ∨ y ∈ stack.map Prod.fst := fun y => by
        simp [hmem]
      have hkeep : ∀ y, y ∈ seen ∨ y ∈ node :: stack.map Prod.fst →
          y ∈ node :: seen
            ∨ y ∈ (waited.map (fun next => (next, trail ++ [next])) ++ stack).map Prod.fst := by
        intro y hy
        rw [hfst]
        rcases hy with hy | hy
        · exact .inl (List.mem_cons_of_mem _ hy)
        · rcases List.mem_cons.mp hy with rfl | hy
          · exact .inl List.mem_cons_self
          · exact .inr (.inr hy)
      refine ⟨?_, ?_, hkeep _ h.begun, ?_⟩
      · intro e he
        rcases List.mem_append.mp he with he | he
        · obtain ⟨next, hnext, rfl⟩ := List.mem_map.mp he
          obtain ⟨way, heq, hway⟩ := h.trails (node, trail) List.mem_cons_self
          dsimp only at heq
          exact ⟨way ++ [node], by simp [heq], hway.extend hnew ((hmem next).mp hnext)⟩
        · obtain ⟨way, heq, hway⟩ := h.trails e (List.mem_cons_of_mem _ he)
          exact ⟨way, heq, hway.mono fun x => List.mem_cons_of_mem _⟩
      · simp only [List.mem_cons, not_or]
        exact ⟨fun hc => hother hc.symm, h.goal⟩
      · intro x hx y hy
        rcases List.mem_cons.mp hx with rfl | hx
        · exact .inr ((hfst y).mpr (.inl hy))
        · exact hkeep y (h.next x hx y hy)

theorem turns (h : s.Sound w isLoading path goal)
    (hturns : ReflTransGen (Turn w isLoading goal) s t) : t.Sound w isLoading path goal := by
  induction hturns with
  | refl => exact h
  | tail _ hturn ih => exact ih.turn hturn

/-- A search that has run dry has walked a set that no noted wait leads out of. -/
theorem not_reaches (h : s.Sound w isLoading path goal) (hanswer : s.answer? goal = some none) :
    ¬ ReflTransGen (Edge w isLoading) path goal := by
  have hdry : s.stack = [] := by
    match s with
    | ⟨[], _⟩ => rfl
    | ⟨(path, trail) :: stack, seen⟩ =>
      rw [Search.answer?] at hanswer
      split at hanswer <;> cases hanswer
  have hclosed : ∀ x ∈ s.seen, ∀ y, Edge w isLoading x y → y ∈ s.seen := by
    intro x hx y hy
    simpa [hdry] using h.next x hx y hy
  intro hreach
  suffices ∀ y, ReflTransGen (Edge w isLoading) path y → y ∈ s.seen from h.goal (this goal hreach)
  intro y hy
  induction hy with
  | refl => simpa [hdry] using h.begun
  | tail _ hedge ih => exact hclosed _ ih _ hedge

end Search.Sound

/-! ## Answers -/

/-- A ring of waits that would close if `requester` waited for `path`. -/
structure IsRing (w : Waits) (isLoading : String → Bool) (path requester : String)
    (ring : List String) : Prop where
  /-- It leads from the requester to the path. -/
  begins : ring.take 2 = [requester, path]
  /-- It comes back to the requester. -/
  ends : ring.getLast? = some requester
  /-- From the path on it goes along noted waits. -/
  chain : ring.tail.IsChain (Edge w isLoading)
  /-- On the way back nothing comes twice. -/
  simple : ring.tail.Nodup

theorem IsRing.reaches {path requester : String} {ring : List String}
    (h : IsRing w isLoading path requester ring) :
    ReflTransGen (Edge w isLoading) path requester := by
  obtain ⟨hbegins, hends, hchain, _⟩ := h
  match ring with
  | [] => cases hbegins
  | [_] => cases hbegins
  | a :: b :: rest =>
    obtain ⟨rfl, rfl⟩ : a = requester ∧ b = path := by simpa using hbegins
    refine List.relationReflTransGen_of_exists_isChain_cons rest hchain ?_
    rw [List.getLast?_eq_some_getLast (by simp), List.getLast_cons (by simp)] at hends
    exact Option.some.inj hends

theorem Search.Sound.isRing {path goal : String} {s : Search} {ring : List String}
    (h : s.Sound w isLoading path goal) (hanswer : s.answer? goal = some (some ring)) :
    IsRing w isLoading path goal ring := by
  match s with
  | ⟨[], _⟩ => cases hanswer
  | ⟨(node, trail) :: stack, seen⟩ =>
    rw [Search.answer?] at hanswer
    split at hanswer
    case isFalse => cases hanswer
    case isTrue hgoal =>
      obtain rfl : trail = ring := by simpa using hanswer
      obtain ⟨way, hring, hway⟩ := h.trails (node, trail) List.mem_cons_self
      dsimp only at hring hway
      subst hgoal hring
      have hbegins := hway.begins
      exact
        { begins := by
            cases way with
            | nil => simpa using hbegins
            | cons x way => simpa using hbegins
          ends := by rw [← List.cons_append, List.getLast?_concat]
          chain := hway.chain
          simple := hway.nodup h.goal }

/-- A search for a way from `path` back to `requester` may end with this answer. -/
def Answers (w : Waits) (isLoading : String → Bool) (path requester : String)
    (answer : Option (List String)) : Prop :=
  ∃ s, ReflTransGen (Turn w isLoading requester) (.start path requester) s
    ∧ s.answer? requester = some answer

theorem Answers.none_iff {path requester : String} {answer : Option (List String)}
    (h : Answers w isLoading path requester answer) :
    answer = none ↔ ¬ ReflTransGen (Edge w isLoading) path requester := by
  obtain ⟨s, hturns, hanswer⟩ := h
  have hsound := Search.Sound.start.turns hturns
  cases answer with
  | none => simpa using hsound.not_reaches hanswer
  | some ring => simpa using (hsound.isRing hanswer).reaches

theorem Answers.isRing {path requester : String} {ring : List String}
    (h : Answers w isLoading path requester (some ring)) :
    IsRing w isLoading path requester ring := by
  obtain ⟨s, hturns, hanswer⟩ := h
  exact (Search.Sound.start.turns hturns).isRing hanswer

theorem answers_cycle? (w : Waits) (isLoading : String → Bool) (path requester : String) :
    Answers w isLoading path requester (w.cycle? isLoading path requester) := by
  refine search_turns (s := .start path requester) ?_
  simp only [Search.left, Search.start, unseen_nil, List.length_singleton]
  omega

/-- **A ring is reported if and only if the requester can be reached along noted waits.** -/
theorem cycle?_isSome_iff {path requester : String} :
    (w.cycle? isLoading path requester).isSome
      ↔ ReflTransGen (Edge w isLoading) path requester := by
  have hnone := (answers_cycle? w isLoading path requester).none_iff
  rw [Option.isSome_iff_ne_none, ne_eq, hnone, not_not]

/-- **What the search for a ring comes to.** It ends, wherever it stands and in whatever order it
takes what a path waits for: turns do not go on for ever, and where no turn is left there is an
answer. Whatever the order, the one of `cycle?` included, the answer is `none` if and only if the
requester cannot be reached from the path along noted waits for paths in flight, and else it is a
ring of such waits. -/
theorem search_ends (w : Waits) (isLoading : String → Bool) (path requester : String) :
    (WellFounded fun t s => Turn w isLoading requester s t)
      ∧ (∀ s : Search, s.answer? requester = none ↔ ∃ t, Turn w isLoading requester s t)
      ∧ Answers w isLoading path requester (w.cycle? isLoading path requester)
      ∧ ∀ answer, Answers w isLoading path requester answer →
          (answer = none ↔ ¬ ReflTransGen (Edge w isLoading) path requester)
            ∧ ∀ ring, answer = some ring → IsRing w isLoading path requester ring := by
  refine ⟨wellFounded_turn w isLoading requester, fun s => answer?_eq_none_iff,
    answers_cycle? w isLoading path requester, fun answer h => ⟨h.none_iff, ?_⟩⟩
  rintro ring rfl
  exact h.isRing

/-- Two ways lead back, one of them round in a circle first: a ring without the circle is found. -/
theorem search_ends_circle :
    cycle? [("b", ["c", "d"]), ("c", ["b", "a"]), ("d", ["c", "d", "a"])] (fun _ => true) "b" "a"
        = some ["a", "b", "d", "a"]
      ∧ IsRing [("b", ["c", "d"]), ("c", ["b", "a"]), ("d", ["c", "d", "a"])] (fun _ => true)
          "b" "a" ["a", "b", "d", "a"] := by
  have hring : cycle? [("b", ["c", "d"]), ("c", ["b", "a"]), ("d", ["c", "d", "a"])]
      (fun _ => true) "b" "a" = some ["a", "b", "d", "a"] := by decide +kernel
  obtain ⟨_, _, hanswer, hends⟩ :=
    search_ends [("b", ["c", "d"]), ("c", ["b", "a"]), ("d", ["c", "d", "a"])] (fun _ => true)
      "b" "a"
  exact ⟨hring, (hends _ hanswer).2 _ hring⟩

end SourceLoader.Waits
