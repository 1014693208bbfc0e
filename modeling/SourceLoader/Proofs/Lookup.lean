import SourceLoader.Body.Evaluate
import SourceLoader.Proofs.Courses

/-!
# What code calls by name

Names are looked up when code gets to them: in the class around, in the scopes of functions, among
the names of the module, and behind those among the names that a module starts with and those of
the language. So a name that code binds stands in front of one that it did not bind.

An error that leaves an expression carries the place of the expression. `Course.Resembles` leaves
these places aside, so an expression can be taken apart without them.
-/

namespace SourceLoader

/-! ## Courses but for the places of errors -/

namespace Course

variable {σ ν α β : Type}

/-- Two courses that differ at most in the places that their errors have come through. -/
inductive Resembles : Course σ ν Thrown α → Course σ ν Thrown α → Prop
  | ok (w : σ) (a : α) : Resembles (.done w (.ok a)) (.done w (.ok a))
  | error (w : σ) {e e' : Thrown} (h : e.problem = e'.problem) :
      Resembles (.done w (.error e)) (.done w (.error e'))
  | ask (w : σ) (request : Request) {next next' : σ → Response ν Thrown → Course σ ν Thrown α}
      (h : ∀ w r, Resembles (next w r) (next' w r)) :
      Resembles (.ask w request next) (.ask w request next')

theorem Resembles.refl (c : Course σ ν Thrown α) : c.Resembles c := by
  induction c with
  | done w r =>
      cases r with
      | ok a => exact .ok w a
      | error e => exact .error w rfl
  | ask w request next ih => exact .ask w request ih

theorem Resembles.trans {c c' c'' : Course σ ν Thrown α} (h : c.Resembles c')
    (h' : c'.Resembles c'') : c.Resembles c'' := by
  induction h generalizing c'' with
  | ok w a => exact h'
  | error w he =>
      cases h' with
      | error _ he' => exact .error w (he.trans he')
  | ask w request _ ih =>
      cases h' with
      | ask _ _ hnext => exact .ask w request fun w r => ih w r (hnext w r)

theorem Resembles.bind {c c' : Course σ ν Thrown α} (h : c.Resembles c')
    {k k' : α → σ → Course σ ν Thrown β} (hk : ∀ a w, (k a w).Resembles (k' a w)) :
    (c.bind k).Resembles (c'.bind k') := by
  induction h with
  | ok w a => exact hk a w
  | error w he => exact .error w he
  | ask w request _ ih => exact .ask w request ih

/-- What resembles a course that asks for something asks for it too. -/
theorem Resembles.eq_ask {c : Course σ ν Thrown α} {w : σ} {request : Request}
    {next : σ → Response ν Thrown → Course σ ν Thrown α}
    (h : c.Resembles (.ask w request next)) :
    ∃ next', c = .ask w request next' ∧ ∀ w r, (next' w r).Resembles (next w r) := by
  cases h with
  | ask _ _ hnext => exact ⟨_, rfl, hnext⟩

/-- What resembles a course that ends well ends so too. -/
theorem Resembles.eq_ok {c : Course σ ν Thrown α} {w : σ} {a : α}
    (h : c.Resembles (.done w (.ok a))) : c = .done w (.ok a) := by
  cases h with
  | ok => rfl

/-- What resembles a course that fails fails too. -/
theorem Resembles.eq_error {c : Course σ ν Thrown α} {w : σ} {e : Thrown}
    (h : c.Resembles (.done w (.error e))) :
    ∃ e', c = .done w (.error e') ∧ e'.problem = e.problem := by
  cases h with
  | error _ he => exact ⟨_, rfl, he⟩

theorem bind_assoc {γ ε : Type} (c : Course σ ν ε α) (k : α → σ → Course σ ν ε β)
    (l : β → σ → Course σ ν ε γ) :
    (c.bind k).bind l = c.bind fun a w => (k a w).bind l := by
  induction c with
  | done w r => cases r <;> rfl
  | ask w request next ih => exact congrArg (Course.ask w request) (funext₂ ih)

end Course

namespace Eval

variable {α β γ : Type}

/-- Two steps that differ at most in the places that errors have come through. -/
def Resembles (x y : Eval α) : Prop := ∀ m, (x m).Resembles (y m)

theorem Resembles.refl (x : Eval α) : x.Resembles x := fun _ => .refl _

theorem Resembles.trans {x y z : Eval α} (h : x.Resembles y) (h' : y.Resembles z) :
    x.Resembles z :=
  fun m => (h m).trans (h' m)

theorem Resembles.bind {x y : Eval α} (h : x.Resembles y) {k l : α → Eval β}
    (hk : ∀ a, (k a).Resembles (l a)) : (x >>= k).Resembles (y >>= l) :=
  fun m => (h m).bind fun a w => hk a w

/-- The place that a step adds is left aside. -/
theorem resembles_placed (file : String) (line : Nat) (x : Eval α) :
    (x.placed file line).Resembles x := by
  intro m
  unfold placed mapThrown afterwards
  induction x m with
  | done w r =>
      cases r with
      | ok a => exact .ok w a
      | error e =>
          refine .error w ?_
          dsimp only
          split <;> rfl
  | ask w request next ih => exact .ask w request ih

theorem bind_assoc (x : Eval α) (k : α → Eval β) (l : β → Eval γ) :
    x >>= k >>= l = x >>= fun a => k a >>= l :=
  funext fun m => Course.bind_assoc (x m) k l

theorem pure_bind (a : α) (k : α → Eval β) : (pure a : Eval α) >>= k = k a := rfl

end Eval

/-! ## What names stand for -/

/-- Where the code of a comprehension stands. -/
def Env.inComprehension (env : Env) (scope : Nat) (qualifier : String) : Env :=
  { env with
    site := { env.site with
      scopes := scope :: env.site.scopes
      qualifier }
    classNames := none }

namespace Name

/-- What code has bound a name to, in front of the names that a module starts with; `some none` for
a name of a function that has no value. -/
def bound? (env : Env) (m : Memory) (name : String) : Option (Option Value) :=
  match env.classNames.bind (m.nameIn? · name) with
  | some v => some (some v)
  | none =>
    if env.globalNames.contains name then (m.nameIn? env.site.globals name).map some
    else
      match find? m name true env.site.scopes with
      | some (_, v, _) => some v
      | none => (m.nameIn? env.site.globals name).map some

/-- What a name stands for that code has not bound. -/
def given? (env : Env) (m : Memory) (name : String) : Option Value :=
  match m.nameIn? env.site.builtins name with
  | some v => some v
  | none => ofLanguage? name

/-- What a name stands for. -/
def value? (env : Env) (m : Memory) (name : String) : Option Value :=
  match bound? env m name with
  | some v => v
  | none => given? env m name

variable {env : Env} {m : Memory} {name : String} {v : Value}

theorem value?_of_bound {v : Option Value} (h : bound? env m name = some v) :
    value? env m name = v := by
  rw [value?, h]

theorem value?_of_free (h : bound? env m name = none) :
    value? env m name = given? env m name := by
  rw [value?, h]

theorem readGlobal_eq (env : Env) (m : Memory) (name : String) :
    readGlobal env name m
      = match m.nameIn? env.site.globals name with
        | some v => .done m (.ok v)
        | none =>
          match given? env m name with
          | some v => .done m (.ok v)
          | none => unknown name m := by
  show (match m.nameIn? env.site.globals name with
    | some v => pure v
    | none => _ : Eval Value) m = _
  unfold given?
  cases m.nameIn? env.site.globals name with
  | some v => rfl
  | none =>
      cases m.nameIn? env.site.builtins name with
      | some v => rfl
      | none => cases ofLanguage? name <;> rfl

theorem read_of_own (hown : env.ownName name = name) :
    read env name m
      = (match env.classNames.bind (m.nameIn? · name) with
        | some v => pure v
        | none =>
          if env.globalNames.contains name then readGlobal env name
          else
            match find? m name true env.site.scopes with
            | some (_, some v, _) => pure v
            | some (_, none, isOwn) => unbound isOwn name
            | none => readGlobal env name : Eval Value) m := by
  unfold read
  rw [hown]
  rfl

/-- **A name reads as what it stands for**, and a name that stands for nothing makes code fail. -/
theorem read_eq (hown : env.ownName name = name) :
    match value? env m name with
    | some v => read env name m = .done m (.ok v)
    | none => ∃ m' e, read env name m = .done m' (.error e) := by
  have hglobal : match (match (m.nameIn? env.site.globals name).map some with
        | some v => v
        | none => given? env m name) with
      | some v => readGlobal env name m = .done m (.ok v)
      | none => ∃ m' e, readGlobal env name m = .done m' (.error e) := by
    rw [readGlobal_eq]
    cases m.nameIn? env.site.globals name with
    | some v => rfl
    | none =>
        cases given? env m name with
        | some v => rfl
        | none => exact ⟨_, _, rfl⟩
  rw [read_of_own hown]
  unfold value? bound?
  cases env.classNames.bind (m.nameIn? · name) with
  | some v => rfl
  | none =>
      dsimp only
      by_cases hdeclared : env.globalNames.contains name = true
      · rw [if_pos hdeclared, if_pos hdeclared]
        exact hglobal
      · rw [if_neg hdeclared, if_neg hdeclared]
        cases find? m name true env.site.scopes with
        | none => exact hglobal
        | some r =>
            obtain ⟨scope, v | v, isOwn⟩ := r
            · cases isOwn <;> exact ⟨_, _, rfl⟩
            · rfl

theorem find?_eq_none_iff {scopes : List Nat} (isOwn isOwn' : Bool) :
    find? m name isOwn scopes = none ↔ find? m name isOwn' scopes = none := by
  cases scopes with
  | nil => exact Iff.rfl
  | cons s rest =>
      unfold find?
      split
      · split
        · simp
        · exact Iff.rfl
      · exact Iff.rfl

/-- A name that code has not bound stays so in a comprehension without a variable of this name. -/
theorem bound?_inComprehension {scope : Nat} {entries : List (String × Option Value)}
    (h : bound? env m name = none) (hscope : m.get? scope = some (.scope entries))
    (hentries : entries.lookup name = none) (qualifier : String) :
    bound? (env.inComprehension scope qualifier) m name = none := by
  have hfirst : find? m name true (scope :: env.site.scopes)
      = find? m name false env.site.scopes := by
    rw [find?, hscope]
    dsimp only
    rw [hentries]
  show (if env.globalNames.contains name = true then (m.nameIn? env.site.globals name).map some
    else match find? m name true (scope :: env.site.scopes) with
      | some (_, v, _) => some v
      | none => (m.nameIn? env.site.globals name).map some) = none
  rw [hfirst]
  unfold bound? at h
  split at h
  · cases h
  · split at h
    · rwa [if_pos ‹_›]
    · rw [if_neg ‹_›]
      split at h
      · cases h
      · next hnone =>
        rw [(find?_eq_none_iff false true).mpr hnone]
        exact h

/-! Memory that grows. -/

theorem get?_add (m : Memory) (o : Object) (address : Nat) :
    (m.add o).1.get? address = if address = m.objects.size then some o else m.get? address :=
  Array.getElem?_push

theorem get?_add_self (m : Memory) (o : Object) : (m.add o).1.get? m.objects.size = some o := by
  rw [get?_add, if_pos rfl]

theorem get?_add_of_some {o o' : Object} {address : Nat} (h : m.get? address = some o') :
    (m.add o).1.get? address = some o' := by
  rw [get?_add, if_neg, h]
  rintro rfl
  simp [Memory.get?] at h

theorem size_add (m : Memory) (o : Object) : (m.add o).1.objects.size = m.objects.size + 1 :=
  Array.size_push _

theorem get?_put_of_ne {o : Object} {address other : Nat} (h : other ≠ address) :
    (m.put address o).get? other = m.get? other :=
  Array.getElem?_setIfInBounds_ne (Ne.symm h)

theorem get?_setName_self {address : Nat} {entries : List (Value × Value)}
    (h : m.get? address = some (.dict entries)) (name : String) (value : Value) :
    (m.setName address name value).get? address
      = some (.dict (Memory.setEntry name value entries)) := by
  unfold Memory.setName
  rw [h]
  exact Array.getElem?_setIfInBounds_self_of_lt (Array.getElem?_eq_some_iff.mp h).1

theorem nameIn?_setName_self {address : Nat} {entries : List (Value × Value)}
    (h : m.get? address = some (.dict entries)) (name : String) (value : Value) :
    (m.setName address name value).nameIn? address name = some value := by
  unfold Memory.nameIn?
  rw [get?_setName_self h]
  clear h
  dsimp only
  induction entries with
  | nil => simp [Memory.setEntry]
  | cons e entries ih =>
      rw [Memory.setEntry]
      split
      · next he => simp [he]
      · next he =>
        rw [List.find?_cons_of_neg, ih]
        obtain ⟨key, _⟩ := e
        cases key with
        | text s => simpa using he
        | _ => exact Bool.false_ne_true

theorem get?_setName_of_ne {address other : Nat} (h : other ≠ address) (name : String)
    (value : Value) : (m.setName address name value).get? other = m.get? other := by
  unfold Memory.setName
  split
  · exact get?_put_of_ne h
  · rfl

/-- Does an object hold no names? -/
def holdsNoNames : Object → Bool
  | .dict entries => entries.isEmpty
  | .scope _ => false
  | _ => true

theorem get?_add_or (m : Memory) (o : Object) (address : Nat) : (m.add o).1.get? address = m.get? address
    ∨ m.get? address = none ∧ (m.add o).1.get? address = some o := by
  rw [get?_add]
  split
  · next hnew =>
    subst hnew
    exact .inr ⟨by simp [Memory.get?], rfl⟩
  · exact .inl rfl

theorem nameIn?_add {o : Object} (ho : holdsNoNames o = true) (names : Nat) :
    (m.add o).1.nameIn? names name = m.nameIn? names name := by
  unfold Memory.nameIn?
  rcases get?_add_or m o names with hsame | ⟨hnone, hnew⟩
  · rw [hsame]
  · rw [hnone, hnew]
    cases o with
    | dict entries =>
        obtain rfl := List.isEmpty_iff.mp ho
        rfl
    | _ => rfl

theorem find?_add {o : Object} (ho : holdsNoNames o = true) (isOwn : Bool) (scopes : List Nat) :
    find? (m.add o).1 name isOwn scopes = find? m name isOwn scopes := by
  induction scopes generalizing isOwn with
  | nil => rfl
  | cons s rest ih =>
      unfold find?
      rcases get?_add_or m o s with hsame | ⟨hnone, hnew⟩
      · simp only [hsame, ih]
      · rw [hnone, hnew]
        cases o with
        | scope _ => cases ho
        | _ => exact ih false

/-- A new object that holds no names binds none. -/
theorem bound?_add {o : Object} (ho : holdsNoNames o = true) (env : Env) (name : String) :
    bound? env (m.add o).1 name = bound? env m name := by
  unfold bound?
  simp only [nameIn?_add ho, find?_add ho]

end Name

/-! ## Calls by name -/

theorem Invoke.call_tool {E : Engine} {env : Env} {m : Memory} {address : Nat} {tool : ModuleTool}
    {config : ConfigId} {file : String} (h : m.get? address = some (.tool tool config file))
    (args : List Value) (keywords : Attributes) :
    Invoke.call E env (.ref address) args keywords m = Call.tool E tool config file args keywords m := by
  have hmemory : Eval.memory m = .done m (.ok m) := rfl
  unfold Invoke.call
  rw [Eval.bind_apply, hmemory]
  simp only [Course.bind, Course.andThen, Memory.object?, h]

/-- Calls what a name stands for. -/
def Name.call (E : Engine) (env : Env) (name : String) (args : List Value) : Eval Value := do
  let f ← Name.read env name
  E.call env f args []

namespace Expression

open Engine (deepen)

variable {E : Engine} {env : Env}

theorem resembles_eval (E : Engine) (env : Env) (t : Tree) :
    ((deepen E).expr env t).Resembles (eval E env t) :=
  Eval.resembles_placed _ _ _

theorem items_eq_each {ts : List Tree} (h : ∀ t ∈ ts, Target.isStarred t = false)
    (message : String → String) : items E env message ts = Eval.each (E.expr env) ts := by
  induction ts with
  | nil => rfl
  | cons t ts ih =>
      have ht := h t List.mem_cons_self
      rw [items, Eval.each, ih fun u hu => h u (List.mem_cons_of_mem _ hu)]
      rintro usage s inner rfl
      cases ht

/-- A call without keywords and without stars. -/
theorem eval_call {function : Tree} {s : Option Span} {args : List Tree}
    (h : ∀ t ∈ args, Target.isStarred t = false) :
    eval E env (.node .call s [[function], args, []]) = (do
      let f ← E.expr env function
      let vs ← Eval.each (E.expr env) args
      E.call env f vs []) := by
  show ofCall E env function args [] = _
  unfold ofCall
  refine congrArg (E.expr env function >>= ·) (funext fun f => ?_)
  dsimp only
  rw [if_neg]
  · simp only [items_eq_each h]
    rfl
  · rw [Bool.not_eq_true, List.any_eq_false]
    intro t ht
    rw [Bool.not_eq_true]
    exact h t ht

/-- **A call by name calls what the name stands for**, at the moment at which code gets to it. -/
theorem resembles_call {name : String} {usage : Usage} {s s' : Option Span}
    {fs : List (List Tree)} {args : List Tree} (h : ∀ t ∈ args, Target.isStarred t = false) :
    ((deepen (deepen E)).expr env
      (.node .call s [[.node (.name name usage) s' fs], args, []])).Resembles (do
        let f ← Name.read env name
        let vs ← Eval.each ((deepen E).expr env) args
        (deepen E).call env f vs []) := by
  refine (resembles_eval _ _ _).trans ?_
  rw [eval_call h]
  exact (resembles_eval _ _ _).bind fun f => .refl _

end Expression

end SourceLoader
