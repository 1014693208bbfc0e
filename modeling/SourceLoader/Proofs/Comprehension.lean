import SourceLoader.Proofs.Ending

/-!
# Comprehensions

A comprehension evaluates its first iterable where it stands, and then runs its clauses one inside
the other in a scope of its own. What a clause does for one element after the other is proved of a
loop, with an invariant over the elements that have been passed.
-/

namespace SourceLoader

open Memory (Keeps)
open Engine (ofDepth)

variable {resolver : ConfigId → Resolver} {n : Nat} {env : Env} {m w : Memory} {name : String}
  {scope : Nat} {locals : List (String × Option Value)}

/-! ## Names in a comprehension -/

namespace Name

theorem bound?_inComprehension_eq (hscope : m.get? scope = some (.scope locals))
    (qualifier : String) :
    bound? (env.inComprehension scope qualifier) m name =
      if env.globalNames.contains name then (m.nameIn? env.site.globals name).map some
      else match locals.lookup name with
        | some v => some v
        | none => match find? m name false env.site.scopes with
          | some (_, v, _) => some v
          | none => (m.nameIn? env.site.globals name).map some := by
  show (if env.globalNames.contains name = true then (m.nameIn? env.site.globals name).map some
    else match find? m name true (scope :: env.site.scopes) with
      | some (_, v, _) => some v
      | none => (m.nameIn? env.site.globals name).map some) = _
  rw [find?, hscope]
  dsimp only
  cases locals.lookup name <;> rfl

/-- A variable of the comprehension stands for its value. -/
theorem value?_variable {v : Value} (hglobals : env.globalNames = [])
    (hscope : m.get? scope = some (.scope locals))
    (hv : locals.lookup name = some (some v)) (qualifier : String) :
    value? (env.inComprehension scope qualifier) m name = some v := by
  refine value?_of_bound ?_
  rw [bound?_inComprehension_eq hscope, hglobals, hv]
  rfl

/-- Whether a scope is the innermost one does not change what a name stands for in it. -/
theorem find?_value (m : Memory) (name : String) (isOwn isOwn' : Bool) (scopes : List Nat) :
    (find? m name isOwn scopes).map (fun r => r.2.1)
      = (find? m name isOwn' scopes).map fun r => r.2.1 := by
  cases scopes with
  | nil => rfl
  | cons s rest =>
      unfold find?
      split
      · split <;> rfl
      · rfl

/-- Any other name stands for what it stands for around the comprehension. -/
theorem value?_around (hclass : env.classNames = none)
    (hscope : m.get? scope = some (.scope locals)) (hnone : locals.lookup name = none)
    (qualifier : String) :
    value? (env.inComprehension scope qualifier) m name = value? env m name := by
  have hbound : bound? (env.inComprehension scope qualifier) m name = bound? env m name := by
    rw [bound?_inComprehension_eq hscope, hnone]
    have hsame := find?_value m name false true env.site.scopes
    unfold bound?
    rw [hclass]
    dsimp only [Option.bind_none]
    cases hfalse : find? m name false env.site.scopes <;>
      cases htrue : find? m name true env.site.scopes <;>
      rw [hfalse, htrue] at hsame <;> simp_all
  unfold value?
  rw [hbound]
  rfl

theorem putInScope_eq (hscope : m.get? scope = some (.scope locals)) (name : String)
    (value : Option Value) :
    putInScope scope name value m
      = .done (m.put scope (.scope (setIn name value locals))) (.ok ()) :=
  Eval.modifyMemory_eq (by rw [hscope])

/-- A variable of a comprehension is bound in the scope of the comprehension. -/
theorem write_variable {v : Value} (hown : env.ownName name = name)
    (hglobals : env.globalNames = []) (hscope : m.get? scope = some (.scope locals))
    (hname : (locals.lookup name).isSome) (qualifier : String) :
    write (env.inComprehension scope qualifier) name v m
      = .done (m.put scope (.scope (setIn name (some v) locals))) (.ok ()) := by
  obtain ⟨old, hold⟩ := Option.isSome_iff_exists.mp hname
  have hfind : find? m name true (env.inComprehension scope qualifier).site.scopes
      = some (scope, old, true) := by
    change find? m name true (scope :: env.site.scopes) = _
    rw [find?, hscope]
    dsimp only
    rw [hold]
  have hmemory : Eval.memory m = .done m (.ok m) := rfl
  have hown' : (env.inComprehension scope qualifier).ownName name = name := hown
  have hglobals' : (env.inComprehension scope qualifier).globalNames = [] := hglobals
  unfold write
  rw [hown', Eval.bind_apply, hmemory]
  simp only [Course.bind, Course.andThen, hglobals', List.contains_nil, Bool.false_eq_true,
    if_false, hfind]
  exact putInScope_eq hscope _ _

end Name

/-- A name stands for a value, and does so as long as memory is kept. -/
def Name.Stands (env : Env) (m : Memory) (name : String) (v : Value) : Prop :=
  ∀ w, Keeps [] m w → Name.value? env w name = some v

namespace Name.Stands

variable {v : Value}

theorem now (h : Stands env m name v) : value? env m name = some v := h m (.refl _ _)

theorem keeps (h : Stands env m name v) (hkeeps : Keeps [] m w) : Stands env w name v :=
  fun w' hw' => h w' (hkeeps.trans hw')

theorem of_variable (name : String) (hglobals : env.globalNames = [])
    (hscope : m.get? scope = some (.scope locals)) (hv : locals.lookup name = some (some v))
    (qualifier : String) :
    Stands (env.inComprehension scope qualifier) m name v := fun _ hw =>
  value?_variable hglobals (hw.object List.not_mem_nil hscope) hv qualifier

theorem around (h : Stands env m name v) (hclass : env.classNames = none)
    (hscope : m.get? scope = some (.scope locals)) (hnone : locals.lookup name = none)
    (qualifier : String) : Stands (env.inComprehension scope qualifier) m name v := fun w hw => by
  rw [value?_around hclass (hw.object List.not_mem_nil hscope) hnone, h w hw]

end Name.Stands

/-! ## Running clauses -/

namespace Expression

/-- Runs a comprehension whose first iterable has been evaluated. -/
def inside (E : Engine) (env : Env) (title : String) (cs : List Tree) (body : Env → Eval Unit)
    (first : Value) : Eval Unit := fun m =>
  let inner := { env.inComprehension m.objects.size
      (env.site.qualifier ++ title ++ ".<locals>.") with
    globalNames := env.globalNames.filter fun n => !(targetNames cs).contains n }
  clauses E inner (body inner) (some first) cs
    (m.add (.scope ((targetNames cs).map fun n => (n, none)))).1

theorem comprehend_eq (E : Engine) (env : Env) (title : String) {isAsync : Bool} {s : Option Span}
    {targets tests : List Tree} {source : Tree} {rest : List Tree} (body : Env → Eval Unit) :
    comprehend E env title (.node (.comprehension isAsync) s [targets, [source], tests] :: rest) body
      = E.expr env source >>= inside E env title
          (.node (.comprehension isAsync) s [targets, [source], tests] :: rest) body := rfl

theorem ends_inside {E : Engine} {title : String} {cs : List Tree} {body : Env → Eval Unit}
    {first : Value} {good : Unit → Memory → Prop} {bad : Memory → Prop}
    (hglobals : env.globalNames = [])
    (h : ∀ qualifier, (clauses E (env.inComprehension m.objects.size qualifier)
      (body (env.inComprehension m.objects.size qualifier)) (some first) cs).Ends
        (m.add (.scope ((targetNames cs).map fun n => (n, none)))).1 good bad) :
    (inside E env title cs body first).Ends m good bad := by
  have hinner : ∀ q, { env.inComprehension m.objects.size q with
        globalNames := env.globalNames.filter fun n => !(targetNames cs).contains n }
      = env.inComprehension m.objects.size q := by
    intro q
    rw [hglobals]
    show _ = { env.inComprehension m.objects.size q with globalNames := env.globalNames }
    rw [hglobals]
    rfl
  have heq := h (env.site.qualifier ++ title ++ ".<locals>.")
  rw [← hinner] at heq
  exact heq

section Clauses

variable {E : Engine} {body : Eval Unit} {isAsync : Bool} {s : Option Span} {target source : Tree}
  {tests rest : List Tree}

/-- What a clause does for one element. -/
def turn (E : Engine) (env : Env) (body : Eval Unit) (target : Tree) (tests rest : List Tree)
    (v : Value) : Eval Unit := do
  E.assign env target v
  let holds ← conditions E env tests
  if holds then clauses E env body none rest

theorem clauses_none : clauses E env body none
      (.node (.comprehension isAsync) s [[target], [source], tests] :: rest)
    = E.expr env source >>= fun x => clauses E env body (some x)
        (.node (.comprehension isAsync) s [[target], [source], tests] :: rest) := by
  simp only [clauses, Eval.pure_bind]

/-- **A clause takes its turn for one element after the other.** -/
theorem ends_clauses {γ : Type} (g : γ → Value) (xs : List γ) (inv : List γ → Memory → Prop)
    {x : Value} {bad : Memory → Prop}
    (helements : E.elements env x m = .done m (.ok (xs.map g))) (h : inv [] m)
    (hturn : ∀ passed c rest' w, xs = passed ++ c :: rest' → inv passed w →
      (turn E env body target tests rest (g c)).Ends w (fun _ v => inv (passed ++ [c]) v) bad) :
    (clauses E env body (some x)
      (.node (.comprehension isAsync) s [[target], [source], tests] :: rest)).Ends m
      (fun _ w => inv xs w) bad := by
  rw [clauses]
  dsimp only
  rw [Eval.pure_bind]
  refine .step helements ?_
  refine Eval.Ends.bind (.forIn inv h fun passed c rest' w hxs hinv => ?_) fun _ _ hinv => .of_ok rfl hinv
  have hyield : (turn E env body target tests rest (g c) >>= fun _ =>
      (pure (.yield ⟨⟩) : Eval (ForInStep PUnit))).Ends w
        (fun t v => t = .yield ⟨⟩ ∧ inv (passed ++ [c]) v) bad :=
    (hturn passed c rest' w hxs hinv).bind fun _ _ hv => .of_ok rfl ⟨rfl, hv⟩
  have hsame : (turn E env body target tests rest (g c) >>= fun _ =>
      (pure (.yield ⟨⟩) : Eval (ForInStep PUnit))) = (do
        E.assign env target (g c)
        let holds ← conditions E env tests
        if holds then do
          clauses E env body none rest
          pure (.yield ⟨⟩)
        else pure (.yield ⟨⟩)) := by
    unfold turn
    simp only [Eval.bind_assoc]
    congr 1; funext _; congr 1; funext holds
    cases holds <;> rfl
  rw [← hsame]
  exact hyield

/-- A single condition. -/
theorem ends_conditions {t : Tree} {b : Bool} {good bad : Memory → Prop}
    (h : (E.expr env t).Ends m (fun v w => v = .bool b ∧ good w) bad) :
    (conditions E env [t]).Ends m (fun holds w => holds = b ∧ good w) bad := by
  rw [conditions]
  refine h.bind ?_
  rintro _ w ⟨rfl, hgood⟩
  have hmemory : Eval.memory w = .done w (.ok w) := rfl
  refine .step hmemory ?_
  cases b <;> exact .of_ok rfl ⟨rfl, hgood⟩

end Clauses

/-! ## What is collected -/

/-- Adds what one choice of elements gives to a list. -/
def putElement (E : Engine) (element : Tree) (out : Value) (env : Env) : Eval Unit := do
  let v ← E.expr env element
  grow out (pushItem v)

theorem eval_listComp (E : Engine) (env : Env) (s : Option Span) (element : Tree)
    (cs : List Tree) : eval E env (.node .listComp s [[element], cs]) = (do
      let out ← Eval.add (.list [])
      comprehend E env "<listcomp>" cs (putElement E element out)
      pure out) := rfl

/-- Adds what one choice of elements gives to a mapping. -/
def putEntry (E : Engine) (key value : Tree) (out : Value) (env : Env) : Eval Unit := do
  let k ← E.expr env key
  let v ← E.expr env value
  Subscript.hashable k
  grow out fun m o => match o with
    | .dict es => .dict (m.insertEntry k v es)
    | o => o

theorem eval_dictComp (E : Engine) (env : Env) (s : Option Span) (key value : Tree)
    (cs : List Tree) : eval E env (.node .dictComp s [[key], [value], cs]) = (do
      let out ← Eval.add (.dict [])
      comprehend E env "<dictcomp>" cs (putEntry E key value out)
      pure out) := rfl

theorem grow_ref {a : Nat} {o : Object} (f : Memory → Object → Object)
    (h : m.get? a = some o) : grow (.ref a) f m = .done (m.put a (f m o)) (.ok ()) :=
  Eval.modifyMemory_eq (by dsimp only; rw [h])

end Expression

/-! ## Elements and keys -/

theorem Engine.resolver_ofDepth (resolver : ConfigId → Resolver) (n : Nat) :
    (ofDepth resolver n).resolver = resolver := by
  induction n with
  | zero => rfl
  | succ n ih => exact ih

theorem Engine.elements_ofDepth {v : Value} {vs : List Value}
    (h : Subscript.elements? m v = some vs) :
    (ofDepth resolver (n + 1)).elements env v m = .done m (.ok vs) := by
  have hmemory : Eval.memory m = .done m (.ok m) := rfl
  change Invoke.elements (ofDepth resolver n) env v m = _
  unfold Invoke.elements
  rw [Eval.bind_apply, hmemory]
  simp only [Course.bind, Course.andThen, h]
  rfl

/-- A name can be a key. -/
theorem Subscript.hashable_text (name : String) (m : Memory) :
    hashable (.text name) m = .done m (.ok ()) := rfl

/-- No key but the name itself is the same as a name. -/
theorem Memory.same_text (m : Memory) (v : Value) (name : String) :
    m.same v (.text name) = decide (v = .text name) := by
  unfold Memory.same Memory.maxDepth
  rw [Memory.sameWithin]
  have hnumber : v.sameNumber? (.text name) = none := by
    unfold Value.sameNumber?
    cases v.number? <;> rfl
  rw [hnumber]
  have hobject : m.object? (.text name) = none := rfl
  rw [hobject]
  cases m.object? v with
  | none => rfl
  | some o => cases o <;> rfl

theorem Memory.insertEntry_text (m : Memory) (name : String) (v : Value)
    (entries : List (Value × Value)) :
    m.insertEntry (.text name) v entries = Memory.setEntry name v entries := by
  induction entries with
  | nil => rfl
  | cons e entries ih =>
      rw [Memory.insertEntry, Memory.setEntry, Memory.same_text, ih]
      by_cases h : e.1 = .text name <;> simp [h]

end SourceLoader
