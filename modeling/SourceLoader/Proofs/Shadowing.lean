import SourceLoader.Proofs.Comprehension
import SourceLoader.Proofs.Forms
import SourceLoader.Proofs.Order

/-!
# Shadowed helpers

What an import becomes calls its helpers by plain names: `require`, and for a star import also
`globals`, `getattr` and `dir`. The names that a module starts with stand behind all that code
binds. So the helpers are the loader's own and the language's own as long as code has not bound
their names, and this is so when a body begins. Where code has bound `require`, the specifier goes
to what the code has bound, and the loader hears nothing of it (`Lowering.import_fetches`).
-/

namespace SourceLoader

open Tree (Within Part)

/-! ## Running a lowered import -/

namespace Lowering

open Engine (deepen)
open Tree (eraseSpans_eq_node_iff)

variable {E : Engine} {env : Env}

/-! Trees that are put in, wherever their nodes stand. -/

theorem eraseSpans_eq_readName {t : Tree} {id : String} (h : t.eraseSpans = readName id) :
    ∃ s, t = .node (.name id .load) s [] := by
  obtain ⟨s, fs, rfl, -, hfs⟩ := eraseSpans_eq_node_iff.mp h
  exact ⟨s, by rw [List.map_eq_nil_iff.mp hfs]⟩

theorem eraseSpans_eq_textLiteral {t : Tree} {text : String} (h : t.eraseSpans = textLiteral text) :
    ∃ s, t = .node (.constant (.text (Text.ofString text) false)) s [] := by
  obtain ⟨s, fs, rfl, -, hfs⟩ := eraseSpans_eq_node_iff.mp h
  exact ⟨s, by rw [List.map_eq_nil_iff.mp hfs]⟩

theorem eraseSpans_eq_memberOf {t value : Tree} {name : String}
    (h : t.eraseSpans = memberOf value name) :
    ∃ s v, t = .node (.attribute name .load) s [[v]] ∧ v.eraseSpans = value := by
  simp only [memberOf, eraseSpans_eq_node_iff, List.map_eq_cons_iff, List.map_eq_nil_iff] at h
  obtain ⟨s, _, rfl, -, _, _, rfl, ⟨v, _, rfl, hv, rfl⟩, rfl⟩ := h
  exact ⟨s, v, rfl, hv⟩

theorem eraseSpans_eq_callOf {t function : Tree} {arguments : List Tree}
    (h : t.eraseSpans = callOf function arguments) :
    ∃ s f args, t = .node .call s [[f], args, []] ∧ f.eraseSpans = function
      ∧ args.map Tree.eraseSpans = arguments := by
  simp only [callOf, eraseSpans_eq_node_iff, List.map_eq_cons_iff, List.map_eq_nil_iff] at h
  obtain ⟨s, _, rfl, -, _, _, rfl, ⟨f, _, rfl, hf, rfl⟩, args, _, rfl, hargs, _, _, rfl, rfl, rfl⟩ :=
    h
  exact ⟨s, f, args, rfl, hf, hargs⟩

theorem resembles_require {specifier : String} {c : Tree}
    (hc : c.eraseSpans = requireCall specifier) :
    ((deepen (deepen E)).expr env c).Resembles
      (Name.call (deepen E) env "require" [.text specifier]) := by
  obtain ⟨s, f, args, rfl, hf, hargs⟩ := eraseSpans_eq_callOf hc
  obtain ⟨s', rfl⟩ := eraseSpans_eq_readName hf
  obtain ⟨a, rfl, ha⟩ := List.map_eq_singleton_iff.mp hargs
  obtain ⟨s'', rfl⟩ := eraseSpans_eq_textLiteral ha
  have hvalues : (Eval.each ((deepen E).expr env)
      [.node (.constant (.text (Text.ofString specifier) false)) s'' []]).Resembles
        (pure [.text specifier]) := by
    have htext := Expression.resembles_eval E env
      (.node (.constant (.text (Text.ofString specifier) false)) s'' [])
    rw [Expression.eval, Expression.ofConstant, Text.toString_ofString] at htext
    exact htext.bind (l := fun v => pure [v]) fun v => .refl _
  refine (Expression.resembles_call (by simp [Target.isStarred, Tree.kind])).trans ?_
  exact (Eval.Resembles.refl _).bind fun f =>
    hvalues.bind (l := fun vs => (deepen E).call env f vs []) fun vs => .refl _

/-- A statement that binds a name to a value. -/
theorem resembles_bind {name : String} {value u : Tree} (hu : u.eraseSpans = bind name value) :
    ∃ v, v.eraseSpans = value ∧ ∀ E env, Statement.run (deepen E) env u = (do
      let w ← (deepen E).expr env v
      Name.write env name w
      pure .next) := by
  simp only [bind, eraseSpans_eq_node_iff, List.map_eq_cons_iff, List.map_eq_nil_iff] at hu
  obtain ⟨s, _, rfl, -, _, _, rfl, ⟨_, _, rfl, ⟨s', _, rfl, -, rfl⟩, rfl⟩, _, _, rfl,
    ⟨v, _, rfl, hv, rfl⟩, rfl⟩ := hu
  refine ⟨v, hv, fun E env => ?_⟩
  show ((deepen E).expr env v >>= fun w =>
    (Name.write env name w >>= fun _ => pure ()) >>= fun _ => pure Flow.next) = _
  simp only [Eval.bind_assoc, Eval.pure_bind]

theorem eraseSpans_eq_clauseOf {t iterable : Tree} {target : String} {conditions : List Tree}
    (h : t.eraseSpans = clauseOf target iterable conditions) :
    ∃ s s' source tests, t = .node (.comprehension false) s
        [[.node (.name target .store) s' []], [source], tests]
      ∧ source.eraseSpans = iterable ∧ tests.map Tree.eraseSpans = conditions := by
  simp only [clauseOf, eraseSpans_eq_node_iff, List.map_eq_cons_iff, List.map_eq_nil_iff] at h
  obtain ⟨s, _, rfl, -, _, _, rfl, ⟨_, _, rfl, ⟨s', _, rfl, -, rfl⟩, rfl⟩, _, _, rfl,
    ⟨source, _, rfl, hsource, rfl⟩, tests, _, rfl, htests, rfl⟩ := h
  exact ⟨s, s', source, tests, rfl, hsource, htests⟩

/-! A star import collects the names of the module with their values, and updates the globals. -/

/-- A comprehension of the entries for all names of a module. -/
structure Collects (specifier : String) (key value : Tree) (cs : List Tree) : Prop where
  key : key.eraseSpans = readName "_star_name"
  value : value.eraseSpans = listedValue
  clauses : cs.map Tree.eraseSpans = listedClauses specifier

theorem Collects.pair {specifier : String} {key value : Tree} {cs : List Tree}
    (h : Collects specifier key value cs) : ∃ clause names, cs = [clause, names]
      ∧ clause.eraseSpans = clauseOf "_star_module"
        (.node (.list .load) none [[requireCall specifier]]) []
      ∧ names.eraseSpans = clauseOf "_star_name" listedNames [] := by
  obtain ⟨clause, _, rfl, hclause, hrest⟩ := List.map_eq_cons_iff.mp h.clauses
  obtain ⟨names, rfl, hnames⟩ := List.map_eq_singleton_iff.mp hrest
  exact ⟨clause, names, rfl, hclause, hnames⟩

theorem eraseSpans_eq_bindAll {specifier : String} {u : Tree}
    (hu : u.eraseSpans = bindAll specifier) :
    ∃ s s₁ s₂ s₃ s₄ s₅ key value cs, Collects specifier key value cs
      ∧ u = .node .exprStmt s [[.node .call s₁ [[.node (.attribute "update" .load) s₂
        [[.node .call s₃ [[.node (.name "globals" .load) s₄ []], [], []]]]],
        [.node .dictComp s₅ [[key], [value], cs]], []]]] := by
  simp only [bindAll_eq, eraseSpans_eq_node_iff (k := .exprStmt), List.map_eq_cons_iff,
    List.map_eq_nil_iff] at hu
  obtain ⟨s, _, rfl, -, _, _, rfl, ⟨call, _, rfl, hcall, rfl⟩, rfl⟩ := hu
  obtain ⟨s₁, f, args, rfl, hf, hargs⟩ := eraseSpans_eq_callOf hcall
  obtain ⟨s₂, g, rfl, hg⟩ := eraseSpans_eq_memberOf hf
  obtain ⟨s₃, h, nothing, rfl, hh, hnothing⟩ := eraseSpans_eq_callOf hg
  obtain ⟨s₄, rfl⟩ := eraseSpans_eq_readName hh
  obtain rfl := List.map_eq_nil_iff.mp hnothing
  obtain ⟨comp, rfl, hcomp⟩ := List.map_eq_singleton_iff.mp hargs
  simp only [eraseSpans_eq_node_iff (k := .dictComp), List.map_eq_cons_iff,
    List.map_eq_nil_iff] at hcomp
  obtain ⟨s₅, _, rfl, -, _, _, rfl, ⟨key, _, rfl, hkey, rfl⟩, _, _, rfl,
    ⟨value, _, rfl, hvalue, rfl⟩, cs, _, rfl, hcs, rfl⟩ := hcomp
  exact ⟨s, s₁, s₂, s₃, s₄, s₅, key, value, cs, ⟨hkey, hvalue, hcs⟩, rfl⟩

/-- What is done once the module is there, `p` being the update of the globals and the mapping for
the names of the module. -/
def bindCollected (E : Engine) (env : Env) (key value : Tree) (cs : List Tree) (p : Value × Value)
    (v : Value) : Eval Flow := do
  let first ← Eval.add (.list [v])
  Expression.inside E env "<dictcomp>" cs (Expression.putEntry E key value p.2) first
  let _ ← (deepen E).call env p.1 [p.2] []
  pure .next

/-- The comprehension begins with a mapping and the module. -/
theorem resembles_entries (E : Engine) (env : Env) {specifier : String} {key value : Tree}
    {cs : List Tree} (h : Collects specifier key value cs) (s : Option Span) :
    ((deepen (deepen (deepen (deepen E)))).expr env
      (.node .dictComp s [[key], [value], cs])).Resembles (do
        let entries ← Eval.add (.dict [])
        let v ← Name.call (deepen E) env "require" [.text specifier]
        let first ← Eval.add (.list [v])
        Expression.inside (deepen (deepen (deepen E))) env "<dictcomp>" cs
          (Expression.putEntry (deepen (deepen (deepen E))) key value entries) first
        pure entries) := by
  obtain ⟨clause, names, rfl, hclause, -⟩ := h.pair
  obtain ⟨s', s'', list, tests, rfl, hlist, -⟩ := eraseSpans_eq_clauseOf hclause
  simp only [eraseSpans_eq_node_iff, List.map_eq_cons_iff, List.map_eq_nil_iff] at hlist
  obtain ⟨s₇, _, rfl, -, _, _, rfl, ⟨c, _, rfl, hc, rfl⟩, rfl⟩ := hlist
  have hfirst : ((deepen (deepen (deepen E))).expr env
      (.node (.list .load) s₇ [[c]])).Resembles (do
        let v ← Name.call (deepen E) env "require" [.text specifier]
        Eval.add (.list [v])) := by
    refine (Expression.resembles_eval _ _ _).trans ?_
    have hplain : Target.isStarred c = false := by
      obtain ⟨s, f, args, rfl, -⟩ := eraseSpans_eq_callOf hc
      rfl
    rw [Expression.eval, Expression.elementsOf,
      Expression.items_eq_each (by simpa using hplain), Eval.each, Eval.bind_assoc]
    exact (resembles_require hc).bind fun v => .refl _
  refine (Expression.resembles_eval _ _ _).trans ?_
  rw [Expression.eval_dictComp]
  refine (Eval.Resembles.refl _).bind fun entries => ?_
  rw [Expression.comprehend_eq, Eval.bind_assoc]
  refine (hfirst.bind fun first => .refl _).trans ?_
  rw [Eval.bind_assoc]
  exact .refl _

theorem resembles_bindAll {specifier : String} {u : Tree} (hu : u.eraseSpans = bindAll specifier) :
    ∃ key value cs, Collects specifier key value cs ∧ ∀ E env,
      (Statement.run (deepen (deepen (deepen (deepen (deepen E))))) env u).Resembles (do
        let names ← Name.call (deepen (deepen E)) env "globals" []
        let update ← Attribute.get names (env.ownName "update")
        let entries ← Eval.add (.dict [])
        let v ← Name.call (deepen E) env "require" [.text specifier]
        bindCollected (deepen (deepen (deepen E))) env key value cs (update, entries) v) := by
  obtain ⟨s, s₁, s₂, s₃, s₄, s₅, key, value, cs, hcollects, rfl⟩ := eraseSpans_eq_bindAll hu
  refine ⟨key, value, cs, hcollects, fun E env => ?_⟩
  have hentries := resembles_entries E env hcollects s₅
  have hglobals : ((deepen (deepen (deepen E))).expr env
      (.node .call s₃ [[.node (.name "globals" .load) s₄ []], [], []])).Resembles
        (Name.call (deepen (deepen E)) env "globals" []) :=
    Expression.resembles_call (by simp)
  have hupdate : ((deepen (deepen (deepen (deepen E)))).expr env
      (.node (.attribute "update" .load) s₂
        [[.node .call s₃ [[.node (.name "globals" .load) s₄ []], [], []]]])).Resembles (do
          let names ← Name.call (deepen (deepen E)) env "globals" []
          Attribute.get names (env.ownName "update")) :=
    (Expression.resembles_eval _ _ _).trans (hglobals.bind fun names => .refl _)
  have hcall : ∀ t, (Statement.run (deepen (deepen (deepen (deepen (deepen E))))) env
      (.node .exprStmt s [[t]])) = (do
        let _ ← (deepen (deepen (deepen (deepen (deepen E))))).expr env t
        pure .next) := fun t => rfl
  rw [hcall]
  refine ((Expression.resembles_eval _ _ _).bind fun _ => .refl _).trans ?_
  rw [Expression.eval_call (by simp [Target.isStarred, Tree.kind]), Eval.bind_assoc]
  refine (hupdate.bind fun update => .refl _).trans ?_
  simp only [Eval.bind_assoc, Eval.each, Eval.pure_bind]
  refine (Eval.Resembles.refl _).bind fun names => (Eval.Resembles.refl _).bind fun update => ?_
  refine (hentries.bind fun entries => .refl _).trans ?_
  simp only [bindCollected, Eval.bind_assoc, Eval.pure_bind]
  exact .refl _

/-! ## The helpers -/

/-- The names that statements call which stand for imports. -/
def helpers : List String := ["require", "globals", "getattr", "dir"]

/-- The helpers of the language. -/
def languageHelpers : List String := ["globals", "getattr", "dir"]

section Calls

variable {n : String} {usage : Usage} {fs : List (List Tree)} {args keywords : List Tree}

theorem call_of_part_requireCall {specifier : String}
    (h : Part (.node .call none [[.node (.name n usage) none fs], args, keywords])
      (requireCall specifier)) :
    n ∈ helpers ∧ keywords = [] ∧ ∀ t ∈ args, Target.isStarred t = false := by
  have hcall : n = "require" ∧ keywords = [] ∧ args = [textLiteral specifier] := by
    simp [requireCall, callOf, readName, Tree.part_node_iff, textLiteral] at h
    exact ⟨h.1.1.1, h.2.2, h.2.1⟩
  obtain ⟨rfl, rfl, rfl⟩ := hcall
  simp [helpers, textLiteral, Target.isStarred, Tree.kind]

theorem call_of_part_statement {form : Form}
    (h : Part (.node .call none [[.node (.name n usage) none fs], args, keywords])
      form.statement) :
    n ∈ helpers ∧ keywords = [] ∧ ∀ t ∈ args, Target.isStarred t = false := by
  cases form with
  | whole name specifier =>
      have hpart : Part (.node .call none [[.node (.name n usage) none fs], args, keywords])
          (requireCall specifier) := by
        simpa [Form.statement, bind, Tree.part_node_iff] using h
      exact call_of_part_requireCall hpart
  | member name specifier part =>
      have hpart : Part (.node .call none [[.node (.name n usage) none fs], args, keywords])
          (requireCall specifier) := by
        simpa [Form.statement, bind, memberOf, Tree.part_node_iff] using h
      exact call_of_part_requireCall hpart
  | all =>
      simp only [Form.statement, bindAll, callOf, memberOf, readName, clauseOf, requireCall,
        textLiteral, Tree.part_node_iff, Tree.node.injEq, reduceCtorEq, List.cons.injEq, true_and,
        false_and, and_true, and_self, and_false, List.mem_cons, List.not_mem_nil, or_false,
        exists_eq_left, exists_eq_or_imp, Kind.name.injEq, or_self, exists_const, ↓existsAndEq,
        false_or, List.cons_ne_self] at h
      rcases h with ⟨⟨⟨rfl, -⟩, -⟩, rfl, rfl⟩ | ⟨⟨⟨rfl, -⟩, -⟩, rfl, rfl⟩
        | ⟨⟨⟨rfl, -⟩, -⟩, rfl, rfl⟩ | ⟨⟨⟨rfl, -⟩, -⟩, rfl, rfl⟩ | ⟨⟨⟨rfl, -⟩, -⟩, rfl, rfl⟩ <;>
      simp [helpers, Dependencies.requireName, Target.isStarred, Tree.kind]

end Calls

theorem ownName_eq {n : String} (h : n.startsWith "__" = false) (env : Env) :
    env.ownName n = n := by
  unfold Env.ownName Scope.privateName
  cases env.site.className with
  | none => rfl
  | some c => exact if_pos (by simp [h])

theorem ownName_of_mem_helpers {n : String} (h : n ∈ helpers) (env : Env) :
    env.ownName n = n := by
  refine ownName_eq ?_ env
  simp only [helpers, List.mem_cons, List.not_mem_nil, or_false] at h
  rcases h with rfl | rfl | rfl | rfl <;> decide +kernel

/-- All that a statement calls by name are helpers, and such a call calls what the helper stands for
when code gets there. -/
def CallsHelpers (u : Tree) : Prop :=
  ∀ {n : String} {usage : Usage} {s s' : Option Span} {fs : List (List Tree)}
    {args keywords : List Tree},
    Part (.node .call s [[.node (.name n usage) s' fs], args, keywords]) u →
      n ∈ helpers ∧ ∀ E env m v, Name.value? env m n = some v →
        ((deepen (deepen E)).expr env
          (.node .call s [[.node (.name n usage) s' fs], args, keywords]) m).Resembles
          ((do
            let vs ← Eval.each ((deepen E).expr env) args
            (deepen E).call env v vs []) m)

theorem callsHelpers {form : Form} {u : Tree} (hu : u.eraseSpans = form.statement) :
    CallsHelpers u := by
  intro n usage s s' fs args keywords hpart
  have herased := hpart.eraseSpans
  rw [hu, Tree.eraseSpans_node] at herased
  simp only [List.map_cons, List.map_nil, Tree.eraseSpans_node] at herased
  obtain ⟨hmem, hkeywords, hplain⟩ := call_of_part_statement herased
  obtain rfl := List.map_eq_nil_iff.mp hkeywords
  refine ⟨hmem, fun E env m v hv => ?_⟩
  have hargs : ∀ t ∈ args, Target.isStarred t = false := by
    intro t ht
    have ht' := hplain _ (List.mem_map_of_mem ht)
    rwa [Target.isStarred, Tree.kind_eraseSpans] at ht'
  have hread := Name.read_eq (m := m) (ownName_of_mem_helpers hmem env)
  rw [hv] at hread
  have hcall : ((deepen (deepen E)).expr env
      (.node .call s [[.node (.name n usage) s' fs], args, []]) m).Resembles _ :=
    Expression.resembles_call hargs m
  rw [Eval.bind_apply, hread] at hcall
  exact hcall

/-! ## What is not shadowed -/

/-- No helper is shadowed: code has bound none of some names, and behind them stand the tool of the
file and the functions of the language. -/
structure Unshadowed (env : Env) (m : Memory) (config : ConfigId) (names : List String) : Prop where
  free : ∀ n ∈ names, Name.bound? env m n = none
  require : ∃ address, m.nameIn? env.site.builtins "require" = some (.ref address)
    ∧ m.get? address = some (.tool .require config env.file)
  language : ∀ n ∈ languageHelpers, m.nameIn? env.site.builtins n = none
  /-- The names of the module are a mapping. -/
  globals : ∃ entries, m.get? env.site.globals = some (.dict entries)

namespace Unshadowed

variable {env : Env} {m : Memory} {config : ConfigId} {names : List String}

theorem value?_require (h : Unshadowed env m config names) (hn : "require" ∈ names) :
    ∃ address, Name.value? env m "require" = some (.ref address)
      ∧ m.get? address = some (.tool .require config env.file) := by
  obtain ⟨address, hbuiltins, hget⟩ := h.require
  refine ⟨address, ?_, hget⟩
  rw [Name.value?_of_free (h.free _ hn), Name.given?, hbuiltins]

theorem value?_language (h : Unshadowed env m config names) {n : String} (hn : n ∈ names)
    (hlanguage : n ∈ languageHelpers) : Name.value? env m n = some (.builtin n) := by
  rw [Name.value?_of_free (h.free _ hn), Name.given?, h.language n hlanguage]
  simp only [languageHelpers, List.mem_cons, List.not_mem_nil, or_false] at hlanguage
  rcases hlanguage with rfl | rfl | rfl <;> rfl

theorem mono (h : Unshadowed env m config names) {names' : List String} (hsub : names' ⊆ names) :
    Unshadowed env m config names' :=
  { h with free := fun n hn => h.free n (hsub hn) }

/-- A new object that holds no names shadows nothing. -/
theorem add (h : Unshadowed env m config names) {o : Object} (ho : Name.holdsNoNames o = true) :
    Unshadowed env (m.add o).1 config names where
  free n hn := by rw [Name.bound?_add ho, h.free n hn]
  require := by
    obtain ⟨address, hbuiltins, hget⟩ := h.require
    exact ⟨address, by rw [Name.nameIn?_add ho, hbuiltins], Name.get?_add_of_some hget⟩
  language n hn := by rw [Name.nameIn?_add ho, h.language n hn]
  globals := by
    obtain ⟨entries, hget⟩ := h.globals
    exact ⟨entries, Name.get?_add_of_some hget⟩

/-- The variables of a comprehension shadow no helpers. -/
theorem enter (h : Unshadowed env m config names) {scope : Nat}
    {entries : List (String × Option Value)} (hscope : m.get? scope = some (.scope entries))
    (hentries : ∀ n ∈ names, entries.lookup n = none) (qualifier : String) :
    Unshadowed (env.inComprehension scope qualifier) m config names where
  free n hn := Name.bound?_inComprehension (h.free n hn) hscope (hentries n hn) qualifier
  require := h.require
  language := h.language
  globals := h.globals

end Unshadowed

/-! ## Fetching -/

namespace Form

/-- The helpers that a statement calls. -/
def calls : Form → List String
  | .all _ => helpers
  | _ => ["require"]

/-- A statement for one name fetches at once, and then binds the name to what it has fetched or to a
member of it. -/
def Binds {α : Type} (env : Env) (prepare : Eval α) (finish : α → Value → Eval Flow) :
    Form → Prop
  | .whole name _ => (∀ m, ∃ p, prepare m = .done m (.ok p)) ∧ ∀ p v, finish p v = (do
      Name.write env name v
      pure .next)
  | .member name _ part => (∀ m, ∃ p, prepare m = .done m (.ok p)) ∧ ∀ p v, finish p v = (do
      let w ← Attribute.get v (env.ownName part)
      Name.write env name w
      pure .next)
  | .all _ => True

end Form

/-- How a statement fetches its specifier. -/
structure Fetching (resolver : ConfigId → Resolver) (env : Env) (form : Form) (x : Eval Flow) where
  /-- What is at hand when the specifier is fetched. -/
  Ready : Type
  prepare : Eval Ready
  finish : Ready → Value → Eval Flow
  /-- How deep calls nest from there. -/
  depth : Nat
  /-- The specifier goes to what `require` stands for. -/
  runs : x.Resembles (do
    let p ← prepare
    let v ← Name.call (Engine.ofDepth resolver (depth + 1)) env "require" [.text form.specifier]
    finish p v)
  binds : form.Binds env prepare finish
  /-- If no helper is shadowed, none is when the specifier is fetched. -/
  prepares : ∀ {m config}, Unshadowed env m config form.calls →
    ∃ m' p, prepare m = .done m' (.ok p) ∧ Unshadowed env m' config form.calls

namespace Fetching

variable {resolver : ConfigId → Resolver} {env : Env} {form : Form} {x : Eval Flow}

/-- **A shadowed `require` gets the specifier.** -/
theorem resembles_call (f : Fetching resolver env form x) {m m' : Memory} {p : f.Ready}
    (hready : f.prepare m = .done m' (.ok p)) :
    match Name.value? env m' "require" with
    | some g => (x m).Resembles
        (((Engine.ofDepth resolver (f.depth + 1)).call env g [.text form.specifier] [] m').bind
          (f.finish p))
    | none => ∃ m'' e, x m = .done m'' (.error e) := by
  have hruns := f.runs m
  rw [Eval.bind_apply, hready] at hruns
  have hown : env.ownName "require" = "require" := ownName_of_mem_helpers (by simp [helpers]) env
  have hread := Name.read_eq (m := m') hown
  split
  · next g hg =>
    rw [hg] at hread
    change (x m).Resembles ((Name.call _ env "require" _ m').bind (f.finish p)) at hruns
    rw [Name.call, Eval.bind_apply, hread] at hruns
    exact hruns
  · next hnone =>
    rw [hnone] at hread
    obtain ⟨m'', e, hread⟩ := hread
    change (x m).Resembles ((Name.call _ env "require" _ m').bind (f.finish p)) at hruns
    rw [Name.call, Eval.bind_apply, hread] at hruns
    obtain ⟨e', he, -⟩ := hruns.eq_error
    exact ⟨m'', e', he⟩

/-- **An unshadowed `require` asks the loader** for the exports of what the specifier stands for. -/
theorem asks (f : Fetching resolver env form x) {m : Memory} {config : ConfigId} {path : String}
    (h : Unshadowed env m config form.calls)
    (hpath : (resolver config).apply env.file form.specifier = .ok path) :
    ∃ m' p next, f.prepare m = .done m' (.ok p) ∧ x m = .ask m' (.exports config path) next
      ∧ ∀ w v, (next w (.ok v)).Resembles (f.finish p (v.getD .none) w) := by
  obtain ⟨m', p, hready, h'⟩ := f.prepares h
  have hcalls : "require" ∈ form.calls := by cases form <;> simp [Form.calls, helpers]
  obtain ⟨address, hvalue, hget⟩ := h'.value?_require hcalls
  have hresolver : (Engine.ofDepth resolver f.depth).resolver config = resolver config := by
    rw [Engine.resolver_ofDepth]
  obtain ⟨reply, htool, hreply, -⟩ := Machine.tool_require hresolver hpath m'
  have hcall : (Engine.ofDepth resolver (f.depth + 1)).call env (.ref address)
      [.text form.specifier] [] m' = .ask m' (.exports config path) reply := by
    rw [← htool]
    exact Invoke.call_tool hget _ _
  have hruns := f.resembles_call hready
  rw [hvalue] at hruns
  dsimp only at hruns
  rw [hcall] at hruns
  obtain ⟨next, hnext, hresembles⟩ := hruns.eq_ask
  refine ⟨m', p, next, hready, hnext, fun w v => ?_⟩
  have hgoes := hresembles w (.ok v)
  change (next w (.ok v)).Resembles ((reply w (.ok v)).bind (f.finish p)) at hgoes
  rw [hreply] at hgoes
  exact hgoes

end Fetching

/-- What a star import has at hand when it fetches its specifier. -/
theorem prepares_all (resolver : ConfigId → Resolver) {env : Env} {m : Memory} {config : ConfigId}
    (depth : Nat) (h : Unshadowed env m config helpers) :
    ∃ m' update out, (do
        let names ← Name.call (Engine.ofDepth resolver (depth + 2)) env "globals" []
        let update ← Attribute.get names (env.ownName "update")
        let entries ← Eval.add (.dict [])
        pure (update, entries) : Eval (Value × Value)) m = .done m' (.ok (.ref update, .ref out))
      ∧ Unshadowed env m' config helpers ∧ Memory.Keeps [] m m' ∧ m.objects.size ≤ out
      ∧ m'.get? update = some (.builtinMethod (.ref env.site.globals) "update")
      ∧ m'.get? out = some (.dict []) := by
  have hread := Name.read_eq (m := m)
    (ownName_of_mem_helpers (n := "globals") (by simp [helpers]) env)
  rw [h.value?_language (n := "globals") (by simp [helpers]) (by simp [languageHelpers])] at hread
  have hglobals : Name.call (Engine.ofDepth resolver (depth + 2)) env "globals" [] m
      = .done m (.ok (.ref env.site.globals)) := by
    rw [Name.call, Eval.bind_apply, hread]
    rfl
  obtain ⟨entries, hget⟩ := h.globals
  let method : Object := .builtinMethod (.ref env.site.globals) "update"
  have hupdate : Attribute.get (.ref env.site.globals) "update" m
      = .done (m.add method).1 (.ok (.ref m.objects.size)) := by
    have hown : Attribute.ofObject m (.ref env.site.globals) (.dict entries) "update" m
        = .done (m.add method).1 (.ok (some (.ref m.objects.size))) := rfl
    have hmemory : Eval.memory m = .done m (.ok m) := rfl
    unfold Attribute.get Attribute.get?
    rw [Eval.bind_assoc, Eval.bind_apply, hmemory]
    simp only [Course.bind, Course.andThen, hget,
      if_neg (show ¬ "update" = "__class__" by decide)]
    rw [Eval.bind_assoc, Eval.bind_apply, hown]
    rfl
  refine ⟨_, m.objects.size, (m.add method).1.objects.size, ?_,
    (h.add (o := method) rfl).add (o := .dict []) rfl, (Memory.Keeps.add _ _ _).trans (.add _ _ _),
    by rw [Name.size_add]; omega, Name.get?_add_of_some (Name.get?_add_self _ _),
    Name.get?_add_self _ _⟩
  rw [ownName_eq (by decide +kernel), Eval.bind_apply, hglobals]
  show ((Attribute.get (.ref env.site.globals) "update" m).bind _ = _)
  rw [hupdate]
  rfl

theorem exists_fetching {form : Form} {u : Tree} (hu : u.eraseSpans = form.statement)
    (resolver : ConfigId → Resolver) (depth : Nat) (env : Env) :
    Nonempty (Fetching resolver env form
      (Statement.run (Engine.ofDepth resolver (depth + 5)) env u)) := by
  cases form with
  | whole name specifier =>
      obtain ⟨v, hv, hrun⟩ := resembles_bind hu
      refine ⟨{
        Ready := Unit
        prepare := pure ()
        finish := fun _ v => do
          Name.write env name v
          pure .next
        depth := depth + 3
        runs := ?_
        binds := ⟨fun _ => ⟨(), rfl⟩, fun _ _ => rfl⟩
        prepares := fun h => ⟨_, (), rfl, h⟩ }⟩
      exact (hrun (Engine.ofDepth resolver (depth + 4)) env) ▸
        (resembles_require hv).bind fun v => .refl _
  | member name specifier part =>
      obtain ⟨v, hv, hrun⟩ := resembles_bind hu
      obtain ⟨s, c, rfl, hc⟩ := eraseSpans_eq_memberOf hv
      refine ⟨{
        Ready := Unit
        prepare := pure ()
        finish := fun _ v => do
          let w ← Attribute.get v (env.ownName part)
          Name.write env name w
          pure .next
        depth := depth + 2
        runs := ?_
        binds := ⟨fun _ => ⟨(), rfl⟩, fun _ _ => rfl⟩
        prepares := fun h => ⟨_, (), rfl, h⟩ }⟩
      have hdeepen : Engine.ofDepth resolver (depth + 5)
          = deepen (Engine.ofDepth resolver (depth + 4)) := rfl
      rw [hdeepen, hrun]
      have hmember : ((Engine.ofDepth resolver (depth + 5)).expr env
          (.node (.attribute part .load) s [[c]])).Resembles (do
            let v ← Name.call (Engine.ofDepth resolver (depth + 3)) env "require" [.text specifier]
            Attribute.get v (env.ownName part)) :=
        (Expression.resembles_eval _ _ _).trans
          ((resembles_require (E := Engine.ofDepth resolver (depth + 2)) hc).bind fun v => .refl _)
      have hbind := hmember.bind (k := fun w => do
        Name.write env name w
        pure Flow.next) fun w => .refl _
      rw [Eval.bind_assoc] at hbind
      exact hbind
  | all specifier =>
      obtain ⟨key, value, cs, -, hruns⟩ := resembles_bindAll hu
      refine ⟨{
        Ready := Value × Value
        prepare := do
          let names ← Name.call (Engine.ofDepth resolver (depth + 2)) env "globals" []
          let update ← Attribute.get names (env.ownName "update")
          let entries ← Eval.add (.dict [])
          pure (update, entries)
        finish := bindCollected (Engine.ofDepth resolver (depth + 3)) env key value cs
        depth
        runs := ?_
        binds := trivial
        prepares := fun h => by
          obtain ⟨m', update, out, hprepare, h', -⟩ := prepares_all resolver depth h
          exact ⟨m', _, hprepare, h'⟩ }⟩
      simp only [Eval.bind_assoc, Eval.pure_bind]
      exact hruns (Engine.ofDepth resolver depth) env

/-- When a body begins, no helper is shadowed. -/
theorem unshadowed_makeNames {E : Engine} {config : ConfigId} {file : String} {m m' : Memory}
    {fresh : Instantiate.Fresh} (h : Instantiate.makeNames E config file m = .done m' (.ok fresh))
    (future : Future) : Unshadowed (Instantiate.environment file fresh future) m' config helpers := by
  cases hdirectory : (E.resolver config).apply file "." with
  | error e =>
      unfold Instantiate.makeNames at h
      rw [hdirectory] at h
      cases h
  | ok directory =>
      -- six objects are made: the names are the first one, the tool is the fourth, and the names
      -- behind are the last
      obtain ⟨names, hnames⟩ : ∃ names, names = [(Value.text "__name__",
          Value.text (Instantiate.moduleName file)), (.text "__doc__", .none),
          (.text "__package__", .none), (.text "__loader__", .none), (.text "__spec__", .none),
          (.text "__file__", .text file)] := ⟨_, rfl⟩
      obtain ⟨m₁, hm₁⟩ : ∃ m₁, m₁ = (m.add (.dict names)).1 := ⟨_, rfl⟩
      obtain ⟨m₃, hm₃⟩ : ∃ m₃, m₃ = ((m₁.add (.module m.objects.size)).1.add
        (.record [("path", .text file), ("exports", .ref m₁.objects.size)])).1 := ⟨_, rfl⟩
      obtain ⟨m₄, hm₄⟩ : ∃ m₄, m₄ = (m₃.add (.tool .require config file)).1 := ⟨_, rfl⟩
      obtain ⟨m₅, hm₅⟩ : ∃ m₅, m₅ = (m₄.add (.tool .load config file)).1 := ⟨_, rfl⟩
      obtain ⟨builtins, hbuiltins⟩ : ∃ builtins, builtins = [(Value.text "exports",
          Value.ref m₁.objects.size), (.text "require", .ref m₃.objects.size),
          (.text "module", .ref (m₁.add (.module m.objects.size)).1.objects.size),
          (.text "import_", .ref m₄.objects.size), (.text "__dirname__", .text directory)] :=
        ⟨_, rfl⟩
      obtain ⟨m₆, hm₆⟩ : ∃ m₆, m₆ = (m₅.add (.dict builtins)).1 := ⟨_, rfl⟩
      have hmake : Instantiate.makeNames E config file m
          = .done (m₆.setName m.objects.size "__builtins__" (.ref m₅.objects.size))
            (.ok ⟨m.objects.size, m₅.objects.size,
              .ref (m₁.add (.module m.objects.size)).1.objects.size⟩) := by
        unfold Instantiate.makeNames
        rw [hdirectory, hm₆, hbuiltins, hm₅, hm₄, hm₃, hm₁, hnames]
        rfl
      rw [hmake] at h
      cases h
      have hsize : m.objects.size < m₃.objects.size ∧ m₃.objects.size < m₅.objects.size := by
        rw [hm₅, hm₄, Name.size_add, Name.size_add, hm₃, Name.size_add, Name.size_add, hm₁,
          Name.size_add]
        omega
      have hget : m₆.get? m.objects.size = some (.dict names) := by
        rw [hm₆, hm₅, hm₄, hm₃, hm₁]
        iterate 5 refine Name.get?_add_of_some ?_
        exact Name.get?_add_self _ _
      have htool : m₆.get? m₃.objects.size = some (.tool .require config file) := by
        rw [hm₆, hm₅, hm₄]
        iterate 2 refine Name.get?_add_of_some ?_
        exact Name.get?_add_self _ _
      have hgiven : m₆.get? m₅.objects.size = some (.dict builtins) := by
        rw [hm₆]
        exact Name.get?_add_self _ _
      have hget' := Name.get?_setName_self hget "__builtins__" (.ref m₅.objects.size)
      have hgiven' : (m₆.setName m.objects.size "__builtins__" (.ref m₅.objects.size)).get?
          m₅.objects.size = some (.dict builtins) := by
        rw [Name.get?_setName_of_ne (by omega), hgiven]
      refine ⟨fun n hn => ?_, ⟨m₃.objects.size, ?_, ?_⟩, fun n hn => ?_, ⟨_, hget'⟩⟩
      · show (Memory.nameIn? _ m.objects.size n).map some = none
        rw [Memory.nameIn?, hget', hnames]
        simp only [helpers, List.mem_cons, List.not_mem_nil, or_false] at hn
        rcases hn with rfl | rfl | rfl | rfl <;> rfl
      · show Memory.nameIn? _ m₅.objects.size "require" = _
        rw [Memory.nameIn?, hgiven', hbuiltins]
        rfl
      · rw [Name.get?_setName_of_ne (by omega), htool]
        rfl
      · show Memory.nameIn? _ m₅.objects.size n = none
        rw [Memory.nameIn?, hgiven', hbuiltins]
        simp only [languageHelpers, List.mem_cons, List.not_mem_nil, or_false] at hn
        rcases hn with rfl | rfl | rfl <;> rfl

/-- A statement fetches a specifier by the name `require`. If no helper is shadowed, it asks the loader
for the exports of what the specifier stands for in the file, and goes on with them. Whatever else
`require` stands for gets the specifier, and the statement goes on with what it returns. -/
def FetchesByName (resolver : ConfigId → Resolver) (env : Env) (form : Form) (x : Eval Flow) :
    Prop :=
  ∃ f : Fetching resolver env form x,
    (∀ m config path, Unshadowed env m config form.calls →
      (resolver config).apply env.file form.specifier = .ok path →
      ∃ m' p next, f.prepare m = .done m' (.ok p) ∧ x m = .ask m' (.exports config path) next
        ∧ ∀ w v, (next w (.ok v)).Resembles (f.finish p (v.getD .none) w))
    ∧ ∀ m m' p, f.prepare m = .done m' (.ok p) →
      match Name.value? env m' "require" with
      | some g => (x m).Resembles
          (((Engine.ofDepth resolver (f.depth + 1)).call env g [.text form.specifier] [] m').bind
            (f.finish p))
      | none => ∃ m'' e, x m = .done m'' (.error e)

theorem fetchesByName {form : Form} {u : Tree} (hu : u.eraseSpans = form.statement)
    (resolver : ConfigId → Resolver) (depth : Nat) (env : Env) :
    FetchesByName resolver env form
      (Statement.run (Engine.ofDepth resolver (depth + 5)) env u) := by
  obtain ⟨f⟩ := exists_fetching hu resolver depth env
  exact ⟨f, fun m config path h hpath => f.asks h hpath,
    fun m m' p hready => f.resembles_call hready⟩

/-- **Who fetches an import.** Take a source that compiles in module mode and without passes. Each
of its imports becomes statements, each with a specifier that the import declares, and they stand
in what was compiled, also when it is read again. All that such a statement calls by name are
helpers, and it fetches its specifier by the name `require`: from the loader if no helper is
shadowed, and else from what shadows it.

No helper is shadowed when a body begins. As long as none is, `globals`, `getattr` and `dir` are
those of the language, in the comprehensions of the statement too. -/
theorem import_fetches {req : CompileRequest} {compiled : Compiled} {t₀ t : Tree}
    {warnings : List Warning}
    (hcompile : (compile req).outcome = .ok compiled) (hmode : req.moduleMode = true)
    (hpasses : req.passes = []) (hparse : Source.parse req.source = .ok (t₀, warnings))
    (ht : Within isLowered t (DynamicImport.rename t₀)) (himport : isLowered t = true) :
    (∃ statements, lowerNode? ⟨req.file, req.source⟩ t = .ok (some statements)
      ∧ ∀ s ∈ statements,
        (∀ t₁ remarks read, Compile.checked req = .ok (t₁, remarks) →
          read.eraseSpans = t₁.eraseSpans → ∃ u, Part u read ∧ u.eraseSpans = s.eraseSpans)
        ∧ ∃ form : Form, s.eraseSpans = form.statement
          ∧ form.specifier ∈ Dependencies.ofNode true t
          ∧ ∀ u, u.eraseSpans = s.eraseSpans → CallsHelpers u
            ∧ ∀ resolver depth env, FetchesByName resolver env form
              (Statement.run (Engine.ofDepth resolver (depth + 5)) env u))
    ∧ (∀ E config file m m' fresh future,
        Instantiate.makeNames E config file m = .done m' (.ok fresh) →
        Unshadowed (Instantiate.environment file fresh future) m' config helpers)
    ∧ ∀ env m config, Unshadowed env m config helpers →
        (∀ n ∈ languageHelpers, Name.value? env m n = some (.builtin n))
        ∧ ∀ scope entries qualifier, m.get? scope = some (.scope entries) →
          (∀ n ∈ helpers, entries.lookup n = none) →
          Unshadowed (env.inComprehension scope qualifier) m config helpers := by
  refine ⟨?_, fun E config file m m' fresh future h => unshadowed_makeNames h future,
    fun env m config h => ⟨fun n hn => ?_, fun scope entries qualifier hscope hentries =>
      h.enter hscope hentries qualifier⟩⟩
  · have hroot := Compile.isLowered_rename (Source.parse_is hparse).1
    obtain ⟨checked, _, hchecked, -⟩ := Compile.written_of_compile hcompile
    obtain ⟨lowered, hlower, hsame⟩ :=
      Compile.lowered_of_checked hmode hpasses hparse hchecked
    obtain ⟨statements, hnode, hparts⟩ := part_of_lowerTree hlower hroot ht himport
    refine ⟨statements, hnode, fun s hs => ⟨?_, ?_⟩⟩
    · intro t₁ remarks read hchecked' hread
      rw [hchecked] at hchecked'
      cases hchecked'
      have hpart := (hparts s hs).eraseSpans
      rw [← hsame, ← hread] at hpart
      exact Tree.part_of_eraseSpans hpart
    · obtain ⟨form, hform, hmem⟩ := form_of_mem_lowerNode? hnode hs
      refine ⟨form, hform, hmem, fun u hu => ?_⟩
      rw [hform] at hu
      exact ⟨callsHelpers hu, fetchesByName hu⟩
  · refine h.value?_language ?_ hn
    simp only [languageHelpers, helpers, List.mem_cons, List.not_mem_nil, or_false] at hn ⊢
    exact .inr hn

/-- A module that imports another one under its own name. -/
def importsUtil : CompileRequest where
  file := "/app/m.py"
  source := "require = len\nimport util\n"
  moduleMode := true

/-- The first import of a source. -/
def importOf (source : String) : Option Tree := do
  let (t, _) ← (Source.parse source).toOption
  (DynamicImport.rename t).children.find? isLowered

theorem within_of_importOf {source : String} {t : Tree} (h : importOf source = some t) :
    ∃ t₀ warnings, Source.parse source = .ok (t₀, warnings)
      ∧ Within isLowered t (DynamicImport.rename t₀) ∧ isLowered t = true := by
  unfold importOf at h
  cases hparse : Source.parse source with
  | error e => rw [hparse] at h; cases h
  | ok r =>
      obtain ⟨t₀, warnings⟩ := r
      rw [hparse] at h
      change (DynamicImport.rename t₀).children.find? isLowered = some t at h
      have hroot := Compile.isLowered_rename (Source.parse_is hparse).1
      refine ⟨t₀, warnings, rfl, ?_, List.find?_some h⟩
      have hmem := List.mem_of_find?_eq_some h
      generalize DynamicImport.rename t₀ = root at hmem hroot
      obtain ⟨k, s, fs⟩ := root
      obtain ⟨f, hf, ht⟩ := List.mem_flatten.mp hmem
      exact .inside hroot hf ht .self

theorem eq_whole_of_statement {form : Form} {name specifier : String}
    (h : bind name (requireCall specifier) = form.statement) : form = .whole name specifier := by
  cases form with
  | whole name' specifier' =>
      simp only [Form.statement, bind, requireCall, callOf, textLiteral, Tree.node.injEq,
        Kind.name.injEq, List.cons.injEq, Kind.constant.injEq, Constant.text.injEq, and_true,
        true_and] at h
      have hspecifier := congrArg Text.toString h.2
      rw [Text.toString_ofString, Text.toString_ofString] at hspecifier
      rw [h.1, hspecifier]
  | member name' specifier' part =>
      simp [Form.statement, bind, requireCall, callOf, memberOf] at h
  | all specifier' => simp [Form.statement, bind, bindAll] at h

/-- In a new module the import asks the loader. Where `require` is `len`, it gets a length. -/
theorem shadowed_require :
    ∃ t s fresh m env, importOf importsUtil.source = some t
      ∧ lowerNode? ⟨importsUtil.file, importsUtil.source⟩ t = .ok (some [s])
      ∧ Instantiate.makeNames (Engine.ofDepth (fun _ => .relative) 5) 0 importsUtil.file {}
        = .done m (.ok fresh)
      ∧ env = Instantiate.environment importsUtil.file fresh {}
      ∧ (∃ next, Statement.run (Engine.ofDepth (fun _ => .relative) 5) env s m
        = .ask m (.exports 0 "util") next)
      ∧ Statement.run (Engine.ofDepth (fun _ => .relative) 5) env s
          (m.setName fresh.names "require" (.builtin "len"))
        = .done ((m.setName fresh.names "require" (.builtin "len")).setName fresh.names "util"
          (.int 4)) (.ok .next) := by
  have hlowered : (importOf importsUtil.source).map (fun t =>
      (lowerNode? ⟨importsUtil.file, importsUtil.source⟩ t).toOption.map
        (·.map (·.map Tree.eraseSpans)))
      = some (some (some [bind "util" (requireCall "util")])) := by decide +kernel
  obtain ⟨t, ht, hnode⟩ := Option.map_eq_some_iff.mp hlowered
  obtain ⟨t₀, warnings, hparse, hwithin, himport⟩ := within_of_importOf ht
  have hok : (compile importsUtil).outcome.isOk = true := by decide +kernel
  cases hcompile : (compile importsUtil).outcome with
  | error e => rw [hcompile] at hok; cases hok
  | ok compiled =>
  obtain ⟨⟨statements, hstatements, heach⟩, hnew, -⟩ :=
    import_fetches hcompile rfl rfl hparse hwithin himport
  rw [hstatements] at hnode
  obtain ⟨s, rfl, hs⟩ : ∃ s, statements = [s] ∧ s.eraseSpans = bind "util" (requireCall "util") := by
    simpa [Except.toOption, List.map_eq_singleton_iff] using hnode
  obtain ⟨-, form, hform, -, hall⟩ := heach s List.mem_cons_self
  obtain rfl := eq_whole_of_statement (hs.symm.trans hform)
  obtain ⟨fresh, m, hmake⟩ : ∃ fresh m,
      Instantiate.makeNames (Engine.ofDepth (fun _ => .relative) 5) 0 importsUtil.file {}
        = .done m (.ok fresh) := ⟨_, _, rfl⟩
  obtain ⟨f, hasks, hcalls⟩ := (hall s rfl).2 (fun _ => .relative) 0
    (Instantiate.environment importsUtil.file fresh {})
  obtain ⟨hready, hfinish⟩ := f.binds
  have hunshadowed := hnew _ _ _ _ _ _ {} hmake
  refine ⟨t, s, fresh, m, _, ht, hstatements, hmake, rfl, ?_, ?_⟩
  · obtain ⟨m', p, next, hprepare, hrun, -⟩ :=
      hasks m 0 "util" (hunshadowed.mono (by simp [Form.calls, helpers])) rfl
    obtain ⟨p', hp'⟩ := hready m
    rw [hp'] at hprepare
    cases hprepare
    exact ⟨next, hrun⟩
  · obtain ⟨entries, hentries⟩ := hunshadowed.globals
    change m.get? fresh.names = _ at hentries
    have hrequire : Name.value? (Instantiate.environment importsUtil.file fresh {})
        (m.setName fresh.names "require" (.builtin "len")) "require" = some (.builtin "len") := by
      refine Name.value?_of_bound (v := some (.builtin "len")) ?_
      show (Memory.nameIn? _ fresh.names "require").map some = _
      rw [Name.nameIn?_setName_self hentries]
      rfl
    obtain ⟨p, hp⟩ := hready (m.setName fresh.names "require" (.builtin "len"))
    have hrun := hcalls _ _ p hp
    rw [hrequire] at hrun
    refine Course.Resembles.eq_ok (hrun.trans ?_)
    show (f.finish p (.int 4) _).Resembles _
    rw [hfinish]
    exact .refl _

end Lowering

end SourceLoader
