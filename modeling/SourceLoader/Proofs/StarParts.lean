import SourceLoader.Proofs.Reading
import SourceLoader.Proofs.Shadowing

/-!
# The parts of a star import

A star import becomes one statement, with two comprehensions in it: one for the names that the
module hands out, and one for the values that it has under these names. Here each part is run by
itself.
-/

namespace SourceLoader

open Memory (Keeps)
open Engine (ofDepth)

variable {resolver : ConfigId → Resolver} {n : Nat} {env : Env} {m w : Memory} {v : Value}

theorem Memory.Keeps.step {changed : List Nat} {m v w : Memory} (h : Keeps [] m v)
    (h' : Keeps changed v w) (hnew : ∀ a ∈ changed, m.objects.size ≤ a) : Keeps [] m w :=
  ((h.mono (List.nil_subset _)).trans h').of_new hnew

namespace Lowering

open Tree (eraseSpans_eq_node_iff)

/-! ## Expressions -/

theorem expr_readName {t : Tree} {id : String} (ht : t.eraseSpans = readName id)
    (hid : id.startsWith "__" = false) (hv : Name.value? env m id = some v) :
    (ofDepth resolver (n + 1)).expr env t m = .done m (.ok v) := by
  obtain ⟨s, rfl⟩ := eraseSpans_eq_readName ht
  have hread := Name.read_eq (m := m) (ownName_eq hid env)
  rw [hv] at hread
  have hexpr := Expression.resembles_eval (ofDepth resolver n) env
    (.node (.name id .load) s []) m
  change ((ofDepth resolver (n + 1)).expr env _ m).Resembles (Name.read env id m) at hexpr
  rw [hread] at hexpr
  exact hexpr.eq_ok

theorem expr_textLiteral {t : Tree} {text : String} (ht : t.eraseSpans = textLiteral text) :
    (ofDepth resolver (n + 1)).expr env t m = .done m (.ok (.text text)) := by
  obtain ⟨s, rfl⟩ := eraseSpans_eq_textLiteral ht
  have hexpr := Expression.resembles_eval (ofDepth resolver n) env
    (.node (.constant (.text (Text.ofString text) false)) s []) m
  rw [Expression.eval, Expression.ofConstant, Text.toString_ofString] at hexpr
  exact hexpr.eq_ok

/-- A call of what an expression comes to. -/
theorem resembles_callOf (E : Engine) (env : Env) {t function : Tree} {arguments : List Tree}
    (ht : t.eraseSpans = callOf function arguments)
    (hplain : ∀ a ∈ arguments, Target.isStarred a = false) :
    ∃ f args, f.eraseSpans = function ∧ args.map Tree.eraseSpans = arguments
      ∧ ((Engine.deepen E).expr env t).Resembles (do
        let g ← E.expr env f
        let vs ← Eval.each (E.expr env) args
        E.call env g vs []) := by
  obtain ⟨s, f, args, rfl, hf, hargs⟩ := eraseSpans_eq_callOf ht
  refine ⟨f, args, hf, hargs, (Expression.resembles_eval _ _ _).trans ?_⟩
  rw [Expression.eval_call]
  · exact .refl _
  · intro a ha
    have ha' := hplain a.eraseSpans (hargs ▸ List.mem_map_of_mem ha)
    rwa [Target.isStarred, Tree.kind_eraseSpans] at ha'

theorem call_builtin (name : String) (args : List Value) (m : Memory) :
    (ofDepth resolver (n + 1)).call env (.builtin name) args [] m
      = Builtin.call (ofDepth resolver n) env name args [] m := by
  -- the steps of the function are kept out of sight: they are too many to be looked at
  obtain ⟨next, hcall, hnext⟩ : ∃ next : Memory → Eval Value,
      Invoke.call (ofDepth resolver n) env (.builtin name) args [] m = (Eval.memory >>= next) m
        ∧ next m = Builtin.call (ofDepth resolver n) env name args [] := by
    unfold Invoke.call
    exact ⟨_, rfl, rfl⟩
  refine hcall.trans ?_
  change next m m = _
  rw [hnext]

/-- A call of a function of the language that is not shadowed. -/
theorem ends_callOf_builtin {t : Tree} {name : String} {arguments : List Tree}
    (ht : t.eraseSpans = callOf (readName name) arguments)
    (hplain : ∀ a ∈ arguments, Target.isStarred a = false)
    (hname : name.startsWith "__" = false) (hbuiltin : Name.value? env m name = some (.builtin name))
    (given : List Value → Memory → Prop) {good : Value → Memory → Prop} {bad : Memory → Prop}
    (hargs : ∀ args : List Tree, args.map Tree.eraseSpans = arguments →
      (Eval.each ((ofDepth resolver (n + 1)).expr env) args).Ends m given bad)
    (hcall : ∀ vs w, given vs w →
      (Builtin.call (ofDepth resolver n) env name vs []).Ends w good bad) :
    ((ofDepth resolver (n + 2)).expr env t).Ends m good bad := by
  obtain ⟨f, args, hf, hsame, hexpr⟩ :=
    resembles_callOf (ofDepth resolver (n + 1)) env ht hplain
  refine .of_resembles hexpr (.step (expr_readName hf hname hbuiltin) ?_)
  refine (hargs args hsame).bind fun vs w hvs => ?_
  unfold Eval.Ends
  rw [call_builtin]
  exact hcall vs w hvs

/-! ## The public names -/

/-- A name that does not begin with an underscore. -/
def isPublic (name : String) : Bool := name.toList.head? ≠ some '_'

theorem isPublic_eq (name : String) :
    isPublic name = !("_".toList.isPrefixOf name.toList) := by
  have hunderscore : "_".toList = ['_'] := rfl
  rw [isPublic, hunderscore]
  cases name.toList with
  | nil => rfl
  | cons c cs =>
      by_cases hc : c = '_'
      · subst hc
        rfl
      · have hne : ('_' == c) = false := beq_false_of_ne (Ne.symm hc)
        simp [List.isPrefixOf, hne, hc]

theorem method_startswith (E : Engine) (env : Env) (name : String) (v : Value) (m : Memory) :
    ∃ rest : Eval Value, Method.call E env (.text name) "startswith" [v] [] m
      = (TextMethod.call name "startswith" [v] >>= fun found => match found with
        | some v => pure v
        | none => rest) m := ⟨_, rfl⟩

theorem call_method {a : Nat} {receiver : Value} {name : String}
    (hmethod : m.get? a = some (.builtinMethod receiver name)) (args : List Value) :
    (ofDepth resolver (n + 1)).call env (.ref a) args [] m
      = Method.call (ofDepth resolver n) env receiver name args [] m := by
  have hmemory : Eval.memory m = .done m (.ok m) := rfl
  change Invoke.call (ofDepth resolver n) env (.ref a) args [] m = _
  unfold Invoke.call
  rw [Eval.bind_apply, hmemory]
  simp only [Course.bind, Course.andThen, Memory.object?, hmethod]

theorem call_startswith (name : String) {a : Nat}
    (hmethod : m.get? a = some (.builtinMethod (.text name) "startswith")) :
    (ofDepth resolver (n + 1)).call env (.ref a) [.text "_"] [] m
      = .done m (.ok (.bool (!isPublic name))) := by
  obtain ⟨rest, htext⟩ :=
    method_startswith (ofDepth resolver n) env name (.text "_") m
  have hfound : TextMethod.call name "startswith" [.text "_"] m
      = (TextMethod.meets "startswith" false name (.text "_") >>= fun v => pure (some v)) m := rfl
  have hmeets : TextMethod.meets "startswith" false name (.text "_") m
      = .done m (.ok (.bool (!isPublic name))) := by
    unfold TextMethod.meets
    rw [Eval.bind_apply, isPublic_eq, Bool.not_not]
    change Course.done m (.ok (Value.bool (["_"].any fun p => p.toList.isPrefixOf name.toList))) = _
    rw [List.any_cons, List.any_nil, Bool.or_false]
  rw [call_method hmethod, htext, Eval.bind_apply, hfound, Eval.bind_apply, hmeets]
  rfl

theorem ends_publicTest {t : Tree} (ht : t.eraseSpans = publicTest) {name : String}
    (hname : Name.value? env m "_public" = some (.text name)) :
    ((ofDepth resolver (n + 4)).expr env t).Ends m
      (fun v w => v = .bool (isPublic name) ∧ Keeps [] m w) fun _ => False := by
  simp only [publicTest, eraseSpans_eq_node_iff, List.map_eq_cons_iff, List.map_eq_nil_iff] at ht
  obtain ⟨s, _, rfl, -, _, _, rfl, ⟨operand, _, rfl, hoperand, rfl⟩, rfl⟩ := ht
  obtain ⟨f, args, hf, hargs, hcall⟩ := resembles_callOf (ofDepth resolver (n + 2)) env
    hoperand (by simp [textLiteral, Target.isStarred, Tree.kind])
  obtain ⟨s', receiver, rfl, hreceiver⟩ := eraseSpans_eq_memberOf hf
  obtain ⟨a, rfl, ha⟩ := List.map_eq_singleton_iff.mp hargs
  have hpublic : "_public".startsWith "__" = false := by decide +kernel
  have hmethod : ((ofDepth resolver (n + 2)).expr env
      (.node (.attribute "startswith" .load) s' [[receiver]]) m)
        = .done (m.add (.builtinMethod (.text name) "startswith")).1
          (.ok (.ref m.objects.size)) := by
    have hexpr := Expression.resembles_eval (ofDepth resolver (n + 1)) env
      (.node (.attribute "startswith" .load) s' [[receiver]]) m
    have heval : Expression.eval (ofDepth resolver (n + 1)) env
        (.node (.attribute "startswith" .load) s' [[receiver]])
          = (ofDepth resolver (n + 1)).expr env receiver >>= fun v =>
            Attribute.get v (env.ownName "startswith") := rfl
    rw [heval, Eval.bind_apply, expr_readName hreceiver hpublic hname,
      ownName_eq (by decide +kernel)] at hexpr
    exact Course.Resembles.eq_ok hexpr
  have hoperand' : ((ofDepth resolver (n + 3)).expr env operand).Ends m
      (fun v w => v = .bool (!isPublic name) ∧ Keeps [] m w) fun _ => False := by
    refine .of_resembles hcall (.step hmethod ?_)
    have hvalues : Eval.each ((ofDepth resolver (n + 2)).expr env) [a]
        (m.add (.builtinMethod (.text name) "startswith")).1
          = .done (m.add (.builtinMethod (.text name) "startswith")).1 (.ok [.text "_"]) := by
      rw [Eval.each, Eval.bind_apply, expr_textLiteral ha]
      rfl
    refine .step hvalues (.of_ok (call_startswith name ?_) ⟨rfl, .add _ _ _⟩)
    exact Name.get?_add_self _ _
  have heval : Expression.eval (ofDepth resolver (n + 3)) env
      (.node (.unaryOp .not) s [[operand]]) = (ofDepth resolver (n + 3)).expr env operand >>=
        fun v => Operator.unary .not v := rfl
  refine .of_resembles (Expression.resembles_eval _ _ _) ?_
  rw [heval]
  refine hoperand'.bind ?_
  rintro _ w ⟨rfl, hkeeps⟩
  refine .of_ok (a := .bool (!!isPublic name)) rfl ⟨?_, hkeeps⟩
  rw [Bool.not_not]

/-- The names that `dir` lists. -/
theorem ends_dirCall {base : Memory} (hbase : Keeps [] base m) (hmodule : IsModule base v)
    (hlisting : Builtin.listed? base v ≠ none ∨ Builtin.Mixed base v)
    (hdir : Name.Stands env m "dir" (.builtin "dir")) (hstar : Name.Stands env m "_star_module" v)
    {t : Tree} (ht : t.eraseSpans = callOf (readName "dir") [readName "_star_module"]) :
    ((ofDepth resolver (n + 2)).expr env t).Ends m
      (fun x w => Keeps [] m w ∧ ∃ all, Builtin.listed? base v = some all
        ∧ Subscript.elements? w x = some (all.map .text))
      (fun w => Keeps [] m w ∧ Builtin.listed? base v = none) := by
  refine ends_callOf_builtin ht (by simp [readName, Target.isStarred, Tree.kind])
    (by decide +kernel) hdir.now (fun vs w => vs = [v] ∧ w = m) ?_ ?_
  · intro args hargs
    obtain ⟨a, rfl, ha⟩ := List.map_eq_singleton_iff.mp hargs
    refine .of_ok (w := m) (a := [v]) ?_ ⟨rfl, rfl⟩
    rw [Eval.each, Eval.bind_apply, expr_readName ha (by decide +kernel) hstar.now]
    rfl
  · rintro _ _ ⟨rfl, rfl⟩
    rcases hlisting with hlisted | hmixed
    · obtain ⟨all, hall⟩ := Option.ne_none_iff_exists'.mp hlisted
      refine .of_ok (Builtin.dir_listed hmodule hbase hall _ _) ⟨.add _ _ _, all, hall, ?_⟩
      unfold Subscript.elements?
      simp only [Memory.object?, Name.get?_add_self]
    · exact (Builtin.dir_mixed hmixed hbase _ _).mono (fun _ _ hfalse => hfalse.elim)
        fun w hkeeps => ⟨hkeeps, hmixed.listed?_eq_none⟩

/-- The comprehension takes one name after the other, and keeps the public ones. -/
theorem ends_public {x : Value} {all : List String} {out : Nat}
    (helements : Subscript.elements? m x = some (all.map .text))
    (hout : m.get? out = some (.list [])) (hglobals : env.globalNames = []) {element test source : Tree}
    (helement : element.eraseSpans = readName "_public") (htest : test.eraseSpans = publicTest)
    (s s' : Option Span) :
    (Expression.inside (ofDepth resolver (n + 4)) env "<listcomp>"
      [.node (.comprehension false) s [[.node (.name "_public" .store) s' []], [source], [test]]]
      (Expression.putElement (ofDepth resolver (n + 4)) element (.ref out)) x).Ends m
      (fun _ w => Keeps [out] m w
        ∧ w.get? out = some (.list ((all.filter isPublic).map .text))) fun _ => False := by
  have hpublic : env.ownName "_public" = "_public" := ownName_eq (by decide +kernel) env
  have hscope : (m.add (.scope [("_public", none)])).1.get? m.objects.size
      = some (.scope [("_public", none)]) := Name.get?_add_self _ _
  have hne : m.objects.size ≠ out := (Memory.lt_of_get? hout).ne'
  refine Expression.ends_inside hglobals fun qualifier => ?_
  refine (Expression.ends_clauses .text all (fun passed w => Keeps [out] m w
      ∧ w.get? out = some (.list ((passed.filter isPublic).map .text))
      ∧ ∃ y, w.get? m.objects.size = some (.scope [("_public", y)]))
    (Engine.elements_ofDepth (elements?_keeps (.add _ _ _) helements))
    ⟨.add _ _ _, Name.get?_add_of_some hout, none, hscope⟩ ?_).imp
    fun _ w h => ⟨h.1, h.2.1⟩
  rintro passed c rest w - ⟨hkeeps, hlist, y, hvariable⟩
  -- the variable is bound
  obtain ⟨w₁, hw₁⟩ : ∃ w₁, w₁ = w.put m.objects.size (.scope [("_public", some (.text c))]) :=
    ⟨_, rfl⟩
  have hassign : (ofDepth resolver (n + 4)).assign (env.inComprehension m.objects.size qualifier)
      (.node (.name "_public" .store) s' []) (.text c) w = .done w₁ (.ok ()) := by
    rw [hw₁]
    exact Name.write_variable hpublic hglobals hvariable rfl _
  have hbound : w₁.get? m.objects.size = some (.scope [("_public", some (.text c))]) := by
    rw [hw₁]
    exact Memory.get?_put_self (Memory.lt_of_get? hvariable) _
  have hlist₁ : w₁.get? out = some (.list ((passed.filter isPublic).map .text)) := by
    rw [hw₁, Name.get?_put_of_ne (Ne.symm hne), hlist]
  have hkeeps₁ : Keeps [out] m w₁ := hw₁ ▸ hkeeps.put_new (Nat.le_refl _) _
  have hvalue := Name.Stands.of_variable "_public" hglobals hbound rfl qualifier
  refine .step hassign ?_
  refine (Expression.ends_conditions (ends_publicTest htest hvalue.now)).bind ?_
  rintro holds w₂ ⟨rfl, hkeeps₂⟩
  have hlist₂ := hkeeps₂.object List.not_mem_nil hlist₁
  have hbound₂ := hkeeps₂.object List.not_mem_nil hbound
  have hkeeps₂' : Keeps [out] m w₂ := hkeeps₁.trans (hkeeps₂.mono (List.nil_subset _))
  rw [List.filter_append, List.filter_singleton]
  cases hc : isPublic c with
  | false =>
      refine .of_ok rfl ⟨hkeeps₂', ?_, _, hbound₂⟩
      simpa using hlist₂
  | true =>
      refine .step (expr_readName helement (by decide +kernel) (hvalue.keeps hkeeps₂).now)
        (.of_ok (Expression.grow_ref _ hlist₂)
          ⟨hkeeps₂'.trans (.put _ _ _), ?_, some (.text c), ?_⟩)
      · rw [Memory.get?_put_self (Memory.lt_of_get? hlist₂)]
        simp [Expression.pushItem]
      · rw [Name.get?_put_of_ne hne, hbound₂]

/-- **The list of the public names**, unless `dir` cannot list the names. -/
theorem ends_publicNames {base : Memory} (hbase : Keeps [] base m) (hmodule : IsModule base v)
    (hlisting : Builtin.listed? base v ≠ none ∨ Builtin.Mixed base v)
    (hglobals : env.globalNames = []) (hdir : Name.Stands env m "dir" (.builtin "dir"))
    (hstar : Name.Stands env m "_star_module" v) {t : Tree} (ht : t.eraseSpans = publicNames) :
    ((ofDepth resolver (n + 5)).expr env t).Ends m
      (fun x w => Keeps [] m w ∧ ∃ all, Builtin.listed? base v = some all
        ∧ Subscript.elements? w x = some ((all.filter isPublic).map .text))
      (fun w => Keeps [] m w ∧ Builtin.listed? base v = none) := by
  simp only [publicNames, eraseSpans_eq_node_iff (k := .listComp), List.map_eq_cons_iff,
    List.map_eq_nil_iff] at ht
  obtain ⟨s, _, rfl, -, _, _, rfl, ⟨element, _, rfl, helement, rfl⟩, _, _, rfl,
    ⟨clause, _, rfl, hclause, rfl⟩, rfl⟩ := ht
  obtain ⟨s', s'', source, tests, rfl, hsource, htests⟩ := eraseSpans_eq_clauseOf hclause
  obtain ⟨test, rfl, htest⟩ := List.map_eq_singleton_iff.mp htests
  refine .of_resembles (Expression.resembles_eval _ _ _) ?_
  rw [Expression.eval_listComp]
  have hadd : Keeps [] m (m.add (.list [])).1 := .add _ _ _
  have hempty : (m.add (.list [])).1.get? m.objects.size = some (.list []) := Name.get?_add_self _ _
  have hadded : Eval.add (.list []) m = .done (m.add (.list [])).1 (.ok (.ref m.objects.size)) := rfl
  refine .step hadded ?_
  rw [Expression.comprehend_eq, Eval.bind_assoc]
  refine Eval.Ends.bind ((ends_dirCall (hbase.trans hadd) hmodule hlisting (hdir.keeps hadd)
    (hstar.keeps hadd) hsource).mono (fun _ _ h => h) fun w h => ⟨hadd.trans h.1, h.2⟩) ?_
  rintro x w ⟨hkeeps, all, hall, helements⟩
  refine (ends_public helements (hkeeps.object List.not_mem_nil hempty) hglobals helement htest
    s' s'').of_safe.bind ?_
  rintro _ w' ⟨hkeeps', hlist⟩
  refine .of_ok rfl ⟨(hadd.trans hkeeps).step hkeeps' (by simp), all, hall, ?_⟩
  unfold Subscript.elements?
  simp only [Memory.object?, hlist]

/-! ## The names and the values -/

/-- The names that a module hands out: those that it lists itself, or else its public ones. -/
def HandsOut (m : Memory) (v : Value) (ns : List String) : Prop :=
  Lists m v ns ∨ ¬ Attribute.Has m v "__all__"
    ∧ ∃ all, Builtin.listed? m v = some all ∧ ns = all.filter isPublic

theorem ends_listedNames {base : Memory} (hbase : Keeps [] base m) (hmodule : IsModule base v)
    (hlisting : Builtin.listed? base v ≠ none ∨ Builtin.Mixed base v)
    (hnames : Builtin.listed? base v ≠ none → Attribute.Has base v "__all__" →
      ∃ ns, Lists base v ns)
    (hglobals : env.globalNames = []) (hdir : Name.Stands env m "dir" (.builtin "dir"))
    (hgetattr : Name.Stands env m "getattr" (.builtin "getattr"))
    (hstar : Name.Stands env m "_star_module" v) {t : Tree} (ht : t.eraseSpans = listedNames) :
    ((ofDepth resolver (n + 6)).expr env t).Ends m
      (fun x w => Keeps [] m w ∧ Builtin.listed? base v ≠ none ∧ ∃ ns, HandsOut base v ns
        ∧ Subscript.elements? w x = some (ns.map .text))
      (fun w => Keeps [] m w ∧ Builtin.listed? base v = none) := by
  refine ends_callOf_builtin ht
    (by simp [readName, textLiteral, publicNames, Target.isStarred, Tree.kind]) (by decide +kernel)
    hgetattr.now (fun vs w => ∃ x all, vs = [v, .text "__all__", x] ∧ Keeps [] m w
      ∧ Builtin.listed? base v = some all
      ∧ Subscript.elements? w x = some ((all.filter isPublic).map .text)) ?_ ?_
  · intro args hargs
    obtain ⟨star, _, rfl, hstar', hargs⟩ := List.map_eq_cons_iff.mp hargs
    obtain ⟨all, _, rfl, hall, hargs⟩ := List.map_eq_cons_iff.mp hargs
    obtain ⟨list, rfl, hlist⟩ := List.map_eq_singleton_iff.mp hargs
    refine .step (expr_readName hstar' (by decide +kernel) hstar.now) ?_
    rw [Eval.each, Eval.each, Eval.bind_assoc]
    refine .step (expr_textLiteral hall) ?_
    simp only [Eval.each, Eval.bind_assoc, Eval.pure_bind]
    refine (ends_publicNames hbase hmodule hlisting hglobals hdir hstar hlist).bind ?_
    rintro x w ⟨hkeeps, all, hall, helements⟩
    exact .of_ok rfl ⟨x, all, rfl, hkeeps, hall, helements⟩
  · rintro _ w ⟨x, all, rfl, hkeeps, hall, helements⟩
    have hcall : Builtin.call (ofDepth resolver (n + 4)) env "getattr" [v, .text "__all__", x] [] w
        = (Attribute.get? v "__all__" >>= fun found => pure (found.getD x)) w := rfl
    have hlisted : Builtin.listed? base v ≠ none := by simp [hall]
    by_cases hhas : Attribute.Has base v "__all__"
    · obtain ⟨ns, hns⟩ := hnames hlisted hhas
      obtain ⟨w', y, hread, hkeeps', hy⟩ := hns.read hmodule (hbase.trans hkeeps)
      refine .of_ok (w := w') (a := y) ?_ ⟨hkeeps.trans hkeeps', hlisted, ns, .inl hns, hy⟩
      rw [hcall, Eval.bind_apply, hread]
      rfl
    · obtain ⟨w', hread, hkeeps'⟩ := Attribute.get?_of_not_has hmodule (hbase.trans hkeeps) hhas
      refine .of_ok (w := w') (a := x) ?_ ⟨hkeeps.trans hkeeps', hlisted, _,
        .inr ⟨hhas, all, hall, rfl⟩, elements?_keeps hkeeps' helements⟩
      rw [hcall, Eval.bind_apply, hread]
      rfl

/-- A module is read under a name, and a value is found. -/
def ReadAs (m : Memory) (v : Value) (name : String) (x : Value) : Prop :=
  ∃ w w', Keeps [] m w ∧ Attribute.get v name w = .done w' (.ok x)

theorem ends_listedValue {base : Memory} (hbase : Keeps [] base m) (hmodule : IsModule base v)
    (hgetattr : Name.Stands env m "getattr" (.builtin "getattr"))
    (hstar : Name.Stands env m "_star_module" v) {name : String}
    (hname : Name.Stands env m "_star_name" (.text name)) {t : Tree}
    (ht : t.eraseSpans = listedValue) :
    ((ofDepth resolver (n + 2)).expr env t).Ends m
      (fun x w => Keeps [] m w ∧ Attribute.Has base v name ∧ ReadAs base v name x)
      (fun w => Keeps [] m w ∧ ¬ Attribute.Has base v name) := by
  refine ends_callOf_builtin ht (by simp [readName, Target.isStarred, Tree.kind])
    (by decide +kernel) hgetattr.now (fun vs w => vs = [v, .text name] ∧ w = m) ?_ ?_
  · intro args hargs
    obtain ⟨star, _, rfl, hstar', hargs⟩ := List.map_eq_cons_iff.mp hargs
    obtain ⟨a, rfl, ha⟩ := List.map_eq_singleton_iff.mp hargs
    refine .step (expr_readName hstar' (by decide +kernel) hstar.now) ?_
    rw [Eval.each, Eval.each, Eval.bind_assoc]
    refine .step (expr_readName ha (by decide +kernel) hname.now) (.of_ok rfl ⟨rfl, rfl⟩)
  · rintro _ _ ⟨rfl, rfl⟩
    have hcall : Builtin.call (ofDepth resolver n) env "getattr" [v, .text name] []
        = Attribute.get v name := rfl
    rw [hcall]
    by_cases hhas : Attribute.Has base v name
    · obtain ⟨w', x, hread, hkeeps⟩ := Attribute.get_of_has hmodule hbase hhas
      exact .of_ok hread ⟨hkeeps, hhas, _, w', hbase, hread⟩
    · obtain ⟨w', e, hread, hkeeps⟩ := Attribute.get_of_not_has hmodule hbase hhas
      exact .of_error hread ⟨hkeeps, hhas⟩

end Lowering

end SourceLoader
