import SourceLoader.Proofs.Marks.Operator
import SourceLoader.Syntax.Grammar.Atom
import SourceLoader.Syntax.Grammar.Target

/-!
# Atoms, calls and targets lie between marks

A call begins where its function begins. If it declares something, its function is a name, so that
the place where it begins is the place of a word (`callStep_reads`).
-/

namespace SourceLoader.Grammar

open Parser Dependencies

variable {g : Rules} {v : Survey} {i j : ℕ}

/-! ## Comprehensions -/

theorem forClause_reads (hg : g.Lays) (i : ℕ) : (forClause g).Reads v i (Laid v i) := by
  have hbehind (isAsync : Bool) (j : ℕ) (target : Tree) (hj : i ≤ j) (htarget : Laid v i j target) :
      Parser.Reads (do
        let iterable ← g.one .disjunction
        let conditions ← many (do let _ ← keyword "if"; g.one .disjunction)
        return .node (.comprehension isAsync) none [[target], [iterable], conditions])
        v j (Laid v i) := by
    refine (hg.one .disjunction).bind fun k iterable hk hiterable => ?_
    refine (Reads.manyBehind (fun _ => .keyword _) fun _ => hg.one .disjunction).bind
      fun l conditions hl hconditions => ?_
    exact .ret (Makes.row rfl (.cons (.one htarget)
      (.cons (.one hiterable) (.cons hconditions.whole .nil))) (by omega)
      |>.laid none)
  have hbefore (j : ℕ) (hj : i ≤ j) : Parser.Reads (do
      let _ ← keyword "for"
      let target ← g.one .starTargets
      let _ ← keyword "in"
      return target) v j (Laid v i) :=
    .skip (.keyword _) fun k _ hk => (hg.one .starTargets).bind fun _ _ _ htarget =>
      .skip (.keyword _) fun _ _ hm => .ret (htarget.mono (hj.trans hk) hm)
  exact .commit (.skip (.keyword _) fun j _ hj => hbefore j hj) (hbehind true)
    (.commit (hbefore i le_rfl) (hbehind false) (.diagnose _))

theorem forClauses_reads (hg : g.Lays) : (forClauses g).Reads v i (Row (Laid v) i) :=
  .many1 (forClause_reads hg)

theorem comprehension_reads (hg : g.Lays) {k : Kind} (opening closing : String)
    {element : Parser Tree} (hk : k.declares = false)
    (helement : ∀ i, element.Reads v i (Laid v i)) :
    (comprehension g k opening closing element).Reads v i fun j t => Laid v i j t ∧ i < j := by
  refine .firstOf (.or ?_ (.or (.diagnose _) .none_left))
  refine .locatedAs (P := fun j r => Makes v i j r ∧ i < j) ?_
    fun j r span _ _ _ _ hr => ⟨hr.1.laid (some span), hr.2⟩
  refine (Reads.punct _).bind fun j _ hj hopened => (helement j).bind fun l e hl he => ?_
  exact (hg.many .forClauses).bind fun m clauses hm hclauses => .skip (.punct _) fun n _ hn =>
    .ret ⟨.row hk (.cons (.one he) (.cons hclauses.whole .nil)) (by omega), by omega⟩

theorem generator_reads (hg : g.Lays) : (generator g).Reads v i fun j t => Laid v i j t ∧ i < j :=
  comprehension_reads hg _ _ rfl fun _ =>
    .firstOf (.or (assignmentExpression_reads hg) (.or (expressionAlone_reads hg) .none_left))

/-! ## Displays -/

theorem listDisplay_reads (hg : g.Lays) : (listDisplay g).Reads v i (Laid v i) :=
  .located (.skip (.punct _) fun _ _ hj =>
    (Reads.opt (hg.many .starNamedExpressions)).bind fun _ _ hk helements =>
      .skip (.punct _) fun _ _ hl => .ret (.row rfl (.cons (.getD helements) .nil) (by omega)))

theorem tupleDisplay_reads (hg : g.Lays) : (tupleDisplay g).Reads v i (Laid v i) := by
  refine .located (.skip (.punct _) fun j _ hj => ?_)
  refine Reads.bind (.opt (P := Row (Laid v) j) ?_) fun _ elements hk helements =>
    .skip (.punct _) fun _ _ hl => .ret (.row rfl (.cons (.getD helements) .nil) (by omega))
  refine (hg.one .starNamedExpression).bind fun k first hk hfirst =>
    .skip (.punct _) fun l _ hl => ?_
  exact (Reads.opt (hg.many .starNamedExpressions)).bind fun _ others hm hothers =>
    .ret (.push hfirst (.getD hothers hm) ⟨hk, hl⟩)

theorem group_reads (hg : g.Lays) : (group g).Reads v i (Laid v i) := by
  refine .firstOf (.or (.skip (.punct _) fun j _ hj => ?_) (.or (.diagnose _) .none_left))
  exact Reads.bind
    (.firstOf (.or (hg.one .yieldExpression) (.or (hg.one .namedExpression) .none_left)))
    fun k e hk he => .skip (.punct _) fun _ _ hl => .ret (he.mono hj hl)

/-- A key is read before its value. -/
theorem keyValue_reads (hg : g.Lays) (i : ℕ) : (keyValue g).Reads v i fun j pair =>
    ∃ k l, i ≤ k ∧ k ≤ l ∧ l ≤ j ∧ Laid v i k pair.1 ∧ Laid v l j pair.2 :=
  (hg.one .expression).bind fun k _ hk hkey => .skip (.punct _) fun l _ hl =>
    (hg.one .expression).bind fun _ _ hm hvalue => .ret ⟨k, l, hk, hl, hm, hkey, hvalue⟩

theorem entry_reads (hg : g.Lays) (i : ℕ) : (entry g).Reads v i fun j pair =>
    Laid v i j pair.1 ∧ Laid v i j pair.2 := by
  refine .firstOf (.or (.skip (.punct _) fun j _ hj => ?_) (.or ?_ .none_left))
  · exact (hg.one .bitOr).bind fun k _ _ hmapping =>
      .ret ⟨(missing_still _).laid i k, hmapping.mono hj le_rfl⟩
  · refine (keyValue_reads hg i).mono fun j pair _ h => ?_
    obtain ⟨k, l, hk, hl, hj, hkey, hvalue⟩ := h
    exact ⟨hkey.mono le_rfl (hl.trans hj), hvalue.mono (hk.trans hl) le_rfl⟩

/-- Keys and values are read in turns, but are listed one after the other. -/
theorem dictDisplay_reads (hg : g.Lays) : (dictDisplay g).Reads v i (Laid v i) := by
  refine .firstOf (.or (.located (.skip (.punct _) fun j _ hj => ?_))
    (.or (.diagnose _) .none_left))
  refine Reads.bind (.opt (P := Row (fun i j pair => Laid v i j pair.1 ∧ Laid v i j pair.2) j) ?_)
    fun k entries hk hentries => .skip (.punct _) fun l _ hl => .ret (.reordered rfl rfl ?_)
  · exact (Reads.sepBy1 (entry_reads hg) fun _ => .punct _).bind fun _ _ _ hentries =>
      .skip (.opt (.punct _)) fun _ _ hl => .ret (hentries.mono le_rfl hl)
  · have hall : ∀ pair ∈ entries.getD [], Laid v i l pair.1 ∧ Laid v i l pair.2 := by
      intro pair hpair
      obtain ⟨i', j', hi', -, hj', hkey, hvalue⟩ := (Row.getD hentries hk).mem hpair
      have hend : j' ≤ l := hj'.trans hl
      exact ⟨hkey.mono (hj.trans hi') hend, hvalue.mono (hj.trans hi') hend⟩
    simp only [AllLaid, List.forall_mem_cons, List.forall_mem_map, List.not_mem_nil, false_implies,
      implies_true, and_true]
    exact ⟨fun pair hpair => (hall pair hpair).1, fun pair hpair => (hall pair hpair).2⟩

theorem setDisplay_reads (hg : g.Lays) : (setDisplay g).Reads v i (Laid v i) :=
  .located (.skip (.punct _) fun _ _ hj => (hg.many .starNamedExpressions).bind
    fun _ _ hk helements => .skip (.punct _) fun _ _ hl =>
      .ret (.row rfl (.cons helements.whole .nil) (by omega)))

theorem dictComprehension_reads (hg : g.Lays) : (dictComprehension g).Reads v i (Laid v i) := by
  refine .firstOf (.or (.located (.skip (.punct _) fun j _ hj => ?_))
    (.or (.diagnose _) .none_left))
  refine (keyValue_reads hg j).bind fun m pair hm ⟨k, l, hk, hl, hlm, hkey, hvalue⟩ => ?_
  exact (hg.many .forClauses).bind fun n clauses hn hclauses => .skip (.punct _) fun _ _ hend =>
    .ret (.row rfl (.cons (.one hkey) (.cons (.one hvalue) (.cons hclauses.whole .nil))) (by omega))

/-! ## Atoms -/

theorem number_reads : number.Reads v i fun _ t =>
    Still v.imports t ∧ ∀ id usage, t.kind ≠ .name id usage := by
  refine .skip (.kind _) fun _ t _ => ?_
  split
  · exact .ret ⟨leaf_still rfl t _, fun _ _ => Kind.noConfusion⟩
  · exact .faultAtLine _ _

theorem atom_reads (hg : g.Lays) :
    (atom g).Reads v i fun j t => Laid v i j t ∧ Headed v i t := by
  have hword (t : Token) (c : Constant) : ReadsSeen (do advance; return leaf t (.constant c)) v i
      fun j t => Laid v i j t ∧ Headed v i t :=
    Reads.advance (.ret ⟨(leaf_still rfl t _).laid _ _, fun _ _ hname => nomatch hname⟩)
  -- Behind an opening bracket there may be a name, and then the bracket is where it begins.
  have hopened {t : Token} (ht : v.lexer.TokenAt i t) (hkind : t.kind = .punct) {p : Parser Tree}
      (hp : p.Reads v i (Laid v i)) : p.ReadsSeen v i fun j t => Laid v i j t ∧ Headed v i t := by
    have htword : t.isWord = true := by rw [Token.isWord, hkind]
    exact (hp.mono fun _ _ _ h => ⟨h, fun _ _ _ => ⟨t, ht, htword⟩⟩).seen
  have hstill {j : ℕ} {t : Tree}
      (h : Still v.imports t ∧ ∀ id usage, t.kind ≠ .name id usage) :
      Laid v i j t ∧ Headed v i t :=
    ⟨h.1.laid i j, fun id usage hname => absurd hname (h.2 id usage)⟩
  refine .peek fun t ht => ?_
  split
  · exact (Reads.nameTree.mono fun _ _ _ h => ⟨h.2.1.laid _ _, h.2.2⟩).seen
  · exact hword _ _
  · exact hword _ _
  · exact hword _ _
  · exact ((hg.one .strings).mono fun _ _ _ h => hstill h).seen
  · exact (number_reads.mono fun _ _ _ h => hstill h).seen
  · next hkind _ =>
    exact hopened ht hkind (.firstOf (.or (hg.one .tupleDisplay) (.or (group_reads hg)
      (.or ((hg.one .generator).mono fun _ _ _ h => h.1) .none_left))))
  · next hkind _ =>
    exact hopened ht hkind (.firstOf (.or (hg.one .listDisplay)
      (.or ((comprehension_reads hg _ _ rfl fun _ => hg.one .namedExpression).mono
        fun _ _ _ h => h.1) .none_left)))
  · next hkind _ =>
    exact hopened ht hkind (.firstOf (.or (dictDisplay_reads hg) (.or (setDisplay_reads hg)
      (.or (dictComprehension_reads hg)
        (.or ((comprehension_reads hg _ _ rfl fun _ => hg.one .namedExpression).mono
        fun _ _ _ h => h.1) .none_left)))))
  · exact hword _ _
  · exact Reads.fail.seen

/-! ## Members, calls and subscripts -/

/-- A call between two marks: it begins where its function begins. If the function is a name, the
token there is a word. -/
theorem call_laid {start : Token} (hstart : v.lexer.TokenAt i start) {f : Tree}
    (hf : Headed v i f) {arguments : List (List Tree)} (hij : i < j)
    (hparts : ∀ ts ∈ [f] :: arguments, AllLaid v i j ts) {span : Span}
    (hspan : toLex (span.line, span.column) = start.start) :
    Laid v i j (.node .call (some span) ([f] :: arguments)) := by
  refine .node (fun specifier hspecifier => ?_) (fun hno => nomatch hno) hparts fun hno => nomatch hno
  unfold ofNode at hspecifier
  split at hspecifier
  · next heq => cases heq
  · next heq => cases heq
  · next heq =>
    cases heq
    obtain ⟨token, htoken, hword⟩ := hf _ _ rfl
    rw [htoken.eq hstart] at hword
    exact ⟨i, le_rfl, hij, start, hstart, hword, hspan.symm⟩
  · cases hspecifier

/-- What is read between the parentheses of a call. -/
theorem callParts_laid {o : Option Tree} (ho : ∀ u ∈ o, Tree.ArgumentsLaid v i j u) :
    ∀ ts ∈ callParts o, AllLaid v i j ts := by
  cases o with
  | none => simp [callParts, AllLaid]
  | some u =>
      obtain ⟨k, s, arguments, keywords, rfl, harguments, hkeywords⟩ := ho u rfl
      simp only [callParts, AllLaid, List.forall_mem_cons, List.not_mem_nil, false_implies,
        implies_true,
        and_true]
      exact ⟨harguments, hkeywords⟩

/-- A function with the arguments that follow it. -/
theorem callParts_behind {f : Tree} {o : Option Tree} {k l m : ℕ} (hf : Laid v i k f) (hik : i ≤ l)
    (hkj : k ≤ j) (hmj : m ≤ j) (ho : ∀ u ∈ o, Tree.ArgumentsLaid v l m u) :
    ∀ ts ∈ [f] :: callParts o, AllLaid v i j ts := by
  intro ts hts t ht
  rcases List.mem_cons.mp hts with rfl | hts
  · rw [List.mem_singleton.mp ht]
    exact hf.mono le_rfl hkj
  · exact (callParts_laid ho ts hts t ht).mono hik hmj

theorem slice_reads (hg : g.Lays) (i : ℕ) : (slice g).Reads v i (Laid v i) := by
  refine .firstOf (.or (.located ?_) (.or (hg.one .namedExpression) .none_left))
  refine (Reads.opt (hg.one .expression)).bind fun j lower hj hlower =>
    .skip (.punct _) fun k _ hk => ?_
  refine (Reads.opt (hg.one .expression)).bind fun l upper hl hupper => ?_
  refine Reads.bind (.opt (.skip (.punct _) fun m _ hm =>
    .opt ((hg.one .expression).lower hm))) fun n step hn hstep => ?_
  have hjoin : ∀ t ∈ step.join, Laid v l n t := by
    intro t ht
    obtain ⟨o, ho, rfl⟩ : ∃ o, step = some o ∧ o = some t := by
      simpa [Option.join_eq_some_iff] using ht
    exact hstep _ ho t rfl
  exact .ret (.row rfl (.cons (.toList hlower) (.cons (.toList hupper) (.cons (.toList hjoin) .nil)))
    (by omega))

theorem starredArgument_reads (hg : g.Lays) : (starredArgument g).Reads v i (Laid v i) :=
  .located (.skip (.punct _) fun _ _ hj => (hg.one .expression).bind fun _ _ hk hvalue =>
    .ret (.row rfl (.cons (.one hvalue) .nil) (by omega)))

theorem slices_reads (hg : g.Lays) : (slices g).Reads v i (Laid v i) := by
  refine .firstOf (.or ?_ (.or (.located ?_) .none_left))
  · exact (slice_reads hg i).bind fun _ _ _ hs => .skip (.notLook (.punct _)) fun _ _ hk =>
      .ret (hs.mono le_rfl hk)
  · refine Reads.bind (.sepBy1 (fun i => .firstOf (.or (slice_reads hg i)
      (.or (starredArgument_reads hg) .none_left))) fun _ => .punct _)
      fun j elements hj helements => ?_
    exact .skip (.opt (.punct _)) fun _ _ hk =>
      .ret (.row rfl (.cons helements.whole .nil) (by omega))

/-- What a call, a member or a subscript is built on: a tree that begins at `i`. -/
abbrev Begun (v : Survey) (i j : ℕ) (t : Tree) : Prop := Laid v i j t ∧ Headed v i t

theorem callStep_reads (hg : g.Lays) {start : Token} (hstart : v.lexer.TokenAt i start) {t : Tree}
    (hij : i ≤ j) (ht : Begun v i j t) : (callStep g start t).Reads v j (Begun v i) := by
  refine (Reads.punct _).bind fun k _ hk hopened => ?_
  refine (Reads.opt (hg.one .arguments)).bind fun l o hl ho => .skip (.punct _) fun m _ hm => ?_
  refine (Reads.spanFrom start).bind fun n span _ hspan => .ret ?_
  have hparts := callParts_behind (j := n) ht.1 (hij.trans hk) (by omega) (by omega) ho
  exact ⟨call_laid hstart ht.2 (by omega) hparts hspan.2, fun _ _ hname => nomatch hname⟩

theorem generatorCall_reads (hg : g.Lays) {start : Token} (hstart : v.lexer.TokenAt i start)
    {t : Tree} (hij : i ≤ j) (ht : Begun v i j t) : Parser.Reads (do
      let argument ← g.one .generator
      nodeFrom start .call [[t], [argument], []]) v j (Begun v i) := by
  refine (hg.one .generator).bind fun k argument hk hargument => ?_
  refine (Reads.spanFrom start).bind fun l span _ hspan => .ret ?_
  have hparts : ∀ ts ∈ [[t], [argument], []], AllLaid v i l ts := by
    simp only [AllLaid, List.forall_mem_cons, List.not_mem_nil, false_implies, implies_true,
      and_true]
    exact ⟨ht.1.mono le_rfl (by omega), hargument.1.mono hij (by omega)⟩
  have hstep := hargument.2
  exact ⟨call_laid hstart ht.2 (by omega) hparts hspan.2, fun _ _ hname => nomatch hname⟩

/-- A node that is no call is no name either, as it is used here. -/
theorem nodeFrom_begun {start : Token} {k : Kind} {fs : List (List Tree)}
    (hk : ∀ id usage, k ≠ .name id usage) (h : Makes v i j (k, fs)) :
    (nodeFrom start k fs).Reads v j (Begun v i) :=
  (Reads.spanFrom start).bind fun _ span _ hspan =>
    .ret ⟨hspan.1 ▸ h.laid (some span), fun id usage hname => absurd hname (hk id usage)⟩

theorem memberOf_reads (start : Token) (usage : Usage) {t : Tree} (ht : Laid v i j t)
    (hij : i ≤ j) : (memberOf start usage t).Reads v j (Begun v i) :=
  .skip (.punct _) fun _ _ hk => .skip .identifier fun _ _ hl =>
    nodeFrom_begun (fun _ _ => nofun) (.row rfl (.cons (.one ht) .nil) (by omega))

theorem subscriptOf_reads (hg : g.Lays) (start : Token) (usage : Usage) {t : Tree}
    (ht : Laid v i j t) (hij : i ≤ j) : (subscriptOf g start usage t).Reads v j (Begun v i) :=
  .skip (.punct _) fun _ _ hk => (hg.one .slices).bind fun _ _ hl hindex =>
    .skip (.punct _) fun _ _ hm =>
      nodeFrom_begun (fun _ _ => nofun)
        (.row rfl (.cons (.one ht) (.cons (.one hindex) .nil)) (by omega))

theorem primary_reads (hg : g.Lays) : (primary g).Reads v i (Laid v i) := by
  refine .peek fun start hstart => Reads.seen (Reads.mono (P := Begun v i) ?_ fun _ _ _ h => h.1)
  refine .chain (hg.one .atom) fun j t hj ht =>
    .firstOf (.or ?_ (.or ?_ (.or ?_ (.or ?_ .none_left))))
  · exact memberOf_reads start .load ht.1 hj
  · exact generatorCall_reads hg hstart hj ht
  · exact callStep_reads hg hstart hj ht
  · exact subscriptOf_reads hg start .load ht.1 hj

/-! ## Arguments of calls -/

theorem namedArgument_reads (hg : g.Lays) : (namedArgument g).Reads v i (Laid v i) :=
  .located (.skip .identifier fun _ _ hj => .skip (.punct _) fun _ _ hk =>
    (hg.one .expression).bind fun _ _ hl hvalue =>
      .ret (.row rfl (.cons (.one hvalue) .nil) (by omega)))

theorem keywordOrStarred_reads (hg : g.Lays) (i : ℕ) :
    (keywordOrStarred g).Reads v i (Laid v i) :=
  .firstOf (.or (.diagnose _) (.or (namedArgument_reads hg)
    (.or (starredArgument_reads hg) .none_left)))

theorem keywordOrMapping_reads (hg : g.Lays) (i : ℕ) :
    (keywordOrMapping g).Reads v i (Laid v i) := by
  refine .firstOf (.or (.diagnose _) (.or (namedArgument_reads hg) (.or (.located ?_) .none_left)))
  exact .skip (.punct _) fun _ _ hj => (hg.one .expression).bind fun _ _ hk hvalue =>
    .ret (.row rfl (.cons (.one hvalue) .nil) (by omega))

theorem keywordArguments_reads (hg : g.Lays) :
    (keywordArguments g).Reads v i (Row (Laid v) i) := by
  have hstarred (i : ℕ) := Reads.sepBy1 (v := v) (i := i) (keywordOrStarred_reads hg)
    fun _ => .punct ","
  have hmapping (i : ℕ) := Reads.sepBy1 (v := v) (i := i) (keywordOrMapping_reads hg)
    fun _ => .punct ","
  refine .firstOf (.or ?_ (.or (hstarred i) (.or (hmapping i) .none_left)))
  exact (hstarred i).bind fun j first hj hfirst => .skip (.punct _) fun k _ hk =>
    (hmapping k).bind fun _ second hl hsecond => .ret (hfirst.append hsecond hk)

/-- Starred arguments go to the positional ones, wherever they stand. -/
theorem filtered_laid {ts : List Tree} (h : AllLaid v i j ts) (accepts : Tree → Bool) :
    AllLaid v i j (ts.filter accepts) := fun t ht => h t (List.mem_filter.mp ht).1

theorem callArguments_reads (hg : g.Lays) :
    (callArguments g).Reads v i fun j => Tree.ArgumentsLaid v i j := by
  have hlocated {p : Parser (Kind × List (List Tree))} (h : p.Reads v i fun j r =>
      ∃ arguments keywords, r = (.call, [[], arguments, keywords])
        ∧ AllLaid v i j arguments ∧ AllLaid v i j keywords) :
      (located p).Reads v i fun j => Tree.ArgumentsLaid v i j := by
    refine .locatedAs h ?_
    rintro j _ span start hij - - ⟨arguments, keywords, rfl, harguments, hkeywords⟩
    exact ⟨_, _, _, _, rfl, harguments, hkeywords⟩
  refine .firstOf (.or (hlocated ?_) (.or (hlocated ?_) .none_left))
  · have halone (i : ℕ) : Parser.Reads (do
        let e ← firstOf [assignmentExpression g, expressionAlone g]
        notLook (punct "=")
        return e) v i (Laid v i) :=
      Reads.bind (.firstOf (.or (assignmentExpression_reads hg) (.or (expressionAlone_reads hg)
        .none_left))) fun _ _ _ he => .skip (.notLook (.punct _)) fun _ _ hk =>
          .ret (he.mono le_rfl hk)
    refine Reads.bind (.sepBy1 (fun i => .firstOf (.or (starredArgument_reads hg)
      (.or (halone i) .none_left))) fun _ => .punct _) fun j positional hj hpositional => ?_
    refine Reads.bind (.opt (.skip (.punct _) fun k _ hk =>
      (keywordArguments_reads hg).lowerRow hk)) fun l named hl hnamed => ?_
    have hall : AllLaid v i l (named.getD []) := ((Row.getD hnamed hl).mono hj le_rfl).laid
    have hfirst : AllLaid v i l positional := (hpositional.mono le_rfl hl).laid
    exact .ret ⟨_, _, rfl, hfirst.append (filtered_laid hall _), filtered_laid hall _⟩
  · refine (keywordArguments_reads hg).bind fun j named _ hnamed => ?_
    exact .ret ⟨_, _, rfl, filtered_laid hnamed.laid _, filtered_laid hnamed.laid _⟩

theorem argumentsLaid_mono {t : Tree} {k : ℕ} (h : Tree.ArgumentsLaid v i j t) (hjk : j ≤ k) :
    Tree.ArgumentsLaid v i k t := by
  obtain ⟨kind, s, arguments, keywords, rfl, harguments, hkeywords⟩ := h
  exact ⟨kind, s, arguments, keywords, rfl, harguments.mono le_rfl hjk, hkeywords.mono le_rfl hjk⟩

theorem arguments_reads (hg : g.Lays) :
    (arguments g).Reads v i fun j => Tree.ArgumentsLaid v i j := by
  refine .firstOf (.or ?_ (.or (.diagnose _) .none_left))
  exact (hg.one .callArguments).bind fun j _ _ harguments => .skip (.opt (.punct _)) fun k _ hk =>
    .skip (.look (.punct _)) fun l _ hl => .ret (argumentsLaid_mono harguments (hk.trans hl))

/-! ## Targets -/

theorem opensTail_passes : opensTail.Passes v i :=
  Reads.firstOf (.or (Passes.punct _) (.or (Passes.punct _) (.or (Passes.punct _) .none_left)))

theorem begun_mono {t : Tree} {k : ℕ} (h : Begun v i j t) (hjk : j ≤ k) : Begun v i k t :=
  ⟨h.1.mono le_rfl hjk, h.2⟩

theorem targetPrimary_reads (hg : g.Lays) : (targetPrimary g).Reads v i (Laid v i) := by
  have hfollowed {j : ℕ} {p : Parser Tree} (h : p.Reads v j (Begun v i)) : Parser.Reads (do
      let t ← p
      look opensTail
      return t) v j (Begun v i) :=
    h.bind fun _ _ _ ht => .skip (.look opensTail_passes) fun _ _ hk => .ret (begun_mono ht hk)
  refine .peek fun start hstart => Reads.seen (Reads.mono (P := Begun v i) ?_ fun _ _ _ h => h.1)
  refine .chain (hfollowed (hg.one .atom)) fun j t hj ht =>
    .firstOf (.or ?_ (.or ?_ (.or ?_ (.or ?_ .none_left))))
  · exact hfollowed (memberOf_reads start .load ht.1 hj)
  · exact hfollowed (subscriptOf_reads hg start .load ht.1 hj)
  · exact hfollowed (generatorCall_reads hg hstart hj ht)
  · refine hfollowed ((Reads.punct _).bind fun k _ hk hopened => ?_)
    refine (Reads.opt (hg.one .arguments)).bind fun l o hl ho => .skip (.punct _) fun m _ hm => ?_
    refine (Reads.spanFrom start).bind fun n span _ hspan => .ret ?_
    have hparts := callParts_behind (j := n) ht.1 (hj.trans hk) (by omega) (by omega) ho
    have hcall : Laid v i n (.node .call (some span) ([t] :: callParts o)) :=
      call_laid hstart ht.2 (by omega) hparts hspan.2
    refine ⟨?_, fun _ _ hname => nomatch hname⟩
    cases o with
    | none => exact hcall
    | some u =>
        obtain ⟨kind, s, arguments, keywords, rfl, -, -⟩ := ho u rfl
        exact hcall

theorem memberTarget_reads (hg : g.Lays) (usage : Usage) :
    (memberTarget g usage).Reads v i (Laid v i) := by
  refine .peek fun start _ => (Reads.firstOf (.or ?_ (.or ?_ .none_left))).seen
  · exact (hg.one .targetPrimary).bind fun j t hj ht =>
      (memberOf_reads start usage ht hj).bind fun k m _ hm =>
        .skip (.notLook opensTail_passes) fun _ _ hl => .ret (hm.1.mono le_rfl hl)
  · exact (hg.one .targetPrimary).bind fun j t hj ht =>
      (subscriptOf_reads hg start usage ht hj).bind fun k m _ hm =>
        .skip (.notLook opensTail_passes) fun _ _ hl => .ret (hm.1.mono le_rfl hl)

theorem boundName_reads (usage : Usage) : (boundName usage).Reads v i (Laid v i) :=
  Reads.nameTree.bind fun _ _ _ ht => .ret ((ht.2.1.laid _ _).withUsage usage)

/-- A target in parentheses. -/
theorem inParentheses_reads (f : Tree → Tree)
    (hf : ∀ {j : ℕ} {t : Tree}, Laid v i j t → Laid v i j (f t)) {p : Parser Tree}
    (hp : ∀ i, p.Reads v i (Laid v i)) : Parser.Reads (do
      let _ ← punct "("
      let t ← p
      let _ ← punct ")"
      return f t) v i (Laid v i) :=
  .skip (.punct _) fun j _ hj => (hp j).bind fun _ _ _ ht => .skip (.punct _) fun _ _ hl =>
    .ret (hf (ht.mono hj hl))

theorem starAtom_reads (hg : g.Lays) : (starAtom g).Reads v i (Laid v i) := by
  refine .firstOf (.or (boundName_reads .store) (.or ?_ (.or (.located ?_) (.or (.located ?_)
    .none_left))))
  · exact inParentheses_reads (·.withUsage .store) (fun ht => ht.withUsage .store)
      fun _ => hg.one .targetWithStarAtom
  · refine .skip (.punct _) fun j _ hj => Reads.bind (.opt (P := Row (Laid v) j)
      (.firstOf (.or ?_ (.or ?_ .none_left)))) fun k elements hk helements =>
        .skip (.punct _) fun l _ hl => .ret (.row rfl (.cons (.getD helements) .nil) (by omega))
    · refine (hg.one .starTarget).bind fun k first hk hfirst => ?_
      exact (Reads.many1Behind (fun _ => .punct _) fun _ => hg.one .starTarget).bind
        fun l others hl hothers => .skip (.opt (.punct _)) fun _ _ hm =>
          .ret (Row.mono (.push hfirst hothers ⟨hk, le_rfl⟩) le_rfl hm)
    · exact (hg.one .starTarget).bind fun k first hk hfirst => .skip (.punct _) fun _ _ hm =>
        .ret (Row.mono (.one hfirst hk) le_rfl hm)
  · refine .skip (.punct _) fun j _ hj => Reads.bind (.opt (P := Row (Laid v) j) ?_)
      fun k elements hk helements => .skip (.punct _) fun l _ hl =>
        .ret (.row rfl (.cons (.getD helements) .nil) (by omega))
    exact (Reads.sepBy1 (fun _ => hg.one .starTarget) fun _ => .punct _).bind
      fun _ _ _ helements => .skip (.opt (.punct _)) fun _ _ hm => .ret (helements.mono le_rfl hm)

theorem targetWithStarAtom_reads (hg : g.Lays) : (targetWithStarAtom g).Reads v i (Laid v i) :=
  .firstOf (.or (memberTarget_reads hg .store) (.or (starAtom_reads hg) .none_left))

theorem starTarget_reads (hg : g.Lays) : (starTarget g).Reads v i (Laid v i) := by
  refine .firstOf (.or (.located ?_) (.or (hg.one .targetWithStarAtom) .none_left))
  exact .skip (.punct _) fun _ _ hj => .skip (.notLook (.punct _)) fun _ _ hk =>
    (hg.one .starTarget).bind fun _ _ hl ht =>
      .ret (.row rfl (.cons (.one (Laid.withUsage ht .store)) .nil) (by omega))

theorem starTargets_reads (hg : g.Lays) : (starTargets g).Reads v i (Laid v i) := by
  refine .firstOf (.or ?_ (.or (.located ?_) .none_left))
  · exact (hg.one .starTarget).bind fun _ _ _ ht => .skip (.notLook (.punct _)) fun _ _ hk =>
      .ret (ht.mono le_rfl hk)
  · refine (hg.one .starTarget).bind fun j first hj hfirst => ?_
    exact (Reads.manyBehind (fun _ => .punct _) fun _ => hg.one .starTarget).bind
      fun k others hk hothers => .skip (.opt (.punct _)) fun _ _ hl =>
        .ret (.row rfl (.cons (.push hfirst hothers) .nil) (by omega))

theorem singleTarget_reads (hg : g.Lays) : (singleTarget g).Reads v i (Laid v i) :=
  .firstOf (.or (hg.one .memberTarget) (.or (boundName_reads .store)
    (.or (inParentheses_reads id id fun _ => hg.one .singleTarget) .none_left)))

theorem annotationTarget_reads (hg : g.Lays) : (annotationTarget g).Reads v i (Laid v i) :=
  .firstOf (.or (hg.one .listDisplay) (.or (hg.one .tupleDisplay)
    (.or (inParentheses_reads id id fun _ => hg.one .annotationTarget) .none_left)))

theorem delTargets_reads (hg : g.Lays) : (delTargets g).Reads v i (Row (Laid v) i) :=
  (Reads.sepBy1 (fun _ => hg.one .delTarget) fun _ => .punct _).bind fun _ _ _ htargets =>
    .skip (.opt (.punct _)) fun _ _ hk => .ret (htargets.mono le_rfl hk)

theorem delTarget_reads (hg : g.Lays) : (delTarget g).Reads v i (Laid v i) := by
  refine .firstOf (.or (memberTarget_reads hg .del) (.or (boundName_reads .del) (.or ?_
    (.or (.located ?_) (.or (.located ?_) .none_left)))))
  · exact inParentheses_reads (·.withUsage .del) (fun ht => ht.withUsage .del)
      fun _ => hg.one .delTarget
  · exact .skip (.punct _) fun _ _ hj => (Reads.opt (hg.many .delTargets)).bind
      fun _ targets hk htargets => .skip (.punct _) fun _ _ hl =>
        .ret (.row rfl (.cons (.getD htargets) .nil) (by omega))
  · exact .skip (.punct _) fun _ _ hj => (Reads.opt (hg.many .delTargets)).bind
      fun _ targets hk htargets => .skip (.punct _) fun _ _ hl =>
        .ret (.row rfl (.cons (.getD htargets) .nil) (by omega))

end SourceLoader.Grammar
