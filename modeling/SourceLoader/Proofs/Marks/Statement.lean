import SourceLoader.Proofs.Marks.Atom
import SourceLoader.Syntax.Grammar.Statement

/-!
# Statements lie between marks

An import declares something itself; it begins with a word, at which it is found
(`importing_reads`). Decorators are read in front of the definition they belong to, so that a
definition may begin before the mark where it is read.
-/

namespace SourceLoader.Grammar

open Parser Dependencies

variable {g : Rules} {v : Survey} {i j : ℕ}

theorem colonBlock_reads (hg : g.Lays) : (colonBlock g).Reads v i (Row (Laid v) i) :=
  .skip (.punct _) fun _ _ hj => (hg.many .block).lowerRow hj

theorem block_reads (hg : g.Lays) : (block g).Reads v i (Row (Laid v) i) := by
  refine .firstOf (.or ?_ (.or (hg.many .simpleStatements) (.or (.diagnose _) .none_left)))
  refine .skip (.kind _) fun j _ hj => .skip (.kind _) fun k _ hk => ?_
  exact (hg.many .statements).bind fun _ _ _ hbody => .skip (.kind _) fun _ _ hl =>
    .ret (hbody.mono (hj.trans hk) hl)

/-! ## Assignments -/

theorem assignedValue_reads (hg : g.Lays) : (assignedValue g).Reads v i (Laid v i) :=
  .firstOf (.or (hg.one .yieldExpression) (.or (hg.one .starExpressions) .none_left))

theorem augmentedOperator_passes : augmentedOperator.Passes v i := by
  refine Reads.skip (Reads.satisfy _).passes fun _ t _ => ?_
  split
  case h_14 => exact .fail
  all_goals exact .ret trivial

/-- The value stands behind the annotation. -/
theorem annotated_reads (hg : g.Lays) : (annotated g).Reads v i fun j r =>
    ∃ k, i ≤ k ∧ k ≤ j ∧ Laid v i k r.1 ∧ Row (Laid v) k j r.2 := by
  refine .skip (.punct _) fun j _ hj => (hg.one .expression).bind fun k hint hk hhint => ?_
  refine Reads.bind (.opt (.skip (.punct _) fun l _ hl => (assignedValue_reads hg).lower hl))
    fun m value hm hvalue => ?_
  exact .ret ⟨k, hj.trans hk, hm, hhint.mono hj le_rfl, .toList hvalue hm⟩

theorem chainedTarget_reads (hg : g.Lays) (i : ℕ) : (chainedTarget g).Reads v i (Laid v i) :=
  (hg.one .starTargets).bind fun _ _ _ ht => .skip (.punct _) fun _ _ hk => .ret (ht.mono le_rfl hk)

theorem assignment_reads (hg : g.Lays) : (assignment g).Reads v i (Laid v i) := by
  refine .firstOf (.or (.located ?_) (.or (.located ?_) (.or (.located ?_) (.or ?_ .none_left))))
  · refine Reads.nameTree.bind fun j name hj hname => ?_
    have htarget : Laid v i j (name.withUsage .store) := (hname.2.1.laid i j).withUsage .store
    exact (annotated_reads hg).bind fun _ r _ ⟨_, hk, hend, hhint, hvalue⟩ =>
      .ret (.row rfl (.cons (.one htarget) (.cons (.one hhint) (.cons hvalue.whole .nil)))
        (by omega))
  · refine Reads.bind (.firstOf (.or (inParentheses_reads id id fun _ => hg.one .singleTarget)
      (.or (hg.one .memberTarget) .none_left))) fun j target hj htarget => ?_
    exact (annotated_reads hg).bind fun _ r _ ⟨_, hk, hend, hhint, hvalue⟩ =>
      .ret (.row rfl (.cons (.one htarget) (.cons (.one hhint) (.cons hvalue.whole .nil)))
        (by omega))
  · refine (Reads.many1 (chainedTarget_reads hg)).bind fun j targets hj htargets => ?_
    exact (assignedValue_reads hg).bind fun k value hk hvalue => .skip (.notLook (.punct _))
      fun _ _ hl => .ret (.row rfl (.cons htargets.whole (.cons (.one hvalue) .nil)) (by omega))
  · refine .peek fun start _ => Reads.seen (.commit (P := fun j r => Laid v i j r.1) ?_
      (fun j r hj htarget => ?_) (.diagnose _))
    · exact (hg.one .singleTarget).bind fun _ _ _ htarget => .skip augmentedOperator_passes
        fun _ _ hk => .ret (htarget.mono le_rfl hk)
    · exact (assignedValue_reads hg).bind fun _ value hk hvalue =>
        .nodeFrom (.row rfl (.cons (.one htarget) (.cons (.one hvalue) .nil)) (by omega))

/-! ## Imports -/

theorem dottedImportName_passes : dottedImportName.Passes v i :=
  Reads.skip (Reads.sepBy1 (L := fun _ _ _ => True) (fun _ => Passes.identifier)
    fun _ => .punct _).passes fun _ _ _ => .ret trivial

theorem importAlias_passes : importAlias.Passes v i :=
  Passes.opt (Reads.skip (.keyword _) fun _ _ _ => Passes.identifier)

theorem aliasOf_still {name : Parser String} (h : ∀ i, name.Passes v i) (i : ℕ) :
    (aliasOf name).Reads v i fun _ => Still v.imports :=
  .still (.skip (h i) fun _ _ _ => .skip importAlias_passes fun _ _ _ => .ret ⟨rfl, by simp⟩)

/-- Names behind an import. -/
theorem aliases_still {name : Parser String} (h : ∀ i, name.Passes v i) :
    (sepBy1 (aliasOf name) (punct ",")).Reads v i fun _ ts => ∀ t ∈ ts, Still v.imports t := by
  refine (Reads.sepBy1 (L := fun _ _ => Still v.imports) (aliasOf_still h)
    fun _ => .punct _).mono fun j names _ hnames t ht => ?_
  obtain ⟨-, -, -, -, -, hstill⟩ := hnames.mem ht
  exact hstill

theorem importTargets_still : importTargets.Reads v i fun _ ts => ∀ t ∈ ts, Still v.imports t := by
  have hnames (i : ℕ) : importedNames.Reads v i fun _ ts => ∀ t ∈ ts, Still v.imports t :=
    aliases_still fun _ => .identifier
  refine .firstOf (.or ?_ (.or ?_ (.or ?_ (.or (.diagnose _) .none_left))))
  · exact .skip (.punct _) fun _ _ _ => (hnames _).bind fun _ _ _ h =>
      .skip (.opt (.punct _)) fun _ _ _ => .skip (.punct _) fun _ _ _ => .ret h
  · exact (hnames i).bind fun _ _ _ h => .skip (.notLook (.punct _)) fun _ _ _ => .ret h
  · exact .skip (.punct _) fun _ star _ =>
      .ret (List.forall_mem_singleton.mpr (leaf_still rfl star _))

theorem importLevel_passes : importLevel.Passes v i :=
  Reads.firstOf (.or (Reads.skip (.punct _) fun _ _ _ => .ret trivial)
    (.or (Reads.skip (.punct _) fun _ _ _ => .ret trivial) .none_left))

/-- An import begins with its keyword, and the names in it declare nothing more. -/
theorem importing_reads {word : String} (hword : word = "import" ∨ word = "from")
    {rest : Parser (Kind × List (List Tree))}
    (h : ∀ i, rest.Reads v i fun _ r =>
      ∃ names, r.2 = [names] ∧ ∀ t ∈ names, Still v.imports t) :
    Parser.Reads (located do
      let _ ← keyword word
      rest) v i (Laid v i) := by
  refine .locatedAs (P := fun j r => i < j
    ∧ (∃ t, v.lexer.TokenAt i t ∧ t.kind = .keyword ∧ t.text = word)
    ∧ ∃ names, r.2 = [names] ∧ ∀ t ∈ names, Still v.imports t) ?_ ?_
  · refine (Reads.keywordToken _).bind fun j t _ ht => (h j).mono fun k r hk hnames => ?_
    exact ⟨by omega, ⟨t, ht.2⟩, hnames⟩
  · rintro j ⟨k, fs⟩ span start _ hstart hspan ⟨hij, ⟨t, ht, hkind, rfl⟩, names, rfl, hnames⟩
    rw [ht.eq hstart] at hkind hword
    have hbegins : start.isWord = true := by rw [Token.isWord, hkind]
    have hbelow : Row (Laid v) i j names := .still hnames hij.le
    exact .node (fun _ _ => ⟨i, le_rfl, hij, start, hstart, hbegins, hspan.symm⟩)
      (fun _ => ⟨i, start, hstart, hkind, hword, hspan.symm⟩)
      (List.forall_mem_singleton.mpr hbelow.laid) fun _ => .one hbelow hij.le

theorem importFromStatement_reads : importFromStatement.Reads v i (Laid v i) := by
  refine .firstOf (.or (importing_reads (.inr rfl) fun i => ?_)
    (.or (importing_reads (.inr rfl) fun i => ?_) .none_left))
  · exact .skip (.many fun _ => importLevel_passes) fun _ _ _ =>
      .skip dottedImportName_passes fun _ _ _ => .skip (.keyword _) fun _ _ _ =>
        importTargets_still.bind fun _ names _ hnames => .ret ⟨names, rfl, hnames⟩
  · exact .skip (Reads.many1 (L := fun _ _ _ => True) fun _ => importLevel_passes).passes
      fun _ _ _ => .skip (.keyword _) fun _ _ _ =>
        importTargets_still.bind fun _ names _ hnames => .ret ⟨names, rfl, hnames⟩

theorem importStatement_reads : importStatement.Reads v i (Laid v i) :=
  importing_reads (.inl rfl) fun _ => (aliases_still fun _ => dottedImportName_passes).bind
    fun _ names _ hnames => .ret ⟨names, rfl, hnames⟩

/-! ## Simple statements -/

/-- A statement with nothing in it. -/
theorem bare_reads {k : Kind} (hk : k.declares = false) :
    (pure (k, []) : Parser (Kind × List (List Tree))).Reads v j fun _ r =>
      r.1.declares = false ∧ ∀ f ∈ r.2, ∀ t ∈ f, Still v.imports t := .ret ⟨hk, by simp⟩

theorem wordStatement_reads (word : String) {k : Kind} (hk : k.declares = false) :
    (wordStatement word k).Reads v i (Laid v i) :=
  (Reads.still (.skip (.keyword _) fun _ _ _ => bare_reads hk)).mono fun _ _ _ h => h.laid _ _

theorem declaration_reads (word : String) {k : List String → Kind}
    (hk : ∀ names, (k names).declares = false) :
    (declaration word k).Reads v i (Laid v i) := by
  refine (Reads.still (.skip (.keyword _) fun _ _ _ => ?_)).mono fun _ _ _ h => h.laid _ _
  exact .skip (Reads.sepBy1 (L := fun _ _ _ => True) (fun _ => Passes.identifier)
    fun _ => .punct _).passes fun _ names _ => bare_reads (hk names)

theorem returnStatement_reads (hg : g.Lays) : (returnStatement g).Reads v i (Laid v i) :=
  .located (.skip (.keyword _) fun _ _ hj => (Reads.opt (hg.one .starExpressions)).bind
    fun _ _ hk hvalue => .ret (.row rfl (.cons (.toList hvalue) .nil) (by omega)))

theorem raiseStatement_reads (hg : g.Lays) : (raiseStatement g).Reads v i (Laid v i) := by
  refine .located (.skip (.keyword _) fun j _ hj => ?_)
  refine Reads.bind (.opt (P := fun l r => ∃ k, j ≤ k ∧ k ≤ l ∧ Laid v j k r.1 ∧
    ∀ t ∈ r.2, Laid v k l t) ?_) fun l exception hl hexception => ?_
  · refine (hg.one .expression).bind fun k e hk he => ?_
    exact Reads.bind (.opt (.skip (.keyword _) fun m _ hm => (hg.one .expression).lower hm))
      fun l cause hl hcause => .ret ⟨k, hk, hl, he, hcause⟩
  · split
    · obtain ⟨k, hk, hkl, he, hcause⟩ := hexception _ rfl
      exact .ret (.row rfl (.cons (.one he) (.cons (.toList hcause) .nil)) (by omega))
    · exact .ret (.row rfl (.cons (Row.none l).whole (.cons (Row.none l).whole .nil)) (by omega))

theorem deleteStatement_reads (hg : g.Lays) : (deleteStatement g).Reads v i (Laid v i) := by
  refine .firstOf (.or (.located ?_) (.or (.diagnose _) .none_left))
  refine .skip (.keyword _) fun j _ hj => (hg.many .delTargets).bind fun k targets hk htargets => ?_
  exact .skip (.look (Reads.firstOf (.or (Passes.punct _) (.or (Passes.kind _) .none_left))))
    fun _ _ hl => .ret (.row rfl (.cons htargets.whole .nil) (by omega))

theorem assertStatement_reads (hg : g.Lays) : (assertStatement g).Reads v i (Laid v i) := by
  refine .located (.skip (.keyword _) fun j _ hj =>
    (hg.one .expression).bind fun k test hk htest => ?_)
  exact Reads.bind (.opt (.skip (.punct _) fun l _ hl => (hg.one .expression).lower hl))
    fun m message hm hmessage =>
      .ret (.row rfl (.cons (.one htest) (.cons (.toList hmessage) .nil)) (by omega))

theorem expressionStatement_reads {value : Parser Tree} (h : value.Reads v i (Laid v i)) :
    (expressionStatement value).Reads v i (Laid v i) :=
  .located (h.bind fun _ _ hj hvalue => .ret (.row rfl (.cons (.one hvalue) .nil) (by omega)))

theorem keywordStatement_reads (hg : g.Lays) (word : String) :
    (keywordStatement g word).Reads v i (Laid v i) := by
  unfold keywordStatement
  split
  · exact returnStatement_reads hg
  · exact importStatement_reads
  · exact importFromStatement_reads
  · exact raiseStatement_reads hg
  · exact wordStatement_reads _ rfl
  · exact deleteStatement_reads hg
  · exact expressionStatement_reads (hg.one .yieldExpression)
  · exact assertStatement_reads hg
  · exact wordStatement_reads _ rfl
  · exact wordStatement_reads _ rfl
  · exact declaration_reads _ fun _ => rfl
  · exact declaration_reads _ fun _ => rfl
  · exact .fail

theorem simpleStatement_reads (hg : g.Lays) : (simpleStatement g).Reads v i (Laid v i) := by
  refine .firstOf (.or (assignment_reads hg)
    (.or (expressionStatement_reads (hg.one .starExpressions)) (.or ?_ .none_left)))
  exact .peek fun _ _ => Reads.seen (.ite (fun _ => keywordStatement_reads hg _) fun _ => .fail)

theorem simpleStatements_reads (hg : g.Lays) :
    (simpleStatements g).Reads v i (Row (Laid v) i) := by
  refine .firstOf (.or ?_ (.or ?_ .none_left))
  · exact (hg.one .simpleStatement).bind fun _ s hj hs => .skip (.notLook (.punct _)) fun _ _ hk =>
      .skip (.kind _) fun _ _ hl => .ret (Row.mono (.one hs hj) le_rfl (hk.trans hl))
  · exact (Reads.sepBy1 (fun _ => hg.one .simpleStatement) fun _ => .punct _).bind
      fun _ ss _ hss => .skip (.opt (.punct _)) fun _ _ hk => .skip (.kind _) fun _ _ hl =>
        .ret (hss.mono le_rfl (hk.trans hl))

/-! ## Definitions -/

theorem decorators_reads (hg : g.Lays) : (decorators g).Reads v i (AllLaid v i) := by
  have hone (i : ℕ) : Parser.Reads (do
      let _ ← punct "@"
      let d ← g.one .namedExpression
      let _ ← kind .newline
      return d) v i (Laid v i) :=
    .skip (.punct _) fun _ _ hj => (hg.one .namedExpression).bind fun _ _ _ hd =>
      .skip (.kind _) fun _ _ hl => .ret (hd.mono hj hl)
  exact (Reads.many1 hone).mono fun _ _ _ hds => hds.laid

theorem classParts_reads (hg : g.Lays) : (classParts g).Reads v i fun j parts =>
    ∃ bases keywords, parts = [bases, keywords] ∧ AllLaid v i j bases ∧ AllLaid v i j keywords := by
  refine Reads.bind (.opt (P := fun k o => ∀ t ∈ o, Tree.ArgumentsLaid v i k t)
    (.skip (.punct _) fun j _ hj => ?_)) fun j bases hj hbases => ?_
  · refine (Reads.opt (hg.one .arguments)).bind fun k o _ ho => .skip (.punct _) fun l _ hl => ?_
    refine .ret fun t ht => ?_
    obtain ⟨kind, s, arguments, keywords, rfl, harguments, hkeywords⟩ := ho t ht
    exact ⟨kind, s, arguments, keywords, rfl, harguments.mono hj hl, hkeywords.mono hj hl⟩
  · split
    · next heq =>
      have hcall := hbases _ (Option.join_eq_some_iff.mp heq) _ rfl
      obtain ⟨k, s, arguments, keywords, hnode, harguments, hkeywords⟩ := hcall
      cases hnode
      exact .ret ⟨_, _, rfl, harguments, hkeywords⟩
    · exact .ret ⟨_, _, rfl, by simp [AllLaid], by simp [AllLaid]⟩

/-- Keywords of a class stand behind its bases, and its decorators behind its body. -/
theorem classDefinition_reads (hg : g.Lays) (hij : i ≤ j) {decorators : List Tree}
    (hdecorators : AllLaid v i j decorators) :
    (classDefinition g decorators).Reads v j (Laid v i) := by
  refine .firstOf (.or (.diagnose _) (.or (.located ?_) .none_left))
  refine .skip (.keyword _) fun k _ hk => .skip .identifier fun l name hl => ?_
  refine (classParts_reads hg).bind fun m parts hm hparts =>
    (colonBlock_reads hg).bind fun n body hn hbody => ?_
  obtain ⟨bases, keywords, rfl, hbases, hkeywords⟩ := hparts
  have hall : ∀ f ∈ [bases, keywords, body, decorators], AllLaid v i n f := by
    simp only [List.forall_mem_cons, List.not_mem_nil, false_implies, implies_true, and_true]
    exact ⟨hbases.mono (by omega) hn, hkeywords.mono (by omega) hn,
      hbody.laid.mono (by omega) le_rfl, hdecorators.mono le_rfl (by omega)⟩
  exact .ret (.reordered rfl rfl hall)

/-- The result of a function is annotated in front of its body. -/
theorem functionBody_reads (hg : g.Lays) (isAsync : Bool) (hij : i ≤ j) {decorators : List Tree}
    (hdecorators : AllLaid v i j decorators) :
    (functionBody g isAsync decorators).Reads v j (Makes v i) := by
  refine .skip .identifier fun k name hk => .skip (.forced _) fun l _ hl => ?_
  refine (Reads.opt (hg.one .parameters)).bind fun m parameters hm hparameters => ?_
  refine .skip (.punct _) fun n _ hn => Reads.bind
    (.opt (.skip (.punct _) fun o _ ho => (hg.one .expression).lower ho))
      fun p result hp hresult => ?_
  refine .skip (.forced _) fun q _ hq => (hg.many .block).bind fun r body hr hbody => ?_
  have hsignature : Laid v l m (parameters.getD noParameters) := parametersOr_laid hparameters
  have hhint : AllLaid v n p result.toList := (Row.toList hresult hp).laid
  have hall : ∀ f ∈ [[parameters.getD noParameters], body, decorators, result.toList],
      AllLaid v i r f := by
    simp only [List.forall_mem_cons, List.not_mem_nil, false_implies, implies_true, and_true]
    exact ⟨hsignature.mono (by omega) (by omega), hbody.laid.mono (by omega) le_rfl,
      hdecorators.mono le_rfl (by omega), hhint.mono (by omega) (by omega)⟩
  exact .ret (.reordered rfl rfl hall)

theorem functionDefinition_reads (hg : g.Lays) (hij : i ≤ j) {decorators : List Tree}
    (hdecorators : AllLaid v i j decorators) :
    (functionDefinition g decorators).Reads v j (Laid v i) :=
  .firstOf (.or (.diagnose _)
    (.or (.located (.skip (.keyword _) fun _ _ hk =>
      functionBody_reads hg false (hij.trans hk) (hdecorators.mono le_rfl hk)))
      (.or (.located (.skip (.keyword _) fun _ _ hk => .skip (.keyword _) fun _ _ hl =>
        functionBody_reads hg true (hij.trans (hk.trans hl))
          (hdecorators.mono le_rfl (hk.trans hl)))) .none_left)))

theorem noDecorators_laid : AllLaid v i j [] := by simp [AllLaid]

theorem decorated_reads (hg : g.Lays) {definition : List Tree → Parser Tree}
    (h : ∀ j ds, i ≤ j → AllLaid v i j ds → (definition ds).Reads v j (Laid v i)) :
    (decorated g definition).Reads v i (Laid v i) :=
  .firstOf (.or ((decorators_reads hg).bind h)
    (.or (h i [] le_rfl noDecorators_laid) .none_left))

/-! ## Branches and loops -/

/-- A part behind a word. -/
theorem part_reads (hg : g.Lays) (word : String) :
    Parser.Reads (do
      let _ ← keyword word
      let _ ← forced ":"
      g.many .block) v i (Row (Laid v) i) :=
  .skip (.keyword _) fun _ _ hj => .skip (.forced _) fun _ _ hk =>
    (hg.many .block).lowerRow (hj.trans hk)

theorem optionalElse_reads (hg : g.Lays) : (optionalElse g).Reads v i (Row (Laid v) i) := by
  refine Reads.bind (.opt (P := Row (Laid v) i) (.firstOf (.or (.diagnose _)
    (.or (part_reads hg "else") .none_left)))) fun _ part hj hpart => .ret (.getD hpart hj)

theorem branch_reads (hg : g.Lays) (word : String) : (branch g word).Reads v i (Laid v i) := by
  have hhead : Parser.Reads (do
      let _ ← keyword word
      g.one .namedExpression) v i (Laid v i) :=
    .skip (.keyword _) fun _ _ hj => (hg.one .namedExpression).lower hj
  refine .firstOf (.or (.diagnose _) (.or (.located ?_) (.or (.located ?_) .none_left)))
  · exact hhead.bind fun _ test hj htest => (colonBlock_reads hg).bind fun _ body hk hbody =>
      (hg.one .elifPart).bind fun _ otherwise hl h =>
        .ret (.row rfl (.cons (.one htest) (.cons hbody.whole (.cons (.one h) .nil))) (by omega))
  · exact hhead.bind fun _ test hj htest => (colonBlock_reads hg).bind fun _ body hk hbody =>
      (optionalElse_reads hg).bind fun _ otherwise hl h =>
        .ret (.row rfl (.cons (.one htest) (.cons hbody.whole (.cons h.whole .nil))) (by omega))

theorem whileStatement_reads (hg : g.Lays) : (whileStatement g).Reads v i (Laid v i) := by
  refine .firstOf (.or (.diagnose _) (.or (.located ?_) .none_left))
  exact .skip (.keyword _) fun _ _ hj => (hg.one .namedExpression).bind fun _ test hk htest =>
    (colonBlock_reads hg).bind fun _ body hl hbody =>
      (optionalElse_reads hg).bind fun _ otherwise hm h =>
        .ret (.row rfl (.cons (.one htest) (.cons hbody.whole (.cons h.whole .nil))) (by omega))

theorem forStatement_reads (hg : g.Lays) : (forStatement g).Reads v i (Laid v i) := by
  refine .peek fun start _ => Reads.seen ?_
  have hhead {word : Parser Token} (hword : word.Passes v i) : Parser.Reads (do
      let _ ← word
      let target ← g.one .starTargets
      let _ ← keyword "in"
      return target) v i (Laid v i) :=
    .skip hword fun _ _ hj => (hg.one .starTargets).bind fun _ _ _ htarget =>
      .skip (.keyword _) fun _ _ hl => .ret (htarget.mono hj hl)
  have hbehind (isAsync : Bool) (j : ℕ) (target : Tree) (hj : i ≤ j) (htarget : Laid v i j target) :
      Parser.Reads (do
        let iterable ← g.one .starExpressions
        let body ← colonBlock g
        let otherwise ← optionalElse g
        nodeFrom start (.forLoop isAsync) [[target], [iterable], body, otherwise])
        v j (Laid v i) :=
    (hg.one .starExpressions).bind fun _ iterable hk hiterable =>
      (colonBlock_reads hg).bind fun _ body hl hbody =>
        (optionalElse_reads hg).bind fun _ otherwise hm h =>
          .nodeFrom (.row rfl (.cons (.one htarget)
            (.cons (.one hiterable) (.cons hbody.whole (.cons h.whole .nil)))) (by omega))
  refine .firstOf (.or (.diagnose _) (.or ?_ .none_left))
  exact .commit (hhead (.keyword _)) (hbehind false)
    (.commit (hhead (Reads.skip (.keyword _) fun _ _ _ => Passes.keyword _)) (hbehind true)
      (.diagnose _))

/-! ## Contexts -/

theorem withItem_reads (hg : g.Lays) (i : ℕ) : (withItem g).Reads v i (Laid v i) := by
  refine .firstOf (.or ?_ (.or (.diagnose _) (.or ?_ .none_left)))
  · refine (hg.one .expression).bind fun j e hj he => .skip (.keyword _) fun k _ hk => ?_
    refine (hg.one .starTarget).bind fun l target hl htarget => .skip (.look (Reads.firstOf
      (.or (Passes.punct _) (.or (Passes.punct _) (.or (Passes.punct _) .none_left)))))
        fun m _ hm => .ret ?_
    exact (Makes.row rfl (.cons (.one he) (.cons (.one htarget) .nil)) (by omega)).laid none
  · refine (hg.one .expression).bind fun j e hj he => .ret ?_
    exact (Makes.row rfl (.cons (.one he) (.cons (Row.none j).whole .nil)) (by omega)).laid none

theorem withStatement_reads (hg : g.Lays) : (withStatement g).Reads v i (Laid v i) := by
  have hopen (i : ℕ) : Parser.Reads (sepBy1 (withItem g) (punct ",")) v i (Row (Laid v) i) :=
    .sepBy1 (withItem_reads hg) fun _ => .punct _
  have hparenthesized (i : ℕ) : Parser.Reads (do
      let _ ← punct "("
      let items ← sepBy1 (withItem g) (punct ",")
      let _ ← opt (punct ",")
      let _ ← punct ")"
      return items) v i (Row (Laid v) i) :=
    .skip (.punct _) fun _ _ hj => (hopen _).bind fun _ _ _ hitems =>
      .skip (.opt (.punct _)) fun _ _ hl => .skip (.punct _) fun _ _ hm =>
        .ret (hitems.mono hj (hl.trans hm))
  have hform (isAsync : Bool) {items : Parser (List Tree)}
      (h : ∀ i, items.Reads v i (Row (Laid v) i)) : Parser.Reads (located do
        if isAsync then ignore (keyword "async")
        let _ ← keyword "with"
        let items ← items
        let body ← colonBlock g
        return (.withStmt isAsync, [items, body])) v i (Laid v i) := by
    have hrest (j : ℕ) (hj : i ≤ j) : Parser.Reads (do
        let _ ← keyword "with"
        let items ← items
        let body ← colonBlock g
        return (.withStmt isAsync, [items, body])) v j (Makes v i) :=
      .skip (.keyword _) fun _ _ hk => (h _).bind fun _ items hl hitems =>
        (colonBlock_reads hg).bind fun _ body hm hbody =>
          .ret (.row rfl (.cons hitems.whole (.cons hbody.whole .nil)) (by omega))
    cases isAsync with
    | true => exact .located (.skip (.ignore (.keyword _)) fun j _ hj => hrest j hj)
    | false => exact .located (hrest i le_rfl)
  exact .firstOf (.or (.diagnose _) (.or (hform false hparenthesized) (.or (hform false hopen)
    (.or (hform true hparenthesized) (.or (hform true hopen) (.or (.diagnose _) .none_left))))))

/-! ## Handlers -/

/-- A handler with a type. -/
theorem typedHandler_reads (hg : g.Lays) : Parser.Reads (do
    let e ← g.one .expression
    let name ← handlerName
    let body ← colonBlock g
    return (.exceptHandler name, [[e], body])) v i (Makes v i) :=
  (hg.one .expression).bind fun _ e hj he => .skip importAlias_passes fun _ _ hk =>
    (colonBlock_reads hg).bind fun _ body hl hbody =>
      .ret (.row rfl (.cons (.one he) (.cons hbody.whole .nil)) (by omega))

theorem handler_reads (hg : g.Lays) (i : ℕ) : (handler g).Reads v i (Laid v i) := by
  refine .firstOf (.or (.diagnose _) (.or (.located ?_) (.or (.located ?_)
    (.or (.diagnose _) .none_left))))
  · exact .skip (.keyword _) fun _ _ hj => (typedHandler_reads hg).lowerMakes hj
  · exact .skip (.keyword _) fun j _ hj => (colonBlock_reads hg).bind fun _ body hk hbody =>
      .ret (.row rfl (.cons (Row.none j).whole (.cons hbody.whole .nil)) (by omega))

theorem groupHandler_reads (hg : g.Lays) (i : ℕ) : (groupHandler g).Reads v i (Laid v i) :=
  .firstOf (.or (.diagnose _) (.or (.located (.skip (.keyword _) fun _ _ hj =>
    .skip (.punct _) fun _ _ hk => (typedHandler_reads hg).lowerMakes (hj.trans hk)))
      (.or (.diagnose _) .none_left)))

theorem finalPart_reads (hg : g.Lays) : (finalPart g).Reads v i (Row (Laid v) i) :=
  .firstOf (.or (.diagnose _) (.or (part_reads hg "finally") .none_left))

theorem tryStatement_reads (hg : g.Lays) : (tryStatement g).Reads v i (Laid v i) := by
  have hbody := part_reads (v := v) (i := i) hg "try"
  have hhandled (star : Bool) {body : Parser (List Tree)} (hbody : body.Reads v i (Row (Laid v) i))
      {one : Parser Tree} (h : ∀ i, one.Reads v i (Laid v i)) :
      Parser.Reads (located do
        let body ← body
        let handlers ← many1 one
        let otherwise ← optionalElse g
        let final ← opt (finalPart g)
        return (.tryStmt star, [body, handlers, otherwise, final.getD []])) v i (Laid v i) := by
    refine .located (hbody.bind fun j body hj hbody =>
      (Reads.many1 h).bind fun k handlers hk hhandlers => ?_)
    refine (optionalElse_reads hg).bind fun l otherwise hl ho => ?_
    exact (Reads.opt (finalPart_reads hg)).bind fun m final hm hfinal =>
      .ret (.row rfl (.cons hbody.whole (.cons hhandlers.whole
        (.cons ho.whole (.cons (.getD hfinal) .nil)))) (by omega))
  refine .firstOf (.or (.diagnose _) (.or (.located ?_)
    (.or (hhandled false hbody (handler_reads hg))
      (.or (hhandled true hbody (groupHandler_reads hg)) .none_left))))
  exact hbody.bind fun j body hj hbody => (finalPart_reads hg).bind fun _ final hk hfinal =>
    .ret (.row rfl (.cons hbody.whole (.cons (Row.none j).whole
      (.cons (Row.none j).whole (.cons hfinal.whole .nil)))) (by omega))

/-! ## Matches -/

theorem subject_reads (hg : g.Lays) : (subject g).Reads v i (Laid v i) := by
  refine .firstOf (.or (.located ?_) (.or (hg.one .namedExpression) .none_left))
  refine (hg.one .starNamedExpression).bind fun j first hj hfirst =>
    .skip (.punct _) fun _ _ hk => ?_
  exact (Reads.opt (hg.many .starNamedExpressions)).bind fun _ others hl hothers =>
    .ret (.row rfl (.cons (.push hfirst (.getD hothers (by omega))) .nil) (by omega))

theorem caseBlock_reads (hg : g.Lays) (i : ℕ) : (caseBlock g).Reads v i (Laid v i) := by
  refine .firstOf (.or (.diagnose _) (.or ?_ .none_left))
  refine .skip (.softKeyword _) fun j _ hj =>
    (hg.one .casePatterns).bind fun k pattern hk hpattern => ?_
  refine Reads.bind (.opt (.skip (.keyword _) fun _ _ hl => (hg.one .namedExpression).lower hl))
    fun l condition hl hcondition => (colonBlock_reads hg).bind fun m body hm hbody => .ret ?_
  have hfirst : Laid v j k pattern := hpattern.laid j k
  exact (Makes.row rfl (.cons (.one hfirst) (.cons (.toList hcondition) (.cons hbody.whole .nil)))
    (by omega)).laid none

theorem matchStatement_reads (hg : g.Lays) : (matchStatement g).Reads v i (Laid v i) := by
  refine .firstOf (.or (.located ?_) (.or (.diagnose _) .none_left))
  refine .skip (.softKeyword _) fun j _ hj => (subject_reads hg).bind fun k value hk hvalue => ?_
  refine .skip (.punct _) fun l _ hl => .skip (.kind _) fun m _ hm =>
    .skip (.kind _) fun n _ hn => ?_
  exact (Reads.many1 (caseBlock_reads hg)).bind fun o cases ho hcases =>
    .skip (.kind _) fun _ _ hp =>
    .ret (.row rfl (.cons (.one hvalue) (.cons hcases.whole .nil)) (by omega))

/-! ## Statements -/

theorem compoundStatement_reads (hg : g.Lays) : (compoundStatement g).Reads v i (Laid v i) := by
  have hfunction : (functionDefinition g []).Reads v i (Laid v i) :=
    functionDefinition_reads hg le_rfl noDecorators_laid
  refine .peek fun t _ => ?_
  split
  · exact hfunction.seen
  · exact Reads.seen (.firstOf (.or
      (decorated_reads hg fun _ _ hj hds => functionDefinition_reads hg hj hds)
      (.or (decorated_reads hg fun _ _ hj hds => classDefinition_reads hg hj hds) .none_left)))
  · exact Reads.seen (.firstOf (.or hfunction (.or (withStatement_reads hg)
      (.or (forStatement_reads hg) .none_left))))
  · exact (branch_reads hg _).seen
  · exact (classDefinition_reads hg le_rfl noDecorators_laid).seen
  · exact (withStatement_reads hg).seen
  · exact (forStatement_reads hg).seen
  · exact (tryStatement_reads hg).seen
  · exact (whileStatement_reads hg).seen
  · exact (matchStatement_reads hg).seen
  · exact Reads.fail.seen

theorem statements_reads (hg : g.Lays) : (statements g).Reads v i (Row (Laid v) i) := by
  have hgroup (i : ℕ) : Parser.Reads (firstOf [
      do
        let s ← compoundStatement g
        return [s],
      g.many .simpleStatements]) v i (Row (Laid v) i) :=
    .firstOf (.or ((compoundStatement_reads hg).bind fun _ _ hj hs => .ret (.one hs hj))
      (.or (hg.many .simpleStatements) .none_left))
  exact (Reads.many1 hgroup).bind fun _ groups _ hgroups => .ret hgroups.flatten

theorem module_reads (hg : g.Lays) : (module g).Reads v i (Laid v i) :=
  (Reads.opt (hg.many .statements)).bind fun _ body hj hbody => .skip (.kind _) fun _ _ hk =>
    .ret ((Makes.row rfl (.cons (.getD hbody) .nil) (by omega)).laid none)

end SourceLoader.Grammar
