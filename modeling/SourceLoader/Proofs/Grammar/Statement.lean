import SourceLoader.Proofs.Grammar.Atom
import SourceLoader.Syntax.Grammar.Statement

/-!
# Statements
-/

namespace SourceLoader.Grammar

open Parser
open Tree (On AllOn SomeOn)

variable {n : Nat} {g : Rules}

theorem colonBlock_gives (hg : g.Sound n) : (colonBlock g).Gives n (SomeOn n .statement) :=
  .skip (.punct _) fun _ => hg.many .block

theorem block_gives (hg : g.Sound n) : (block g).Gives n (SomeOn n .statement) := by
  refine .firstOf (.or ?_ (.or (hg.many .simpleStatements) (.or (.diagnose _) .none_left)))
  exact .skip (.kind _) fun _ => .skip (.kind _) fun _ => (hg.many .statements).bind fun _ hbody =>
    .skip (.kind _) fun _ => .ret hbody

/-! ## Assignments -/

theorem assignedValue_gives (hg : g.Sound n) : (assignedValue g).Gives n (On n .expression) :=
  .firstOf (.or (hg.one .yieldExpression) (.or (hg.one .starExpressions) .none_left))

theorem augmentedOperator_keeps : augmentedOperator.Keeps n := by
  refine .skip (.satisfy _) fun t => ?_
  split
  case h_14 => exact .fail
  all_goals exact .ret trivial

theorem annotated_gives (hg : g.Sound n) :
    (annotated g).Gives n
      fun r => On n .expression r.1 ∧ (Slot.optional .expression).FilledOn n r.2 := by
  refine .skip (.punct _) fun _ => (hg.one .expression).bind fun hint hhint => ?_
  exact Gives.bind (.opt (.skip (.punct _) fun _ => assignedValue_gives hg)) fun value hvalue =>
    .ret ⟨hhint, Slot.filledOn_toList hvalue⟩

theorem chainedTarget_gives (hg : g.Sound n) : (chainedTarget g).Gives n (On n .expression) :=
  (hg.one .starTargets).bind fun _ ht => .skip (.punct _) fun _ => .ret ht

theorem assignment_gives (hg : g.Sound n) : (assignment g).Gives n (On n .statement) := by
  refine .firstOf (.or (.located ?_) (.or (.located ?_) (.or (.located ?_) (.or ?_ .none_left))))
  · exact Gives.nameTree.bind fun name hname => (annotated_gives hg).bind fun r hr =>
      .ret ⟨rfl, rfl, Tree.withUsage_on .store name hname, hr.1, hr.2, trivial⟩
  · refine Gives.bind (.firstOf (.or (inParentheses_gives id (hg.one .singleTarget))
      (.or (hg.one .memberTarget) .none_left))) fun target htarget => ?_
    exact (annotated_gives hg).bind fun r hr => .ret ⟨rfl, rfl, htarget, hr.1, hr.2, trivial⟩
  · refine Gives.bind (.many1 (chainedTarget_gives hg)) fun targets htargets => ?_
    exact (assignedValue_gives hg).bind fun value hvalue => .skip (.notLook (.punct _)) fun _ =>
      .ret ⟨rfl, rfl, htargets, hvalue, trivial⟩
  · refine .bind .peek fun start hstart => .commit (P := fun r => On n .expression r.1) ?_
      (fun r htarget => ?_) (.diagnose _)
    · exact (hg.one .singleTarget).bind fun _ htarget => .skip augmentedOperator_keeps fun _ =>
        .ret htarget
    · exact (assignedValue_gives hg).bind fun value hvalue =>
        .nodeFrom hstart ⟨rfl, rfl, htarget, hvalue, trivial⟩

/-! ## Imports -/

/-- Joining adds only what stands between. -/
theorem not_mem_intercalate {c : Char} {separator : String} {names : List String}
    (hseparator : c ∉ separator.toList) (h : ∀ name ∈ names, c ∉ name.toList) :
    c ∉ (separator.intercalate names).toList := by
  induction names with
  | nil => simp
  | cons name names ih =>
      obtain ⟨hname, hnames⟩ := List.forall_mem_cons.mp h
      cases names with
      | nil => simpa using hname
      | cons other names =>
          rw [String.intercalate_cons_cons, String.toList_append, String.toList_append]
          simp only [List.mem_append, not_or]
          exact ⟨⟨hname, hseparator⟩, ih hnames⟩

theorem ne_star_of_not_mem {name : String} (h : '*' ∉ name.toList) : name ≠ "*" := by
  rintro rfl
  exact h (by decide)

theorem dottedImportName_gives : dottedImportName.Gives n fun name => '*' ∉ name.toList :=
  Gives.bind (.sepBy1 .identifier (.punct _)) fun _ hnames =>
    .ret (not_mem_intercalate (by decide) fun name hname => (hnames.2 name hname).2)

theorem importAlias_gives : importAlias.Gives n fun asName => asName.all Text.isWord = true :=
  (Gives.opt (.skip (.keyword _) fun _ => .identifier)).mono fun asName h => by
    cases asName with
    | none => rfl
    | some name => simpa [Text.isWord] using (h name rfl).1

/-- Names that an import of kind `k` may list. -/
def Listed (n : Nat) (k : Kind) (ts : List Tree) : Prop :=
  SomeOn n .importName ts ∧ ∀ t ∈ ts, k.mayList t.kind = true

theorem aliasOf_gives {k : Kind} {name : Parser String}
    (h : name.Gives n fun listed => ∀ asName : Option String, asName.all Text.isWord = true →
      k.mayList (.alias listed asName) = true) :
    (aliasOf name).Gives n fun t => On n .importName t ∧ k.mayList t.kind = true := by
  refine .locatedAs (P := fun r => Built n .importName r ∧ k.mayList r.1 = true) ?_
    fun _ _ hr hspan => ⟨hr.1.node hspan, hr.2⟩
  exact h.bind fun _ hlisted => importAlias_gives.bind fun asName hasName =>
    .ret ⟨⟨rfl, rfl, trivial⟩, hlisted asName hasName⟩

theorem aliases_gives {k : Kind} {name : Parser String}
    (h : name.Gives n fun listed => ∀ asName : Option String, asName.all Text.isWord = true →
      k.mayList (.alias listed asName) = true) :
    (sepBy1 (aliasOf name) (punct ",")).Gives n (Listed n k) :=
  (Gives.sepBy1 (aliasOf_gives h) (.punct _)).mono fun _ hts =>
    ⟨⟨hts.1, fun t ht => (hts.2 t ht).1⟩, fun t ht => (hts.2 t ht).2⟩

section

variable {module : Option String} {level : Nat}

/-- Behind `from` words are listed. -/
theorem importedNames_gives : importedNames.Gives n (Listed n (.importFrom module level)) :=
  aliases_gives (Gives.identifier.mono fun name ⟨hpoint, hstar⟩ asName hasName => by
    simp [Kind.mayList, hasName, ne_star_of_not_mem hstar, Text.isWord, hpoint])

theorem importTargets_gives : importTargets.Gives n (Listed n (.importFrom module level)) := by
  refine .firstOf (.or ?_ (.or ?_ (.or ?_ (.or (.diagnose _) .none_left))))
  · exact .skip (.punct _) fun _ => importedNames_gives.bind fun _ hnames =>
      .skip (.opt (.punct _)) fun _ => .skip (.punct _) fun _ => .ret hnames
  · exact importedNames_gives.bind fun _ hnames => .skip (.notLook (.punct _)) fun _ => .ret hnames
  · refine .bind (.satisfy _) fun _ hstar => .ret ⟨.cons (leaf_on hstar.1 _ rfl rfl rfl) .nil, ?_⟩
    exact List.forall_mem_singleton.mpr rfl

end

theorem importLevel_keeps : importLevel.Keeps n :=
  Gives.firstOf (.or (Gives.skip (.punct _) fun _ => .ret trivial)
    (.or (Gives.skip (.punct _) fun _ => .ret trivial) .none_left))

theorem Listed.built_from {module : Option String} {level : Nat} {ts : List Tree}
    (h : Listed n (.importFrom module level) ts) :
    Built n .statement (.importFrom module level, [ts]) :=
  ⟨rfl, List.all_eq_true.mpr (by simpa using h.2), h.1, trivial⟩

theorem importFromStatement_gives : importFromStatement.Gives n (On n .statement) := by
  refine .firstOf (.or (.located ?_) (.or (.located ?_) .none_left))
  · exact .skip (.keyword _) fun _ => .skip (.many importLevel_keeps) fun _ =>
      .skip dottedImportName_gives.keeps fun _ => .skip (.keyword _) fun _ =>
        importTargets_gives.bind fun _ hnames => .ret hnames.built_from
  · exact .skip (.keyword _) fun _ => .skip (Gives.many1 importLevel_keeps).keeps fun _ =>
      .skip (.keyword _) fun _ =>
        importTargets_gives.bind fun _ hnames => .ret hnames.built_from

/-- Modules are listed with points, but no star is a module. -/
theorem importStatement_gives : importStatement.Gives n (On n .statement) := by
  have hmodules : Gives n (sepBy1 (aliasOf dottedImportName) (punct ","))
      (Listed n .importNames) :=
    aliases_gives (dottedImportName_gives.mono fun name hstar asName hasName => by
      simp [Kind.mayList, hasName, ne_star_of_not_mem hstar])
  exact .located (.skip (.keyword _) fun _ => hmodules.bind fun _ hnames =>
    .ret ⟨rfl, List.all_eq_true.mpr (by simpa using hnames.2), hnames.1, trivial⟩)

/-! ## Simple statements -/

theorem wordStatement_gives (word : String) {k : Kind} (hcategory : k.category = .statement)
    (hspan : k.hasSpan = true) (hslots : k.slots = []) :
    (wordStatement word k).Gives n (On n .statement) :=
  .located (.skip (.keyword _) fun _ =>
    .ret ⟨hcategory, by rw [hspan, k.listsAsWritten_nil]; rfl, by rw [hslots]; trivial⟩)

theorem declaration_gives (word : String) {k : List String → Kind}
    (h : ∀ names, Built n .statement (k names, [])) :
    (declaration word k).Gives n (On n .statement) :=
  .located (.skip (.keyword _) fun _ =>
    .skip (Gives.sepBy1 Keeps.identifier (.punct _)).keeps fun names => .ret (h names))

theorem returnStatement_gives (hg : g.Sound n) : (returnStatement g).Gives n (On n .statement) :=
  .located (.skip (.keyword _) fun _ => (Gives.opt (hg.one .starExpressions)).bind
    fun _ hvalue => .ret ⟨rfl, rfl, Slot.filledOn_toList hvalue, trivial⟩)

theorem raiseStatement_gives (hg : g.Sound n) : (raiseStatement g).Gives n (On n .statement) := by
  refine .located (.skip (.keyword _) fun _ => ?_)
  refine Gives.bind (.opt (P := fun r => On n .expression r.1 ∧ ∀ t ∈ r.2, On n .expression t) ?_)
    fun exception hexception => ?_
  · refine (hg.one .expression).bind fun e he => ?_
    exact Gives.bind (.opt (.skip (.keyword _) fun _ => hg.one .expression)) fun cause hcause =>
      .ret ⟨he, hcause⟩
  · split
    · next e cause =>
        obtain ⟨he, hcause⟩ := hexception _ rfl
        exact .ret ⟨rfl, rfl, Slot.filledOn_toList (o := some e) fun t ht => by cases ht; exact he,
          Slot.filledOn_toList hcause, trivial⟩
    · exact .ret ⟨rfl, rfl, trivial, trivial, trivial⟩

theorem deleteStatement_gives (hg : g.Sound n) : (deleteStatement g).Gives n (On n .statement) := by
  refine .firstOf (.or (.located ?_) (.or (.diagnose _) .none_left))
  exact .skip (.keyword _) fun _ => (hg.many .delTargets).bind fun _ htargets =>
    .skip (.look (Gives.firstOf (.or (Keeps.punct _) (.or (Keeps.kind _) .none_left)))) fun _ =>
      .ret ⟨rfl, rfl, htargets, trivial⟩

theorem assertStatement_gives (hg : g.Sound n) : (assertStatement g).Gives n (On n .statement) := by
  refine .located (.skip (.keyword _) fun _ => (hg.one .expression).bind fun test htest => ?_)
  exact Gives.bind (.opt (.skip (.punct _) fun _ => hg.one .expression)) fun message hmessage =>
    .ret ⟨rfl, rfl, htest, Slot.filledOn_toList hmessage, trivial⟩

theorem expressionStatement_gives {value : Parser Tree} (h : value.Gives n (On n .expression)) :
    (expressionStatement value).Gives n (On n .statement) :=
  .located (h.bind fun _ hvalue => .ret ⟨rfl, rfl, hvalue, trivial⟩)

theorem keywordStatement_gives (hg : g.Sound n) (word : String) :
    (keywordStatement g word).Gives n (On n .statement) := by
  unfold keywordStatement
  split
  · exact returnStatement_gives hg
  · exact importStatement_gives
  · exact importFromStatement_gives
  · exact raiseStatement_gives hg
  · exact wordStatement_gives _ rfl rfl rfl
  · exact deleteStatement_gives hg
  · exact expressionStatement_gives (hg.one .yieldExpression)
  · exact assertStatement_gives hg
  · exact wordStatement_gives _ rfl rfl rfl
  · exact wordStatement_gives _ rfl rfl rfl
  · exact declaration_gives _ fun _ => ⟨rfl, rfl, trivial⟩
  · exact declaration_gives _ fun _ => ⟨rfl, rfl, trivial⟩
  · exact .fail

theorem simpleStatement_gives (hg : g.Sound n) : (simpleStatement g).Gives n (On n .statement) :=
  .firstOf (.or (assignment_gives hg)
    (.or (expressionStatement_gives (hg.one .starExpressions))
      (.or (.skip .peek fun _ => .ite (fun _ => keywordStatement_gives hg _) fun _ => .fail)
        .none_left)))

theorem simpleStatements_gives (hg : g.Sound n) :
    (simpleStatements g).Gives n (SomeOn n .statement) := by
  refine .firstOf (.or ?_ (.or ?_ .none_left))
  · exact (hg.one .simpleStatement).bind fun s hs => .skip (.notLook (.punct _)) fun _ =>
      .skip (.kind _) fun _ => .ret (.cons hs .nil)
  · exact Gives.bind (.sepBy1 (hg.one .simpleStatement) (.punct _)) fun ss hss =>
      .skip (.opt (.punct _)) fun _ => .skip (.kind _) fun _ => .ret hss

/-! ## Definitions -/

theorem decorators_gives (hg : g.Sound n) : (decorators g).Gives n (SomeOn n .expression) :=
  .many1 (.skip (.punct _) fun _ => (hg.one .namedExpression).bind fun _ hd =>
    .skip (.kind _) fun _ => .ret hd)

theorem classParts_gives (hg : g.Sound n) :
    (classParts g).Gives n fun parts => ∃ bases keywords, parts = [bases, keywords] ∧
      AllOn n .expression bases ∧ AllOn n .keyword keywords := by
  refine Gives.bind (.opt (.skip (.punct _) fun _ => (Gives.opt (hg.one .arguments)).bind
    fun _ h => .skip (.punct _) fun _ => .ret h)) fun bases hbases => ?_
  split
  · next heq =>
      have hcall := hbases _ (Option.join_eq_some_iff.mp heq) _ rfl
      obtain ⟨k, s, arguments, keywords, hnode, harguments, hkeywords⟩ := hcall
      cases hnode
      exact .ret ⟨_, _, rfl, harguments, hkeywords⟩
  · exact .ret ⟨_, _, rfl, .nil, .nil⟩

theorem classDefinition_gives (hg : g.Sound n) {decorators : List Tree}
    (hdecorators : AllOn n .expression decorators) :
    (classDefinition g decorators).Gives n (On n .statement) := by
  refine .firstOf (.or (.diagnose _) (.or (.located ?_) .none_left))
  refine .skip (.keyword _) fun _ => .skip .identifier fun name => ?_
  refine (classParts_gives hg).bind fun parts hparts => ?_
  refine (colonBlock_gives hg).bind fun body hbody => ?_
  obtain ⟨bases, keywords, rfl, hbases, hkeywords⟩ := hparts
  exact .ret ⟨rfl, rfl, hbases, hkeywords, hbody, hdecorators, trivial⟩

theorem functionBody_gives (hg : g.Sound n) (isAsync : Bool) {decorators : List Tree}
    (hdecorators : AllOn n .expression decorators) :
    (functionBody g isAsync decorators).Gives n (Built n .statement) := by
  refine .skip .identifier fun name => .skip (.forced _) fun _ => ?_
  refine (Gives.opt (hg.one .parameters)).bind fun parameters hparameters => ?_
  refine .skip (.punct _) fun _ => Gives.bind
    (.opt (.skip (.punct _) fun _ => hg.one .expression)) fun result hresult => ?_
  exact .skip (.forced _) fun _ => (hg.many .block).bind fun body hbody =>
    .ret ⟨rfl, rfl, parametersOr_on hparameters, hbody, hdecorators, Slot.filledOn_toList hresult,
      trivial⟩

theorem functionDefinition_gives (hg : g.Sound n) {decorators : List Tree}
    (hdecorators : AllOn n .expression decorators) :
    (functionDefinition g decorators).Gives n (On n .statement) :=
  .firstOf (.or (.diagnose _)
    (.or (.located (.skip (.keyword _) fun _ => functionBody_gives hg false hdecorators))
      (.or (.located (.skip (.keyword _) fun _ => .skip (.keyword _) fun _ =>
        functionBody_gives hg true hdecorators)) .none_left)))

theorem decorated_gives (hg : g.Sound n) {definition : List Tree → Parser Tree}
    (h : ∀ ds, AllOn n .expression ds → (definition ds).Gives n (On n .statement)) :
    (decorated g definition).Gives n (On n .statement) :=
  .firstOf (.or ((decorators_gives hg).bind fun ds hds => h ds hds.all)
    (.or (h [] .nil) .none_left))

/-! ## Branches and loops -/

/-- A part behind a word. -/
theorem part_gives (hg : g.Sound n) (word : String) :
    Gives n (do
      let _ ← keyword word
      let _ ← forced ":"
      g.many .block) (SomeOn n .statement) :=
  .skip (.keyword _) fun _ => .skip (.forced _) fun _ => hg.many .block

theorem optionalElse_gives (hg : g.Sound n) : (optionalElse g).Gives n (AllOn n .statement) := by
  refine Gives.bind (.opt (.firstOf (.or (.diagnose _) (.or (part_gives hg "else") .none_left))))
    fun part hpart => .ret (elementsOr_on hpart)

theorem branch_gives (hg : g.Sound n) (word : String) :
    (branch g word).Gives n (On n .statement) := by
  refine .firstOf (.or (.diagnose _) (.or (.located ?_) (.or (.located ?_) .none_left)))
  · exact Gives.bind (.skip (.keyword _) fun _ => hg.one .namedExpression) fun test htest =>
      (colonBlock_gives hg).bind fun body hbody => (hg.one .elifPart).bind fun otherwise h =>
        .ret ⟨rfl, rfl, htest, hbody, .one h, trivial⟩
  · exact Gives.bind (.skip (.keyword _) fun _ => hg.one .namedExpression) fun test htest =>
      (colonBlock_gives hg).bind fun body hbody => (optionalElse_gives hg).bind fun otherwise h =>
        .ret ⟨rfl, rfl, htest, hbody, h, trivial⟩

theorem whileStatement_gives (hg : g.Sound n) : (whileStatement g).Gives n (On n .statement) := by
  refine .firstOf (.or (.diagnose _) (.or (.located ?_) .none_left))
  exact .skip (.keyword _) fun _ => (hg.one .namedExpression).bind fun test htest =>
    (colonBlock_gives hg).bind fun body hbody => (optionalElse_gives hg).bind fun otherwise h =>
      .ret ⟨rfl, rfl, htest, hbody, h, trivial⟩

theorem forStatement_gives (hg : g.Sound n) : (forStatement g).Gives n (On n .statement) := by
  refine .bind .peek fun start hstart => ?_
  have hhead {word : Parser Token} (hword : word.Keeps n) : Gives n (do
      let _ ← word
      let target ← g.one .starTargets
      let _ ← keyword "in"
      return target) (On n .expression) :=
    .skip hword fun _ => (hg.one .starTargets).bind fun _ htarget =>
      .skip (.keyword _) fun _ => .ret htarget
  have hbehind (isAsync : Bool) (target : Tree) (htarget : On n .expression target) : Gives n (do
      let iterable ← g.one .starExpressions
      let body ← colonBlock g
      let otherwise ← optionalElse g
      nodeFrom start (.forLoop isAsync) [[target], [iterable], body, otherwise])
        (On n .statement) :=
    (hg.one .starExpressions).bind fun iterable hiterable =>
      (colonBlock_gives hg).bind fun body hbody => (optionalElse_gives hg).bind fun otherwise h =>
        .nodeFrom hstart ⟨rfl, rfl, htarget, hiterable, hbody, h, trivial⟩
  refine .firstOf (.or (.diagnose _) (.or ?_ .none_left))
  exact .commit (hhead (.keyword _)) (hbehind false)
    (.commit (hhead (Gives.skip (.keyword _) fun _ => Keeps.keyword _)) (hbehind true)
      (.diagnose _))

/-! ## Contexts -/

theorem withItem_gives (hg : g.Sound n) : (withItem g).Gives n (On n .withItem) := by
  refine .firstOf (.or ?_ (.or (.diagnose _) (.or ?_ .none_left)))
  · refine (hg.one .expression).bind fun e he => .skip (.keyword _) fun _ => ?_
    exact (hg.one .starTarget).bind fun target htarget => .skip (.look (Gives.firstOf
      (.or (Keeps.punct _) (.or (Keeps.punct _) (.or (Keeps.punct _) .none_left))))) fun _ =>
        .ret (.node rfl rfl rfl rfl ⟨he, htarget, trivial⟩)
  · exact (hg.one .expression).bind fun e he => .ret (.node rfl rfl rfl rfl ⟨he, trivial, trivial⟩)

theorem withStatement_gives (hg : g.Sound n) : (withStatement g).Gives n (On n .statement) := by
  have hopen : Gives n (sepBy1 (withItem g) (punct ",")) (SomeOn n .withItem) :=
    .sepBy1 (withItem_gives hg) (.punct _)
  have hparenthesized : Gives n (do
      let _ ← punct "("
      let items ← sepBy1 (withItem g) (punct ",")
      let _ ← opt (punct ",")
      let _ ← punct ")"
      return items) (SomeOn n .withItem) :=
    .skip (.punct _) fun _ => hopen.bind fun _ hitems => .skip (.opt (.punct _)) fun _ =>
      .skip (.punct _) fun _ => .ret hitems
  have hform (isAsync : Bool) {items : Parser (List Tree)}
      (h : items.Gives n (SomeOn n .withItem)) : Gives n (located do
        if isAsync then ignore (keyword "async")
        let _ ← keyword "with"
        let items ← items
        let body ← colonBlock g
        return (.withStmt isAsync, [items, body])) (On n .statement) := by
    have hrest : Gives n (do
        let _ ← keyword "with"
        let items ← items
        let body ← colonBlock g
        return (.withStmt isAsync, [items, body])) (Built n .statement) :=
      .skip (.keyword _) fun _ => h.bind fun items hitems =>
        (colonBlock_gives hg).bind fun body hbody => .ret ⟨rfl, rfl, hitems, hbody, trivial⟩
    cases isAsync with
    | true => exact .located (.skip (.ignore (.keyword _)) fun _ => hrest)
    | false => exact .located hrest
  exact .firstOf (.or (.diagnose _) (.or (hform false hparenthesized) (.or (hform false hopen)
    (.or (hform true hparenthesized) (.or (hform true hopen) (.or (.diagnose _) .none_left))))))

/-! ## Handlers -/

/-- A handler with a type. -/
theorem typedHandler_gives (hg : g.Sound n) : Gives n (do
    let e ← g.one .expression
    let name ← handlerName
    let body ← colonBlock g
    return (.exceptHandler name, [[e], body])) (Built n .handler) :=
  (hg.one .expression).bind fun _ he => .skip importAlias_gives.keeps fun _ =>
    (colonBlock_gives hg).bind fun _ hbody => .ret ⟨rfl, rfl, he, hbody, trivial⟩

theorem handler_gives (hg : g.Sound n) : (handler g).Gives n (On n .handler) := by
  refine .firstOf (.or (.diagnose _) (.or (.located ?_) (.or (.located ?_)
    (.or (.diagnose _) .none_left))))
  · exact .skip (.keyword _) fun _ => typedHandler_gives hg
  · exact .skip (.keyword _) fun _ => (colonBlock_gives hg).bind fun body hbody =>
      .ret ⟨rfl, rfl, trivial, hbody, trivial⟩

theorem groupHandler_gives (hg : g.Sound n) : (groupHandler g).Gives n (On n .handler) :=
  .firstOf (.or (.diagnose _) (.or (.located (.skip (.keyword _) fun _ =>
    .skip (.punct _) fun _ => typedHandler_gives hg)) (.or (.diagnose _) .none_left)))

theorem finalPart_gives (hg : g.Sound n) : (finalPart g).Gives n (SomeOn n .statement) :=
  .firstOf (.or (.diagnose _) (.or (part_gives hg "finally") .none_left))

theorem tryStatement_gives (hg : g.Sound n) : (tryStatement g).Gives n (On n .statement) := by
  have hbody := part_gives hg "try"
  have hhandled (star : Bool) {body : Parser (List Tree)}
      (hbody : body.Gives n (SomeOn n .statement))
      {one : Parser Tree} (h : one.Gives n (On n .handler)) :
      Gives n (located do
        let body ← body
        let handlers ← many1 one
        let otherwise ← optionalElse g
        let final ← opt (finalPart g)
        return (.tryStmt star, [body, handlers, otherwise, final.getD []])) (On n .statement) := by
    refine .located (hbody.bind fun body hbody => h.many1.bind fun handlers hhandlers => ?_)
    refine (optionalElse_gives hg).bind fun otherwise ho => ?_
    exact (Gives.opt (finalPart_gives hg)).bind fun final hfinal =>
      .ret ⟨rfl, rfl, hbody, hhandlers.2, ho, elementsOr_on hfinal, trivial⟩
  refine .firstOf (.or (.diagnose _) (.or (.located ?_)
    (.or (hhandled false hbody (handler_gives hg))
      (.or (hhandled true hbody (groupHandler_gives hg))
      .none_left))))
  exact hbody.bind fun body hbody => (finalPart_gives hg).bind fun final hfinal =>
    .ret ⟨rfl, rfl, hbody, .nil, .nil, hfinal.all, trivial⟩

/-! ## Matches -/

theorem subject_gives (hg : g.Sound n) : (subject g).Gives n (On n .expression) := by
  refine .firstOf (.or (.located ?_) (.or (hg.one .namedExpression) .none_left))
  refine (hg.one .starNamedExpression).bind fun first hfirst => .skip (.punct _) fun _ => ?_
  exact (Gives.opt (hg.many .starNamedExpressions)).bind fun others hothers =>
    .ret ⟨rfl, rfl, .cons hfirst (elementsOr_on hothers), trivial⟩

theorem caseBlock_gives (hg : g.Sound n) : (caseBlock g).Gives n (On n .matchCase) := by
  refine .firstOf (.or (.diagnose _) (.or ?_ .none_left))
  refine .skip (.softKeyword _) fun _ => (hg.one .casePatterns).bind fun pattern hpattern => ?_
  refine Gives.bind (.opt (.skip (.keyword _) fun _ => hg.one .namedExpression))
    fun condition hcondition => ?_
  exact (colonBlock_gives hg).bind fun body hbody =>
    .ret (.node rfl rfl rfl rfl ⟨hpattern, Slot.filledOn_toList hcondition, hbody, trivial⟩)

theorem matchStatement_gives (hg : g.Sound n) : (matchStatement g).Gives n (On n .statement) := by
  refine .firstOf (.or (.located ?_) (.or (.diagnose _) .none_left))
  refine .skip (.softKeyword _) fun _ => (subject_gives hg).bind fun value hvalue => ?_
  refine .skip (.punct _) fun _ => .skip (.kind _) fun _ => .skip (.kind _) fun _ => ?_
  exact (Gives.many1 (caseBlock_gives hg)).bind fun cases hcases => .skip (.kind _) fun _ =>
    .ret ⟨rfl, rfl, hvalue, hcases, trivial⟩

/-! ## Statements -/

theorem compoundStatement_gives (hg : g.Sound n) :
    (compoundStatement g).Gives n (On n .statement) := by
  refine .skip .peek fun t => ?_
  split
  · exact functionDefinition_gives hg .nil
  · exact .firstOf (.or (decorated_gives hg fun _ => functionDefinition_gives hg)
      (.or (decorated_gives hg fun _ => classDefinition_gives hg) .none_left))
  · exact .firstOf (.or (functionDefinition_gives hg .nil) (.or (withStatement_gives hg)
      (.or (forStatement_gives hg) .none_left)))
  · exact branch_gives hg _
  · exact classDefinition_gives hg .nil
  · exact withStatement_gives hg
  · exact forStatement_gives hg
  · exact tryStatement_gives hg
  · exact whileStatement_gives hg
  · exact matchStatement_gives hg
  · exact .fail

theorem statements_gives (hg : g.Sound n) : (statements g).Gives n (SomeOn n .statement) := by
  refine Gives.bind (.many1 (P := SomeOn n .statement) (.firstOf (.or ?_
    (.or (hg.many .simpleStatements) .none_left)))) fun groups ⟨hsome, hgroups⟩ => .ret ⟨?_, ?_⟩
  · exact (compoundStatement_gives hg).bind fun s hs => .ret (.cons hs .nil)
  · obtain ⟨group, hgroup⟩ := List.exists_mem_of_ne_nil groups hsome
    obtain ⟨t, ht⟩ := List.exists_mem_of_ne_nil group (hgroups group hgroup).1
    exact List.ne_nil_of_mem (List.mem_flatten.mpr ⟨group, hgroup, ht⟩)
  · intro t ht
    obtain ⟨group, hgroup, hmem⟩ := List.mem_flatten.mp ht
    exact (hgroups group hgroup).all t hmem

theorem module_gives (hg : g.Sound n) : (module g).Gives n (On n .module) :=
  (Gives.opt (hg.many .statements)).bind fun _ hbody => .skip (.kind _) fun _ =>
    .ret (.node rfl rfl rfl rfl ⟨elementsOr_on hbody, trivial⟩)

end SourceLoader.Grammar
