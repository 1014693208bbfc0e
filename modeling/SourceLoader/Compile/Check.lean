import SourceLoader.Compile.Scope
import SourceLoader.Compile.StaticValue
import SourceLoader.Syntax.Lexer

/-!
# What a tree must be to run

A tree that the grammar accepts may still make no sense: a `return` outside of all functions, a
keyword given twice, a pattern that no later one can follow. `Check.module` finds the first such
fault in the order in which code for the tree is laid out, and collects remarks on what is
probably a mistake. Code may be laid out more than once: the test of a `while` is, and so is the
final part of a `try`, for each way out of it. Then its remarks are made as often.

At the top of a module `await` is allowed.
-/

namespace SourceLoader

namespace Check

/-- What has been found so far. -/
structure State where
  /-- Remarks, last one first. -/
  warnings : List Warning := []
  /-- The place of the last pattern. -/
  place : Span := default
  /-- Names bound so far by the pattern in hand. -/
  stores : List String := []

/-- A check. -/
abbrev Checker := StateT State (Except SyntaxError)

/-- A statement that a jump may have to leave. -/
inductive Frame where
  | loop
  | plain
  /-- A handler of exception groups, which cannot be left by a jump. -/
  | groupHandler
  /-- A final part, which is laid out again for every jump. -/
  | final (run : Checker Unit)

/-- The kinds of blocks of code. -/
inductive Block where
  | module
  | classBody
  | function
  | asyncFunction
  | lambda
  | comprehension
deriving DecidableEq

namespace Block

/-- Does the block run as a function of its own? -/
def isFunction : Block → Bool
  | .module | .classBody => false
  | _ => true

end Block

/-- Where a check stands. -/
structure Context where
  block : Block
  future : Future
  /-- The block yields values. -/
  isGenerator : Bool := false
  /-- The block waits for something. -/
  isCoroutine : Bool := false
  frames : List Frame := []

/-- Most statements that a jump may have to leave. -/
def maxFrames : Nat := 20

/-- Refuses the source at a place. -/
def refuse {α : Type} (span : Span) (fault : Fault) : Checker α :=
  throw (Future.errorAt span 1 fault)

/-- Makes a remark. -/
def remark (span : Span) (r : Remark) : Checker Unit :=
  modify fun s => { s with warnings := ⟨r, span.line⟩ :: s.warnings }

/-- Enters a statement that a jump may have to leave. -/
def push (ctx : Context) (frame : Frame) (span : Span) : Checker Context :=
  if ctx.frames.length ≥ maxFrames then refuse span .tooManyBlocks
  else return { ctx with frames := frame :: ctx.frames }

/-- Leaves statements for a jump, up to a loop if there is to be one. The result tells whether a
loop was found. -/
def unwind (span : Span) (toLoop : Bool) : List Frame → Checker Bool
  | [] => return false
  | .groupHandler :: _ => refuse span .jumpInExceptStar
  | .loop :: rest => if toLoop then return true else unwind span toLoop rest
  | .plain :: rest => unwind span toLoop rest
  | .final run :: rest => do
    run
    unwind span toLoop rest

/-- The name that cannot be bound. -/
def debugName : String := "__debug__"

/-- Refuses to bind or delete the name that cannot be bound. -/
def mayUse (span : Span) (usage : Usage) (name : String) : Checker Unit := do
  if name = debugName then
    match usage with
    | .load => return ()
    | .store => refuse span (.cannotAssign debugName)
    | .del => refuse span (.cannotDelete debugName)

/-! ## Blocks that wait or yield -/

mutual

/-- Does a block yield, or wait, where a tree stands in it? What stands in inner blocks does not
count, except that a comprehension that waits makes its surroundings wait. -/
def reaches (waits : Bool) : Tree → Bool
  | .node .await _ fs => waits || reachesFields waits fs
  | .node .yield _ fs => !waits || reachesFields waits fs
  | .node .yieldFrom _ fs => !waits || reachesFields waits fs
  | .node (.functionDef _ _) _
      [[.node .arguments _ [_, _, _, _, kds, _, ds]], _, decorators, _] =>
    reachesAny waits ds || reachesAny waits kds || reachesAny waits decorators
  | .node (.classDef _) _ [bases, keywords, _, decorators] =>
    reachesAny waits bases || reachesAny waits keywords || reachesAny waits decorators
  | .node .lambda _ [[.node .arguments _ [_, _, _, _, kds, _, ds]], _] =>
    reachesAny waits ds || reachesAny waits kds
  | .node .generatorExp _ [_, .node (.comprehension _) _ [_, [source], _] :: _] =>
    reaches waits source
  | .node .listComp _
      [es, .node (.comprehension isAsync) _ [ts, [source], conditions] :: more] =>
    reaches waits source || (waits && (isAsync || reachesAny waits es || reachesAny waits ts
      || reachesAny waits conditions || reachesClauses waits more))
  | .node .setComp _
      [es, .node (.comprehension isAsync) _ [ts, [source], conditions] :: more] =>
    reaches waits source || (waits && (isAsync || reachesAny waits es || reachesAny waits ts
      || reachesAny waits conditions || reachesClauses waits more))
  | .node .dictComp _
      [ks, vs, .node (.comprehension isAsync) _ [ts, [source], conditions] :: more] =>
    reaches waits source || (waits && (isAsync || reachesAny waits ks || reachesAny waits vs
      || reachesAny waits ts || reachesAny waits conditions || reachesClauses waits more))
  | .node _ _ fs => reachesFields waits fs

/-- Does a block yield, or wait, in some fields? -/
def reachesFields (waits : Bool) : List (List Tree) → Bool
  | [] => false
  | f :: fs => reachesAny waits f || reachesFields waits fs

/-- Does a block yield, or wait, in some trees? -/
def reachesAny (waits : Bool) : List Tree → Bool
  | [] => false
  | t :: ts => reaches waits t || reachesAny waits ts

/-- Does a comprehension wait in its later clauses? -/
def reachesClauses (waits : Bool) : List Tree → Bool
  | .node (.comprehension isAsync) _ [ts, sources, conditions] :: more =>
    isAsync || reachesAny waits ts || reachesAny waits sources || reachesAny waits conditions
      || reachesClauses waits more
  | _ => false

end

/-- Does a comprehension wait itself, once its first iterable is there? -/
def comprehensionWaits (elements : List Tree) (generators : List Tree) : Bool :=
  match generators with
  | .node (.comprehension isAsync) _ [ts, _, conditions] :: more =>
    isAsync || reachesAny true elements || reachesAny true ts || reachesAny true conditions
      || reachesClauses true more
  | _ => false

/-! ## Remarks -/

/-- What type an expression certainly has. -/
def typeName? (t : Tree) : Option String :=
  match t.kind with
  | .tuple _ => some "tuple"
  | .list _ | .listComp => some "list"
  | .dict | .dictComp => some "dict"
  | .set | .setComp => some "set"
  | .generatorExp => some "generator"
  | .lambda => some "function"
  | .joinedStr | .formattedValue _ => some "str"
  | _ => t.staticValue?.map StaticValue.typeName

/-- Remarks on calling something that cannot be called. -/
def remarkOnCall (span : Span) (function : Tree) : Checker Unit :=
  match function.kind, typeName? function with
  | .lambda, _ => return ()
  | _, some type => remark span (.notCallable type)
  | _, none => return ()

/-- Is it a value that has no parts? -/
def hasNoParts : StaticValue → Bool
  | .text _ | .bytes _ | .tuple _ => false
  | _ => true

/-- Remarks on taking parts of something that has none. -/
def remarkOnSubscript (span : Span) (value : Tree) : Checker Unit :=
  match value.kind, value.staticValue? with
  | .set, _ | .setComp, _ => remark span (.notSubscriptable "set")
  | .generatorExp, _ => remark span (.notSubscriptable "generator")
  | .lambda, _ => remark span (.notSubscriptable "function")
  | _, some v => if hasNoParts v then remark span (.notSubscriptable v.typeName) else return ()
  | _, none => return ()

/-- Is it a sequence whose indices are integers? -/
def isSequence (t : Tree) : Bool :=
  match t.kind with
  | .tuple _ | .list _ | .listComp | .joinedStr | .formattedValue _ => true
  | _ => (t.staticValue?.map fun v => !hasNoParts v).getD false

/-- Remarks on an index that cannot be one. -/
def remarkOnIndex (span : Span) (value index : Tree) : Checker Unit :=
  match typeName? index with
  | none | some "int" | some "bool" => return ()
  | some type =>
    match isSequence value, typeName? value with
    | true, some container => remark span (.badIndex container type)
    | _, _ => return ()

/-- May the operand be compared by identity? -/
def hasIdentity (t : Tree) : Bool :=
  match t.staticValue? with
  | none | some .none | some (.bool _) | some .ellipsis => true
  | _ => false

/-- Whether the first comparison by identity with a literal asks for difference. -/
def literalIdentity? (left : Bool) : List (CmpOp × Tree) → Option Bool
  | [] => none
  | (op, t) :: rest =>
    let right := hasIdentity t
    match op, left && right with
    | .is, false => some false
    | .isNot, false => some true
    | _, _ => literalIdentity? right rest

/-- The opposite of a comparison that has one. -/
def opposite? : List CmpOp → Option (List CmpOp)
  | [.is] => some [.isNot]
  | [.isNot] => some [.is]
  | [.isIn] => some [.notIn]
  | [.notIn] => some [.isIn]
  | _ => none

/-- A negated comparison as the opposite comparison. -/
def comparison? : Tree → Option (List CmpOp × Span)
  | .node (.compare ops) s _ => some (ops, s.getD default)
  | .node (.unaryOp .not) _ [[operand]] => do
    let (ops, span) ← comparison? operand
    let ops ← opposite? ops
    return (ops, span)
  | _ => none

/-! ## Targets -/

/-- Checks the elements that values are unpacked into. -/
def checkUnpacking (span : Span) : Nat → Bool → List Tree → Checker Unit
  | _, _, [] => return ()
  | position, starred, .node (.starred _) _ _ :: rest => do
    if starred then refuse span .twoStarred
    if position ≥ 256 then refuse span .tooManyStarred
    checkUnpacking span (position + 1) true rest
  | position, starred, _ :: rest => checkUnpacking span (position + 1) starred rest

/-- Refuses keywords that are given twice. -/
def checkKeywords (span : Span) : List Tree → Checker Unit
  | [] => return ()
  | .node (.keyword (some name)) _ _ :: rest => do
    mayUse span .store name
    match rest.find? fun k => k.kind = .keyword (some name) with
    | some other => refuse other.span (.repeatedKeyword name)
    | none => checkKeywords span rest
  | _ :: rest => checkKeywords span rest

/-- Refuses parameters that cannot be bound. -/
def checkParameters (span : Span) (arguments : Tree) : Checker Unit :=
  match arguments with
  | .node .arguments _ [only, ps, rest, named, _, mapping, _] =>
    (only ++ ps ++ rest ++ named ++ mapping).forM fun p =>
      match p.kind with
      | .arg name => mayUse span .store name
      | _ => return ()
  | _ => return ()

mutual

/-- Checks an expression. -/
def expr (ctx : Context) : Tree → Checker Unit
  | .node (.name id usage) s _ => mayUse (s.getD default) usage id
  | .node (.starred usage) s _ =>
    refuse (s.getD default)
      (if usage = .store then .starredTargetAlone else .starredOutsideList)
  | .node (.list usage) s [elements] => do
    if usage = .store then checkUnpacking (s.getD default) 0 false elements
    elementsOf ctx elements
  | .node (.tuple usage) s [elements] => do
    if usage = .store then checkUnpacking (s.getD default) 0 false elements
    elementsOf ctx elements
  | .node .set _ [elements] => elementsOf ctx elements
  | .node (.compare ops) s [[left], others] => do
    match literalIdentity? (hasIdentity left) (ops.zip others) with
    | some negated => remark (s.getD default) (.isWithLiteral negated)
    | none => pure ()
    expr ctx left
    exprs ctx others
  | .node (.unaryOp op) s [[operand]] => do
    if (Tree.node (.unaryOp op) s [[operand]]).staticValue?.isSome then return ()
    match op, comparison? (.node (.unaryOp op) s [[operand]]) with
    | .not, some (ops, span) => negated ctx span ops operand
    | _, _ => expr ctx operand
  | .node (.binOp op) s [[left], [right]] => do
    if (Tree.node (.binOp op) s [[left], [right]]).staticValue?.isSome then return ()
    expr ctx left
    expr ctx right
  | .node .call s [[function], arguments, keywords] => do
    let span := s.getD default
    checkKeywords span keywords
    remarkOnCall span function
    expr ctx function
    elementsOf ctx arguments
    exprs ctx keywords
  | .node (.keyword _) _ [[value]] => expr ctx value
  | .node (.subscript usage) s [[value], [index]] => do
    let span := s.getD default
    if usage = .load then
      if (Tree.node (.subscript usage) s [[value], [index]]).staticValue?.isSome then return ()
      remarkOnSubscript span value
      remarkOnIndex span value index
    expr ctx value
    expr ctx index
  | .node (.attribute name usage) s [[value]] => do
    expr ctx value
    if usage = .store then mayUse (s.getD default) .store name
  | .node .namedExpr _ [[target], [value]] => do
    expr ctx value
    expr ctx target
  | .node .dict _ [keys, values] => do
    entriesOf ctx keys
    exprs ctx values
  | .node .lambda s [[.node .arguments as [only, ps, rest, named, kds, mapping, ds]], [body]] => do
    checkParameters (s.getD default) (.node .arguments as [only, ps, rest, named, kds, mapping, ds])
    exprs ctx ds
    entriesOf ctx kds
    expr { ctx with block := .lambda, frames := [] } body
  | .node .yield s [value] => do
    if !ctx.block.isFunction then refuse (s.getD default) .yieldOutside
    exprs ctx value
  | .node .yieldFrom s [value] => do
    if !ctx.block.isFunction then refuse (s.getD default) .yieldOutside
    if ctx.block = .asyncFunction then refuse (s.getD default) .yieldFromInAsync
    exprs ctx value
  | .node .await s [value] => do
    if ctx.block ≠ .module then
      if !ctx.block.isFunction then refuse (s.getD default) .awaitOutside
      if ctx.block ≠ .asyncFunction && ctx.block ≠ .comprehension then
        refuse (s.getD default) .awaitOutsideAsync
    exprs ctx value
  | .node .ifExp _ [[test], [body], [otherwise]] => do
    expr ctx test
    expr ctx body
    expr ctx otherwise
  | .node .listComp s [elements, generators] => do
    mayWait ctx (s.getD default) elements generators
    clauses { ctx with block := .comprehension, frames := [] } true generators
    exprs { ctx with block := .comprehension, frames := [] } elements
    firstSource ctx generators
  | .node .setComp s [elements, generators] => do
    mayWait ctx (s.getD default) elements generators
    clauses { ctx with block := .comprehension, frames := [] } true generators
    exprs { ctx with block := .comprehension, frames := [] } elements
    firstSource ctx generators
  | .node .dictComp s [keys, values, generators] => do
    mayWait ctx (s.getD default) (keys ++ values) generators
    clauses { ctx with block := .comprehension, frames := [] } true generators
    exprs { ctx with block := .comprehension, frames := [] } keys
    exprs { ctx with block := .comprehension, frames := [] } values
    firstSource ctx generators
  | .node .generatorExp _ [elements, generators] => do
    clauses { ctx with block := .comprehension, frames := [] } true generators
    exprs { ctx with block := .comprehension, frames := [] } elements
    firstSource ctx generators
  | .node _ _ fs => exprFields ctx fs

/-- Checks a negated comparison as the opposite one. -/
def negated (ctx : Context) (span : Span) (ops : List CmpOp) : Tree → Checker Unit
  | .node (.compare _) _ [[left], others] => do
    match literalIdentity? (hasIdentity left) (ops.zip others) with
    | some negated => remark span (.isWithLiteral negated)
    | none => pure ()
    expr ctx left
    exprs ctx others
  | .node (.unaryOp _) _ [[operand]] => negated ctx span ops operand
  | _ => return ()

/-- Refuses a comprehension that waits where nothing may wait. -/
def mayWait (ctx : Context) (span : Span) (elements generators : List Tree) : Checker Unit := do
  if comprehensionWaits elements generators && ctx.block ≠ .asyncFunction
      && ctx.block ≠ .comprehension && ctx.block ≠ .module then
    refuse span .asyncComprehensionOutside

/-- Checks expressions in some fields. -/
def exprFields (ctx : Context) : List (List Tree) → Checker Unit
  | [] => return ()
  | f :: fs => do
    exprs ctx f
    exprFields ctx fs

/-- Checks several expressions. -/
def exprs (ctx : Context) : List Tree → Checker Unit
  | [] => return ()
  | t :: ts => do
    expr ctx t
    exprs ctx ts

/-- Checks elements, which may be starred. -/
def elementsOf (ctx : Context) : List Tree → Checker Unit
  | [] => return ()
  | .node (.starred _) _ [[value]] :: ts => do
    expr ctx value
    elementsOf ctx ts
  | t :: ts => do
    expr ctx t
    elementsOf ctx ts

/-- Checks trees of which some may be absent. -/
def entriesOf (ctx : Context) : List Tree → Checker Unit
  | [] => return ()
  | .node .absent _ _ :: ts => entriesOf ctx ts
  | t :: ts => do
    expr ctx t
    entriesOf ctx ts

/-- Checks the clauses of a comprehension. The first iterable belongs to the surroundings. -/
def clauses (ctx : Context) (isFirst : Bool) : List Tree → Checker Unit
  | .node (.comprehension _) _ [targets, sources, conditions] :: more => do
    if !isFirst then exprs ctx sources
    exprs ctx targets
    exprs ctx conditions
    clauses ctx false more
  | _ => return ()

/-- Checks the first iterable of a comprehension. -/
def firstSource (ctx : Context) : List Tree → Checker Unit
  | .node (.comprehension _) _ [_, sources, _] :: _ => exprs ctx sources
  | _ => return ()

end

/-! ## Patterns -/

/-- Binds a name in a pattern. -/
def store (name : Option String) : Checker Unit := do
  match name with
  | none => return ()
  | some n => do
    let s ← get
    mayUse s.place .store n
    if s.stores.contains n then refuse s.place (.reboundInPattern n)
    set { s with stores := s.stores ++ [n] }

/-- Moves to a place. -/
def moveTo (span : Option Span) : Checker Unit :=
  modify fun s => { s with place := span.getD default }

/-- Refuses attributes that are named twice. -/
def checkAttributes : List (String × Tree) → Checker Unit
  | [] => return ()
  | (name, pattern) :: rest => do
    mayUse pattern.span .store name
    match rest.find? fun other => other.1 = name with
    | some other => refuse other.2.span (.repeatedAttribute name)
    | none => checkAttributes rest

/-- Checks the keys of a mapping pattern. -/
def checkKeys (ctx : Context) (place : Span) : List StaticValue → List Tree → Checker Unit
  | _, [] => return ()
  | seen, key :: keys =>
    match key.kind, key.staticValue? with
    | _, some v => do
      if seen.any v.same then refuse place (.repeatedKey v.shown)
      checkKeys ctx place (v :: seen) keys
    | .attribute _ _, none => do
      expr ctx key
      checkKeys ctx place seen keys
    | _, none => refuse place .patternKey

/-- Does a pattern match everything without binding a name? -/
def isWildcard (t : Tree) : Bool := t.kind = .matchAs none

/-- Refuses more than one starred name in a sequence. -/
def checkStars (place : Span) : Nat → Bool → List Tree → Checker Unit
  | _, _, [] => return ()
  | position, starred, .node (.matchStar _) _ _ :: rest => do
    if starred then refuse place .twoStarredPatterns
    if position ≥ 256 then refuse place .tooManyStarredPatterns
    checkStars place (position + 1) true rest
  | position, starred, _ :: rest => checkStars place (position + 1) starred rest

mutual

/-- Checks a pattern. `last` holds where it may match everything. -/
def pattern (ctx : Context) (last : Bool) : Tree → Checker Unit
  | .node .matchValue s [[value]] => do
    moveTo s
    match value.kind, value.staticValue? with
    | .attribute _ _, _ => expr ctx value
    | _, some _ => return ()
    | _, none => refuse (s.getD default) .patternValue
  | .node .matchSequence s [patterns] => do
    moveTo s
    checkStars (s.getD default) 0 false patterns
    subpatterns ctx patterns
  | .node (.matchStar name) s _ => do
    moveTo s
    store name
  | .node (.matchMapping rest) s [keys, patterns] => do
    moveTo s
    checkKeys ctx (s.getD default) [] keys
    subpatterns ctx patterns
    store rest
  | .node (.matchClass names) s [[cls], positional, named] => do
    moveTo s
    checkAttributes (names.zip named)
    expr ctx cls
    subpatterns ctx positional
    subpatterns ctx named
  | .node (.matchAs name) s [[]] => do
    moveTo s
    if !last then
      match name with
      | some n => refuse (s.getD default) (.captureNotLast n)
      | none => refuse (s.getD default) .wildcardNotLast
    store name
  | .node (.matchAs name) s [[inner]] => do
    moveTo s
    pattern ctx last inner
    store name
  | .node .matchOr s [patterns] => do
    moveTo s
    let outer := (← get).stores
    let names ← alternatives ctx last none patterns
    modify fun s => { s with stores := outer }
    names.forM fun n => do
      let s ← get
      if s.stores.contains n then refuse s.place (.reboundInPattern n)
      set { s with stores := s.stores ++ [n] }
  | .node _ s _ => moveTo s

/-- Checks patterns inside a pattern. A wildcard is passed over. -/
def subpatterns (ctx : Context) : List Tree → Checker Unit
  | [] => return ()
  | .node (.matchAs none) _ _ :: ps => subpatterns ctx ps
  | p :: ps => do
    pattern ctx true p
    subpatterns ctx ps

/-- Checks alternatives, all of which have to bind the same names. -/
def alternatives (ctx : Context) (last : Bool) (names : Option (List String)) :
    List Tree → Checker (List String)
  | [] => return names.getD []
  | p :: ps => do
    modify fun s => { s with stores := [] }
    pattern ctx (last && ps.isEmpty) p
    let bound := (← get).stores
    match names with
    | none => alternatives ctx last (some bound) ps
    | some ns =>
      if bound.length = ns.length && ns.all bound.contains then alternatives ctx last names ps
      else refuse (← get).place .alternativeNames

end

/-! ## Statements -/

/-- Checks an annotation that is evaluated. -/
def evaluatedHint (ctx : Context) (hint : List Tree) : Checker Unit :=
  if ctx.future.postponesHints then return () else elementsOf ctx hint

/-- The annotations of some parameters. -/
def hintsOf (ps : List Tree) : List Tree :=
  ps.flatMap fun p =>
    match p with
    | .node (.arg _) _ [h] => h
    | _ => []

/-- Checks the parameters of a function, as its surroundings see them. -/
def signature (ctx : Context) (arguments : Tree) (result : List Tree) : Checker Unit :=
  match arguments with
  | .node .arguments _ [only, ps, rest, named, kds, mapping, ds] => do
    exprs ctx ds
    entriesOf ctx kds
    evaluatedHint ctx (hintsOf ps ++ hintsOf only ++ hintsOf rest ++ hintsOf named
      ++ hintsOf mapping ++ result)
  | _ => return ()

/-- Does a `case` match everything? -/
def isDefaultCase (t : Tree) : Bool :=
  match t with
  | .node .matchCase _ [[p], _, _] => isWildcard p
  | _ => false

/-- Checks a `try` without its final part, given how its parts are checked. -/
def handled (ctx : Context) (span : Span) (star : Bool)
    (body handlers otherwise : Context → Checker Unit) : Checker Unit := do
  let inner ← push ctx .plain span
  body inner
  if star then
    let inner ← push ctx .groupHandler span
    handlers inner
    otherwise ctx
  else
    otherwise ctx
    let inner ← push ctx .plain span
    handlers inner

mutual

/-- Checks a statement. -/
def stmt (ctx : Context) : Tree → Checker Unit
  | .node (.functionDef isAsync name) s [[arguments], body, decorators, result] => do
    let span := s.getD default
    checkParameters span arguments
    exprs ctx decorators
    signature ctx arguments result
    stmts
      { block := if isAsync then .asyncFunction else .function
        future := ctx.future
        isGenerator := reachesAny false body
        isCoroutine := isAsync || reachesAny true body } body
    mayUse span .store name
  | .node (.classDef name) s [bases, keywords, body, decorators] => do
    let span := s.getD default
    exprs ctx decorators
    stmts { block := .classBody, future := ctx.future } body
    checkKeywords span keywords
    elementsOf ctx bases
    exprs ctx keywords
    mayUse span .store name
  | .node .returnStmt s [value] => do
    let span := s.getD default
    if !ctx.block.isFunction then refuse span .returnOutside
    if !value.isEmpty && ctx.isCoroutine && ctx.isGenerator then
      refuse span .returnValueInAsyncGenerator
    exprs ctx value
    let _ ← unwind span false ctx.frames
  | .node .delete _ [targets] => exprs ctx targets
  | .node .assign _ [targets, [value]] => do
    expr ctx value
    exprs ctx targets
  | .node (.augAssign _) _ [[.node (.name id _) ns _], [value]] => do
    expr ctx value
    mayUse (ns.getD default) .store id
  | .node (.augAssign _) _ [[.node (.attribute name _) ts parts], [value]] => do
    exprFields ctx parts
    expr ctx value
    mayUse (ts.getD default) .store name
  | .node (.augAssign _) _ [[.node _ _ parts], [value]] => do
    exprFields ctx parts
    expr ctx value
  | .node (.annAssign simple) s [[.node k ts parts], [hint], value] => do
    let span := s.getD default
    exprs ctx value
    if !value.isEmpty then expr ctx (.node k ts parts)
    let evaluates := (ctx.block = .module || ctx.block = .classBody) && !ctx.future.postponesHints
    match k with
    | .name id _ => do
      mayUse span .store id
      if simple && evaluates then expr ctx hint
    | .attribute name _ => do
      mayUse span .store name
      if value.isEmpty then exprFields ctx parts
    | .subscript _ => if value.isEmpty then exprFields ctx parts
    | _ => pure ()
    if !simple && evaluates then expr ctx hint
  | .node (.forLoop isAsync) s [[target], [source], body, otherwise] => do
    let span := s.getD default
    if isAsync && ctx.block ≠ .asyncFunction && ctx.block ≠ .module then
      refuse span .asyncForOutside
    let inner ← push ctx .loop span
    expr ctx source
    expr ctx target
    stmts inner body
    stmts ctx otherwise
  | .node .whileLoop s [[test], body, otherwise] => do
    let inner ← push ctx .loop (s.getD default)
    expr ctx test
    stmts inner body
    expr ctx test
    stmts ctx otherwise
  | .node .ifStmt _ [[test], body, otherwise] => do
    expr ctx test
    stmts ctx body
    stmts ctx otherwise
  | .node (.withStmt isAsync) s [items, body] => do
    let span := s.getD default
    if isAsync && ctx.block ≠ .asyncFunction && ctx.block ≠ .module then
      refuse span .asyncWithOutside
    let inner ← withItems ctx span items
    stmts inner body
  | .node .matchStmt _ [[subject], cases] => do
    expr ctx subject
    casesOf ctx cases
  | .node .raise _ [exception, cause] => do
    exprs ctx exception
    exprs ctx cause
  | .node (.tryStmt star) s [body, handlers, otherwise, final] => do
    let span := s.getD default
    let parts (ctx : Context) : Checker Unit :=
      handled ctx span star (stmts · body) (handlersOf · star handlers) (stmts · otherwise)
    if final.isEmpty then parts ctx
    else
      let inner ← push ctx (.final (stmts ctx final)) span
      if handlers.isEmpty then stmts inner body else parts inner
      stmts ctx final
      let inner ← push ctx .plain span
      stmts inner final
  | .node .assert s [[test], message] => do
    match test.kind, test.children with
    | .tuple _, _ :: _ => remark (s.getD default) .tupleAssertion
    | _, _ =>
      match test.staticValue? with
      | some (.tuple (_ :: _)) => remark (s.getD default) .tupleAssertion
      | _ => pure ()
    expr ctx test
    exprs ctx message
  | .node .importNames s [aliases] => bindAliases (s.getD default) aliases
  | .node (.importFrom module _) s [aliases] => do
    let span := s.getD default
    if module = some Dependencies.futureModule && span.line > ctx.future.line then
      refuse span .futureNotFirst
    bindAliases span aliases
  | .node .exprStmt _ [[value]] => expr ctx value
  | .node .breakStmt s _ => do
    let span := s.getD default
    if !(← unwind span true ctx.frames) then refuse span .breakOutside
  | .node .continueStmt s _ => do
    let span := s.getD default
    if !(← unwind span true ctx.frames) then refuse span .continueOutside
  | _ => return ()

/-- Checks several statements. -/
def stmts (ctx : Context) : List Tree → Checker Unit
  | [] => return ()
  | t :: ts => do
    stmt ctx t
    stmts ctx ts

/-- Checks handlers. -/
def handlersOf (ctx : Context) (star : Bool) : List Tree → Checker Unit
  | [] => return ()
  | .node (.exceptHandler name) s [type, body] :: rest => do
    let span := s.getD default
    if type.isEmpty && !star && !rest.isEmpty then refuse span .defaultExceptNotLast
    exprs ctx type
    name.toList.forM (mayUse span .store)
    let inner ← push ctx .plain span
    stmts inner body
    handlersOf ctx star rest
  | _ :: rest => handlersOf ctx star rest

/-- Checks the items of a `with`. The result is the context of its body. -/
def withItems (ctx : Context) (span : Span) : List Tree → Checker Context
  | .node .withItem _ [[context], target] :: rest => do
    expr ctx context
    let inner ← push ctx .plain span
    exprs ctx target
    withItems inner span rest
  | _ => return ctx

/-- Checks the cases of a `match`. -/
def casesOf (ctx : Context) : List Tree → Checker Unit
  | [] => return ()
  | .node .matchCase _ [[p], condition, body] :: rest => do
    modify fun s => { s with stores := [] }
    pattern ctx (!condition.isEmpty || rest.isEmpty) p
    exprs ctx condition
    stmts ctx body
    casesOf ctx rest
  | _ :: rest => casesOf ctx rest

/-- Checks the names that an import binds. -/
def bindAliases (span : Span) : List Tree → Checker Unit
  | [] => return ()
  | .node (.alias name asName) _ _ :: rest => do
    mayUse span .store (Scope.boundPart (asName.getD name))
    bindAliases span rest
  | _ :: rest => bindAliases span rest

end

/-- Checks a module. The result are remarks, in order. -/
def module (tree : Tree) : Except SyntaxError (List Warning) := do
  let future ← Future.ofModule tree
  Scope.checkModule future tree
  let ((), s) ← (tree.children.forM (stmt { block := .module, future })).run {}
  return s.warnings.reverse

end Check

end SourceLoader
