import SourceLoader.Body.Invoke
import SourceLoader.Syntax.Printer

/-!
# Expressions

What the expressions of a body come to. Parts are evaluated from left to right.
-/

namespace SourceLoader

namespace Expression

/-- The value of a literal. -/
def ofConstant : Constant → Eval Value
  | .none => pure .none
  | .bool b => pure (.bool b)
  | .ellipsis => pure .ellipsis
  | .int n => pure (.int n)
  | .float x => pure (.float x)
  | .imaginary _ => Eval.add (.plain "complex")
  | .text t _ => pure (.text t.toString)
  | .bytes bs => pure (.bytes bs)

/-- The elements behind a star. -/
def unpacked (E : Engine) (env : Env) (message : String → String) (v : Value) :
    Eval (List Value) := do
  let m ← Eval.memory
  let isIterable := (Subscript.elements? m v).isSome || (match m.object? v with
    | some (.generator _ _) => true
    | _ => false)
  if isIterable then E.elements env v else Eval.typeError (message (m.shownType v))

/-- The values of expressions, of which some may stand for several values. -/
def items (E : Engine) (env : Env) (message : String → String) : List Tree → Eval (List Value)
  | [] => pure []
  | .node (.starred _) _ [[inner]] :: ts => do
    let v ← E.expr env inner
    let vs ← unpacked E env message v
    let rest ← items E env message ts
    pure (vs ++ rest)
  | t :: ts => do
    let v ← E.expr env t
    let rest ← items E env message ts
    pure (v :: rest)

/-- The values of the elements of a list, a tuple or a set. -/
def elementsOf (E : Engine) (env : Env) (ts : List Tree) : Eval (List Value) :=
  items E env (fun type => s!"Value after * must be an iterable, not {type}") ts

/-- The entries of a mapping. -/
def entriesOf (E : Engine) (env : Env) (entries : List (Value × Value)) :
    List (Tree × Tree) → Eval (List (Value × Value))
  | [] => pure entries
  | (key, value) :: rest => do
    if key.isMissing then
      let v ← E.expr env value
      let m ← Eval.memory
      match m.object? v with
      | some (.dict es) =>
        entriesOf E env (es.foldl (fun found e => m.insertEntry e.1 e.2 found) entries) rest
      | _ => Eval.typeError s!"'{m.shownType v}' object is not a mapping"
    else
      let k ← E.expr env key
      let v ← E.expr env value
      Subscript.hashable k
      let m ← Eval.memory
      entriesOf E env (m.insertEntry k v entries) rest

/-- Operands of `and` and `or`: the first one that decides, or the last one. -/
def operands (E : Engine) (env : Env) (stopsAt : Bool) : List Tree → Eval Value
  | [] => pure .none
  | [t] => E.expr env t
  | t :: ts => do
    let v ← E.expr env t
    let m ← Eval.memory
    if m.isTrue v = stopsAt then pure v else operands E env stopsAt ts

/-- A chain of comparisons. -/
def chain (E : Engine) (env : Env) (left : Value) : List (CmpOp × Tree) → Eval Value
  | [] => pure (.bool true)
  | (op, t) :: rest => do
    let right ← E.expr env t
    let holds ← Comparison.holds op left right
    if holds && !rest.isEmpty then chain E env right rest else pure (.bool holds)

/-- An optional expression. -/
def optional (E : Engine) (env : Env) : List Tree → Eval Value
  | [t] => E.expr env t
  | _ => pure .none

/-! ## Functions -/

/-- The defaults of keyword-only parameters. -/
def keywordDefaults (E : Engine) (env : Env) : List (String × Tree) → Eval Attributes
  | [] => pure []
  | (name, t) :: rest => do
    if t.isMissing then keywordDefaults E env rest
    else
      let v ← E.expr env t
      let more ← keywordDefaults E env rest
      pure ((name, v) :: more)

/-- Makes a function. -/
def makeFunction (E : Engine) (env : Env) (name : String) (isAsync : Bool) (parameters : Tree)
    (code : Code) : Eval Function := do
  let (kwNames, kwDefaults, defaults) := match parameters.fields with
    | [_, _, _, ks, kds, _, ds] => (Call.argNames ks, kds, ds)
    | _ => ([], [], [])
  let defaults ← elementsOf E env defaults
  let keywordDefaults ← keywordDefaults E env (kwNames.zip kwDefaults)
  let body := match code with
    | .statements ts => ts
    | .expression t => [t]
  let notes := NameNote.ofAll false body
  pure { name, fullName := env.site.qualifier ++ name, isAsync, parameters, defaults
         keywordDefaults, code
         isGenerator := Check.reachesAny false body
         locals := NameNote.locals notes
         globalNames := NameNote.globals notes
         site := env.site }

/-! ## Calls -/

/-- The name of a function as messages about its arguments show it. -/
def functionText (v : Value) : Eval String := do
  let m ← Eval.memory
  let name ← Attribute.get? v "__qualname__"
  let module ← Attribute.get? v "__module__"
  match name, module with
  | some (.text n), some (.text "builtins") => pure s!"{n}()"
  | some (.text n), some (.text k) => pure s!"{k}.{n}()"
  | some (.text n), _ => pure s!"{n}()"
  | _, _ => pure (m.shown v)

/-- The arguments by name. -/
def keywordsOf (E : Engine) (env : Env) (function : Value) (known : Attributes) :
    List Tree → Eval Attributes
  | [] => pure known
  | .node (.keyword (some name)) _ [[value]] :: rest => do
    let v ← E.expr env value
    if (known.get? name).isSome then
      let f ← functionText function
      Eval.typeError s!"{f} got multiple values for keyword argument '{name}'"
    else keywordsOf E env function (known ++ [(name, v)]) rest
  | .node (.keyword none) _ [[value]] :: rest => do
    let v ← E.expr env value
    let m ← Eval.memory
    match m.object? v with
    | some (.dict es) =>
      let given := es.filterMap fun e => match e.1 with
        | .text s => some (s, e.2)
        | _ => none
      if given.length < es.length then Eval.typeError "keywords must be strings"
      else
        match given.find? fun a => (known.get? a.1).isSome with
        | some a => do
          let f ← functionText function
          Eval.typeError s!"{f} got multiple values for keyword argument '{a.1}'"
        | none => keywordsOf E env function (known ++ given) rest
    | _ => do
      let f ← functionText function
      Eval.typeError s!"{f} argument after ** must be a mapping, not {m.shownType v}"
  | _ :: rest => keywordsOf E env function known rest

/-- A call. -/
def ofCall (E : Engine) (env : Env) (function : Tree) (args keywords : List Tree) :
    Eval Value := do
  let f ← E.expr env function
  let title ← if args.any (fun t => match t.kind with
      | .starred _ => true
      | _ => false) then functionText f else pure ""
  let args ← items E env
    (fun type => s!"{title} argument after * must be an iterable, not {type}") args
  let keywords ← keywordsOf E env f [] keywords
  E.call env f args keywords

/-! ## Comprehensions -/

/-- Do all conditions hold? -/
def conditions (E : Engine) (env : Env) : List Tree → Eval Bool
  | [] => pure true
  | t :: ts => do
    let v ← E.expr env t
    let m ← Eval.memory
    if m.isTrue v then conditions E env ts else pure false

/-- Runs the clauses of a comprehension, and `body` for each choice of elements. -/
def clauses (E : Engine) (env : Env) (body : Eval Unit) : Option Value → List Tree → Eval Unit
  | _, [] => body
  | first, .node (.comprehension _) _ [[target], [source], tests] :: rest => do
    let v ← match first with
      | some v => pure v
      | none => E.expr env source
    let vs ← E.elements env v
    for v in vs do
      E.assign env target v
      let holds ← conditions E env tests
      if holds then clauses E env body none rest
  | _, _ :: rest => clauses E env body none rest

/-- The names that the targets of clauses bind. -/
def targetNames (cs : List Tree) : List String :=
  NameNote.locals (cs.flatMap fun c => match c with
    | .node (.comprehension _) _ (targets :: _) => NameNote.ofAll false targets
    | _ => [])

/-- Runs a comprehension; `body` adds what one choice gives. The first iterable belongs to the
block around. The variables are its own, also those with names that this block declares global. -/
def comprehend (E : Engine) (env : Env) (title : String) (cs : List Tree)
    (body : Env → Eval Unit) : Eval Unit := do
  match cs with
  | .node (.comprehension _) _ [_, [source], _] :: _ => do
    let first ← E.expr env source
    let m ← Eval.memory
    let scope ← Eval.add (.scope ((targetNames cs).map fun n => (n, none)))
    let address := match scope with
      | .ref address => address
      | _ => m.objects.size
    let site := { env.site with
      scopes := address :: env.site.scopes
      qualifier := env.site.qualifier ++ title ++ ".<locals>." }
    let inner := { env with
      site
      classNames := none
      globalNames := env.globalNames.filter fun n => !(targetNames cs).contains n }
    clauses E inner (body inner) (some first) cs
  | _ => pure ()

/-- Changes an object that holds what a comprehension has given so far. -/
def grow (v : Value) (f : Memory → Object → Object) : Eval Unit :=
  Eval.modifyMemory fun m =>
    match v with
    | .ref address =>
      match m.get? address with
      | some o => m.put address (f m o)
      | none => m
    | _ => m

/-- An object with one more item. -/
def pushItem (v : Value) (m : Memory) : Object → Object
  | .list xs => .list (xs ++ [v])
  | .sequence name xs => .sequence name (xs ++ [v])
  | .set xs isFrozen => .set (m.insertElement xs v) isFrozen
  | o => o

/-- A comprehension of single values. -/
def collect (E : Engine) (env : Env) (title : String) (empty : Object) (element : Tree)
    (cs : List Tree) : Eval Value := do
  let out ← Eval.add empty
  comprehend E env title cs fun inner => do
    let v ← E.expr inner element
    match empty with
    | .set _ _ => Subscript.hashable v
    | _ => pure ()
    grow out (pushItem v)
  pure out

/-- A comprehension of entries. -/
def collectEntries (E : Engine) (env : Env) (key value : Tree) (cs : List Tree) :
    Eval Value := do
  let out ← Eval.add (.dict [])
  comprehend E env "<dictcomp>" cs fun inner => do
    let k ← E.expr inner key
    let v ← E.expr inner value
    Subscript.hashable k
    grow out fun m o => match o with
      | .dict es => .dict (m.insertEntry k v es)
      | o => o
  pure out

/-! ## Texts with values -/

/-- A value within a text. -/
def formatted (E : Engine) (env : Env) (v : Value) (conversion : Option Char) (spec : String) :
    Eval String := do
  let converted ← match conversion with
    | some 'r' | some 'a' => do
      let s ← Builtin.literalText E env v
      pure (Value.text s)
    | some _ => do
      let s ← Builtin.plainText E env v
      pure (Value.text s)
    | none => pure v
  if spec = "" then Builtin.plainText E env converted
  else Format.ofValue converted spec

/-- The parts of a text. -/
def textParts (E : Engine) (env : Env) : List Tree → Eval String
  | [] => pure ""
  | .node (.formattedValue conversion) _ [[value], spec] :: rest => do
    let v ← E.expr env value
    let spec ← match spec with
      | [t] => do
        let s ← E.expr env t
        pure (match s with
          | .text s => s
          | _ => "")
      | _ => pure ""
    let s ← formatted E env v conversion spec
    let more ← textParts E env rest
    pure (s ++ more)
  | t :: rest => do
    let v ← E.expr env t
    let m ← Eval.memory
    let more ← textParts E env rest
    pure (m.plain v ++ more)

/-! ## Generators -/

/-- Hands out values of a generator. -/
def yieldAll (env : Env) (vs : List Value) : Eval Value := do
  match env.yields with
  | some place => grow (.ref place) fun _ o => match o with
    | .list xs => .list (xs ++ vs)
    | o => o
  | none => pure ()
  pure .none

/-! ## All expressions -/

/-- The value of an expression. -/
def eval (E : Engine) (env : Env) (t : Tree) : Eval Value :=
  match t with
  | .node (.constant c) _ _ => ofConstant c
  | .node (.name id _) _ _ => Name.read env id
  | .node (.boolOp .and) _ [values] => operands E env false values
  | .node (.boolOp .or) _ [values] => operands E env true values
  | .node .namedExpr _ [[target], [value]] => do
    let v ← E.expr env value
    E.assign env target v
    pure v
  | .node (.binOp op) _ [[left], [right]] => do
    let a ← E.expr env left
    let b ← E.expr env right
    Operator.binary op (Operator.symbol op) a b
  | .node (.unaryOp op) _ [[operand]] => do
    let v ← E.expr env operand
    Operator.unary op v
  | .node .lambda _ [[parameters], [body]] => do
    let f ← makeFunction E env "<lambda>" false parameters (.expression body)
    Eval.add (.function f)
  | .node .ifExp _ [[test], [thenPart], [elsePart]] => do
    let v ← E.expr env test
    let m ← Eval.memory
    if m.isTrue v then E.expr env thenPart else E.expr env elsePart
  | .node .dict _ [keys, values] => do
    let es ← entriesOf E env [] (keys.zip values)
    Eval.add (.dict es)
  | .node .set _ [elements] => do
    let vs ← elementsOf E env elements
    Builtin.toSet false vs
  | .node .listComp _ [[element], cs] => collect E env "<listcomp>" (.list []) element cs
  | .node .setComp _ [[element], cs] => collect E env "<setcomp>" (.set [] false) element cs
  | .node .dictComp _ [[key], [value], cs] => collectEntries E env key value cs
  | .node .generatorExp _ [[element], cs] =>
    collect E env "<genexpr>" (.sequence "generator" []) element cs
  | .node .await _ [[value]] => do
    let v ← E.expr env value
    E.awaited env v
  | .node .yield _ [value] => do
    let v ← optional E env value
    yieldAll env [v]
  | .node .yieldFrom _ [[value]] => do
    let v ← E.expr env value
    let vs ← E.elements env v
    yieldAll env vs
  | .node (.compare ops) _ [[left], others] => do
    let a ← E.expr env left
    chain E env a (ops.zip others)
  | .node .call _ [[function], args, keywords] => ofCall E env function args keywords
  | .node .joinedStr _ [parts] => do
    let s ← textParts E env parts
    pure (.text s)
  | .node (.formattedValue _) _ _ => do
    let s ← textParts E env [t]
    pure (.text s)
  | .node (.attribute name _) _ [[value]] => do
    let v ← E.expr env value
    Attribute.get v (env.ownName name)
  | .node (.subscript _) _ [[value], [index]] => do
    let v ← E.expr env value
    let i ← E.expr env index
    Subscript.get v i
  | .node (.list _) _ [elements] => do
    let vs ← elementsOf E env elements
    Eval.add (.list vs)
  | .node (.tuple _) _ [elements] => do
    let vs ← elementsOf E env elements
    Eval.add (.tuple vs)
  | .node .slice _ [lower, upper, step] => do
    let a ← optional E env lower
    let b ← optional E env upper
    let c ← optional E env step
    Eval.add (.slice a b c)
  | t => Eval.error "NotImplementedError" s!"{t.kind.title} is not supported"

/-- The line that a failing expression is told of. An attribute counts where it ends, and so does
the call of a method. -/
def line (t : Tree) : Nat :=
  let attributeLine (t : Tree) : Option Nat := match t.kind with
    | .attribute _ _ => t.span?.map Span.endLine
    | _ => none
  match t with
  | .node .call _ [[function], args, keywords] =>
    let isPlain := !(args.any fun a => match a.kind with
        | .starred _ => true
        | _ => false)
      && !(keywords.any fun k => match k.kind with
        | .keyword none => true
        | _ => false)
    if isPlain then (attributeLine function).getD t.span.line else t.span.line
  | t => (attributeLine t).getD t.span.line

end Expression

end SourceLoader
