import SourceLoader.Body.Engine

/-!
# Calls

How arguments meet the parameters of a function, and what running a function comes to. Arguments
by position come first, then those by name, then defaults; what does not fit is refused with the
name of the function. A coroutine or a generator does not begin with the call: it keeps the
function and the scope with its arguments.
-/

namespace SourceLoader

namespace Call

/-- The parameters of a function. -/
structure Signature where
  positionalOnly : List String
  positional : List String
  rest : Option String
  keywordOnly : List String
  keywordRest : Option String

/-- The names of parameters. -/
def argNames (ts : List Tree) : List String :=
  ts.filterMap fun t => match t.kind with
    | .arg name => some name
    | _ => none

/-- The parameters of a tree. -/
def signature (t : Tree) : Signature :=
  match t.fields with
  | [ps, qs, r, ks, _, kr, _] =>
    ⟨argNames ps, argNames qs, (argNames r).head?, argNames ks, (argNames kr).head?⟩
  | _ => ⟨[], [], none, [], none⟩

/-- Names in a sentence. -/
def inWords (names : List String) : String :=
  match names.map fun n => s!"'{n}'" with
  | [] => ""
  | [a] => a
  | [a, b] => s!"{a} and {b}"
  | as => ", ".intercalate as.dropLast ++ ", and " ++ as.getLastD ""

/-- The ending of a plural. -/
def plural (n : Nat) : String := if n = 1 then "" else "s"

/-- Fails because of the arguments of a function. -/
def refuse {α : Type} (f : Function) (message : String) : Eval α :=
  Eval.typeError s!"{f.fullName}() {message}"

/-- Fails because arguments are missing. -/
def missing {α : Type} (f : Function) (kind : String) (names : List String) : Eval α :=
  refuse f s!"missing {names.length} required {kind} argument{plural names.length}: {inWords names}"

/-- Fails because there are too many arguments by position. -/
def tooMany {α : Type} (f : Function) (s : Signature) (given : Nat)
    (known : List (String × Value)) : Eval α :=
  let count := s.positionalOnly.length + s.positional.length
  let least := count - f.defaults.length
  let range := if least < count then s!"from {least} to {count}" else toString count
  let several := least < count || count ≠ 1
  let named := (s.keywordOnly.filter fun k => (known.lookup k).isSome).length
  let extra := if named = 0 then ""
    else s!" positional argument{plural given} (and {named} keyword-only argument{plural named})"
  let verb := if given = 1 && named = 0 then "was" else "were"
  refuse f (s!"takes {range} positional argument" ++ (if several then "s" else "")
    ++ s!" but {given}{extra} {verb} given")

/-- Takes up the arguments by name. The other result are those that no parameter takes. -/
def takeKeywords (f : Function) (s : Signature) :
    Attributes → Attributes → Attributes → Eval (Attributes × Attributes)
  | [], known, others => pure (known, others)
  | (name, v) :: more, known, others =>
    if s.positional.contains name || s.keywordOnly.contains name then
      if (known.get? name).isSome then refuse f s!"got multiple values for argument '{name}'"
      else takeKeywords f s more (known ++ [(name, v)]) others
    else if s.keywordRest.isSome then takeKeywords f s more known (others ++ [(name, v)])
    else
      let clash := (((name, v) :: more).map Prod.fst).filter s.positionalOnly.contains
      if clash.isEmpty then refuse f s!"got an unexpected keyword argument '{name}'"
      else refuse f ("got some positional-only arguments passed as keyword arguments: '"
        ++ ", ".intercalate clash ++ "'")

/-- Binds parameters to arguments. -/
def bind (f : Function) (args : List Value) (keywords : Attributes) : Eval Attributes := do
  let s := signature f.parameters
  let names := s.positionalOnly ++ s.positional
  let byPlace := names.zip args
  let (known, others) ← takeKeywords f s keywords byPlace []
  let surplus := args.drop names.length
  if !surplus.isEmpty && s.rest.isNone then tooMany f s args.length known
  else do
    let unset := names.filter fun n => (known.get? n).isNone
    let withDefault := (names.drop (names.length - f.defaults.length)).zip f.defaults
    let lacking := unset.filter fun n => (withDefault.lookup n).isNone
    if !lacking.isEmpty then missing f "positional" lacking
    else do
      let lackingNamed := s.keywordOnly.filter fun n =>
        (known.get? n).isNone && (f.keywordDefaults.get? n).isNone
      if !lackingNamed.isEmpty then missing f "keyword-only" lackingNamed
      else do
        let filled := (unset.filterMap fun n => (withDefault.lookup n).map fun v => (n, v))
          ++ ((s.keywordOnly.filter fun n => (known.get? n).isNone).filterMap fun n =>
            (f.keywordDefaults.get? n).map fun v => (n, v))
        let rest ← match s.rest with
          | some name => do
            let v ← Eval.add (.tuple surplus)
            pure [(name, v)]
          | none => pure []
        let keywordRest ← match s.keywordRest with
          | some name => do
            let v ← Eval.add (.dict (others.map fun a => (.text a.1, a.2)))
            pure [(name, v)]
          | none => pure []
        pure (known ++ filled ++ rest ++ keywordRest)

/-- Makes the scope of a call. -/
def openScope (f : Function) (arguments : Attributes) : Eval Nat := do
  let given := arguments.map fun a => (a.1, some a.2)
  let unset := (f.locals.filter fun n => (arguments.get? n).isNone).map fun n => (n, none)
  let v ← Eval.add (.scope (given ++ unset))
  match v with
  | .ref address => pure address
  | _ => pure 0

/-- Runs a function in a scope. -/
def run (E : Engine) (env : Env) (f : Function) (scope : Nat) (yields : Option Nat) :
    Eval Value :=
  if env.depth ≥ Env.maxCalls then Eval.error "RecursionError" "maximum recursion depth exceeded"
  else
    let site := { f.site with
      scopes := scope :: f.site.scopes
      qualifier := f.fullName ++ ".<locals>." }
    let inner : Env :=
      { site
        globalNames := f.globalNames
        handled := env.handled
        depth := env.depth + 1
        yields }
    match f.code with
    | .expression body => (E.expr inner body).asCall
    | .statements body => do
      let flow ← (E.block inner body).asCall
      match flow with
      | .returned v => pure v
      | _ => pure .none

/-- Calls a function of a module. -/
def function (E : Engine) (env : Env) (f : Function) (args : List Value)
    (keywords : Attributes) : Eval Value := do
  let arguments ← bind f args keywords
  let scope ← openScope f arguments
  if f.isGenerator then
    Eval.add (.generator f.name (some (.call f scope)))
  else if f.isAsync then Eval.add (.coroutine f.name (some (.call f scope)))
  else run E env f scope none

/-- A coroutine must not end with the error that ends an iteration. -/
def guarded {α : Type} (x : Eval α) : Eval α :=
  x.afterwards fun r =>
    match r with
    | .ok v => pure v
    | .error e => do
      let m ← Eval.memory
      let cause := Value.ref e.problem
      if m.isOf cause (.errorClass ⟨"StopIteration"⟩) then
        Eval.raiseNew
          { kind := .errorClass ⟨"RuntimeError"⟩
            arguments := [.text "coroutine raised StopIteration"]
            cause := some cause }
      else Eval.throw e

/-! ## Tools of a module -/

/-- The path that a specifier in a file stands for. -/
def resolve (E : Engine) (config : ConfigId) (file : String) (specifier : Value) : Eval String := do
  let m ← Eval.memory
  match specifier, E.resolver config with
  | .text s, r => Eval.ofExcept (r.apply file s)
  | v, .relative => Eval.typeError s!"argument of type '{m.shownType v}' is not iterable"
  | v, .prefixed _ => Eval.typeError s!"can only concatenate str (not \"{m.shownType v}\") to str"
  | v, .table _ => Eval.raiseWith "KeyError" [v]
  | v, .rule _ => Eval.typeError s!"a specifier must be str, not {m.shownType v}"

/-- The exports that the loader replies with. -/
def exports (request : Request) : Eval Value := do
  let v ← (Eval.ask request).asCall
  pure (v.getD .none)

/-- The function that a tool stands for as to its arguments. -/
def toolFunction (tool : ModuleTool) : Function where
  name := tool.name
  fullName := tool.fullName
  parameters :=
    .node .arguments none [[], [.node (.arg "specifier") none [[]]], [], [], [], [], []]
  code := .statements []
  site := { file := "", globals := 0, builtins := 0 }

/-- Calls a tool. -/
def tool (E : Engine) (tool : ModuleTool) (config : ConfigId) (file : String)
    (args : List Value) (keywords : Attributes) : Eval Value := do
  let arguments ← bind (toolFunction tool) args keywords
  let specifier := (arguments.get? "specifier").getD .none
  match tool with
  | .require => do
    let path ← resolve E config file specifier
    exports (.exports config path)
  | .load => Eval.add (.coroutine tool.name (some (.load config file specifier)))

/-- Does what is pending. -/
def perform (E : Engine) (env : Env) (p : Pending) : Eval Value :=
  match p with
  | .call f scope => guarded (run E env f scope none)
  | .load config file specifier => do
    let path ← resolve E config file specifier
    exports (.load config path)

/-- Waits for a value. -/
def await (E : Engine) (env : Env) (v : Value) : Eval Value := do
  let m ← Eval.memory
  match v, m.object? v with
  | .ref address, some (.coroutine name (some p)) =>
    Eval.put address (.coroutine name none)
    perform E env p
  | _, some (.coroutine _ none) =>
    Eval.error "RuntimeError" "cannot reuse already awaited coroutine"
  | v, _ => Eval.typeError s!"object {m.shownType v} can't be used in 'await' expression"

/-- The values that a generator yields. -/
def generated (E : Engine) (env : Env) (address : Nat) (name : String) (p : Option Pending) :
    Eval (List Value) := do
  match p with
  | some (.call f scope) =>
    Eval.put address (.generator name none)
    let out ← Eval.add (.list [])
    match out with
    | .ref place => do
      let _ ← run E env f scope (some place)
      let m ← Eval.memory
      match m.get? place with
      | some (.list vs) => pure vs
      | _ => pure []
    | _ => pure []
  | _ => pure []

/-- Can a value be waited for? -/
def isAwaitable (m : Memory) (v : Value) : Bool :=
  match m.object? v with
  | some (.coroutine _ _) => true
  | _ => false

end Call

end SourceLoader
