import SourceLoader.Body.Builtin

/-!
# Calling a value

Anything that can be called is called here: functions and methods, classes, which make an object
and let it set itself up, and what belongs to the language, the host or the loader.
-/

namespace SourceLoader

namespace Invoke

/-- Fails because arguments by name are not taken. -/
def noKeywords {α : Type} (name : String) : Eval α :=
  Eval.typeError s!"{name}() takes no keyword arguments"

/-- Makes an object of a class of a module. -/
def ofClass (E : Engine) (env : Env) (c : Value) (o : ClassObject) (args : List Value)
    (keywords : Attributes) : Eval Value := do
  let m ← Eval.memory
  let setUp := Attribute.inClasses m (m.lineage c) "__init__"
  let isError := (m.errorClass? c).isSome
  let v ← if isError then Eval.add (.problem { kind := c
                                               arguments := args })
    else Eval.add (.instance c [])
  match setUp with
  | some f => do
    let result ← E.call env f (v :: args) keywords
    if result = .none then pure v
    else do
      let m ← Eval.memory
      Eval.typeError s!"__init__() should return None, not '{m.shownType result}'"
  | none =>
    if isError then (if keywords.isEmpty then pure v else noKeywords o.name)
    else if args.isEmpty && keywords.isEmpty then pure v
    else Eval.typeError s!"{o.name}() takes no arguments"

/-- Makes an error of a class that belongs to the language or to the loader. -/
def ofErrorClass (c : ErrorClass) (args : List Value) (keywords : Attributes) : Eval Value := do
  let allowed := c.isBelow ⟨"ImportError"⟩ || c.isBelow ⟨"NameError"⟩
    || c.isBelow ⟨"AttributeError"⟩
  if !keywords.isEmpty && !allowed then noKeywords c.name
  else
    match c.isBelow ⟨"ModloomError"⟩, args with
    | true, [v] => do
      let m ← Eval.memory
      let d := (m.toData v).toOption.getD .none
      Eval.add (.problem (.ofFailure (.ofClass c d) none))
    | _, args =>
      Eval.add (.problem { kind := .errorClass c
                           arguments := args
                           attributes := keywords })

/-- Calls a value. -/
def call (E : Engine) (env : Env) (f : Value) (args : List Value) (keywords : Attributes) :
    Eval Value := do
  let m ← Eval.memory
  match f with
  | .builtin name => Builtin.call E env name args keywords
  | .type name => Builtin.construct E env name args keywords
  | .errorClass c => ofErrorClass c args keywords
  | .hostFunction module name => Builtin.callHost module name args keywords
  | f =>
    match m.object? f with
    | some (.function g) => Call.function E env g args keywords
    | some (.method receiver g) => E.call env g (receiver :: args) keywords
    | some (.builtinMethod receiver name) => Method.call E env receiver name args keywords
    | some (.tool tool config file) => Call.tool E tool config file args keywords
    | some (.class o) => ofClass E env f o args keywords
    | some (.instance c _) =>
      match Attribute.inClasses m (m.lineage c) "__call__" with
      | some g => E.call env g (f :: args) keywords
      | none => Eval.typeError s!"'{m.shownType f}' object is not callable"
    | _ => Eval.typeError s!"'{m.shownType f}' object is not callable"

/-- The elements of a value. -/
def elements (E : Engine) (env : Env) (v : Value) : Eval (List Value) := do
  let m ← Eval.memory
  match Subscript.elements? m v with
  | some vs => pure vs
  | none =>
    match v, m.object? v with
    | .ref address, some (.generator name p) => Call.generated E env address name p
    | v, _ => Eval.typeError s!"'{m.shownType v}' object is not iterable"

end Invoke

end SourceLoader
