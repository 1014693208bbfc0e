import SourceLoader.Body.Expression

/-!
# Targets

What is bound, set or deleted when a statement has a target: a name, an attribute, an element or
a part of a value, or several targets that share the elements of a value.
-/

namespace SourceLoader

namespace Target

/-- The elements of a value that several targets share. -/
def shared (E : Engine) (env : Env) (v : Value) : Eval (List Value) :=
  Expression.unpacked E env (fun type => s!"cannot unpack non-iterable {type} object") v

/-- Is it the target that takes all elements that are left? -/
def isStarred (t : Tree) : Bool :=
  match t.kind with
  | .starred _ => true
  | _ => false

/-- Binds targets one by one. -/
def assignEach (E : Engine) (env : Env) : List (Tree × Value) → Eval Unit
  | [] => pure ()
  | (t, v) :: rest => do
    E.assign env t v
    assignEach E env rest

/-- Binds several targets to the elements of a value. -/
def assignAll (E : Engine) (env : Env) (targets : List Tree) (v : Value) : Eval Unit := do
  let vs ← shared E env v
  let before := targets.takeWhile (!isStarred ·)
  match targets.dropWhile (!isStarred ·) with
  | .node (.starred _) _ [[star]] :: after =>
    let least := before.length + after.length
    if vs.length < least then
      Eval.error "ValueError"
        s!"not enough values to unpack (expected at least {least}, got {vs.length})"
    else
      let middle := (vs.drop before.length).take (vs.length - least)
      assignEach E env (before.zip vs)
      let rest ← Eval.add (.list middle)
      E.assign env star rest
      assignEach E env (after.zip (vs.drop (vs.length - after.length)))
  | _ =>
    if vs.length < targets.length then
      Eval.error "ValueError"
        s!"not enough values to unpack (expected {targets.length}, got {vs.length})"
    else if vs.length > targets.length then
      Eval.error "ValueError" s!"too many values to unpack (expected {targets.length})"
    else assignEach E env (targets.zip vs)

/-- Binds a target to a value. -/
def assign (E : Engine) (env : Env) (t : Tree) (v : Value) : Eval Unit :=
  match t with
  | .node (.name id _) _ _ => Name.write env id v
  | .node (.attribute name _) _ [[object]] => do
    let o ← E.expr env object
    (Attribute.set o (env.ownName name) v).placed env.file (Expression.line t)
  | .node (.subscript _) _ [[object], [index]] => do
    let o ← E.expr env object
    let i ← E.expr env index
    Subscript.set (E.elements env) o i v
  | .node (.tuple _) _ [targets] => assignAll E env targets v
  | .node (.list _) _ [targets] => assignAll E env targets v
  | _ => pure ()

/-- Deletes targets. -/
def delete (E : Engine) (env : Env) : Nat → List Tree → Eval Unit
  | 0, _ => pure ()
  | _ + 1, [] => pure ()
  | depth + 1, t :: ts => do
    match t with
    | .node (.name id _) _ _ => Name.delete env id
    | .node (.attribute name _) _ [[object]] => do
      let o ← E.expr env object
      Attribute.delete o (env.ownName name)
    | .node (.subscript _) _ [[object], [index]] => do
      let o ← E.expr env object
      let i ← E.expr env index
      Subscript.delete o i
    | .node (.tuple _) _ [inner] => delete E env depth inner
    | .node (.list _) _ [inner] => delete E env depth inner
    | _ => pure ()
    delete E env depth ts

/-- What an augmented assignment makes of a value: lists, sets and mappings are changed
themselves. -/
def augmented (E : Engine) (env : Env) (op : BinOp) (old new : Value) : Eval Value := do
  let m ← Eval.memory
  let written := Operator.augmentedSymbol op
  match old, m.object? old, op with
  | .ref address, some (.list xs), .add => do
    let more ← E.elements env new
    Eval.put address (.list (xs ++ more))
    pure old
  | .ref address, some (.set xs false), op =>
    match m.object? new with
    | some (.set ys _) =>
      match Operator.onSets m op xs ys with
      | some zs => do
        Eval.put address (.set zs false)
        pure old
      | none => Operator.binary op written old new
    | _ => Operator.binary op written old new
  | .ref address, some (.dict _), .bitOr => do
    let more ← Method.entriesOf E env new
    Method.update address more
    pure old
  | old, _, op => Operator.binary op written old new

/-- An augmented assignment. -/
def augment (E : Engine) (env : Env) (op : BinOp) (target value : Tree) : Eval Unit :=
  match target with
  | .node (.name id _) _ _ => do
    let old ← (Name.read env id).placed env.file target.span.line
    let new ← E.expr env value
    let result ← augmented E env op old new
    Name.write env id result
  | .node (.attribute name _) _ [[object]] => do
    let o ← E.expr env object
    let old ← Attribute.get o (env.ownName name)
    let new ← E.expr env value
    let result ← augmented E env op old new
    Attribute.set o (env.ownName name) result
  | .node (.subscript _) _ [[object], [index]] => do
    let o ← E.expr env object
    let i ← E.expr env index
    let old ← Subscript.get o i
    let new ← E.expr env value
    let result ← augmented E env op old new
    Subscript.set (E.elements env) o i result
  | _ => pure ()

end Target

end SourceLoader
