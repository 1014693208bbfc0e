import SourceLoader.Object.Eval

/-!
# Comparisons

What the comparing operators say of two values, and how they fail.
-/

namespace SourceLoader

namespace Comparison

/-- How a comparing operator is written. -/
def symbol : CmpOp → String
  | .eq => "=="
  | .notEq => "!="
  | .lt => "<"
  | .ltE => "<="
  | .gt => ">"
  | .gtE => ">="
  | .is => "is"
  | .isNot => "is not"
  | .isIn => "in"
  | .notIn => "not in"

/-- Does an order fit an operator? -/
def fits (op : CmpOp) (o : Ordering) : Bool :=
  match op with
  | .lt => o = .lt
  | .ltE => o ≠ .gt
  | .gt => o = .gt
  | .gtE => o ≠ .lt
  | _ => false

/-- Does one text occur in another one? -/
def occurs {α : Type} [BEq α] (part : List α) : List α → Bool
  | [] => part.isEmpty
  | c :: cs => part.isPrefixOf (c :: cs) || occurs part cs

/-- Do two values stand in the order of an operator? Sets are ordered by inclusion. -/
def ordered (op : CmpOp) (a b : Value) : Eval Bool := do
  let m ← Eval.memory
  match m.object? a, m.object? b with
  | some (.set xs _), some (.set ys _) =>
    let within := xs.all (m.isAmong · ys)
    let around := ys.all (m.isAmong · xs)
    pure (match op with
      | .lt => within && !around
      | .ltE => within
      | .gt => around && !within
      | _ => around)
  | _, _ =>
    match m.order a b with
    | .ok o => pure ((o.map (fits op)).getD false)
    | .error (x, y) =>
      Eval.typeError (s!"'{symbol op}' not supported between instances of "
        ++ s!"'{m.shownType x}' and '{m.shownType y}'")

/-- Refuses a value that cannot be looked up. -/
def lookable (v : Value) : Eval Unit := do
  let m ← Eval.memory
  match m.unhashable? v with
  | some kind => Eval.typeError s!"unhashable type: '{kind}'"
  | none => pure ()

/-- Is a value in a container? -/
def isIn (v container : Value) : Eval Bool := do
  let m ← Eval.memory
  match container, v with
  | .text s, .text part => pure (occurs part.toList s.toList)
  | .text _, v =>
    Eval.typeError s!"'in <string>' requires string as left operand, not {m.shownType v}"
  | .bytes bs, .bytes part => pure (occurs part bs)
  | .bytes bs, v =>
    match v.int? with
    | some n => pure (bs.any fun b => (b.toNat : Int) = n)
    | none => Eval.typeError s!"a bytes-like object is required, not '{m.shownType v}'"
  | container, v =>
    match m.object? container with
    | some (.list xs) | some (.tuple xs) | some (.sequence _ xs) => pure (m.isAmong v xs)
    | some (.set xs _) => do
      lookable v
      pure (m.isAmong v xs)
    | some (.dict es) => do
      lookable v
      pure (m.entry? es v).isSome
    | _ => Eval.typeError s!"argument of type '{m.shownType container}' is not iterable"

/-- What an operator says of two values. -/
def holds (op : CmpOp) (a b : Value) : Eval Bool :=
  match op with
  | .eq => do
    let m ← Eval.memory
    pure (m.same a b)
  | .notEq => do
    let m ← Eval.memory
    pure (!m.same a b)
  | .is => pure (a = b)
  | .isNot => pure (a ≠ b)
  | .isIn => isIn a b
  | .notIn => do
    let found ← isIn a b
    pure !found
  | op => ordered op a b

end Comparison

end SourceLoader
