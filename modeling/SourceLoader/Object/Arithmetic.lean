import SourceLoader.Compile.StaticValue
import SourceLoader.Object.Eval

/-!
# Operators

What unary and binary operators do with values, and what they say when they do not apply. Whole
numbers are exact; a quotient of whole numbers is the binary number nearest to it.
-/

namespace SourceLoader

/-! ## Quotients -/

/-- The binary number nearest to a quotient. The quotient is cut to 62 or 63 bits, the last of
which tells whether something was cut off, and then rounded once. -/
def Number.quotient (a b : Int) : Float :=
  let n := a.natAbs
  let d := b.natAbs
  if n = 0 || d = 0 then (if b < 0 then -0.0 else 0.0)
  else
    let shift : Int := 62 + (d.log2 : Int) - (n.log2 : Int)
    let top := if shift ≥ 0 then n * Nat.pow 2 shift.toNat else n
    let bottom := if shift ≥ 0 then d else d * Nat.pow 2 (-shift).toNat
    let digits := top / bottom
    let sticky := if top % bottom = 0 then digits else digits ||| 1
    let magnitude := Float.scaleB sticky.toUInt64.toFloat (-shift)
    if (a < 0) ≠ (b < 0) then -magnitude else magnitude

namespace Operator

/-- How a binary operator is written. -/
def symbol : BinOp → String
  | .add => "+"
  | .sub => "-"
  | .mult => "*"
  | .matMult => "@"
  | .div => "/"
  | .mod => "%"
  | .pow => "** or pow()"
  | .lShift => "<<"
  | .rShift => ">>"
  | .bitOr => "|"
  | .bitXor => "^"
  | .bitAnd => "&"
  | .floorDiv => "//"

/-- How the operator of an augmented assignment is written. -/
def augmentedSymbol : BinOp → String
  | .pow => "**="
  | op => symbol op ++ "="

/-- Fails because an operator does not apply. -/
def unsupported {α : Type} (symbol : String) (a b : Value) : Eval α := do
  let m ← Eval.memory
  Eval.typeError (s!"unsupported operand type(s) for {symbol}: "
    ++ s!"'{m.shownType a}' and '{m.shownType b}'")

/-- Fails with a division by zero. -/
def byZero {α : Type} (message : String) : Eval α := Eval.error "ZeroDivisionError" message

/-- Fails because a result is too large. -/
def tooLarge {α : Type} (message : String) : Eval α := Eval.error "OverflowError" message

/-- The value of a real result. -/
def ofFloat (x : Float) : Value := .float (.ofFloat x)

/-- An operation on whole numbers. -/
def onInts (op : BinOp) (a b : Int) : Eval Value :=
  match op with
  | .add => pure (.int (a + b))
  | .sub => pure (.int (a - b))
  | .mult => pure (.int (a * b))
  | .div =>
    if b = 0 then byZero "division by zero"
    else
      let x := Number.quotient a b
      if x.isInf then tooLarge "integer division result too large for a float"
      else pure (ofFloat x)
  | .floorDiv =>
    if b = 0 then byZero "integer division or modulo by zero" else pure (.int (a.fdiv b))
  | .mod => if b = 0 then byZero "integer modulo by zero" else pure (.int (a.fmod b))
  | .pow =>
    if b ≥ 0 then pure (.int (Int.pow a b.toNat))
    else if a = 0 then byZero "0.0 cannot be raised to a negative power"
    else pure (ofFloat (Float.pow (Float.ofInt a) (Float.ofInt b)))
  | .lShift =>
    if b < 0 then Eval.error "ValueError" "negative shift count"
    else pure (.int (a * Int.pow 2 b.toNat))
  | .rShift =>
    if b < 0 then Eval.error "ValueError" "negative shift count"
    else pure (.int (a.fdiv (Int.pow 2 b.toNat)))
  | .bitAnd => pure (.int (StaticValue.bitwise (· &&& ·) a b))
  | .bitOr => pure (.int (StaticValue.bitwise (· ||| ·) a b))
  | .bitXor => pure (.int (StaticValue.bitwise (· ^^^ ·) a b))
  | .matMult => unsupported (symbol op) (.int a) (.int b)

/-- The remainder of two finite numbers without their signs; it is exact. -/
def remainder (a b : Double) : Float :=
  let scale := min a.scale b.scale
  let units (x : Double) : Nat := x.mantissa * Nat.pow 2 (x.scale - scale).toNat
  let rest := units a % units b
  if scale ≥ 0 then Number.quotient (rest * Nat.pow 2 scale.toNat) 1
  else Number.quotient rest (Nat.pow 2 (-scale).toNat)

/-- Zero with the sign of a number. -/
def zeroLike (x : Float) : Float := if (Double.ofFloat x).isNegative then -0.0 else 0.0

/-- The remainder with the sign of the dividend. -/
def signedRemainder (a b : Float) : Float :=
  if a.isNaN || b.isNaN || a.isInf then 0.0 / 0.0
  else if b.isInf then a
  else
    let rest := remainder (.ofFloat a) (.ofFloat b)
    if (Double.ofFloat a).isNegative then -rest else rest

/-- The quotient, rounded down, and the remainder, which has the sign of the divisor. -/
def divideReal (a b : Float) : Float × Float :=
  let rest := signedRemainder a b
  let quotient := (a - rest) / b
  let (quotient, rest) :=
    if rest == 0.0 then (quotient, zeroLike b)
    else if (b < 0.0) ≠ (rest < 0.0) then (quotient - 1.0, rest + b)
    else (quotient, rest)
  let whole := quotient.floor
  let whole :=
    if quotient == 0.0 then zeroLike (a / b)
    else if quotient - whole > 0.5 then whole + 1.0 else whole
  (whole, rest)

/-- An operation on real numbers. -/
def onReals (op : BinOp) (a b : Float) : Eval Value :=
  match op with
  | .add => pure (ofFloat (a + b))
  | .sub => pure (ofFloat (a - b))
  | .mult => pure (ofFloat (a * b))
  | .div => if b == 0.0 then byZero "float division by zero" else pure (ofFloat (a / b))
  | .floorDiv =>
    if b == 0.0 then byZero "float floor division by zero"
    else pure (ofFloat (divideReal a b).1)
  | .mod => if b == 0.0 then byZero "float modulo" else pure (ofFloat (divideReal a b).2)
  | .pow =>
    if a == 0.0 && b < 0.0 then byZero "0.0 cannot be raised to a negative power"
    else
      let x := Float.pow a b
      if x.isInf && !a.isInf && !b.isInf then
        Eval.raiseWith "OverflowError" [.int 34, .text "Numerical result out of range"]
      else pure (ofFloat x)
  | op => unsupported (symbol op) (ofFloat a) (ofFloat b)

/-- A number as a real number. -/
def real (v : Value) : Eval Float :=
  match v.int? with
  | some n =>
    let x := Number.quotient n 1
    if x.isInf then tooLarge "int too large to convert to float" else pure x
  | none => pure ((v.float?.map Double.toFloat).getD 0.0)

/-- A sequence several times in a row. -/
def repeated {α : Type} (xs : List α) (n : Int) : List α := (List.replicate n.toNat xs).flatten

/-- A sequence several times in a row, as a value. -/
def repeat? (v : Value) (n : Int) : Eval (Option Value) := do
  let m ← Eval.memory
  match v with
  | .text s => pure (some (.text (String.ofList (repeated s.toList n))))
  | .bytes bs => pure (some (.bytes (repeated bs n)))
  | v =>
    match m.object? v with
    | some (.list xs) => return some (← Eval.add (.list (repeated xs n)))
    | some (.tuple xs) => return some (← Eval.add (.tuple (repeated xs n)))
    | _ => pure none

/-- Fails because something cannot be put behind a sequence. -/
def cannotConcatenate {α : Type} (kind : String) (b : Value) : Eval α := do
  let m ← Eval.memory
  Eval.typeError s!"can only concatenate {kind} (not \"{m.shownType b}\") to {kind}"

/-- One sequence behind another. -/
def concatenate (a b : Value) : Eval Value := do
  let m ← Eval.memory
  match a, b with
  | .text s, .text t => pure (.text (s ++ t))
  | .text _, b => cannotConcatenate "str" b
  | .bytes s, .bytes t => pure (.bytes (s ++ t))
  | .bytes _, b => Eval.typeError s!"can't concat {m.shownType b} to bytes"
  | a, b =>
    match m.object? a, m.object? b with
    | some (.list xs), some (.list ys) => Eval.add (.list (xs ++ ys))
    | some (.list _), _ => cannotConcatenate "list" b
    | some (.tuple xs), some (.tuple ys) => Eval.add (.tuple (xs ++ ys))
    | some (.tuple _), _ => cannotConcatenate "tuple" b
    | _, _ => unsupported "+" a b

/-- Is a value a sequence that can be repeated? -/
def isSequence (m : Memory) (v : Value) : Bool :=
  ["str", "bytes", "list", "tuple"].contains (m.typeName v)

/-- A sequence times something. -/
def multiply (a b : Value) : Eval Value := do
  let m ← Eval.memory
  match isSequence m a, isSequence m b, a.int?, b.int? with
  | true, _, _, some n => return (← repeat? a n).getD .none
  | _, true, some n, _ => return (← repeat? b n).getD .none
  | true, _, _, none =>
    Eval.typeError s!"can't multiply sequence by non-int of type '{m.shownType b}'"
  | _, true, none, _ =>
    Eval.typeError s!"can't multiply sequence by non-int of type '{m.shownType a}'"
  | _, _, _, _ => unsupported "*" a b

/-! ## Texts with gaps -/

/-- Fills the gaps of a text, each marked with a percent sign and a letter. -/
def fill (m : Memory) : List Char → List Value → String → Except String (String × List Value)
  | [], vs, text => .ok (text, vs)
  | '%' :: '%' :: rest, vs, text => fill m rest vs (text.push '%')
  | '%' :: c :: rest, vs, text =>
    match vs with
    | [] => .error "not enough arguments for format string"
    | v :: vs =>
      if c = 's' then fill m rest vs (text ++ m.plain v)
      else if c = 'r' then fill m rest vs (text ++ m.shown v)
      else if c = 'd' || c = 'i' then
        match v.int? with
        | some n => fill m rest vs (text ++ toString n)
        | none => .error (s!"%{c} format: a real number is required, not {m.shownType v}")
      else .error s!"unsupported format character '{c}'"
  | c :: rest, vs, text => fill m rest vs (text.push c)

/-- A text whose gaps are filled with the values of a tuple or with one value. -/
def format (text : String) (v : Value) : Eval Value := do
  let m ← Eval.memory
  let vs := match m.object? v with
    | some (.tuple vs) => vs
    | _ => [v]
  match fill m text.toList vs "" with
  | .error message => Eval.typeError message
  | .ok (text, left) =>
    let isMapping := match m.object? v with
      | some (.dict _) => true
      | _ => false
    if left.isEmpty || isMapping then pure (.text text)
    else Eval.typeError "not all arguments converted during string formatting"

/-! ## Sets and mappings -/

/-- An operation on two sets. -/
def onSets (m : Memory) (op : BinOp) (xs ys : List Value) : Option (List Value) :=
  let within (zs : List Value) (x : Value) : Bool := m.isAmong x zs
  match op with
  | .bitOr => some (ys.foldl (fun zs y => m.insertElement zs y) xs)
  | .bitAnd => some (xs.filter (within ys))
  | .sub => some (xs.filter (!within ys ·))
  | .bitXor => some (xs.filter (!within ys ·) ++ ys.filter (!within xs ·))
  | _ => none

/-- An operation on values that are no numbers. -/
def onObjects (op : BinOp) (written : String) (a b : Value) : Eval Value := do
  let m ← Eval.memory
  match op, a with
  | .add, _ => if isSequence m a then concatenate a b else unsupported written a b
  | .mult, _ =>
    if isSequence m a || isSequence m b then multiply a b else unsupported written a b
  | .mod, .text s => format s b
  | _, _ =>
    match m.object? a, m.object? b with
    | some (.set xs isFrozen), some (.set ys _) =>
      match onSets m op xs ys with
      | some zs => Eval.add (.set zs isFrozen)
      | none => unsupported written a b
    | some (.dict es), some (.dict fs) =>
      if op = .bitOr then
        Eval.add (.dict (fs.foldl (fun es f => m.insertEntry f.1 f.2 es) es))
      else unsupported written a b
    | _, _ => unsupported written a b

/-- A binary operation; `written` is the operator in messages. -/
def binary (op : BinOp) (written : String) (a b : Value) : Eval Value :=
  match op, a, b with
  | .bitAnd, .bool p, .bool q => pure (.bool (p && q))
  | .bitOr, .bool p, .bool q => pure (.bool (p || q))
  | .bitXor, .bool p, .bool q => pure (.bool (p != q))
  | op, a, b =>
    match a.int?, b.int? with
    | some m, some n => if op = .matMult then unsupported written a b else onInts op m n
    | _, _ =>
      let bits := [BinOp.lShift, .rShift, .bitOr, .bitXor, .bitAnd, .matMult].contains op
      if a.isNumber && b.isNumber then
        if bits then unsupported written a b
        else do
          let x ← real a
          let y ← real b
          onReals op x y
      else onObjects op written a b

/-- An operator in front of a value. -/
def unary (op : UnaryOp) (v : Value) : Eval Value := do
  let m ← Eval.memory
  let refused (written : String) : Eval Value :=
    Eval.typeError s!"bad operand type for unary {written}: '{m.shownType v}'"
  match op with
  | .not => pure (.bool (!m.isTrue v))
  | .invert =>
    match v.int? with
    | some n => pure (.int (-n - 1))
    | none => refused "~"
  | .uAdd =>
    match v, v.int? with
    | .float x, _ => pure (.float x)
    | _, some n => pure (.int n)
    | _, none => refused "+"
  | .uSub =>
    match v, v.int? with
    | .float x, _ => pure (.float ⟨x.bits ^^^ 0x8000000000000000⟩)
    | _, some n => pure (.int (-n))
    | _, none => refused "-"

end Operator

end SourceLoader
