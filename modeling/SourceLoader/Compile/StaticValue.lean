import SourceLoader.Number.Shortest
import SourceLoader.Syntax.Tree
import SourceLoader.Text.Quoted

/-!
# Values that are known before a module runs

An expression of literals has a value that is known without running it, unless the operation
fails or its result would be large. Checks look at these values: what is compared by identity,
what is called or indexed, and which keys a pattern repeats.
-/

namespace SourceLoader

/-- A value that is known before the module runs. -/
inductive StaticValue where
  | none
  | bool (value : Bool)
  | ellipsis
  | int (value : Int)
  | float (value : Double)
  | complex (real imaginary : Double)
  | text (value : Text)
  | bytes (value : List UInt8)
  | tuple (elements : List StaticValue)
deriving Repr

namespace StaticValue

/-- The value of a literal. -/
def ofConstant : Constant → StaticValue
  | .none => .none
  | .bool b => .bool b
  | .ellipsis => .ellipsis
  | .int n => .int n
  | .float x => .float x
  | .imaginary x => .complex (.ofFloat 0.0) x
  | .text t _ => .text t
  | .bytes b => .bytes b

/-- The name of the value's type. -/
def typeName : StaticValue → String
  | .none => "NoneType"
  | .bool _ => "bool"
  | .ellipsis => "ellipsis"
  | .int _ => "int"
  | .float _ => "float"
  | .complex _ _ => "complex"
  | .text _ => "str"
  | .bytes _ => "bytes"
  | .tuple _ => "tuple"

/-- The value as an integer, where it is one. -/
def int? : StaticValue → Option Int
  | .int n => some n
  | .bool true => some 1
  | .bool false => some 0
  | _ => Option.none

/-- The value as a real number, where it is one. -/
def real? : StaticValue → Option Float
  | .float x => some x.toFloat
  | .int n => some (Float.ofInt n)
  | .bool true => some 1.0
  | .bool false => some 0.0
  | _ => Option.none

/-- The value as a complex number, where it is a number. -/
def complex? : StaticValue → Option (Float × Float)
  | .complex a b => some (a.toFloat, b.toFloat)
  | v => v.real?.map fun x => (x, 0.0)

mutual

/-- Are two values equal? Numbers of different types may be. -/
def same : StaticValue → StaticValue → Bool
  | .none, .none => true
  | .ellipsis, .ellipsis => true
  | .text a, .text b => a == b
  | .bytes a, .bytes b => a == b
  | .tuple as, .tuple bs => sameAll as bs
  | a, b =>
    match a.int?, b.int? with
    | some m, some n => m = n
    | _, _ =>
      match a.complex?, b.complex? with
      | some (r, i), some (s, j) => r == s && i == j
      | _, _ => false

/-- Are the elements equal one by one? -/
def sameAll : List StaticValue → List StaticValue → Bool
  | [], [] => true
  | a :: as, b :: bs => same a b && sameAll as bs
  | _, _ => false

end

/-- A complex number as text. -/
def showComplex (re im : Double) : String :=
  let imaginary := Number.textOf im false ++ "j"
  if re.bits = 0 then imaginary
  else
    let sign := if im.isNegative then "" else "+"
    s!"({Number.textOf re false}{sign}{imaginary})"

/-- A number or a text as a literal. -/
def shown : StaticValue → String
  | .none => "None"
  | .bool true => "True"
  | .bool false => "False"
  | .ellipsis => "Ellipsis"
  | .int n => toString n
  | .float x => Number.textOf x true
  | .complex re im => showComplex re im
  | .text t => Text.quoted t
  | .bytes b => Text.quotedBytes b
  | .tuple _ => "()"

/-! ## Operations -/

/-- Most bits of an integer that is worked out. -/
def maxBits : Nat := 128

/-- Longest text that is worked out. -/
def maxText : Nat := 4096

/-- Longest tuple that is worked out. -/
def maxTuple : Nat := 256

/-- Number of bits of the magnitude. -/
def bits (n : Int) : Nat := if n = 0 then 0 else n.natAbs.log2 + 1

/-- Does the value count as true? -/
def isTrue : StaticValue → Bool
  | .none => false
  | .bool b => b
  | .ellipsis => true
  | .int n => n ≠ 0
  | .float x => x.toFloat != 0.0
  | .complex a b => a.toFloat != 0.0 || b.toFloat != 0.0
  | .text t => !t.isEmpty
  | .bytes b => !b.isEmpty
  | .tuple ts => !ts.isEmpty

/-- The value with an operator in front. -/
def unary (op : UnaryOp) (v : StaticValue) : Option StaticValue :=
  match op with
  | .not => some (.bool !v.isTrue)
  | .invert => v.int?.map fun n => .int (-n - 1)
  | .uAdd =>
    match v with
    | .float x => some (.float x)
    | .complex a b => some (.complex a b)
    | v => v.int?.map .int
  | .uSub =>
    match v with
    | .float x => some (.float (.ofFloat (-x.toFloat)))
    | .complex a b => some (.complex (.ofFloat (-a.toFloat)) (.ofFloat (-b.toFloat)))
    | v => v.int?.map fun n => .int (-n)

/-- A sequence `n` times in a row, if that is not too long. -/
def repeated (v : StaticValue) (n : Int) : Option StaticValue :=
  let fits (length limit : Nat) : Bool := length = 0 || (0 ≤ n && n ≤ (limit / length : Nat))
  match v with
  | .text t =>
    if fits t.length maxText then some (.text (List.replicate n.toNat t).flatten) else Option.none
  | .bytes b =>
    if fits b.length maxText then some (.bytes (List.replicate n.toNat b).flatten) else Option.none
  | .tuple ts =>
    if fits ts.length maxTuple then some (.tuple (List.replicate n.toNat ts).flatten)
    else Option.none
  | _ => Option.none

/-- An operation on the bits of integers, negative ones as two's complement. -/
def bitwise (f : Nat → Nat → Nat) (a b : Int) : Int :=
  let width : Nat := Nat.pow 2 (max (bits a) (bits b) + 1)
  Int.bmod (f (a.emod width).toNat (b.emod width).toNat : Nat) width

/-- An operation on integers. -/
def intOp (op : BinOp) (a b : Int) : Option StaticValue :=
  match op with
  | .add => some (.int (a + b))
  | .sub => some (.int (a - b))
  | .mult =>
    if a ≠ 0 && b ≠ 0 && bits a + bits b > maxBits then Option.none else some (.int (a * b))
  | .div => if b = 0 then Option.none else some (.float (.ofFloat (Float.ofInt a / Float.ofInt b)))
  | .floorDiv => if b = 0 then Option.none else some (.int (a.fdiv b))
  | .mod => if b = 0 then Option.none else some (.int (a.fmod b))
  | .pow =>
    if b < 0 then
      if a = 0 then Option.none
      else some (.float (.ofFloat (Float.pow (Float.ofInt a) (Float.ofInt b))))
    else if a ≠ 0 && b > 0 && (bits a : Int) > (maxBits : Int) / b then Option.none
    else some (.int (Int.pow a b.toNat))
  | .lShift =>
    if b < 0 || (a ≠ 0 && b ≠ 0 && (b > maxBits || bits a > maxBits - b.toNat)) then Option.none
    else some (.int (a * Int.pow 2 b.toNat))
  | .rShift => if b < 0 then Option.none else some (.int (a.fdiv (Int.pow 2 b.toNat)))
  | .bitAnd => some (.int (bitwise (· &&& ·) a b))
  | .bitOr => some (.int (bitwise (· ||| ·) a b))
  | .bitXor => some (.int (bitwise (· ^^^ ·) a b))
  | .matMult => Option.none

/-- An operation on real numbers. -/
def realOp (op : BinOp) (a b : Float) : Option StaticValue :=
  let some' (x : Float) : Option StaticValue := some (.float (.ofFloat x))
  match op with
  | .add => some' (a + b)
  | .sub => some' (a - b)
  | .mult => some' (a * b)
  | .div => if b == 0.0 then Option.none else some' (a / b)
  | .floorDiv => if b == 0.0 then Option.none else some' (a / b).floor
  | .mod => if b == 0.0 then Option.none else some' (a - (a / b).floor * b)
  | .pow => if a == 0.0 && b < 0.0 then Option.none else some' (Float.pow a b)
  | _ => Option.none

/-- An operation on complex numbers. -/
def complexOp (op : BinOp) (a b : Float × Float) : Option StaticValue :=
  let some' (x y : Float) : Option StaticValue := some (.complex (.ofFloat x) (.ofFloat y))
  match op with
  | .add => some' (a.1 + b.1) (a.2 + b.2)
  | .sub => some' (a.1 - b.1) (a.2 - b.2)
  | .mult => some' (a.1 * b.1 - a.2 * b.2) (a.1 * b.2 + a.2 * b.1)
  | .div =>
    let d := b.1 * b.1 + b.2 * b.2
    if d == 0.0 then Option.none
    else some' ((a.1 * b.1 + a.2 * b.2) / d) ((a.2 * b.1 - a.1 * b.2) / d)
  | .pow => if b.1 == 0.0 && b.2 == 0.0 then some' 1.0 0.0 else Option.none
  | _ => Option.none

/-- An operation on two values. -/
def binary (op : BinOp) (a b : StaticValue) : Option StaticValue :=
  match op, a, b with
  | .add, .text s, .text t => some (.text (s ++ t))
  | .add, .bytes s, .bytes t => some (.bytes (s ++ t))
  | .add, .tuple s, .tuple t => some (.tuple (s ++ t))
  | op, a, b =>
    match a.int?, b.int? with
    | some m, some n =>
      match op, a, b with
      | .bitAnd, .bool p, .bool q => some (.bool (p && q))
      | .bitOr, .bool p, .bool q => some (.bool (p || q))
      | .bitXor, .bool p, .bool q => some (.bool (p != q))
      | _, _, _ => intOp op m n
    | _, _ =>
      match op, a.int?, b.int? with
      | .mult, Option.none, some n => orNumbers op a b (a.repeated n)
      | .mult, some n, Option.none => orNumbers op a b (b.repeated n)
      | _, _, _ => orNumbers op a b Option.none
where
  /-- The result on numbers, or else `other`. -/
  orNumbers (op : BinOp) (a b : StaticValue) (other : Option StaticValue) : Option StaticValue :=
    match a.real?, b.real? with
    | some x, some y => realOp op x y
    | _, _ =>
      match a.complex?, b.complex? with
      | some x, some y => complexOp op x y
      | _, _ => other

/-- The element at an index that may count from the end. -/
def element {α : Type} (xs : List α) (n : Int) : Option α :=
  if n < 0 then
    if xs.length + n < 0 then Option.none else xs[(xs.length + n).toNat]?
  else xs[n.toNat]?

/-- A part of a value. -/
def subscript (v index : StaticValue) : Option StaticValue :=
  match v, index.int? with
  | .text t, some n => (element t n).map fun c => .text [c]
  | .bytes b, some n => (element b n).map fun c => .int c.toNat
  | .tuple ts, some n => element ts n
  | _, _ => Option.none

end StaticValue

namespace Tree

mutual

/-- The value of an expression, if it is known before the module runs. -/
def staticValue? : Tree → Option StaticValue
  | .node (.constant c) _ _ => some (.ofConstant c)
  | .node (.name id .load) _ _ => if id = "__debug__" then some (.bool true) else none
  | .node (.unaryOp op) _ [[operand]] => do
    let v ← staticValue? operand
    v.unary op
  | .node (.binOp op) _ [[left], [right]] => do
    let a ← staticValue? left
    let b ← staticValue? right
    StaticValue.binary op a b
  | .node (.subscript .load) _ [[value], [index]] => do
    let v ← staticValue? value
    let i ← staticValue? index
    v.subscript i
  | .node (.tuple .load) _ [elements] => do
    let vs ← staticValues? elements
    return .tuple vs
  | _ => none

/-- The values of several expressions, if all are known. -/
def staticValues? : List Tree → Option (List StaticValue)
  | [] => some []
  | t :: ts => do
    let v ← staticValue? t
    let vs ← staticValues? ts
    return v :: vs

end

end Tree

end SourceLoader
