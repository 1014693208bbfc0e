import SourceLoader.Object.Memory

/-!
# Equality and order of values

Numbers are equal by value whatever their type, containers if their parts are; sets and mappings
have no order. Everything else is equal to itself alone. Numbers, texts, bytes, lists and tuples
have an order.
-/

namespace SourceLoader

namespace Value

/-- The whole number that a value stands for. -/
def int? : Value → Option Int
  | .bool b => some (if b then 1 else 0)
  | .int n => some n
  | _ => Option.none

/-- A number that is not whole by type. -/
def float? : Value → Option Double
  | .float x => some x
  | _ => Option.none

/-- Is the value a number? -/
def isNumber (v : Value) : Bool := v.int?.isSome || v.float?.isSome

/-- The number as host data. -/
def number? : Value → Option Data
  | .bool b => some (.bool b)
  | .int n => some (.int n)
  | .float x => some (.float x)
  | _ => Option.none

/-- Are two numbers equal? -/
def sameNumber? (a b : Value) : Option Bool :=
  match a.number?, b.number? with
  | some x, some y => Data.sameNumber? x y
  | _, _ => Option.none

/-- How a whole number and another number compare. A NaN has no place. -/
def compareWhole (n : Int) (x : Double) : Option Ordering :=
  if x.isNaN then Option.none
  else if !x.isFinite then some (if x.isNegative then .gt else .lt)
  else
    let magnitude : Int := if x.isNegative then -(x.mantissa : Int) else x.mantissa
    if x.scale ≥ 0 then some (compare n (magnitude * Nat.pow 2 x.scale.toNat))
    else some (compare (n * Nat.pow 2 (-x.scale).toNat) magnitude)

/-- How two numbers compare; the result is `none` if one of them is no number, and `some none` if
they have no order. -/
def compareNumbers? (a b : Value) : Option (Option Ordering) :=
  match a.int?, b.int?, a.float?, b.float? with
  | some m, some n, _, _ => some (some (compare m n))
  | some m, _, _, some y => some (compareWhole m y)
  | _, some n, some x, _ => some ((compareWhole n x).map Ordering.swap)
  | _, _, some x, some y =>
    if x.isNaN || y.isNaN then some Option.none
    else if x.equals y then some (some .eq)
    else some (some (if x.toFloat < y.toFloat then .lt else .gt))
  | _, _, _, _ => Option.none

end Value

namespace Memory

/-- Are two values equal, looking at parts down to some depth? -/
def sameWithin (m : Memory) : Nat → Value → Value → Bool
  | 0, a, b => a = b
  | depth + 1, a, b =>
    match a.sameNumber? b with
    | some result => result
    | none =>
      let all (xs ys : List Value) : Bool :=
        xs.length = ys.length && (xs.zip ys).all fun p => p.1 = p.2 || sameWithin m depth p.1 p.2
      let among (x : Value) (ys : List Value) : Bool :=
        ys.any fun y => x = y || sameWithin m depth x y
      match m.object? a, m.object? b with
      | some (.list xs), some (.list ys) => all xs ys
      | some (.tuple xs), some (.tuple ys) => all xs ys
      | some (.set xs _), some (.set ys _) => xs.length = ys.length && xs.all fun x => among x ys
      | some (.dict es), some (.dict fs) =>
        es.length = fs.length && es.all fun e => fs.any fun f =>
          (e.1 = f.1 || sameWithin m depth e.1 f.1) && (e.2 = f.2 || sameWithin m depth e.2 f.2)
      | some (.namespace as), some (.namespace bs) =>
        as.length = bs.length && as.all fun x => bs.any fun y =>
          x.1 = y.1 && (x.2 = y.2 || sameWithin m depth x.2 y.2)
      | some (.record as), some (.record bs) => all (as.map Prod.snd) (bs.map Prod.snd)
      | some (.method r f), some (.method s g) => r = s && f = g
      | some (.builtinMethod r f), some (.builtinMethod s g) => r = s && f = g
      | _, _ => a = b

/-- Are two values equal? -/
def same (m : Memory) (a b : Value) : Bool := sameWithin m maxDepth a b

/-- Is a value one of others? One and the same value counts even if it differs from itself. -/
def isAmong (m : Memory) (v : Value) (vs : List Value) : Bool := vs.any fun w => v = w || m.same v w

/-- How two values compare, looking at parts down to some depth. The result is an error with the
two values that have no order between them; `some none` stands for numbers without an order. -/
def orderWithin (m : Memory) : Nat → Value → Value → Except (Value × Value) (Option Ordering)
  | 0, a, b => .error (a, b)
  | depth + 1, a, b =>
    match a.compareNumbers? b with
    | some result => .ok result
    | none =>
      let sequences (xs ys : List Value) : Except (Value × Value) (Option Ordering) :=
        match (xs.zip ys).find? fun p => !(p.1 = p.2 || m.same p.1 p.2) with
        | some (x, y) => orderWithin m depth x y
        | none => .ok (some (compare xs.length ys.length))
      match a, b with
      | .text s, .text t =>
        .ok (some (compareOfLessAndEq s t))
      | .bytes s, .bytes t =>
        .ok (some (compareOfLessAndEq s t))
      | a, b =>
        match m.object? a, m.object? b with
        | some (.list xs), some (.list ys) => sequences xs ys
        | some (.tuple xs), some (.tuple ys) => sequences xs ys
        | _, _ => .error (a, b)

/-- How two values compare. -/
def order (m : Memory) (a b : Value) : Except (Value × Value) (Option Ordering) :=
  orderWithin m maxDepth a b

/-! ## Keys -/

/-- The type of a part of a value that keeps it from being a key, looking down to some depth. -/
def unhashableWithin (m : Memory) : Nat → Value → Option String
  | 0, _ => none
  | depth + 1, v =>
    match m.object? v with
    | some (.list _) => some "list"
    | some (.dict _) => some "dict"
    | some (.set _ false) => some "set"
    | some (.namespace _) => some "types.SimpleNamespace"
    | some (.record _) => some "ModuleRecord"
    | some (.slice _ _ _) => some "slice"
    | some (.tuple xs) => xs.findSome? (unhashableWithin m depth)
    | _ => none

/-- The type of a part of a value that keeps it from being a key. -/
def unhashable? (m : Memory) (v : Value) : Option String := unhashableWithin m maxDepth v

/-- The value under a key. -/
def entry? (m : Memory) (entries : List (Value × Value)) (key : Value) : Option Value :=
  (entries.find? fun e => e.1 = key || m.same e.1 key).map Prod.snd

/-- Entries with a value under a key. -/
def insertEntry (m : Memory) (key value : Value) : List (Value × Value) → List (Value × Value)
  | [] => [(key, value)]
  | e :: es =>
    if e.1 = key || m.same e.1 key then (e.1, value) :: es
    else e :: insertEntry m key value es

/-- Entries without a key. -/
def eraseEntry (m : Memory) (key : Value) (entries : List (Value × Value)) :
    List (Value × Value) :=
  entries.filter fun e => !(e.1 = key || m.same e.1 key)

/-- Elements with one more. -/
def insertElement (m : Memory) (items : List Value) (item : Value) : List Value :=
  if m.isAmong item items then items else items ++ [item]

/-! ## Truth -/

/-- Does a value count as true? -/
def isTrue (m : Memory) : Value → Bool
  | .none => false
  | .bool b => b
  | .int n => n ≠ 0
  | .float x => x.isNaN || !x.isFinite || x.mantissa ≠ 0
  | .text s => s ≠ ""
  | .bytes bs => !bs.isEmpty
  | v =>
    match m.object? v with
    | some (.list xs) | some (.tuple xs) | some (.set xs _) => !xs.isEmpty
    | some (.dict es) => !es.isEmpty
    | some (.sequence name xs) =>
      !(["range", "dict_keys", "dict_values", "dict_items"].contains name) || !xs.isEmpty
    | _ => true

end Memory

end SourceLoader
