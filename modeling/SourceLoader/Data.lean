import SourceLoader.Number.Shortest

/-!
# Host values

The values that pass between a host and the loader: exports that a host registers, parts of
cache keys, fields of log entries, arguments of calls. Equality is by value: a truth value is a
number, a number may be whole or not, and neither a mapping nor a set has an order.
-/

namespace SourceLoader

/-- A value of the host. -/
inductive Data where
  | none
  | bool (value : Bool)
  | int (value : Int)
  | float (value : Double)
  | text (value : String)
  | bytes (value : List UInt8)
  | list (items : List Data)
  | tuple (items : List Data)
  /-- A mapping, in the order of insertion. -/
  | dict (entries : List (Data × Data))
  | set (items : List Data)
  /-- An object that has just these attributes. -/
  | namespace (attributes : List (String × Data))
  /-- A module that the host has made up. -/
  | module (attributes : List (String × Data))
  /-- A module that the host brings along. -/
  | hostModule (name : String)
  /-- An object without any attributes. -/
  | object
deriving Repr, Inhabited

namespace Double

/-- Are two numbers equal? Both zeros are, and a NaN equals nothing. -/
def equals (x y : Double) : Bool :=
  !x.isNaN && !y.isNaN
    && (x.bits = y.bits || (x.isFinite && y.isFinite && x.mantissa = 0 && y.mantissa = 0))

/-- The value of a finite number if it is whole. -/
def whole? (x : Double) : Option Int :=
  if !x.isFinite then none
  else
    let magnitude : Option Nat :=
      if x.scale ≥ 0 then some (x.mantissa * Nat.pow 2 x.scale.toNat)
      else
        let unit := Nat.pow 2 (-x.scale).toNat
        if x.mantissa % unit = 0 then some (x.mantissa / unit) else none
    magnitude.map fun m => if x.isNegative then -(m : Int) else m

end Double

namespace Data

/-- The name of the type of a value. -/
def typeName : Data → String
  | none => "NoneType"
  | bool _ => "bool"
  | int _ => "int"
  | float _ => "float"
  | text _ => "str"
  | bytes _ => "bytes"
  | list _ => "list"
  | tuple _ => "tuple"
  | dict _ => "dict"
  | set _ => "set"
  | «namespace» _ => "SimpleNamespace"
  | module _ | hostModule _ => "module"
  | object => "object"

/-- The whole number that a truth value or a whole number stands for. -/
def int? : Data → Option Int
  | bool b => some (if b then 1 else 0)
  | int n => some n
  | _ => Option.none

/-- Are two numbers equal? The result is `none` if one of them is no number. -/
def sameNumber? (a b : Data) : Option Bool :=
  match a.int?, b.int?, a, b with
  | some m, some n, _, _ => some (m = n)
  | some m, _, _, float y => some (y.whole? = some m)
  | _, some n, float x, _ => some (x.whole? = some n)
  | _, _, float x, float y => some (x.equals y)
  | _, _, _, _ => Option.none

mutual

/-- Are two values equal? -/
def same : Data → Data → Bool
  | list xs, list ys => sameAll xs ys
  | tuple xs, tuple ys => sameAll xs ys
  | dict es, dict fs => es.length = fs.length && entriesWithin es fs
  | set xs, set ys => xs.length = ys.length && allWithin xs ys
  | «namespace» as, «namespace» bs => as.length = bs.length && attributesWithin as bs
  | none, none => true
  | text s, text t => s = t
  | bytes s, bytes t => s = t
  | hostModule m, hostModule n => m = n
  | a, b => (sameNumber? a b).getD false

/-- Are the values at equal places equal? -/
def sameAll : List Data → List Data → Bool
  | [], [] => true
  | x :: xs, y :: ys => same x y && sameAll xs ys
  | _, _ => false

/-- Does every value have an equal one? -/
def allWithin : List Data → List Data → Bool
  | [], _ => true
  | x :: xs, ys => ys.any (same x) && allWithin xs ys

/-- Does every entry have an equal one? -/
def entriesWithin : List (Data × Data) → List (Data × Data) → Bool
  | [], _ => true
  | (k, v) :: es, fs => fs.any (fun f => same k f.1 && same v f.2) && entriesWithin es fs

/-- Does every attribute have an equal one? -/
def attributesWithin : List (String × Data) → List (String × Data) → Bool
  | [], _ => true
  | (k, v) :: as, bs => bs.any (fun b => k = b.1 && same v b.2) && attributesWithin as bs

end

/-- Puts an entry into a mapping: an equal key keeps its place and gets the new value. -/
def insertEntry (key value : Data) : List (Data × Data) → List (Data × Data)
  | [] => [(key, value)]
  | (k, v) :: rest => if same k key then (k, value) :: rest else (k, v) :: insertEntry key value rest

/-- The mapping with these entries, the last one for each key. -/
def ofEntries (entries : List (Data × Data)) : Data :=
  dict (entries.foldl (fun es e => insertEntry e.1 e.2 es) [])

/-- The set of these values, the first one of equal ones. -/
def ofElements (items : List Data) : Data :=
  set (items.foldl (fun xs x => if xs.any (same · x) then xs else xs ++ [x]) [])

/-- The value under a key that is a text. -/
def entry? (name : String) (entries : List (Data × Data)) : Option Data :=
  (entries.find? fun e => match e.1 with
    | text s => s = name
    | _ => false).map Prod.snd

end Data

end SourceLoader
