import SourceLoader.Syntax.Tree

/-!
# The shortest decimal of a binary number

Among the decimals that are read back as a given binary number, the one with the fewest digits
is written, and of several the nearest one. A number is written with a point while its first
digit stands for a power of ten from -4 to 15, and with an exponent otherwise.
-/

namespace SourceLoader

namespace Double

/-- Is the sign bit set? -/
def isNegative (x : Double) : Bool := x.bits >>> 63 = 1

/-- The exponent bits. -/
def exponentBits (x : Double) : Nat := ((x.bits >>> 52) &&& 0x7FF).toNat

/-- The fraction bits. -/
def fractionBits (x : Double) : Nat := (x.bits &&& 0xFFFFFFFFFFFFF).toNat

/-- Is it neither infinite nor a NaN? -/
def isFinite (x : Double) : Bool := x.exponentBits ≠ 0x7FF

/-- Is it a NaN? -/
def isNaN (x : Double) : Bool := x.exponentBits = 0x7FF && x.fractionBits ≠ 0

/-- The magnitude of a finite number is `mantissa` times two to the power of `scale`. -/
def mantissa (x : Double) : Nat :=
  if x.exponentBits = 0 then x.fractionBits else x.fractionBits + 0x10000000000000

/-- The magnitude of a finite number is `mantissa` times two to the power of `scale`. -/
def scale (x : Double) : Int :=
  (if x.exponentBits = 0 then 1 else x.exponentBits : Int) - 1075

end Double

namespace Number

/-- A positive number as a fraction, with the bounds of what is read back as it, over the same
denominator. The bounds belong to it if `closed` holds. -/
structure Interval where
  value : Nat
  low : Nat
  high : Nat
  denominator : Nat
  closed : Bool

/-- The interval that a binary number stands for. Below a power of two the numbers are closer
to each other. -/
def intervalOf (x : Double) : Interval :=
  let m := x.mantissa
  let below := if x.fractionBits = 0 && x.exponentBits > 1 then 1 else 2
  let e := x.scale - 2
  let up := Nat.pow 2 e.toNat
  { value := 4 * m * up, low := (4 * m - below) * up, high := (4 * m + 2) * up
    denominator := Nat.pow 2 (-e).toNat, closed := m % 2 = 0 }

namespace Interval

/-- Does `digits` times ten to the power of `exponent` lie in the interval? -/
def contains (i : Interval) (digits : Nat) (exponent : Int) : Bool :=
  let scaled := digits * i.denominator * Nat.pow 10 exponent.toNat
  let unit := Nat.pow 10 (-exponent).toNat
  if i.closed then i.low * unit ≤ scaled && scaled ≤ i.high * unit
  else i.low * unit < scaled && scaled < i.high * unit

/-- Multiples of ten to the power of `exponent` below the value, and the remainder, with what
it has to be compared with. -/
def split (i : Interval) (exponent : Int) : Nat × Nat × Nat :=
  let numerator := i.value * Nat.pow 10 (-exponent).toNat
  let unit := i.denominator * Nat.pow 10 exponent.toNat
  (numerator / unit, numerator % unit, unit)

/-- The decimal on the grid of ten to the power of `exponent` that lies in the interval and is
nearest to the value. -/
def onGrid? (i : Interval) (exponent : Int) : Option Nat :=
  let (below, rest, unit) := i.split exponent
  let nearerBelow := 2 * rest < unit || (2 * rest = unit && below % 2 = 0)
  let first := if nearerBelow then below else below + 1
  let second := if nearerBelow then below + 1 else below
  if i.contains first exponent then some first
  else if i.contains second exponent then some second
  else none

/-- The power of ten of the first digit of the value. -/
def leadingPower (i : Interval) : Int :=
  if i.value ≥ i.denominator then
    (Nat.toDigits 10 (i.value / i.denominator)).length - 1
  else
    -((Nat.toDigits 10 (i.denominator / i.value)).length : Int)
      + (if i.denominator % i.value = 0
            && isPowerOfTen (Nat.toDigits 10 (i.denominator / i.value)) then 1 else 0)
where
  /-- Are the digits those of a power of ten? -/
  isPowerOfTen : List Char → Bool
    | '1' :: rest => rest.all (· = '0')
    | _ => false

/-- The first grid that holds a decimal of the interval, from coarse to fine. -/
def search (i : Interval) (top : Int) : Nat → Nat → Nat × Int
  | 0, tried => (i.value / i.denominator, -(tried : Int))
  | fuel + 1, tried =>
    let exponent := top - tried
    match i.onGrid? exponent with
    | some digits => (digits, exponent)
    | none => search i top fuel (tried + 1)

end Interval

/-- The digits of the shortest decimal, and the power of ten of the first one. -/
def shortest (x : Double) : List Char × Int :=
  let i := intervalOf x
  let (digits, exponent) := i.search i.leadingPower 18 0
  let cs := Nat.toDigits 10 digits
  let kept := (cs.reverse.dropWhile (· = '0')).reverse
  (kept, exponent + cs.length - 1)

/-- The digits of a decimal as text; `power` is the power of ten of the first one. A number
without a fraction gets one if `wholeFraction` holds. -/
def layout (digits : List Char) (power : Int) (wholeFraction : Bool) : String :=
  let fraction (ds : List Char) : String :=
    if ds.isEmpty then (if wholeFraction then ".0" else "") else "." ++ String.ofList ds
  if -4 ≤ power && power < 16 then
    if power < 0 then
      "0." ++ String.ofList (List.replicate (-power - 1).toNat '0' ++ digits)
    else
      let before := power.toNat + 1
      let whole := digits.take before
      String.ofList (whole ++ List.replicate (before - whole.length) '0')
        ++ fraction (digits.drop before)
  else
    let tail := digits.drop 1
    let exponent := toString power.natAbs
    String.ofList (digits.take 1)
      ++ (if tail.isEmpty then "" else "." ++ String.ofList tail)
      ++ "e" ++ (if power < 0 then "-" else "+")
      ++ (if exponent.length < 2 then "0" ++ exponent else exponent)

/-- A binary number as text. -/
def textOf (x : Double) (wholeFraction : Bool) : String :=
  if x.isNaN then "nan"
  else
    let sign := if x.isNegative then "-" else ""
    if !x.isFinite then sign ++ "inf"
    else if x.mantissa = 0 then sign ++ "0" ++ (if wholeFraction then ".0" else "")
    else
      let (digits, power) := shortest x
      sign ++ layout digits power wholeFraction

end Number

end SourceLoader
