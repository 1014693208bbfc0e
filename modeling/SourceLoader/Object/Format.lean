import SourceLoader.Object.Arithmetic

/-!
# Formats

A format says how a value is set in a text: how it is filled up and on which side, its sign, how
wide it is at least, how many digits it has and in which notation a number is written. Digits
are worked out from the exact value of a number; a half goes to the even neighbour.
-/

namespace SourceLoader

/-- A format. -/
structure Format where
  filler : Char := ' '
  /-- `<`, `>`, `^` or `=`. -/
  align : Option Char := none
  /-- `+`, `-` or a blank. -/
  sign : Char := '-'
  isAlternate : Bool := false
  width : Nat := 0
  /-- What groups digits. -/
  group : Option Char := none
  precision : Option Nat := none
  /-- The letter of the notation. -/
  notation_ : Option Char := none

namespace Format

/-- Is it a sign of alignment? -/
def isAlign (c : Char) : Bool := ['<', '>', '^', '='].contains c

/-- Reads the alignment. -/
def readAlign (cs : List Char) : Format × List Char :=
  match cs with
  | f :: a :: rest =>
    if isAlign a then ({ filler := f, align := some a }, rest)
    else if isAlign f then ({ align := some f }, a :: rest)
    else ({}, cs)
  | [a] => if isAlign a then ({ align := some a }, []) else ({}, cs)
  | [] => ({}, [])

/-- Reads a number. -/
def readNumber (cs : List Char) : Option Nat × List Char :=
  let digits := cs.takeWhile Char.isDigit
  (if digits.isEmpty then none else some (Number.ofDigits 10 digits), cs.dropWhile Char.isDigit)

/-- Reads a format. -/
def read (spec : String) : Option Format :=
  let (f, cs) := readAlign spec.toList
  let (f, cs) := match cs with
    | c :: rest => if ['+', '-', ' '].contains c then ({ f with sign := c }, rest) else (f, cs)
    | [] => (f, cs)
  let (f, cs) := match cs with
    | '#' :: rest => ({ f with isAlternate := true }, rest)
    | cs => (f, cs)
  let (f, cs) := match cs, f.align with
    | '0' :: rest, none => ({ f with filler := '0', align := some '=' }, rest)
    | cs, _ => (f, cs)
  let (width, cs) := readNumber cs
  let f := { f with width := width.getD 0 }
  let (f, cs) := match cs with
    | ',' :: rest => ({ f with group := some ',' }, rest)
    | '_' :: rest => ({ f with group := some '_' }, rest)
    | cs => (f, cs)
  let precise : Option (Format × List Char) := match cs with
    | '.' :: rest =>
      match readNumber rest with
      | (some n, rest) => some ({ f with precision := some n }, rest)
      | (none, _) => none
    | cs => some (f, cs)
  match precise with
  | none => none
  | some (f, []) => some f
  | some (f, [c]) => some { f with notation_ := some c }
  | some _ => none

/-- A text with blanks up to the width; `front` is a sign that stays in front. -/
def pad (f : Format) (default : Char) (front body : String) : String :=
  let missing := f.width - (front.length + body.length)
  let fill (n : Nat) : String := String.ofList (List.replicate n f.filler)
  match f.align.getD default with
  | '<' => front ++ body ++ fill missing
  | '^' => fill (missing / 2) ++ front ++ body ++ fill (missing - missing / 2)
  | '=' => front ++ fill missing ++ body
  | _ => fill missing ++ front ++ body

/-- The sign in front of a number. -/
def signOf (f : Format) (isNegative : Bool) : String :=
  if isNegative then "-"
  else if f.sign = '+' then "+"
  else if f.sign = ' ' then " " else ""

/-- Digits in groups, from the last one. -/
def grouped (f : Format) (size : Nat) (digits : List Char) : List Char :=
  match f.group with
  | none => digits
  | some separator =>
    let indexed := digits.reverse.zipIdx
    (indexed.flatMap fun (c, i) =>
      if i ≠ 0 && i % size = 0 then [separator, c] else [c]).reverse

/-- A quotient rounded to the nearest whole number, a half to the even one. -/
def roundQuotient (n d : Nat) : Nat :=
  let q := n / d
  let rest := 2 * (n % d)
  if rest > d || (rest = d && q % 2 = 1) then q + 1 else q

/-- The exact value of a number as a quotient. -/
def fraction (x : Double) : Nat × Nat :=
  if x.scale ≥ 0 then (x.mantissa * Nat.pow 2 x.scale.toNat, 1)
  else (x.mantissa, Nat.pow 2 (-x.scale).toNat)

/-- Digits with a point before the last `places`. -/
def withPoint (f : Format) (digits places : Nat) : String :=
  let cs := Nat.toDigits 10 digits
  let cs := List.replicate (places + 1 - cs.length) '0' ++ cs
  let whole := String.ofList (grouped f 3 (cs.take (cs.length - places)))
  if places = 0 then whole else whole ++ "." ++ String.ofList (cs.drop (cs.length - places))

/-- A number with a fixed number of places. -/
def fixed (f : Format) (x : Double) (places : Nat) : String :=
  let (n, d) := fraction x
  withPoint f (roundQuotient (n * Nat.pow 10 places) d) places

/-- The power of ten of the first digit of a quotient that is not zero. -/
def leadingPower (n d : Nat) : Int :=
  let guess : Int := ((Nat.toDigits 10 n).length : Int) - (Nat.toDigits 10 d).length
  let reaches (p : Int) : Bool :=
    if p ≥ 0 then decide (n ≥ d * Nat.pow 10 p.toNat) else decide (n * Nat.pow 10 (-p).toNat ≥ d)
  if reaches guess then guess else guess - 1

/-- The first `count` digits of a number, rounded, and the power of ten of the first one. -/
def leadingDigits (x : Double) (count : Nat) : Nat × Int :=
  let (n, d) := fraction x
  if n = 0 then (0, 0)
  else
    let power := leadingPower n d
    let shift : Int := count - 1 - power
    let digits :=
      if shift ≥ 0 then roundQuotient (n * Nat.pow 10 shift.toNat) d
      else roundQuotient n (d * Nat.pow 10 (-shift).toNat)
    if digits ≥ Nat.pow 10 count then (digits / 10, power + 1) else (digits, power)

/-- An exponent of ten. -/
def exponentText (power : Int) : String :=
  let digits := toString power.natAbs
  (if power < 0 then "-" else "+") ++ (if digits.length < 2 then "0" ++ digits else digits)

/-- A number in scientific notation. -/
def scientific (x : Double) (places : Nat) : String :=
  let (digits, power) := leadingDigits x (places + 1)
  withPoint {} digits places ++ "e" ++ exponentText power

/-- A text without zeros at the end of its fraction. -/
def trimmed (s : String) : String :=
  let cs := s.toList
  if cs.contains '.' then
    let kept := (cs.reverse.dropWhile (· = '0'))
    String.ofList (match kept with
      | '.' :: rest => rest.reverse
      | kept => kept.reverse)
  else s

/-- A number in the shorter one of two notations, with some digits. -/
def general (f : Format) (x : Double) (precision : Nat) : String :=
  let count := max precision 1
  let (digits, power) := leadingDigits x count
  if -4 ≤ power && power < count then trimmed (fixed f x (count - 1 - power).toNat)
  else trimmed (withPoint {} digits (count - 1)) ++ "e" ++ exponentText power

/-- A real number. The result is `none` if the notation does not fit. -/
def real (f : Format) (x : Double) : Option String :=
  let sign := f.signOf x.isNegative
  let plain := if x.isNaN then "nan" else "inf"
  let body : Option String :=
    match f.notation_ with
    | none =>
      if !x.isFinite then some plain
      else
        match f.precision with
        | none => some (Number.textOf ⟨x.bits &&& 0x7FFFFFFFFFFFFFFF⟩ true)
        | some n => some (general f x n)
    | some c =>
      let n := f.precision.getD 6
      if !(['f', 'F', 'e', 'E', 'g', 'G', 'n', '%'].contains c) then none
      else if !x.isFinite then some (if c = '%' then plain ++ "%" else plain)
      else if c = 'f' || c = 'F' then some (fixed f x n)
      else if c = 'e' then some (scientific x n)
      else if c = 'E' then some ((scientific x n).toUpper)
      else if c = '%' then
        let (p, q) := fraction x
        some (withPoint f (roundQuotient (p * 100 * Nat.pow 10 n) q) n ++ "%")
      else if c = 'G' then some ((general f x n).toUpper)
      else some (general f x n)
  body.map (f.pad '>' sign)

/-- A whole number. The result is `none` if the notation does not fit. -/
def whole (f : Format) (n : Int) : Option String :=
  let sign := f.signOf (n < 0)
  let digits (base : Nat) (front : String) (isUpper : Bool) : Option String :=
    let cs := Nat.toDigits base n.natAbs
    let cs := if isUpper then cs.map Char.toUpper else cs
    let size := if base = 10 then 3 else 4
    some (f.pad '>' (sign ++ (if f.isAlternate then front else ""))
      (String.ofList (grouped f size cs)))
  match f.notation_ with
  | none | some 'd' | some 'n' => digits 10 "" false
  | some 'b' => digits 2 "0b" false
  | some 'o' => digits 8 "0o" false
  | some 'x' => digits 16 "0x" false
  | some 'X' => digits 16 "0X" true
  | some 'c' => some (f.pad '<' "" (String.singleton (Char.ofNat n.toNat)))
  | some _ => real f (.ofFloat (Number.quotient n 1))

/-- A text. -/
def text (f : Format) (s : String) : Option String :=
  match f.notation_ with
  | none | some 's' =>
    let s := match f.precision with
      | some n => String.ofList (s.toList.take n)
      | none => s
    some (f.pad '<' "" s)
  | some _ => none

end Format

/-- A value as text in the format that a text describes. -/
def Format.ofValue (v : Value) (spec : String) : Eval String := do
  let m ← Eval.memory
  if spec = "" then return m.plain v
  let unknown (f : Format) : Eval String :=
    let code := f.notation_.toList
    Eval.error "ValueError"
      s!"Unknown format code '{String.ofList code}' for object of type '{m.typeName v}'"
  let isPlain : Bool := v.isNumber || (match v with
    | .text _ => true
    | _ => false)
  if !isPlain then
    Eval.typeError s!"unsupported format string passed to {m.typeName v}.__format__"
  else
    match Format.read spec with
    | none => Eval.error "ValueError" "Invalid format specifier"
    | some f =>
      let result := match v, v.int? with
        | .text s, _ => f.text s
        | .float x, _ => f.real x
        | _, some n => f.whole n
        | _, none => none
      match result with
      | some s => pure s
      | none => unknown f

end SourceLoader
