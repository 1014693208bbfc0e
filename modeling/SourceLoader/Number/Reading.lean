import SourceLoader.Syntax.Tree

/-!
# Reading numbers

Decimal numbers are read as an integer times a power of ten and rounded to the nearest binary
number once.
-/

namespace SourceLoader.Number

/-- The value of decimal digits; other characters are passed over. -/
def ofDigits (base : Nat) (cs : List Char) : Nat :=
  cs.foldl (fun n c =>
    match Text.Unicode.hexDigit? c with
    | some d => n * base + d
    | none => n) 0

/-- The binary number nearest to `mantissa` times ten to the power of `exponent`. -/
def nearest (mantissa : Nat) (exponent : Int) : Float :=
  if mantissa = 0 then 0.0
  else
    let magnitude : Int := (Nat.toDigits 10 mantissa).length + exponent
    if magnitude > 320 then Float.ofBits 0x7FF0000000000000
    else if magnitude < -340 then 0.0
    else if exponent ≥ 0 then Float.ofScientific mantissa false exponent.toNat
    else Float.ofScientific mantissa true (-exponent).toNat

/-- Reads digits with an optional point and exponent; nothing else may stand in `cs`. -/
def ofDecimal (cs : List Char) : Float :=
  let cs := cs.filter fun c => c ≠ '_'
  let (mantissa, exponent) := cs.span fun c => c ≠ 'e' && c ≠ 'E'
  let (whole, fraction) := mantissa.span fun c => c ≠ '.'
  let fraction := fraction.drop 1
  let shift : Int := match exponent.drop 1 with
    | '-' :: ds => -(ofDigits 10 ds : Int)
    | '+' :: ds => (ofDigits 10 ds : Int)
    | ds => (ofDigits 10 ds : Int)
  nearest (ofDigits 10 (whole ++ fraction)) (shift - fraction.length)

/-- Most decimal digits of an integer that is read or written. -/
def maxDigits : Nat := 4300

/-- The value of a number token. An integer with too many decimal digits is refused with
their number. -/
def ofToken (text : String) : Except Nat Constant :=
  let cs := text.toList.filter fun c => c ≠ '_'
  match cs with
  | '0' :: b :: digits =>
    if b = 'x' || b = 'X' then .ok (.int (ofDigits 16 digits))
    else if b = 'o' || b = 'O' then .ok (.int (ofDigits 8 digits))
    else if b = 'b' || b = 'B' then .ok (.int (ofDigits 2 digits))
    else decimal cs
  | _ => decimal cs
where
  /-- The value of a token without a base. -/
  decimal (cs : List Char) : Except Nat Constant :=
    match cs.reverse with
    | 'j' :: rest | 'J' :: rest => .ok (.imaginary (.ofFloat (ofDecimal rest.reverse)))
    | _ =>
      if cs.all Char.isDigit then
        if cs.length > maxDigits then .error cs.length else .ok (.int (ofDigits 10 cs))
      else .ok (.float (.ofFloat (ofDecimal cs)))

end SourceLoader.Number
