import TableAssembler.Binary64.Basic

/-!
# Decimal digits of binary floating-point numbers

The written form of a number has the fewest digits that round back to it, and of those the ones
next to its value.  Other forms have a fixed number of digits behind the point.
-/

namespace TableAssembler
namespace Binary64

/-- A significand times a power of two in units of a power of ten, as a ratio. -/
def inTens (significand : Nat) (exponent : Int) (tens : Int) : Nat × Nat :=
  (significand * Nat.pow 2 exponent.toNat * Nat.pow 10 (-tens).toNat,
    Nat.pow 2 (-exponent).toNat * Nat.pow 10 tens.toNat)

/-- The power of ten of the first digit of a positive number. -/
def leadingTens (significand : Nat) (exponent : Int) : Int :=
  let guess := ((Numeral.bitLength significand + exponent - 1) * 30103).fdiv 100000
  let (scaled, unit) := inTens significand exponent (guess + 1)
  if unit ≤ scaled then guess + 1 else guess

/-- The digits of a number on a grid of powers of ten when they round back to it. -/
def gridDigits? (significand : Nat) (exponent tens : Int) : Option Nat :=
  let below := if significand = Nat.pow 2 (precision - 1) && leastExponent < exponent then 1 else 2
  let closed := significand % 2 == 0
  let (scale, unit) := inTens 1 (exponent - 2) tens
  let value := 4 * significand * scale
  let low := (4 * significand - below) * scale
  let high := (4 * significand + 2) * scale
  let reads (digits : Nat) : Bool :=
    let point := digits * unit
    if closed then decide (low ≤ point) && decide (point ≤ high)
    else decide (low < point) && decide (point < high)
  let down := value / unit
  let nearest := roundQuotient value unit
  if reads down && reads (down + 1) then some nearest
  else if reads down then some down
  else if reads (down + 1) then some (down + 1)
  else none

/-- The fewest digits that round back to a positive number, and the power of ten of the last one. -/
def shortest (significand : Nat) (exponent : Int) : Nat × Int :=
  let first := leadingTens significand exponent
  let grid (count : Nat) : Option (Nat × Int) :=
    let tens := first - count
    (gridDigits? significand exponent tens).map (·, tens)
  ((List.range 18).findSome? grid).getD (0, 0)

/-- A digit, a point, further digits, and an exponent of two digits at least. -/
def exponential (mark : Char) (digits : List Char) (exponent : Int) : List Char :=
  let fraction := match digits with
    | first :: second :: rest => first :: '.' :: second :: rest
    | short => short
  fraction ++ [mark, if exponent < 0 then '-' else '+'] ++
    Numeral.padded 2 (Nat.toDigits 10 exponent.natAbs)

/-- Digits with a point behind the first of them, moved by a power of ten. -/
def positional (digits : List Char) (exponent : Int) : List Char :=
  if exponent < 0 then ['0', '.'] ++ List.replicate (exponent.natAbs - 1) '0' ++ digits
  else
    let count := exponent.toNat + 1
    let whole := digits.take count
    let fraction := digits.drop count
    whole ++ List.replicate (count - whole.length) '0' ++ ['.'] ++
      if fraction.isEmpty then ['0'] else fraction

/-- Digits before a sign. -/
def withSign (negative : Bool) (digits : List Char) : String :=
  String.ofList (if negative then '-' :: digits else digits)

/-- The written form of what is not finite. -/
def specialText : Binary64 → String
  | .infinite negative => if negative then "-inf" else "+inf"
  | _ => "nan"

/-- The shortest written form: positional from four places behind the point to six before it,
exponential with a mark beyond. -/
def renderWith (mark : Char) (value : Binary64) : String :=
  match value with
  | .finite negative significand exponent =>
      if significand = 0 then withSign negative ['0', '.', '0']
      else
        let (number, tens) := shortest significand exponent
        let all := Nat.toDigits 10 number
        let digits := (all.reverse.dropWhile (· == '0')).reverse
        let leading := tens + all.length - 1
        withSign negative
          (if leading < -4 || 6 ≤ leading then exponential mark digits leading
           else positional digits leading)
  | value => specialText value

/-- The shortest written form. -/
def render (value : Binary64) : String := renderWith 'e' value

/-- The number of digits behind the point in the forms with a fixed number of them. -/
def places : Nat := 6

/-- The form with an exponent and a fixed number of digits. -/
def renderExponential (mark : Char) (value : Binary64) : String :=
  match value with
  | .finite negative significand exponent =>
      if significand = 0 then
        withSign negative (exponential mark (List.replicate (places + 1) '0') 0)
      else
        let leading := leadingTens significand exponent
        let (scaled, unit) := inTens significand exponent (leading - places)
        let digits := Nat.toDigits 10 (roundQuotient scaled unit)
        withSign negative
          (exponential mark (digits.take (places + 1)) (leading + digits.length - (places + 1)))
  | value => specialText value

/-- The form without an exponent and with a fixed number of digits behind the point. -/
def renderPositional (value : Binary64) : String :=
  match value with
  | .finite negative significand exponent =>
      let (scaled, unit) := inTens significand exponent (-places)
      let digits := Numeral.padded (places + 1) (Nat.toDigits 10 (roundQuotient scaled unit))
      let whole := digits.length - places
      withSign negative (digits.take whole ++ '.' :: digits.drop whole)
  | value => specialText value

end Binary64
end TableAssembler
