import TableAssembler.Text.Numeral

/-!
# Binary floating-point numbers

Numbers with 53 significant bits.  Every operation is exact arithmetic on ratios of integers
followed by one rounding to the nearest number, with halves going to the even neighbour.
-/

namespace TableAssembler

/-- A number of the binary format with 53 significant bits. -/
inductive Binary64
  /-- A significand below two to the power of 53, times a power of two. -/
  | finite (negative : Bool) (significand : Nat) (exponent : Int)
  | infinite (negative : Bool)
  | nan
  deriving DecidableEq, Repr, Inhabited

namespace Binary64

/-- The number of significant bits. -/
def precision : Nat := 53

/-- The exponent of the smallest numbers. -/
def leastExponent : Int := -1074

/-- The exponent of the greatest numbers. -/
def greatestExponent : Int := 971

/-- Zero with a sign. -/
def zero (negative : Bool) : Binary64 := .finite negative 0 leastExponent

/-! ## Rounding -/

/-- A quotient rounded to the nearest whole number, halves to the even one. -/
def roundQuotient (numerator denominator : Nat) : Nat :=
  let down := numerator / denominator
  let rest := 2 * (numerator % denominator)
  if denominator < rest || (rest == denominator && down % 2 == 1) then down + 1 else down

/-- A ratio in units of a power of two, as another ratio. -/
def inUnits (numerator denominator : Nat) (exponent : Int) : Nat × Nat :=
  if 0 ≤ exponent then (numerator, denominator * Nat.pow 2 exponent.toNat)
  else (numerator * Nat.pow 2 exponent.natAbs, denominator)

/-- The exponent of the last significant bit of a positive ratio, not below the least one. -/
def unitExponent (numerator denominator : Nat) : Int :=
  let guess : Int := Numeral.bitLength numerator - Numeral.bitLength denominator - precision
  let (scaled, unit) := inUnits numerator denominator guess
  max leastExponent (if scaled / unit < Nat.pow 2 precision then guess else guess + 1)

/-- The number next to a ratio. -/
def ofRatio (negative : Bool) (numerator denominator : Nat) : Binary64 :=
  if numerator = 0 then zero negative
  else
    let exponent := unitExponent numerator denominator
    let (scaled, unit) := inUnits numerator denominator exponent
    let significand := roundQuotient scaled unit
    let carried := significand = Nat.pow 2 precision
    let exponent := if carried then exponent + 1 else exponent
    if greatestExponent < exponent then .infinite negative
    else .finite negative (if carried then Nat.pow 2 (precision - 1) else significand) exponent

/-- The number next to an integer. -/
def ofInt (value : Int) : Binary64 := ofRatio (decide (value < 0)) value.natAbs 1

/-- Beyond this power of ten every number is infinite. -/
def greatestMagnitude : Int := 310

/-- Below this power of ten every number is zero. -/
def leastMagnitude : Int := -330

/-- The number next to some digits times a power of ten. -/
def ofDecimal (negative : Bool) (digits : Nat) (exponent : Int) : Binary64 :=
  let magnitude := exponent + (Nat.toDigits 10 digits).length
  if digits = 0 || magnitude < leastMagnitude then zero negative
  else if greatestMagnitude < magnitude then .infinite negative
  else if 0 ≤ exponent then ofRatio negative (digits * Nat.pow 10 exponent.toNat) 1
  else ofRatio negative digits (Nat.pow 10 exponent.natAbs)

/-- The number next to some digits times a power of two. -/
def ofBinary (negative : Bool) (digits : Nat) (exponent : Int) : Binary64 :=
  let magnitude := exponent + Numeral.bitLength digits
  if digits = 0 || magnitude < leastExponent then zero negative
  else if greatestExponent + precision < magnitude then .infinite negative
  else
    let (numerator, denominator) := inUnits digits 1 (-exponent)
    ofRatio negative numerator denominator

/-! ## Exact values -/

/-- The sign of a number. -/
def isNegative : Binary64 → Bool
  | .finite negative _ _ => negative
  | .infinite negative => negative
  | .nan => false

/-- The number is zero. -/
def isZero : Binary64 → Bool
  | .finite _ significand _ => significand == 0
  | _ => false

/-- An integer with the sign of a number. -/
def signed (negative : Bool) (magnitude : Nat) : Int :=
  if negative then -magnitude else magnitude

/-- The exact value of a finite number as a ratio. -/
def ratio? : Binary64 → Option (Int × Nat)
  | .finite negative significand exponent =>
      let (numerator, denominator) := inUnits significand 1 (-exponent)
      some (signed negative numerator, denominator)
  | _ => none

/-- The number without its fraction; nothing when it is not finite. -/
def truncate? (value : Binary64) : Option Int :=
  value.ratio?.map fun (numerator, denominator) => numerator.tdiv denominator

/-- The word of a number without its fraction: numbers below zero wrap as signed words, two to the
power of 64 keeps its top bit only, and what lies beyond it is refused. -/
def word? (value : Binary64) : Option UInt64 :=
  let top := UInt64.size / 2
  match value with
  | .nan => none
  | .infinite negative => if negative then some (UInt64.ofNat top) else none
  | .finite .. =>
      value.truncate?.bind fun whole =>
        if whole < 0 then some (0 - UInt64.ofNat (min whole.natAbs top))
        else if whole.toNat < UInt64.size then some (UInt64.ofNat whole.toNat)
        else if whole.toNat = UInt64.size then some (UInt64.ofNat top)
        else none

end Binary64
end TableAssembler
