import TableAssembler.Binary64.Basic

/-!
# Arithmetic on binary floating-point numbers

Sums, products, quotients and remainders, and the order of numbers among themselves and among the
integers.  In the order a number that is none stands above all others and is equal to itself.
-/

namespace TableAssembler
namespace Binary64

/-- The number next to a signed ratio; `negative` is the sign of zero. -/
def ofSigned (negative : Bool) (numerator : Int) (denominator : Nat) : Binary64 :=
  if numerator = 0 then zero negative
  else ofRatio (decide (numerator < 0)) numerator.natAbs denominator

/-- The number with the other sign. -/
def neg : Binary64 → Binary64
  | .finite negative significand exponent => .finite (!negative) significand exponent
  | .infinite negative => .infinite (!negative)
  | .nan => .nan

/-- The sum of two numbers. -/
def add (left right : Binary64) : Binary64 :=
  match left, right, left.ratio?, right.ratio? with
  | _, _, some (a, b), some (c, d) =>
      ofSigned (left.isNegative && right.isNegative) (a * d + c * b) (b * d)
  | .nan, _, _, _ | _, .nan, _, _ => .nan
  | .infinite first, .infinite second, _, _ => if first = second then .infinite first else .nan
  | .infinite negative, _, _, _ | _, .infinite negative, _, _ => .infinite negative
  | _, _, _, _ => .nan

/-- The difference of two numbers. -/
def sub (left right : Binary64) : Binary64 := left.add right.neg

/-- The product of two numbers. -/
def mul (left right : Binary64) : Binary64 :=
  let negative := left.isNegative != right.isNegative
  match left, right, left.ratio?, right.ratio? with
  | _, _, some (a, b), some (c, d) => ofSigned negative (a * c) (b * d)
  | .nan, _, _, _ | _, .nan, _, _ => .nan
  | _, _, _, _ => if left.isZero || right.isZero then .nan else .infinite negative

/-- The quotient of two numbers, the second of which is not zero. -/
def div (left right : Binary64) : Binary64 :=
  let negative := left.isNegative != right.isNegative
  match left, right, left.ratio?, right.ratio? with
  | _, _, some (a, b), some (c, d) => ofSigned negative (a * d * c.sign) (b * c.natAbs)
  | .nan, _, _, _ | _, .nan, _, _ => .nan
  | .infinite _, .infinite _, _, _ => .nan
  | .infinite _, _, _, _ => .infinite negative
  | _, _, _, _ => zero negative

/-- The greatest whole number that is not above a number. -/
def floor (value : Binary64) : Binary64 :=
  match value.ratio? with
  | some (numerator, denominator) =>
      ofSigned value.isNegative (numerator.fdiv denominator) 1
  | none => value

/-- The remainder of a division that rounds towards zero. -/
def remainder (left right : Binary64) : Binary64 :=
  match left, right, left.ratio?, right.ratio? with
  | _, _, some (a, b), some (c, d) => ofSigned left.isNegative ((a * d).tmod (c * b)) (b * d)
  | .finite .., .infinite _, _, _ => left
  | _, _, _, _ => .nan

/-- The order of two numbers. -/
def compare (left right : Binary64) : Ordering :=
  match left, right, left.ratio?, right.ratio? with
  | _, _, some (a, b), some (c, d) => Ord.compare (a * d) (c * b)
  | .nan, .nan, _, _ => .eq
  | .nan, _, _, _ => .gt
  | _, .nan, _, _ => .lt
  | .infinite first, .infinite second, _, _ =>
      if first = second then .eq else if first then .lt else .gt
  | .infinite negative, _, _, _ => if negative then .lt else .gt
  | _, .infinite negative, _, _ => if negative then .gt else .lt
  | _, _, _, _ => .eq

/-- The order of an integer and a number. -/
def compareInt (left : Int) (right : Binary64) : Ordering :=
  match right.ratio? with
  | some (numerator, denominator) => Ord.compare (left * denominator) numerator
  | none => if right = .infinite true then .gt else .lt

/-- The number is below zero. -/
def isBelowZero (value : Binary64) : Bool := value.compare (zero false) == .lt

/-- The remainder of a division that rounds down. -/
def mod (left right : Binary64) : Binary64 :=
  let rest := left.remainder right
  if left.isBelowZero != right.isBelowZero && !rest.isZero then rest.add right else rest

end Binary64
end TableAssembler
