import TableAssembler.Format.Starlark.Store

/-!
# Starlark numbers

Conversions between integers and floats, and the operations on them.  Integers have no bounds;
where a float is among the operands, the integer must have one of finite size.
-/

namespace TableAssembler
namespace Starlark
namespace Number

/-- Half of the number of values that an index can have. -/
def indexBound : Int := 0x80000000

/-- An integer of 32 bits with a sign. -/
def index? : Value → Option Int
  | .int value => if -indexBound ≤ value ∧ value < indexBound then some value else none
  | _ => none

/-- An integer of 64 bits with a sign. -/
def word? : Value → Option Int
  | .int value => if Numeral.wrap value = value then some value else none
  | _ => none

/-- An integer of eight bits. -/
def byte? : Value → Option UInt8
  | .int value => if 0 ≤ value ∧ value < 256 then some (UInt8.ofNat value.toNat) else none
  | _ => none

/-- A number without its fraction. -/
def whole? : Value → Option Int
  | .int value => some value
  | .float value => value.truncate?
  | _ => none

/-- A number as a float. -/
def float? : Value → Option Binary64
  | .int value => some (Binary64.ofInt value)
  | .float value => some value
  | _ => none

/-- An integer as a finite float. -/
def finite? (value : Int) : Option Binary64 :=
  match Binary64.ofInt value with
  | .infinite _ => none
  | value => some value

/-! ## Arithmetic -/

/-- An operation on two integers or on two floats. -/
def combine? (ints : Int → Int → Option Value) (floats : Binary64 → Binary64 → Option Binary64)
    (left right : Value) : Option Value :=
  match left, right with
  | .int left, .int right => ints left right
  | .int left, .float right => do return .float (← floats (← finite? left) right)
  | .float left, .int right => do return .float (← floats left (← finite? right))
  | .float left, .float right => (floats left right).map .float
  | _, _ => none

/-- An operation whose second operand is not zero. -/
def unlessZero (operation : Binary64 → Binary64 → Binary64) (left right : Binary64) :
    Option Binary64 :=
  if right.isZero then none else some (operation left right)

/-- The sum of two numbers. -/
def add? : Value → Value → Option Value :=
  combine? (fun left right => some (.int (left + right))) fun left right => some (left.add right)

/-- The difference of two numbers. -/
def sub? : Value → Value → Option Value :=
  combine? (fun left right => some (.int (left - right))) fun left right => some (left.sub right)

/-- The product of two numbers. -/
def mul? : Value → Value → Option Value :=
  combine? (fun left right => some (.int (left * right))) fun left right => some (left.mul right)

/-- The quotient of two numbers, which is a float. -/
def div? : Value → Value → Option Value :=
  combine?
    (fun left right => do
      return .float (← unlessZero Binary64.div (← finite? left) (← finite? right)))
    (unlessZero Binary64.div)

/-- The quotient of two numbers, rounded down. -/
def floorDiv? : Value → Value → Option Value :=
  combine? (fun left right => if right = 0 then none else some (.int (left.fdiv right)))
    (unlessZero fun left right => (left.div right).floor)

/-- The remainder of a quotient that is rounded down. -/
def mod? : Value → Value → Option Value :=
  combine? (fun left right => if right = 0 then none else some (.int (left.fmod right)))
    (unlessZero Binary64.mod)

/-! ## Bits -/

/-- The bits that two integers have in common; a negative integer has no end of them. -/
def commonBits : Int → Int → Int
  | .ofNat left, .ofNat right => (Nat.land left right : Nat)
  | .ofNat left, .negSucc right => (left - Nat.land left right : Nat)
  | .negSucc left, .ofNat right => (right - Nat.land left right : Nat)
  | .negSucc left, .negSucc right => .negSucc (Nat.lor left right)

/-- The bits of either of two integers. -/
def allBits (left right : Int) : Int := left + right - commonBits left right

/-- The bits of one of two integers only. -/
def differentBits (left right : Int) : Int := allBits left right - commonBits left right

/-- An integer may be shifted to the left by less than this. -/
def shiftBound : Int := 512

/-- An integer with its bits shifted to the left. -/
def shiftLeft? (value : Int) (count : Value) : Option Int := do
  let count ← index? count
  if 0 ≤ count ∧ count < shiftBound then some (value * Nat.pow 2 count.toNat) else none

/-- An integer with its bits shifted to the right. -/
def shiftRight? (value : Int) (count : Value) : Option Int := do
  let count ← index? count
  if 0 ≤ count then some (Int.shiftRight value count.toNat) else none

end Number
end Starlark
end TableAssembler
