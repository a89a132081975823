import TableAssembler.Binary64.Basic

/-!
# Reading of numbers

The number next to what digits with a fraction and an exponent denote.  The digits are decimal ones
with a power of ten, or hexadecimal ones with a power of two.
-/

namespace TableAssembler
namespace Binary64

/-- The power behind the mark of an exponent. -/
def exponent? (mark : Char) : List Char → Option Int
  | [] => none
  | c :: rest =>
      let (negative, digits) := Numeral.splitSign rest
      if c.toLower == mark && !digits.isEmpty then
        (Numeral.value? 10 digits).map fun value => if negative then -value else value
      else none

/-- The value of the digits around an optional point, the number of them behind it, and the text
after them. -/
def mantissa? (radix : Nat) (text : List Char) : Option (Nat × Nat × List Char) := do
  let isDigit := Numeral.isDigit radix
  let whole := text.takeWhile isDigit
  let rest := text.dropWhile isDigit
  let (fraction, rest) := match rest with
    | '.' :: rest => (rest.takeWhile isDigit, rest.dropWhile isDigit)
    | _ => ([], rest)
  if whole.isEmpty && fraction.isEmpty then none
  return (← Numeral.value? radix (whole ++ fraction), fraction.length, rest)

/-- A number unless it is infinite. -/
def bounded? : Binary64 → Option Binary64
  | .infinite _ => none
  | value => some value

/-- A decimal number with an optional fraction and an optional exponent; one that is too great is
none. -/
def parsePlain? (text : List Char) : Option Binary64 := do
  let (negative, text) := Numeral.splitSign text
  let (digits, places, rest) ← mantissa? 10 text
  let exponent ← if rest.isEmpty then some 0 else exponent? 'e' rest
  bounded? (ofDecimal negative digits (exponent - places))

/-- The number of bits of a hexadecimal digit. -/
def hexadecimalBits : Nat := 4

/-- A hexadecimal number with an optional fraction and an exponent; one that is too great is
none. -/
def parseHexadecimal? (negative : Bool) (text : List Char) : Option Binary64 := do
  let (digits, places, rest) ← mantissa? 16 text
  let exponent ← exponent? 'p' rest
  bounded? (ofBinary negative digits (exponent - hexadecimalBits * places))

/-- Every underscore stands between two digits. -/
def separatorsPlaced (isDigit : Char → Bool) : Bool → List Char → Bool
  | _, [] => true
  | digitBefore, c :: rest =>
      (c != '_' || (digitBefore && rest.head?.any isDigit)) &&
        separatorsPlaced isDigit (isDigit c) rest

/-- A number whose digits may be separated by underscores.  The mark of hexadecimal digits counts as
a digit there. -/
def parse? (text : List Char) : Option Binary64 :=
  let plain := text.filter (· != '_')
  match Numeral.splitSign text with
  | (negative, '0' :: mark :: digits) =>
      if mark.toLower == 'x' then
        if separatorsPlaced (Numeral.isDigit 16) true digits then
          parseHexadecimal? negative (digits.filter (· != '_'))
        else none
      else if separatorsPlaced Char.isDigit false text then parsePlain? plain
      else none
  | _ => if separatorsPlaced Char.isDigit false text then parsePlain? plain else none

end Binary64
end TableAssembler
