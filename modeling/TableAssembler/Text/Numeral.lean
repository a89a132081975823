/-!
# Numerals

Reading and writing of unsigned numbers.  A numeral is a list of digits, most significant first;
the digits of radix 36 are `0` to `9` and the letters of either case.  Written numerals use the
standard digits, and amounts shown to a reader have a comma before every third digit.
-/

namespace TableAssembler
namespace Numeral

/-! ## Reading -/

/-- The value of a digit, below 36. -/
def digitValue? (c : Char) : Option Nat :=
  if '0' ≤ c ∧ c ≤ '9' then some (c.toNat - 48)
  else if 'a' ≤ c ∧ c ≤ 'z' then some (c.toNat - 87)
  else if 'A' ≤ c ∧ c ≤ 'Z' then some (c.toNat - 55)
  else none

/-- The character is a digit of the radix. -/
def isDigit (radix : Nat) (c : Char) : Bool :=
  match digitValue? c with
  | some value => decide (value < radix)
  | none => false

/-- The number that `digits` continue when `sofar` has been read. -/
def valueFrom? (radix : Nat) : Nat → List Char → Option Nat
  | sofar, [] => some sofar
  | sofar, c :: rest =>
      match digitValue? c with
      | some value => if value < radix then valueFrom? radix (sofar * radix + value) rest else none
      | none => none

/-- The number written by `digits`, zero when there are none. -/
def value? (radix : Nat) (digits : List Char) : Option Nat :=
  valueFrom? radix 0 digits

/-- The signed 64-bit number that is congruent to an integer. -/
def wrap (value : Int) : Int := value.bmod UInt64.size

/-- A number that fits in a 64-bit word. -/
def word? (value : Nat) : Option UInt64 :=
  if value < UInt64.size then some (UInt64.ofNat value) else none

/-- Every underscore stands between two digits; `digitBefore` tells whether a digit came last. -/
def separatorsPlaced : Bool → List Char → Bool
  | digitBefore, [] => digitBefore
  | digitBefore, '_' :: rest => digitBefore && separatorsPlaced false rest
  | _, _ :: rest => separatorsPlaced true rest

/-- The radix announced by the start of a numeral, whether a leading zero announced it, and the
digits that follow: `0b`, `0o` and `0x` with something after them, a plain `0` for octal. -/
def announcedRadix : List Char → Nat × Bool × List Char
  | '0' :: mark :: first :: rest =>
      match mark.toLower with
      | 'b' => (2, true, first :: rest)
      | 'o' => (8, true, first :: rest)
      | 'x' => (16, true, first :: rest)
      | _ => (8, true, mark :: first :: rest)
  | '0' :: rest => (8, true, rest)
  | digits => (10, false, digits)

/-- Reads a numeral that announces its own radix and may separate digits by underscores. -/
def parseAnnounced? (text : List Char) : Option UInt64 :=
  let (radix, zeroBefore, digits) := announcedRadix text
  if separatorsPlaced zeroBefore digits then
    (value? radix (digits.filter (· != '_'))).bind word?
  else
    none

/-- Reads a word in a radix from 2 to 36; radix 0 lets the numeral announce its own. -/
def parse? (radix : Int) (text : List Char) : Option UInt64 :=
  if text.isEmpty then none
  else if radix = 0 then parseAnnounced? text
  else if 2 ≤ radix ∧ radix ≤ 36 then (value? radix.toNat text).bind word?
  else none

/-- A sign, and the text behind it. -/
def splitSign : List Char → Bool × List Char
  | '-' :: rest => (true, rest)
  | '+' :: rest => (false, rest)
  | unsigned => (false, unsigned)

/-! ## Writing -/

/-- Decimal digits of a number. -/
def decimal (value : Nat) : String :=
  String.ofList (Nat.toDigits 10 value)

/-- Decimal digits of an integer, with a minus sign when it is negative. -/
def signed (value : Int) : String :=
  if value < 0 then "-" ++ decimal value.natAbs else decimal value.natAbs

/-- Digits from the least significant upwards, with a comma after every third that has another
one behind it. -/
def separateThousands : List Char → List Char
  | ones :: tens :: hundreds :: next :: rest =>
      ones :: tens :: hundreds :: ',' :: separateThousands (next :: rest)
  | digits => digits

/-- Decimal digits of an integer in groups of three. -/
def grouped (value : Int) : String :=
  let digits := (separateThousands (Nat.toDigits 10 value.natAbs).reverse).reverse
  String.ofList (if value < 0 then '-' :: digits else digits)

/-- Digits with zeros before them up to a length. -/
def padded (width : Nat) (digits : List Char) : List Char :=
  List.replicate (width - digits.length) '0' ++ digits

/-- Hexadecimal digits, at least `width` of them. -/
def hex (width : Nat) (value : Nat) : String :=
  String.ofList (padded width (Nat.toDigits 16 value))

/-- Two hexadecimal digits for every byte. -/
def hexBytes (bytes : List UInt8) : List String :=
  bytes.map fun byte => hex 2 byte.toNat

/-- The number of binary digits of a number, zero for zero. -/
def bitLength (value : Nat) : Nat :=
  if value = 0 then 0 else value.log2 + 1

@[simp]
theorem bitLength_zero : bitLength 0 = 0 := rfl

@[simp]
theorem valueFrom?_nil (radix sofar : Nat) : valueFrom? radix sofar [] = some sofar := rfl

@[simp]
theorem value?_nil (radix : Nat) : value? radix [] = some 0 := rfl

end Numeral
end TableAssembler
