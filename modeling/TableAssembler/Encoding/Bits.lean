import TableAssembler.InstructionSet.Basic

/-!
# Bits and bytes

An encoding is put together from pieces, each a number of zeros with digits behind them, and then
packed into a group of bytes, the most significant first.  A piece knows its length without its
zeros being written out, so that a field that is far too wide costs nothing.
-/

namespace TableAssembler
namespace Encoding

/-- The low `width` bytes of a number, the most significant first. -/
def bigEndian : Nat → Nat → List UInt8
  | 0, _ => []
  | width + 1, value => bigEndian width (value / 256) ++ [UInt8.ofNat (value % 256)]

@[simp]
theorem length_bigEndian (width value : Nat) : (bigEndian width value).length = width := by
  induction width generalizing value with
  | zero => rfl
  | succ width ih => simp [bigEndian, ih]

/-- A part of an encoding: zeros, then digits. -/
structure Piece where
  /-- Number of zeros. -/
  zeros : Nat := 0
  /-- Digits behind the zeros. -/
  digits : List Char := []
  deriving DecidableEq, Repr, Inhabited

namespace Piece

/-- The digits written out. -/
def toList (piece : Piece) : List Char :=
  List.replicate piece.zeros '0' ++ piece.digits

/-- The number of bytes of the written digits. -/
def size (piece : Piece) : Nat :=
  piece.digits.foldr (fun c size => c.utf8Size + size) piece.zeros

/-- The widest field that zeros are written for. -/
def widthLimit : Int := 1000000

/-- Stands before a value whose field is wider than the limit. -/
def tooWide : List Char := "%!(BADWIDTH)".toList

/-- The binary digits of a value, with zeros up to a width. -/
def ofValue (width : Int) (value : UInt64) : Piece :=
  let digits := Nat.toDigits 2 value.toNat
  if width ≤ widthLimit then { zeros := width.toNat - digits.length, digits }
  else { digits := tooWide ++ digits }

end Piece

/-- The number of bytes of the written digits of pieces. -/
def totalSize (pieces : List Piece) : Nat :=
  pieces.foldr (fun piece size => piece.size + size) 0

/-- Packs pieces into 1, 2, 4 or 8 bytes; the bits are aligned to the right. -/
def pack (pieces : List Piece) : Except Cause (List UInt8) :=
  let size := totalSize pieces
  if size = 0 then .ok []
  else if groupSize size = 0 then .error (.bitsTooMany size)
  else if size % 8 ≠ 0 then .error (.bitsUnaligned size)
  else
    let text := pieces.flatMap Piece.toList
    match Numeral.value? 2 text with
    | some value => .ok (bigEndian (groupSize size) value)
    | none => .error (.notBinary (String.ofList text))

/-- Packs a text of zeros and ones. -/
def packText (text : String) : Except Cause (List UInt8) :=
  pack [{ digits := text.toList }]

end Encoding
end TableAssembler
