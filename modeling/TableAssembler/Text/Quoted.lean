import TableAssembler.Text.Graphic
import TableAssembler.Text.Numeral
import TableAssembler.Text.Utf8

/-!
# Quoted text

How characters and texts are shown between quotes: graphic characters stand for themselves, the
quote and the backslash are escaped, and every other character is written as an escape of its own.
-/

namespace TableAssembler
namespace Quoted

/-- The letter of a control character that has an escape of its own. -/
def controlLetter? (c : Char) : Option Char :=
  match c.toNat with
  | 7 => some 'a'
  | 8 => some 'b'
  | 9 => some 't'
  | 10 => some 'n'
  | 11 => some 'v'
  | 12 => some 'f'
  | 13 => some 'r'
  | _ => none

/-- A character written by its code point, in two, four or eight hexadecimal digits. -/
def codePoint (c : Char) : List Char :=
  let digits := Nat.toDigits 16 c.toNat
  if c.toNat < 32 ∨ c.toNat = 127 then '\\' :: 'x' :: Numeral.padded 2 digits
  else if c.toNat < 0x10000 then '\\' :: 'u' :: Numeral.padded 4 digits
  else '\\' :: 'U' :: Numeral.padded 8 digits

/-- The written form of one character between quotes. -/
def escape (quote c : Char) : List Char :=
  if c = quote ∨ c = '\\' then ['\\', c]
  else if Text.isGraphic c then [c]
  else
    match controlLetter? c with
    | some letter => ['\\', letter]
    | none => codePoint c

/-- A text between double quotes. -/
def text (value : String) : String :=
  String.ofList ('"' :: value.toList.flatMap (escape '"') ++ ['"'])

/-- Bytes between double quotes: well-formed characters as in a text, other bytes in
hexadecimal. -/
def bytes (value : List UInt8) : String :=
  let inner := (Utf8.segments value).flatMap fun (c, whole) =>
    match c == Utf8.replacement, whole with
    | true, [byte] => '\\' :: 'x' :: Numeral.padded 2 (Nat.toDigits 16 byte.toNat)
    | _, _ => escape '"' c
  String.ofList ('"' :: inner ++ ['"'])

/-- A character between single quotes. -/
def character (c : Char) : String :=
  String.ofList ('\'' :: escape '\'' c ++ ['\''])

end Quoted
end TableAssembler
