import TableAssembler.Binary64.Basic
import TableAssembler.Text.Utf8

/-!
# Starlark literals

Numbers and strings as they are written in a program.  Programs and strings are sequences of bytes;
a program is read as if its bytes were characters of the same numbers, and a text holds the encoding
of its characters.
-/

namespace TableAssembler
namespace Starlark

/-- A value that is written out. -/
inductive Literal
  | int (value : Nat)
  | float (value : Binary64)
  | text (value : List UInt8)
  | bytes (value : List UInt8)
  deriving DecidableEq, Repr, Inhabited

/-- Bytes as characters of the same numbers. -/
def charactersOf (bytes : List UInt8) : List Char := bytes.map Char.ofUInt8

/-- The bytes with the numbers of characters. -/
def bytesOf (characters : List Char) : List UInt8 := characters.map Char.toUInt8

namespace Literal

/-! ## Numbers -/

/-- The digits of a radix at the start of a text, at least one, and the text behind them. -/
def digits? (radix : Nat) (text : List Char) : Option (Nat × List Char) := do
  let digits := text.takeWhile (Numeral.isDigit radix)
  if digits.isEmpty then none
  return (← Numeral.value? radix digits, text.drop digits.length)

/-- A number in a radix below ten, which is a signed 64-bit number. -/
def shortInt? (radix : Nat) (text : List Char) : Option (Literal × List Char) := do
  let (value, rest) ← digits? radix text
  if value < UInt64.size / 2 then return (.int value, rest) else none

/-- The exponent at the start of a text, if there is one, and the text behind it. -/
def exponent? (text : List Char) : Option (Option Int × List Char) :=
  match text with
  | [] => some (none, text)
  | mark :: rest =>
      if mark == 'e' || mark == 'E' then do
        let (negative, unsigned) := Numeral.splitSign rest
        let (value, rest) ← digits? 10 unsigned
        return (some (if negative then -value else value), rest)
      else some (none, text)

/-- A number in decimal notation, and the text behind it.  An integer has no zero before other
digits, and no number is infinite. -/
def decimal? (text : List Char) : Option (Literal × List Char) := do
  let isDigit := Numeral.isDigit 10
  let whole := text.takeWhile isDigit
  let rest := text.dropWhile isDigit
  let hasPoint := rest.head? == some '.'
  let fraction := if hasPoint then (rest.drop 1).takeWhile isDigit else []
  let rest := if hasPoint then (rest.drop 1).dropWhile isDigit else rest
  let (exponent?, rest) ← exponent? rest
  let digits ← Numeral.value? 10 (whole ++ fraction)
  if hasPoint || exponent?.isSome then
    let value := Binary64.ofDecimal false digits (exponent?.getD 0 - fraction.length)
    if value = .infinite false then none else return (.float value, rest)
  else if whole.head? == some '0' && digits != 0 then none
  else return (.int digits, rest)

/-- The number at the start of a text, and the text behind it. -/
def number? (text : List Char) : Option (Literal × List Char) :=
  match text with
  | '0' :: mark :: rest =>
      match mark.toLower with
      | 'x' => (digits? 16 rest).map fun (value, rest) => (.int value, rest)
      | 'o' => shortInt? 8 rest
      | 'b' => shortInt? 2 rest
      | _ => decimal? text
  | _ => decimal? text

/-! ## Strings -/

/-- How a string is written. -/
structure Style where
  /-- Backslashes stand for themselves. -/
  raw : Bool
  /-- The value is made of bytes. -/
  binary : Bool
  /-- The character of the quotes. -/
  quote : Char
  /-- The quotes are tripled. -/
  triple : Bool

/-- The quotes that end a string. -/
def Style.closing (style : Style) : List Char :=
  List.replicate (if style.triple then 3 else 1) style.quote

/-- The code of an escape of one letter. -/
def escapeLetter? (c : Char) : Option Nat :=
  match c with
  | 'a' => some 7
  | 'b' => some 8
  | 'f' => some 12
  | 'n' => some 10
  | 'r' => some 13
  | 't' => some 9
  | 'v' => some 11
  | '\\' | '\'' | '"' => some c.toNat
  | _ => none

/-- A byte given by its number: in a text it must be a character of ASCII. -/
def byte? (style : Style) (value : Nat) : Option (List UInt8) :=
  if value < (if style.binary then 256 else 128) then some [UInt8.ofNat value] else none

/-- A character given by its code point. -/
def character? (point : Nat) : Option (List UInt8) :=
  if point.isValidChar then some (Utf8.encode [Char.ofNat point]) else none

/-- The bytes that a number of hexadecimal digits stand for, and the text behind them. -/
def hexEscape? (count : Nat) (convert? : Nat → Option (List UInt8)) (text : List Char) :
    Option (List UInt8 × List Char) := do
  let digits := text.take count
  if digits.length < count then none
  return (← (Numeral.value? 16 digits).bind convert?, text.drop count)

/-- The bytes of the escape behind a backslash, and the text behind it.  An escaped line break
stands for nothing. -/
def escape? (style : Style) (text : List Char) : Option (List UInt8 × List Char) :=
  match text with
  | [] => none
  | c :: rest =>
      if c == '\n' then some ([], rest)
      else if Numeral.isDigit 8 c then do
        let digits := (text.take 3).takeWhile (Numeral.isDigit 8)
        let value ← (Numeral.value? 8 digits).bind (byte? style)
        return (value, text.drop digits.length)
      else if c == 'x' then hexEscape? 2 (byte? style) rest
      else if c == 'u' then hexEscape? 4 character? rest
      else if c == 'U' then hexEscape? 8 character? rest
      else (escapeLetter? c).map fun value => ([UInt8.ofNat value], rest)

/-- The bytes of a string up to its closing quotes, and the text behind them.  `fuel` bounds the
number of characters. -/
def stringFrom? (style : Style) : Nat → List Char → Option (List UInt8 × List Char)
  | 0, _ => none
  | fuel + 1, body => do
      if style.closing.isPrefixOf body then return ([], body.drop style.closing.length)
      match body with
      | [] => none
      | '\\' :: rest =>
          if style.raw then
            let (further, behind) ← stringFrom? style fuel (rest.drop 1)
            return (bytesOf ('\\' :: rest.take 1) ++ further, behind)
          else
            let (value, rest) ← escape? style rest
            let (further, behind) ← stringFrom? style fuel rest
            return (value ++ further, behind)
      | c :: rest =>
          if c == '\n' && !style.triple then none
          let (further, behind) ← stringFrom? style fuel rest
          return (c.toUInt8 :: further, behind)

/-- The marks before the quotes of a string, and the text from the quotes on. -/
def splitMarks : List Char → Bool × Bool × List Char
  | 'r' :: 'b' :: rest => (true, true, rest)
  | 'r' :: rest => (true, false, rest)
  | 'b' :: rest => (false, true, rest)
  | unmarked => (false, false, unmarked)

/-- The way the string at the start of a text is written, and the text behind its opening quotes;
nothing when no string starts there. -/
def style? (text : List Char) : Option (Style × List Char) :=
  let (raw, binary, rest) := splitMarks text
  match rest with
  | quote :: body =>
      if quote == '"' || quote == '\'' then
        if body.take 2 == [quote, quote] then some (⟨raw, binary, quote, true⟩, body.drop 2)
        else some (⟨raw, binary, quote, false⟩, body)
      else none
  | [] => none

/-- The value of a string behind its opening quotes, and the text behind it. -/
def string? (style : Style) (body : List Char) : Option (Literal × List Char) :=
  (stringFrom? style (body.length + 1) body).map fun (value, behind) =>
    (if style.binary then .bytes value else .text value, behind)

end Literal
end Starlark
end TableAssembler
