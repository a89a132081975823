import TableAssembler.Binary64.Parse
import TableAssembler.Text.Utf8

/-!
# Meaning of YAML scalars

A scalar has a tag, or is read for what it looks like: nothing, a truth value, a number, a time or
a text.
-/

namespace TableAssembler
namespace Yaml

/-- The type of a scalar. -/
inductive Tag
  | null
  | bool
  | int
  | float
  | time
  | text
  | binary
  | merge
  | other (name : String)
  deriving DecidableEq, Repr, Inhabited

namespace Tag

/-- The start of the tags that the language knows. -/
def standard : String := "tag:yaml.org,2002:"

/-- The tag with a name that follows the start of known tags. -/
def ofName : String → Tag
  | "null" => .null
  | "bool" => .bool
  | "int" => .int
  | "float" => .float
  | "timestamp" => .time
  | "str" => .text
  | "binary" => .binary
  | "merge" => .merge
  | name => .other name

/-- The tag with a full text; a double mark stands for the start of known tags. -/
def ofText (text : String) : Tag :=
  if standard.toList.isPrefixOf text.toList then
    ofName (String.ofList (text.toList.drop standard.length))
  else if ['!', '!'].isPrefixOf text.toList then ofName (String.ofList (text.toList.drop 2))
  else .other text

end Tag

/-- What a scalar means. -/
inductive Resolution
  | null
  | bool
  | int (value : Int)
  | float (value : Binary64)
  | time
  | text (value : String)
  deriving DecidableEq, Repr, Inhabited

namespace Resolution

/-- The tag that a meaning has. -/
def tag : Resolution → Tag
  | .null => .null
  | .bool => .bool
  | .int _ => .int
  | .float _ => .float
  | .time => .time
  | .text _ => .text

/-! ## Words -/

/-- The meanings of certain words. -/
def ofWord? (text : String) : Option Resolution :=
  if ["", "~", "null", "Null", "NULL"].contains text then some .null
  else if ["true", "True", "TRUE", "false", "False", "FALSE"].contains text then some .bool
  else if [".nan", ".NaN", ".NAN"].contains text then some (.float .nan)
  else if [".inf", ".Inf", ".INF", "+.inf", "+.Inf", "+.INF"].contains text then
    some (.float (.infinite false))
  else if ["-.inf", "-.Inf", "-.INF"].contains text then some (.float (.infinite true))
  else none

/-! ## Numbers -/

/-- A signed word in a radix; radix 0 lets the numeral announce its own. -/
def signedWord? (radix : Int) (text : List Char) : Option Int := do
  let (negative, digits) := Numeral.splitSign text
  let value := (← Numeral.parse? radix digits).toNat
  let top := UInt64.size / 2
  if negative then if value ≤ top then some (-value) else none
  else if value < top then some value else none

/-- A signed word, or an unsigned one without a sign. -/
def word? (radix : Int) (text : List Char) : Option Int :=
  (signedWord? radix text).orElse fun _ => (Numeral.parse? radix text).map fun word => word.toNat

/-- A number whose radix is marked at its start; the sign may follow the mark. -/
def markedWord? (text : List Char) : Option Int :=
  match text with
  | '0' :: 'b' :: digits => word? 2 digits
  | '0' :: 'o' :: digits => word? 8 digits
  | '-' :: '0' :: 'b' :: digits => signedWord? 2 ('-' :: digits)
  | '-' :: '0' :: 'o' :: digits => signedWord? 8 ('-' :: digits)
  | _ => none

/-- What a text that starts with a digit or a sign means as a number; underscores do not count. -/
def number? (text : List Char) : Option Resolution :=
  let digits := text.filter (· != '_')
  match word? 0 digits with
  | some value => some (.int value)
  | none =>
      match Binary64.parsePlain? digits with
      | some value => some (.float value)
      | none => (markedWord? digits).map .int

/-! ## Times -/

/-- The number of one or two digits at the start of a text, within bounds, and the text behind
it. -/
def shortNumber? (low high : Nat) (text : List Char) : Option (Nat × List Char) := do
  let digits := (text.take 2).takeWhile Char.isDigit
  if digits.isEmpty then none
  let value ← Numeral.value? 10 digits
  if low ≤ value && value ≤ high then return (value, text.drop digits.length) else none

/-- The text behind a character that must follow. -/
def after? (c : Char) (text : List Char) : Option (List Char) :=
  if text.head? == some c then some (text.drop 1) else none

/-- The number of days of a month. -/
def daysIn (year month : Nat) : Nat :=
  if month = 2 then
    if (year % 4 = 0 ∧ year % 100 ≠ 0) ∨ year % 400 = 0 then 29 else 28
  else if [4, 6, 9, 11].contains month then 30
  else 31

/-- A date with a year of four digits, and the text behind it. -/
def date? (text : List Char) : Option (List Char) := do
  let digits := text.takeWhile Char.isDigit
  if digits.length != 4 then none
  let year ← Numeral.value? 10 digits
  let rest ← after? '-' (text.drop 4)
  let (month, rest) ← shortNumber? 1 12 rest
  let rest ← after? '-' rest
  let (_, rest) ← shortNumber? 1 (daysIn year month) rest
  return rest

/-- A time of day, and the text behind it and its fraction of a second. -/
def clock? (text : List Char) : Option (List Char) := do
  let (_, rest) ← shortNumber? 0 23 text
  let (_, rest) ← shortNumber? 0 59 (← after? ':' rest)
  let (_, rest) ← shortNumber? 0 59 (← after? ':' rest)
  match rest with
  | point :: digit :: _ =>
      if (point == '.' || point == ',') && digit.isDigit then
        return rest.drop 1 |>.dropWhile Char.isDigit
      else return rest
  | _ => return rest

/-- The distance of a time zone from the standard one. -/
def isZone (text : List Char) : Bool :=
  match text with
  | ['Z'] => true
  | [sign, a, b, ':', c, d] =>
      (sign == '+' || sign == '-') && (Numeral.value? 10 [a, b]).any (· ≤ 24) &&
        (Numeral.value? 10 [c, d]).any (· ≤ 60)
  | _ => false

/-- The text is a date, alone or with a time of day; spaces between them count as one. -/
def isTime (text : List Char) : Bool :=
  match date? text with
  | none => false
  | some [] => true
  | some (mark :: rest) =>
      if mark == 'T' || mark == 't' then (clock? rest).any isZone
      else mark == ' ' && (clock? (rest.dropWhile (· == ' '))).any List.isEmpty

/-! ## Scalars -/

/-- What a scalar looks like; `timed` tells whether it can be a time. -/
def look (timed : Bool) (text : String) : Resolution :=
  let found : Option Resolution :=
    match text.toList with
    | [] => some .null
    | first :: rest =>
        if "yYnNtTfFoO~".toList.contains first then ofWord? text
        else if first == '.' then
          (ofWord? text).orElse fun _ => (Binary64.parse? (first :: rest)).map .float
        else if first.isDigit || first == '+' || first == '-' then
          (ofWord? text).orElse fun _ =>
            if timed && isTime (first :: rest) then some .time else number? (first :: rest)
        else none
  found.getD (.text text)

/-- What a plain scalar without a tag means. -/
def ofText (text : String) : Resolution := look true text

/-- The text of characters of radix 64, in groups of four. -/
def base64Value? (c : Char) : Option Nat :=
  if 'A' ≤ c ∧ c ≤ 'Z' then some (c.toNat - 65)
  else if 'a' ≤ c ∧ c ≤ 'z' then some (c.toNat - 71)
  else if c.isDigit then some (c.toNat + 4)
  else if c = '+' then some 62
  else if c = '/' then some 63
  else none

/-- The bytes of groups of four characters; the last group may be filled up. -/
def base64? : List Char → Option (List UInt8)
  | [] => some []
  | [a, b, '=', '='] => do
      let value := (← base64Value? a) * 64 + (← base64Value? b)
      return [UInt8.ofNat (value / 16)]
  | [a, b, c, '='] => do
      let value := ((← base64Value? a) * 64 + (← base64Value? b)) * 64 + (← base64Value? c)
      return [UInt8.ofNat (value / 1024), UInt8.ofNat (value / 4)]
  | a :: b :: c :: d :: rest => do
      let value :=
        (((← base64Value? a) * 64 + (← base64Value? b)) * 64 + (← base64Value? c)) * 64 +
          (← base64Value? d)
      let further ← base64? rest
      return UInt8.ofNat (value / 65536) :: UInt8.ofNat (value / 256) :: UInt8.ofNat value ::
        further
  | _ => none

/-- What a scalar with a tag means; nothing when it does not look like its tag. -/
def ofTagged? (tag : Tag) (text : String) : Option Resolution :=
  match tag with
  | .text | .merge | .other _ => some (.text text)
  | .binary =>
      (base64? (text.toList.filter (· != '\n'))).map fun bytes =>
        .text (String.ofList (Utf8.decode bytes))
  | tag =>
      let found := look (tag == .time) text
      match tag, found with
      | .float, .int value =>
          if value < (UInt64.size / 2 : Nat) then some (.float (Binary64.ofInt value)) else none
      | _, _ => if found.tag = tag then some found else none

end Resolution
end Yaml
end TableAssembler
