import TableAssembler.Format.Starlark.Number
import TableAssembler.Format.Starlark.Rendering

/-!
# Templates for texts

A template has pieces of text and places for values.  A place is marked by a percent sign or, in the
other kind of template, by braces.
-/

namespace TableAssembler
namespace Starlark

/-- The character with a code point, or the replacement for what is no character. -/
def characterAt (point : Nat) : Char :=
  if point.isValidChar then Char.ofNat point else Utf8.replacement

/-- The greatest code point. -/
def greatestCodePoint : Int := 0x10ffff

/-- The bytes of the character with a code point. -/
def characterOf? (value : Value) : Option (List UInt8) := do
  let point ← Number.index? value
  if 0 ≤ point ∧ point ≤ greatestCodePoint then some (Utf8.encode [characterAt point.toNat])
  else none

/-- The only character of a text. -/
def onlyCharacter? (text : List UInt8) : Option Char :=
  match Utf8.segments text with
  | [(c, _)] => some c
  | _ => none

/-! ## Percent signs -/

/-- A piece of a template. -/
inductive Conversion
  | literal (byte : UInt8)
  /-- A place for the next value, or for the one with a key. -/
  | place (key : Option (List UInt8)) (kind : Char)

namespace Conversion

/-- The pieces of a template.  `fuel` bounds their number. -/
def ofTemplate? : Nat → List Char → Option (List Conversion)
  | 0, _ => none
  | fuel + 1, template =>
      match template with
      | [] => some []
      | '%' :: '%' :: rest => (ofTemplate? fuel rest).map (.literal '%'.toUInt8 :: ·)
      | '%' :: '(' :: rest =>
          let key := rest.takeWhile (· != ')')
          match rest.drop (key.length + 1) with
          | kind :: rest => (ofTemplate? fuel rest).map (.place (some (bytesOf key)) kind :: ·)
          | [] => none
      | '%' :: kind :: rest => (ofTemplate? fuel rest).map (.place none kind :: ·)
      | ['%'] => none
      | c :: rest => (ofTemplate? fuel rest).map (.literal c.toUInt8 :: ·)

/-- An integer in a radix. -/
def inRadix (radix : Nat) (value : Int) : List Char :=
  let digits := Nat.toDigits radix value.natAbs
  if value < 0 then '-' :: digits else digits

/-- A float in one of its forms. -/
def floatText (kind : Char) (value : Binary64) : String :=
  match kind with
  | 'e' | 'E' => value.renderExponential kind
  | 'f' => value.renderPositional
  | 'g' => value.renderWith 'e'
  | 'G' => value.renderWith 'E'
  | _ =>
      match value with
      | .finite .. => "%F"
      | value => value.render

/-- What a value looks like at a place. -/
def show? (store : Store) (kind : Char) (value : Value) : Option (List UInt8) :=
  match kind with
  | 's' => some (store.plain value)
  | 'r' => some (Utf8.encode (store.render value).toList)
  | 'd' | 'i' => (Number.whole? value).map fun value => bytesOf (inRadix 10 value)
  | 'o' => (Number.whole? value).map fun value => bytesOf (inRadix 8 value)
  | 'x' => (Number.whole? value).map fun value => bytesOf (inRadix 16 value)
  | 'X' => (Number.whole? value).map fun value => bytesOf ((inRadix 16 value).map Char.toUpper)
  | 'e' | 'E' | 'f' | 'F' | 'g' | 'G' =>
      (Number.float? value).map fun value => bytesOf (floatText kind value).toList
  | 'c' =>
      match value with
      | .text text => (onlyCharacter? text).map fun c => Utf8.encode [c]
      | value => characterOf? value
  | '%' => some [kind.toUInt8]
  | _ => none

end Conversion

/-- Fills the places of a template with the items of a tuple, the entries of a dictionary, or one
value.  There must be a value for every place, and a place for every value that has no key. -/
def interpolate (template : List UInt8) (argument : Value) : Eval (List UInt8) := do
  let store ← get
  let conversions ←
    Eval.ofOption (Conversion.ofTemplate? (template.length + 1) (charactersOf template))
  let values := match argument with
    | .tuple items => items
    | value => [value]
  let entries : Option Entries ← match argument with
    | .dict address => some <$> Store.entries address
    | _ => pure none
  let fill (sofar : List UInt8 × Nat) (conversion : Conversion) : Option (List UInt8 × Nat) :=
    match conversion with
    | .literal byte => some (byte :: sofar.1, sofar.2)
    | .place key kind => do
        let value ← match key with
          | some key => entries.bind fun entries => entries.find? (.text key)
          | none => values[sofar.2]?
        let shown ← Conversion.show? store kind value
        return (shown.reverse ++ sofar.1, sofar.2 + 1)
  let (filled, used) ← Eval.ofOption (conversions.foldlM fill ([], 0))
  Eval.require (entries.isSome || decide (values.length ≤ used))
  return filled.reverse

/-! ## Braces -/

/-- A piece of a template. -/
inductive Field
  | literal (byte : UInt8)
  /-- A place for the value with a name, which may be shown with quotes. -/
  | place (name : List Char) (quoted : Bool)

namespace Field

/-- The place that the text between braces describes. -/
def ofInner? (inner : List Char) : Option Field :=
  let split (mark : Char) (text : List Char) : List Char × List Char :=
    (text.takeWhile (· != mark), text.dropWhile (· != mark))
  let (name, conversion) := split '!' inner
  if conversion.isEmpty then
    let (name, details) := split ':' inner
    if details.length ≤ 1 then some (.place name false) else none
  else
    let (conversion, details) := split ':' (conversion.drop 1)
    if 1 < details.length then none
    else if conversion == ['s'] then some (.place name false)
    else if conversion == ['r'] then some (.place name true)
    else none

/-- The pieces of a template.  `fuel` bounds their number. -/
def ofTemplate? : Nat → List Char → Option (List Field)
  | 0, _ => none
  | fuel + 1, template =>
      match template with
      | [] => some []
      | '\x7b' :: '\x7b' :: rest => (ofTemplate? fuel rest).map (.literal '\x7b'.toUInt8 :: ·)
      | '\x7d' :: '\x7d' :: rest => (ofTemplate? fuel rest).map (.literal '\x7d'.toUInt8 :: ·)
      | '\x7d' :: _ => none
      | '\x7b' :: rest => do
          let inner := rest.takeWhile (· != '\x7d')
          if inner.length = rest.length then none
          let field ← ofInner? inner
          return field :: (← ofTemplate? fuel (rest.drop (inner.length + 1)))
      | c :: rest => (ofTemplate? fuel rest).map (.literal c.toUInt8 :: ·)

end Field

/-- How the places of a template have been numbered up to a point. -/
inductive Numbering
  | unknown
  /-- Places without a name take the values from here on. -/
  | automatic (next : Nat)
  /-- Places give the numbers of their values. -/
  | manual

/-- Fills the places of a template with values that are given in order or by name. -/
def format (template : List UInt8) (positional : List Value)
    (named : List (List UInt8 × Value)) : Eval (List UInt8) := do
  let store ← get
  let fields ← Eval.ofOption (Field.ofTemplate? (template.length + 1) (charactersOf template))
  let choose (numbering : Numbering) (name : List Char) : Option (Value × Numbering) :=
    match numbering, name with
    | .manual, [] => none
    | .automatic next, [] => positional[next]?.map (·, .automatic (next + 1))
    | .unknown, [] => positional[0]?.map (·, .automatic 1)
    | numbering, name =>
        if name.all (Numeral.isDigit 10) then
          match numbering with
          | .automatic _ => none
          | _ => do
              let value ← positional[← Numeral.value? 10 name]?
              return (value, .manual)
        else (named.lookup (bytesOf name)).map (·, numbering)
  let fill (sofar : List UInt8 × Numbering) (field : Field) : Option (List UInt8 × Numbering) :=
    match field with
    | .literal byte => some (byte :: sofar.1, sofar.2)
    | .place name quoted => do
        let (value, numbering) ← choose sofar.2 name
        let shown := if quoted then Utf8.encode (store.render value).toList else store.plain value
        return (shown.reverse ++ sofar.1, numbering)
  let (filled, _) ← Eval.ofOption (fields.foldlM fill ([], Numbering.unknown))
  return filled.reverse

end Starlark
end TableAssembler
