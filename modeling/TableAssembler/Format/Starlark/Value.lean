import TableAssembler.Binary64.Arithmetic
import TableAssembler.Format.Starlark.Syntax

/-!
# Starlark values

The values that a program computes.  A text is a sequence of bytes.  Lists and dictionaries can
change and be shared, so values refer to them by their addresses in a store; so they do to
functions.
-/

namespace TableAssembler
namespace Starlark

/-- The ways to go through a string part by part. -/
inductive Parts
  /-- The bytes of a text, as texts. -/
  | elems
  /-- The bytes of a text, as numbers. -/
  | elemOrds
  /-- The characters of a text, as texts. -/
  | codepoints
  /-- The characters of a text, as numbers. -/
  | codepointOrds
  /-- The bytes of a byte string, as numbers. -/
  | byteElems
  deriving DecidableEq, Repr, Inhabited

/-- A value of a program. -/
inductive Value
  | none
  | bool (value : Bool)
  | int (value : Int)
  | float (value : Binary64)
  | text (value : List UInt8)
  | bytes (value : List UInt8)
  | tuple (items : List Value)
  | list (address : Nat)
  | dict (address : Nat)
  /-- The integers from a start to before a stop. -/
  | range (start stop step : Int)
  | parts (kind : Parts) (whole : List UInt8)
  | builtin (name : String)
  /-- A method of a value; the number tells it apart from all others. -/
  | method (receiver : Value) (name : String) (number : Nat)
  | function (address : Nat)
  deriving Repr, Inhabited

/-- The keys of a dictionary with their values, in the order of insertion. -/
abbrev Entries := List (Value × Value)

namespace Value

/-- The name of the type of a value. -/
def typeName : Value → String
  | .none => "NoneType"
  | .bool _ => "bool"
  | .int _ => "int"
  | .float _ => "float"
  | .text _ => "string"
  | .bytes _ => "bytes"
  | .tuple _ => "tuple"
  | .list _ => "list"
  | .dict _ => "dict"
  | .range .. => "range"
  | .parts kind _ =>
      match kind with
      | .elems | .elemOrds => "string.elems"
      | .codepoints | .codepointOrds => "string.codepoints"
      | .byteElems => "bytes.elems"
  | .builtin _ | .method .. => "builtin_function_or_method"
  | .function _ => "function"

/-- A text value. -/
def ofString (text : String) : Value := .text (Utf8.encode text.toList)

/-! ## Ranges -/

/-- The number of integers from a start to before a stop. -/
def rangeLength (start stop step : Int) : Nat :=
  if 0 < step then if start < stop then ((stop - 1 - start) / step + 1).toNat else 0
  else if stop < start then ((start - 1 - stop) / -step + 1).toNat
  else 0

/-- The integers of a range. -/
def rangeItems (start stop step : Int) : List Value :=
  (List.range (rangeLength start stop step)).map fun (index : Nat) => .int (start + index * step)

/-! ## Parts of strings -/

/-- The parts of a string. -/
def partsOf (kind : Parts) (whole : List UInt8) : List Value :=
  match kind with
  | .elems => whole.map fun byte => .text [byte]
  | .elemOrds | .byteElems => whole.map fun byte => .int byte.toNat
  | .codepoints => (Utf8.segments whole).map fun (c, _) => .text (Utf8.encode [c])
  | .codepointOrds => (Utf8.decode whole).map fun c => .int c.toNat

/-! ## Keys -/

mutual

/-- Two values are the same key: numbers and strings by what they are, all else by its place. -/
def sameKey : Value → Value → Bool
  | .none, .none => true
  | .bool left, .bool right => left == right
  | .int left, .int right => left == right
  | .float left, .float right => left.compare right == .eq
  | .int left, .float right => Binary64.compareInt left right == .eq
  | .float left, .int right => Binary64.compareInt right left == .eq
  | .text left, .text right => left == right
  | .bytes left, .bytes right => left == right
  | .tuple left, .tuple right => sameKeys left right
  | .list left, .list right => left == right
  | .dict left, .dict right => left == right
  | .range start stop step, .range start' stop' step' =>
      start == start' && stop == stop' && step == step'
  | .parts kind whole, .parts kind' whole' => kind == kind' && whole == whole'
  | .builtin left, .builtin right => left == right
  | .method _ _ left, .method _ _ right => left == right
  | .function left, .function right => left == right
  | _, _ => false

/-- Two tuples are the same key. -/
def sameKeys : List Value → List Value → Bool
  | [], [] => true
  | left :: lefts, right :: rights => sameKey left right && sameKeys lefts rights
  | _, _ => false

end

mutual

/-- The value can be the key of a dictionary. -/
def isHashable : Value → Bool
  | .list _ | .dict _ | .range .. | .parts .. => false
  | .tuple items => areHashable items
  | _ => true

/-- All values can be keys. -/
def areHashable : List Value → Bool
  | [] => true
  | item :: rest => isHashable item && areHashable rest

end

end Value

namespace Entries

/-- The value of a key. -/
def find? (entries : Entries) (key : Value) : Option Value :=
  (List.find? (fun entry => key.sameKey entry.1) entries).map Prod.snd

/-- The entries with a value for a key; a key that is there keeps its place. -/
def insert (key value : Value) : Entries → Entries
  | [] => [(key, value)]
  | entry :: rest =>
      if key.sameKey entry.1 then (entry.1, value) :: rest else entry :: insert key value rest

/-- The entries without a key. -/
def erase (entries : Entries) (key : Value) : Entries :=
  entries.filter fun entry => !key.sameKey entry.1

end Entries

end Starlark
end TableAssembler
