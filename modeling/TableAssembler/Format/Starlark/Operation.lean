import TableAssembler.Format.Starlark.Comparison
import TableAssembler.Format.Starlark.Interpolation
import TableAssembler.Text.Part

/-!
# Starlark operators

What operators do with values, and how items of containers are read and set.
-/

namespace TableAssembler
namespace Starlark

/-! ## Repetition and search -/

/-- A repeated value has fewer items than this. -/
def repetitionBound : Int := 0x40000000

/-- Items repeated a number of times; none for a number that is not positive. -/
def repeated? {α : Type} (items : List α) (count : Int) : Option (List α) := do
  if items.isEmpty then return []
  let count ← Number.index? (.int count)
  if count < 1 then return []
  if items.length * count < repetitionBound then
    return (List.replicate count.toNat items).flatten
  else none

/-- Repeats a value. -/
def repetition (value : Value) (count : Int) : Eval Value :=
  match value with
  | .text value => Eval.ofOption ((repeated? value count).map .text)
  | .bytes value => Eval.ofOption ((repeated? value count).map .bytes)
  | .tuple items => Eval.ofOption ((repeated? items count).map .tuple)
  | .list address => do
      Store.newList (← Eval.ofOption (repeated? (← Store.items address) count))
  | _ => Eval.fail

/-- One of the values equals another one. -/
def anyEqual (value : Value) : List Value → Eval Bool
  | [] => return false
  | item :: rest => do if ← equal item value then return true else anyEqual value rest

/-- A range has an integer, which is one of 32 bits. -/
def rangeContains (start stop step value : Int) : Bool :=
  let distance := value - start
  (Number.index? (.int value)).isSome && distance.tmod step == 0 &&
    decide (0 ≤ distance.tdiv step) &&
    decide (distance.tdiv step < Value.rangeLength start stop step)

/-- A container has a value. -/
def containsValue (container value : Value) : Eval Bool :=
  match container, value with
  | .list address, value => do anyEqual value (← Store.items address)
  | .tuple items, value => anyEqual value items
  | .dict address, value => do
      return value.isHashable && ((← Store.entries address).find? value).isSome
  | .text whole, .text part => return (Part.position? part whole).isSome
  | .bytes whole, .bytes part => return (Part.position? part whole).isSome
  | .bytes whole, value => do return whole.contains (← Eval.ofOption (Number.byte? value))
  | .range start stop step, value => do
      return rangeContains start stop step (← Eval.ofOption (Number.whole? value))
  | _, _ => Eval.fail

/-! ## Operators -/

/-- The sum of two values. -/
def sum (left right : Value) : Eval Value :=
  match left, right with
  | .text left, .text right => return .text (left ++ right)
  | .tuple left, .tuple right => return .tuple (left ++ right)
  | .list left, .list right => do
      Store.newList ((← Store.items left) ++ (← Store.items right))
  | left, right => Eval.ofOption (Number.add? left right)

/-- The product of two numbers, or a repetition. -/
def product (left right : Value) : Eval Value :=
  match Number.mul? left right with
  | some value => return value
  | none =>
      match left, right with
      | .int count, value => repetition value count
      | value, .int count => repetition value count
      | _, _ => Eval.fail

/-- The remainder of a division, or a template with its places filled. -/
def remainder (left right : Value) : Eval Value :=
  match left with
  | .text template => return .text (← interpolate template right)
  | left => Eval.ofOption (Number.mod? left right)

/-- The entries of two dictionaries; those of the second one win. -/
def union (left right : Entries) : Entries :=
  right.foldl (fun entries entry => entries.insert entry.1 entry.2) left

/-- The value of an operator with two operands. -/
def binary (operator : String) (left right : Value) : Eval Value :=
  let ordered (test : Ordering → Bool) : Eval Value := do
    return .bool (test (← compareTo comparisonDepth left right))
  match operator, left, right with
  | "+", left, right => sum left right
  | "-", left, right => Eval.ofOption (Number.sub? left right)
  | "*", left, right => product left right
  | "/", left, right => Eval.ofOption (Number.div? left right)
  | "//", left, right => Eval.ofOption (Number.floorDiv? left right)
  | "%", left, right => remainder left right
  | "&", .int left, .int right => return .int (Number.commonBits left right)
  | "^", .int left, .int right => return .int (Number.differentBits left right)
  | "|", .int left, .int right => return .int (Number.allBits left right)
  | "|", .dict left, .dict right => do
      Store.newDict (union (← Store.entries left) (← Store.entries right))
  | "<<", .int left, right => return .int (← Eval.ofOption (Number.shiftLeft? left right))
  | ">>", .int left, right => return .int (← Eval.ofOption (Number.shiftRight? left right))
  | "in", left, right => return .bool (← containsValue right left)
  | "not in", left, right => return .bool !(← containsValue right left)
  | "==", left, right => return .bool (← equal left right)
  | "!=", left, right => return .bool !(← equal left right)
  | "<", _, _ => ordered (·.isLT)
  | "<=", _, _ => ordered (·.isLE)
  | ">", _, _ => ordered (·.isGT)
  | ">=", _, _ => ordered (·.isGE)
  | _, _, _ => Eval.fail

/-- The value of an operator that may change its first operand: a list takes further items, a
dictionary further entries. -/
def augmented (operator : String) (left right : Value) : Eval Value :=
  match operator, left, right with
  | "+", .list address, right => do
      let further ← Store.elements right
      Store.setItems address fun items => some (items ++ further)
      return left
  | "|", .dict address, .dict other => do
      let further ← Store.entries other
      Store.setEntries address fun entries => some (union entries further)
      return left
  | _, _, _ => binary operator left right

/-- The value of an operator with one operand. -/
def unary (operator : String) (operand : Value) : Eval Value :=
  match operator, operand with
  | "-", .int value => return .int (-value)
  | "-", .float value => return .float value.neg
  | "+", .int value => return .int value
  | "+", .float value => return .float value
  | "~", .int value => return .int (-value - 1)
  | "not", value => return .bool !(← Store.truth value)
  | _, _ => Eval.fail

/-! ## Items -/

/-- The place of an item among a number of them; negative indices count from the end. -/
def place? (length : Nat) (index : Value) : Option Nat := do
  let index ← Number.index? index
  let index := if index < 0 then index + length else index
  if 0 ≤ index ∧ index < length then some index.toNat else none

/-- The item of a sequence at an index. -/
def itemAt? {α : Type} (items : List α) (index : Value) : Option α := do
  items[← place? items.length index]?

/-- The value under a key or at an index. -/
def getItem (container key : Value) : Eval Value :=
  match container with
  | .dict address => do Eval.ofOption (← Store.getKey? address key)
  | .text value => Eval.ofOption ((itemAt? value key).map fun byte => .text [byte])
  | .bytes value => Eval.ofOption ((itemAt? value key).map fun byte => .int byte.toNat)
  | .list address => do Eval.ofOption (itemAt? (← Store.items address) key)
  | .tuple items => Eval.ofOption (itemAt? items key)
  | .range start stop step => do
      let place ← Eval.ofOption (place? (Value.rangeLength start stop step) key)
      return .int (start + step * place)
  | .parts kind whole =>
      match kind with
      | .codepoints | .codepointOrds => Eval.fail
      | _ => Eval.ofOption (itemAt? (Value.partsOf kind whole) key)
  | _ => Eval.fail

/-- Sets the value under a key or at an index. -/
def setItem (container key value : Value) : Eval Unit :=
  match container with
  | .dict address => Store.setKey address key value
  | .list address =>
      Store.setItems address fun items => do
        return items.set (← place? items.length key) value
  | _ => Eval.fail

/-! ## Slices -/

/-- A bound of a slice, counted from the start, or what holds without one. -/
def bound? (length : Nat) (bound : Value) (default : Int) : Option Int :=
  match bound with
  | .none => some default
  | bound => (Number.index? bound).map fun value => if value < 0 then value + length else value

/-- A number moved into an interval. -/
def clamp (low high value : Int) : Int := max low (min high value)

/-- The two bounds of a part of a sequence, within the sequence. -/
def bounds? (length : Nat) (low high : Value) : Option (Nat × Nat) := do
  let first ← bound? length low 0
  let last ← bound? length high length
  return ((clamp 0 length first).toNat, (clamp 0 length last).toNat)

/-- The items of a sequence between two bounds. -/
def between {α : Type} (items : List α) (bounds : Nat × Nat) : List α :=
  (items.take bounds.2).drop bounds.1

/-- Where a slice starts and ends, and its step. -/
def sliceBounds? (length : Nat) (low high step : Value) : Option (Int × Int × Int) := do
  let step ← match step with
    | .none => some 1
    | step => Number.index? step
  if step = 0 then none
  if 0 < step then
    let (first, last) ← bounds? length low high
    return (first, max first last, step)
  else
    let final : Int := length - 1
    let first := min final (← bound? length low final)
    let last := max (-1) (← bound? length high (-1))
    return (max first last, last, step)

/-- The items of a slice. -/
def sliceItems {α : Type} (items : List α) (bounds : Int × Int × Int) : List α :=
  let (first, last, step) := bounds
  (List.range (Value.rangeLength first last step)).filterMap fun (index : Nat) =>
    items[(first + index * step).toNat]?

/-- A slice of a sequence. -/
def slice (container low high step : Value) : Eval Value := do
  let cut {α : Type} (items : List α) : Eval (List α) :=
    Eval.ofOption ((sliceBounds? items.length low high step).map (sliceItems items))
  match container with
  | .text value => return .text (← cut value)
  | .bytes value => return .bytes (← cut value)
  | .tuple items => return .tuple (← cut items)
  | .list address => Store.newList (← cut (← Store.items address))
  | .range start stop stride =>
      let (first, last, step) ←
        Eval.ofOption (sliceBounds? (Value.rangeLength start stop stride) low high step)
      return .range (start + stride * first) (start + stride * last) (stride * step)
  | _ => Eval.fail

end Starlark
end TableAssembler
