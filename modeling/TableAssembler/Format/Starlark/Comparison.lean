import TableAssembler.Format.Starlark.Store

/-!
# Comparison of Starlark values

Values of one type are compared by what they hold, integers and floats by their numbers; other
values are never equal and have no order.  Containers are compared item by item, down to a depth.
-/

namespace TableAssembler
namespace Starlark

/-- How deep containers are compared. -/
def comparisonDepth : Nat := 10

/-- Corresponding items are equal. -/
def equalItems (equal : Value → Value → Eval Bool) : List Value → List Value → Eval Bool
  | left :: lefts, right :: rights => do
      if ← equal left right then equalItems equal lefts rights else return false
  | [], [] => return true
  | _, _ => return false

/-- Every entry has an equal one under the same key. -/
def equalEntries (equal : Value → Value → Eval Bool) (right : Entries) : Entries → Eval Bool
  | [] => return true
  | (key, value) :: rest =>
      match right.find? key with
      | some other => do if ← equal value other then equalEntries equal right rest else return false
      | Option.none => return false

/-- Two ranges have the same integers. -/
def equalRanges (start stop step start' stop' step' : Int) : Bool :=
  let length := Value.rangeLength start stop step
  length == Value.rangeLength start' stop' step' &&
    (length == 0 || (start == start' && (length == 1 || step == step')))

/-- Two values are equal, down to a depth. -/
def equalTo : Nat → Value → Value → Eval Bool
  | 0, _, _ => Eval.fail
  | depth + 1, left, right =>
      match left, right with
      | .tuple left, .tuple right =>
          if left.length = right.length then equalItems (equalTo depth) left right
          else return false
      | .list left, .list right => do
          let left ← Store.items left
          let right ← Store.items right
          if left.length = right.length then equalItems (equalTo depth) left right
          else return false
      | .dict left, .dict right => do
          let left ← Store.entries left
          let right ← Store.entries right
          if left.length = right.length then equalEntries (equalTo depth) right left
          else return false
      | .range start stop step, .range start' stop' step' =>
          return equalRanges start stop step start' stop' step'
      | left, right => return left.sameKey right

/-- Two values are equal. -/
def equal (left right : Value) : Eval Bool := equalTo comparisonDepth left right

/-- The order of the first items that differ, or that of the lengths. -/
def compareItems (equal : Value → Value → Eval Bool)
    (compare : Value → Value → Eval Ordering) : List Value → List Value → Eval Ordering
  | left :: lefts, right :: rights => do
      if ← equal left right then compareItems equal compare lefts rights else compare left right
  | [], [] => return .eq
  | [], _ :: _ => return .lt
  | _ :: _, [] => return .gt

/-- The order of two values, down to a depth. -/
def compareTo : Nat → Value → Value → Eval Ordering
  | 0, _, _ => Eval.fail
  | depth + 1, left, right =>
      match left, right with
      | .bool left, .bool right => return compare left.toNat right.toNat
      | .int left, .int right => return compare left right
      | .float left, .float right => return left.compare right
      | .int left, .float right => return Binary64.compareInt left right
      | .float left, .int right => return (Binary64.compareInt right left).swap
      | .text left, .text right => return List.compareLex compare left right
      | .bytes left, .bytes right => return List.compareLex compare left right
      | .tuple left, .tuple right => compareItems (equalTo depth) (compareTo depth) left right
      | .list left, .list right => do
          compareItems (equalTo depth) (compareTo depth) (← Store.items left) (← Store.items right)
      | _, _ => Eval.fail

/-- The first value stands before the second one. -/
def less (left right : Value) : Eval Bool :=
  return (← compareTo comparisonDepth left right) == .lt

end Starlark
end TableAssembler
