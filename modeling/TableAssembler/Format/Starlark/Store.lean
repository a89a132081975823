import Std.Data.HashMap
import TableAssembler.Format.Starlark.Value

/-!
# The store of a Starlark program

Lists, dictionaries, functions and the variables of blocks under their addresses, and the
computations that read and change them.
-/

namespace TableAssembler
namespace Starlark

/-- The variables of a block; one without a value is not assigned yet. -/
abbrev Frame := List (String × Option Value)

/-- A list or a dictionary, with the number of loops that go through it.  It cannot change as long
as there are any. -/
structure Shared (α : Type) where
  /-- What it holds. -/
  content : α
  /-- The loops that go through it. -/
  loops : Nat := 0

/-- A function with the blocks around it. -/
structure Closure where
  /-- The place of the function in the program. -/
  number : Nat
  name : String
  parameters : List (ParameterKind × String)
  /-- The values of parameters without an argument. -/
  defaults : List (String × Value)
  body : List Stmt
  /-- The addresses of the frames around the function, the innermost first. -/
  frames : List Nat

/-- All that values refer to. -/
structure Store where
  lists : Array (Shared (List Value)) := #[]
  dicts : Array (Shared Entries) := #[]
  frames : Array Frame := #[]
  closures : Array Closure := #[]
  /-- The number of methods that have been taken from values. -/
  methods : Nat := 0
  /-- The frames of comprehensions, by the frame of the function around them and their numbers. -/
  comprehensions : Std.HashMap (Nat × Nat) Nat := {}

/-- A computation on the store that can fail. -/
abbrev Eval := StateT Store Option

namespace Eval

/-- The computation fails. -/
def fail {α : Type} : Eval α := StateT.lift Option.none

/-- The computation fails without a value. -/
def ofOption {α : Type} (value : Option α) : Eval α := StateT.lift value

/-- The computation fails unless a condition holds. -/
def require (condition : Bool) : Eval Unit := if condition then pure () else fail

end Eval

namespace Store

/-- The items of a list. -/
def items (address : Nat) : Eval (List Value) := do
  let some object := (← get).lists[address]? | Eval.fail
  return object.content

/-- The entries of a dictionary. -/
def entries (address : Nat) : Eval Entries := do
  let some object := (← get).dicts[address]? | Eval.fail
  return object.content

/-- A new list. -/
def newList (items : List Value) : Eval Value := do
  let store ← get
  set { store with lists := store.lists.push { content := items } }
  return .list store.lists.size

/-- A new dictionary. -/
def newDict (entries : Entries) : Eval Value := do
  let store ← get
  set { store with dicts := store.dicts.push { content := entries } }
  return .dict store.dicts.size

/-- A new method of a value: whenever it is taken from the value, it is another one. -/
def newMethod (receiver : Value) (name : String) : Eval Value := do
  let store ← get
  set { store with methods := store.methods + 1 }
  return .method receiver name store.methods

/-- Changes the items of a list. -/
def setItems (address : Nat) (change : List Value → Option (List Value)) : Eval Unit := do
  let store ← get
  let some object := store.lists[address]? | Eval.fail
  Eval.require (object.loops == 0)
  let items ← Eval.ofOption (change object.content)
  set { store with lists := store.lists.setIfInBounds address { object with content := items } }

/-- Changes the entries of a dictionary. -/
def setEntries (address : Nat) (change : Entries → Option Entries) : Eval Unit := do
  let store ← get
  let some object := store.dicts[address]? | Eval.fail
  Eval.require (object.loops == 0)
  let entries ← Eval.ofOption (change object.content)
  set { store with dicts := store.dicts.setIfInBounds address { object with content := entries } }

/-- Puts a value under a key. -/
def setKey (address : Nat) (key value : Value) : Eval Unit := do
  Eval.require key.isHashable
  setEntries address fun entries => some (entries.insert key value)

/-- The value of a key, which must be one that can be there. -/
def getKey? (address : Nat) (key : Value) : Eval (Option Value) := do
  Eval.require key.isHashable
  return (← entries address).find? key

/-- Goes through a list or a dictionary: it cannot change as long as a computation lasts. -/
def during {α : Type} (value : Value) (action : Eval α) : Eval α := do
  let count (step : Nat → Nat) : Eval Unit :=
    match value with
    | .list address => modify fun store =>
        { store with lists := store.lists.modify address fun object =>
            { object with loops := step object.loops } }
    | .dict address => modify fun store =>
        { store with dicts := store.dicts.modify address fun object =>
            { object with loops := step object.loops } }
    | _ => pure ()
  count (· + 1)
  let result ← action
  count (· - 1)
  return result

/-- The elements of an iterable. -/
def elements : Value → Eval (List Value)
  | .list address => items address
  | .tuple items => pure items
  | .dict address => return (← entries address).map Prod.fst
  | .range start stop step => pure (Value.rangeItems start stop step)
  | .parts kind whole => pure (Value.partsOf kind whole)
  | _ => Eval.fail

/-- The number of elements of a value that has one. -/
def length : Value → Eval Nat
  | .text value => pure value.length
  | .bytes value => pure value.length
  | .list address => return (← items address).length
  | .tuple items => pure items.length
  | .dict address => return (← entries address).length
  | .range start stop step => pure (Value.rangeLength start stop step)
  | .parts kind whole =>
      match kind with
      | .codepoints | .codepointOrds => Eval.fail
      | _ => pure whole.length
  | _ => Eval.fail

/-- The value counts as true. -/
def truth : Value → Eval Bool
  | .none => pure false
  | .bool value => pure value
  | .int value => pure (value != 0)
  | .float value => pure !value.isZero
  | .text value => pure !value.isEmpty
  | .bytes value => pure !value.isEmpty
  | .list address => return !(← items address).isEmpty
  | .tuple items => pure !items.isEmpty
  | .dict address => return !(← entries address).isEmpty
  | .range start stop step => pure (Value.rangeLength start stop step != 0)
  | _ => pure true

/-! ## Frames -/

/-- A new frame whose variables are not assigned yet. -/
def newFrame (names : List String) : Eval Nat := do
  let store ← get
  let frame : Frame := names.eraseDups.map fun name => (name, Option.none)
  set { store with frames := store.frames.push frame }
  return store.frames.size

/-- The frame of a comprehension inside of a function whose frame is `home`.  The variables keep
their values until the comprehension is evaluated again. -/
def comprehensionFrame (home number : Nat) (names : List String) : Eval Nat := do
  match (← get).comprehensions[(home, number)]? with
  | some frame => return frame
  | Option.none =>
      let frame ← newFrame names
      modify fun store =>
        { store with comprehensions := store.comprehensions.insert (home, number) frame }
      return frame

/-- The innermost frame with a variable. -/
def frameOf? (store : Store) (frames : List Nat) (name : String) : Option Nat :=
  frames.find? fun address =>
    (store.frames[address]?.getD []).any fun binding => binding.1 == name

/-- Assigns a variable of the innermost frame that has it. -/
def assign (frames : List Nat) (name : String) (value : Value) : Eval Unit := do
  let store ← get
  let some address := store.frameOf? frames name | Eval.fail
  let change (frame : Frame) : Frame :=
    frame.map fun binding => if binding.1 == name then (name, some value) else binding
  set { store with frames := store.frames.modify address change }

/-- The value of a variable; nothing when no frame has it. -/
def lookup? (frames : List Nat) (name : String) : Eval (Option Value) := do
  let store ← get
  match store.frameOf? frames name with
  | Option.none => return Option.none
  | some address =>
      let frame := store.frames[address]?.getD []
      let value ← Eval.ofOption ((frame.find? fun binding => binding.1 == name).bind Prod.snd)
      return some value

end Store
end Starlark
end TableAssembler
