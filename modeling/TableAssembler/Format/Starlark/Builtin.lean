import TableAssembler.Binary64.Parse
import TableAssembler.Format.Starlark.Arguments
import TableAssembler.Format.Starlark.Operation

/-!
# Built-in functions of Starlark

The functions that every program can call.
-/

namespace TableAssembler
namespace Starlark
namespace Builtin

/-! ## Conversions -/

/-- The radix that a mark after a zero announces. -/
def markedRadix? : Char → Option Nat
  | 'o' | 'O' => some 8
  | 'x' | 'X' => some 16
  | 'b' | 'B' => some 2
  | _ => none

/-- The integer that a text denotes in a radix; radix 0 lets the text announce its own. -/
def parseInt? (radix : Nat) (text : List Char) : Option Int := do
  let (negative, digits) := Numeral.splitSign text
  let (radix, digits) ← match digits with
    | '0' :: mark :: rest =>
        match if rest.isEmpty then none else markedRadix? mark with
        | some marked =>
            if radix = 0 ∨ radix = marked then some (marked, rest)
            else some (radix, digits)
        | none =>
            if radix = 0 then if digits.all (· == '0') then some (10, digits) else none
            else some (radix, digits)
    | _ => some (if radix = 0 then 10 else radix, digits)
  if digits.isEmpty then none
  let value ← Numeral.value? radix digits
  return if negative then -value else value

/-- The integer for a value, with a radix for texts. -/
def int (value : Value) (radix : Option Value) : Eval Value :=
  match value, radix with
  | .text text, radix => do
      let radix ← Eval.ofOption (Number.index? (radix.getD (.int 10)))
      Eval.require (radix == 0 || (decide (2 ≤ radix) && decide (radix ≤ 36)))
      return .int (← Eval.ofOption (parseInt? radix.toNat (charactersOf text)))
  | .bool value, none => return .int value.toNat
  | value, none => return .int (← Eval.ofOption (Number.whole? value))
  | _, some _ => Eval.fail

/-- Words for floats that are not finite. -/
def specialFloat? (text : List Char) : Option Binary64 :=
  let (negative, word) := Numeral.splitSign (text.map Char.toLower)
  match String.ofList word with
  | "inf" | "infinity" => some (.infinite negative)
  | "nan" => some .nan
  | _ => none

/-- The float for a value. -/
def float : Value → Eval Value
  | .bool value => return .float (Binary64.ofInt value.toNat)
  | .int value => return .float (← Eval.ofOption (Number.finite? value))
  | .float value => return .float value
  | .text text => do
      let text := charactersOf text
      let value := (specialFloat? text).orElse fun _ => Binary64.parse? text
      return .float (← Eval.ofOption value)
  | _ => Eval.fail

/-- The text for a value. -/
def str : Value → Eval Value
  | .bytes value => return .text (Utf8.repair value)
  | value => return .text ((← get).plain value)

/-- The byte string for a value. -/
def bytes : Value → Eval Value
  | .bytes value => return .bytes value
  | .text value => return .bytes (Utf8.repair value)
  | value => do
      let items ← Store.elements value
      return .bytes (← Eval.ofOption (items.mapM Number.byte?))

/-- The number of the only character of a text or the only byte of a byte string. -/
def ord : Value → Eval Value
  | .text text => do return .int (← Eval.ofOption (onlyCharacter? text)).toNat
  | .bytes [byte] => return .int byte.toNat
  | _ => Eval.fail

/-- A number that depends on the characters of a text or the bytes of a byte string. -/
def hash : Value → Eval Value
  | .text text =>
      let step (sofar : UInt32) (c : Char) : UInt32 := 31 * sofar + c.val
      return .int ((Utf8.decode text).foldl step 0).toInt32.toInt
  | .bytes value =>
      let step (sofar : UInt32) (byte : UInt8) : UInt32 := (sofar ^^^ byte.toUInt32) * 16777619
      return .int (value.foldl step 2166136261).toNat
  | _ => Eval.fail

/-! ## Sequences -/

/-- The range that arguments describe. -/
def range (values : List Value) : Eval Value := do
  match ← Eval.ofOption (values.mapM Number.word?) with
  | [stop] => return .range 0 stop 1
  | [start, stop] => return .range start stop 1
  | [start, stop, step] =>
      Eval.require (step != 0)
      return .range start stop step
  | _ => Eval.fail

/-- Items with their numbers. -/
def enumerate (items : Value) (start : Int) : Eval Value := do
  let items ← Store.elements items
  Store.newList (items.zipIdx.map fun (item, index) => .tuple [.int (start + index), item])

/-- Tuples of corresponding items, as long as there are items everywhere. -/
def zip (values : List Value) : Eval Value := do
  let columns ← values.mapM Store.elements
  let count := (columns.map List.length).min?.getD 0
  let row (index : Nat) : Value := .tuple (columns.filterMap fun column => column[index]?)
  Store.newList ((List.range count).map row)

/-- Puts an item before the first one that it must precede. -/
def insertSorted (precedes : Value → Value → Eval Bool) (item : Value × Value) :
    List (Value × Value) → Eval (List (Value × Value))
  | [] => return [item]
  | first :: rest => do
      if ← precedes item.1 first.1 then return item :: first :: rest
      else return first :: (← insertSorted precedes item rest)

/-- Items with the values by which they are compared. -/
def withKeys (apply : Value → List Value → Eval Value) (key : Option Value) (items : List Value) :
    Eval (List (Value × Value)) :=
  items.mapM fun item => do
    match key with
    | some key => return (← apply key [item], item)
    | none => return (item, item)

/-- Items in ascending or descending order; equal ones stay in their order. -/
def sorted (apply : Value → List Value → Eval Value) (items : Value) (key : Option Value)
    (reverse : Bool) : Eval Value := do
  let items ← Store.during items (do withKeys apply key (← Store.elements items))
  let precedes (left right : Value) : Eval Bool :=
    if reverse then less right left else less left right
  let ordered ← items.foldlM (fun sofar item => insertSorted precedes item sofar) []
  Store.newList (ordered.map Prod.snd)

/-- The first item that no other one precedes. -/
def extremum (apply : Value → List Value → Eval Value) (precedes : Value → Value → Eval Bool)
    (values : List Value) (key : Option Value) : Eval Value := do
  let items ← match values with
    | [items] => Store.during items (do withKeys apply key (← Store.elements items))
    | items => withKeys apply key items
  match items with
  | [] => Eval.fail
  | first :: rest =>
      let best ← rest.foldlM
        (fun best item => do if ← precedes item.1 best.1 then return item else return best) first
      return best.2

/-! ## Dictionaries -/

/-- The entries of a dictionary, or of pairs of a key and a value. -/
def entriesOf : Value → Eval Entries
  | .dict address => Store.entries address
  | pairs => do
      (← Store.elements pairs).mapM fun pair => do
        Eval.require (decide ((← Store.length pair) = 2))
        match ← Store.elements pair with
        | [key, value] => return (key, value)
        | _ => Eval.fail

/-- Adds entries from an optional value and from named arguments to a dictionary. -/
def update (address : Nat) (arguments : Arguments) : Eval Unit := do
  let entries ← match arguments.positional with
    | [] => pure []
    | [value] => entriesOf value
    | _ => Eval.fail
  Eval.require (decide (arguments.named.map Prod.fst).Nodup)
  let named := arguments.named.map fun argument => (Value.text argument.1, argument.2)
  (entries ++ named).forM fun entry => Store.setKey address entry.1 entry.2

/-- A new dictionary with entries from arguments. -/
def dict (arguments : Arguments) : Eval Value := do
  let value ← Store.newDict []
  match value with
  | .dict address => update address arguments
  | _ => Eval.fail
  return value

/-! ## Attributes -/

/-- The names of the methods of a value, in order. -/
def methodNames : Value → List String
  | .text _ =>
      ["capitalize", "codepoint_ords", "codepoints", "count", "elem_ords", "elems", "endswith",
        "find", "format", "index", "isalnum", "isalpha", "isdigit", "islower", "isspace", "istitle",
        "isupper", "join", "lower", "lstrip", "partition", "removeprefix", "removesuffix",
        "replace", "rfind", "rindex", "rpartition", "rsplit", "rstrip", "split", "splitlines",
        "startswith", "strip", "title", "upper"]
  | .bytes _ => ["elems"]
  | .list _ => ["append", "clear", "extend", "index", "insert", "pop", "remove"]
  | .dict _ =>
      ["clear", "get", "items", "keys", "pop", "popitem", "setdefault", "update", "values"]
  | _ => []

/-- The method of a value with a name. -/
def attribute? (value : Value) (name : List UInt8) : Eval (Option Value) :=
  match (methodNames value).find? fun method => nameBytes method == name with
  | some method => some <$> Store.newMethod value method
  | none => return none

/-! ## Calls -/

/-- A value that can be called. -/
def isCallable : Value → Bool
  | .builtin _ | .method .. | .function _ => true
  | _ => false

/-- An optional function that compares items. -/
def callable? (key : Option Value) : Eval (Option Value) := do
  Eval.require (key.all isCallable)
  return key

/-- An optional truth value, false without one. -/
def flag : Option Value → Eval Bool
  | none => return false
  | some (.bool value) => return value
  | some _ => Eval.fail

/-- Calls a built-in function; `apply` calls the functions that are among the arguments. -/
def call (apply : Value → List Value → Eval Value) (name : String) (arguments : Arguments) :
    Eval Value := do
  let one : Eval Value := do
    match ← arguments.inOrder 1 1 with
    | [value] => return value
    | _ => Eval.fail
  let optional : Eval (Option Value) := return (← arguments.inOrder 0 1).head?
  let separator : Eval Unit := do
    match ← { arguments with positional := [] : Arguments }.values 0 ["sep"] with
    | [none] | [some (.text _)] => return
    | _ => Eval.fail
  match name with
  | "abs" =>
      match ← one with
      | .int value => return .int value.natAbs
      | .float value => return .float (if value.isNegative then value.neg else value)
      | _ => Eval.fail
  | "all" => return .bool (← (← Store.elements (← one)).allM Store.truth)
  | "any" => return .bool (← (← Store.elements (← one)).anyM Store.truth)
  | "bool" => return .bool (← Store.truth ((← optional).getD (.bool false)))
  | "bytes" => bytes (← one)
  | "chr" => return .text (← Eval.ofOption (characterOf? (← one)))
  | "dict" => dict arguments
  | "dir" => Store.newList ((methodNames (← one)).map Value.ofString)
  | "enumerate" =>
      match ← arguments.inOrder 1 2 with
      | items :: start =>
          enumerate items (← Eval.ofOption (Number.word? (start.headD (.int 0))))
      | [] => Eval.fail
  | "float" => float ((← optional).getD (.float (Binary64.zero false)))
  | "getattr" =>
      match ← arguments.inOrder 2 3 with
      | value :: .text name :: others =>
          Eval.ofOption ((← attribute? value name).orElse fun _ => others.head?)
      | _ => Eval.fail
  | "hasattr" =>
      match ← arguments.inOrder 2 2 with
      | [value, .text name] => return .bool (← attribute? value name).isSome
      | _ => Eval.fail
  | "hash" => hash (← one)
  | "int" =>
      match ← arguments.values 1 ["x", "base"] with
      | [some value, radix] => int value radix
      | _ => Eval.fail
  | "len" => return .int (← Store.length (← one))
  | "list" =>
      match ← optional with
      | none => Store.newList []
      | some value => Store.newList (← Store.elements value)
  | "max" | "min" =>
      let precedes (left right : Value) : Eval Bool :=
        if name == "max" then less right left else less left right
      match ← { arguments with positional := [] : Arguments }.values 0 ["key"] with
      | [key] => extremum apply precedes arguments.positional (← callable? key)
      | _ => Eval.fail
  | "ord" => ord (← one)
  | "print" =>
      separator
      return .none
  | "range" => range (← arguments.inOrder 1 3)
  | "repr" => return Value.ofString ((← get).render (← one))
  | "reversed" => Store.newList (← Store.elements (← one)).reverse
  | "sorted" =>
      match ← arguments.values 1 ["iterable", "key", "reverse"] with
      | [some items, key, reverse] => sorted apply items (← callable? key) (← flag reverse)
      | _ => Eval.fail
  | "str" => str (← one)
  | "tuple" =>
      match ← optional with
      | none => return .tuple []
      | some value => return .tuple (← Store.elements value)
  | "type" => return Value.ofString (← one).typeName
  | "zip" => do
      Eval.require arguments.named.isEmpty
      zip arguments.positional
  | _ => Eval.fail

end Builtin
end Starlark
end TableAssembler
