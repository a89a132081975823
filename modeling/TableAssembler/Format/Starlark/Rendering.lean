import TableAssembler.Binary64.Digits
import TableAssembler.Format.Starlark.Store
import TableAssembler.Text.Quoted

/-!
# Written forms of Starlark values

How values are shown.  A list or dictionary that contains itself is shown by dots there.
-/

namespace TableAssembler
namespace Starlark
namespace Store

/-- A list or a dictionary by its address. -/
inductive Container
  | list (address : Nat)
  | dict (address : Nat)
  deriving DecidableEq

/-- The written form of a range. -/
def rangeText (start stop step : Int) : String :=
  let shown :=
    if step != 1 then [start, stop, step] else if start != 0 then [start, stop] else [stop]
  "range(" ++ ", ".intercalate (shown.map Numeral.signed) ++ ")"

/-- The written form of the parts of a string. -/
def partsText (kind : Parts) (whole : List UInt8) : String :=
  match kind with
  | .elems => Quoted.bytes whole ++ ".elems()"
  | .elemOrds => Quoted.bytes whole ++ ".elem_ords()"
  | .codepoints => Quoted.bytes whole ++ ".codepoints()"
  | .codepointOrds => Quoted.bytes whole ++ ".codepoint_ords()"
  | .byteElems => "b" ++ Quoted.bytes whole ++ ".elems()"

mutual

/-- The written form of a value inside of some lists and dictionaries.  `left` bounds the number of
further ones that can be entered. -/
def renderWithin (store : Store) (left : Nat) (path : List Container) (value : Value) : String :=
  match value with
  | .none => "None"
  | .bool value => if value then "True" else "False"
  | .int value => Numeral.signed value
  | .float value => value.render
  | .text value => Quoted.bytes value
  | .bytes value => "b" ++ Quoted.bytes value
  | .tuple items =>
      let shown := renderItems store left path items
      "(" ++ ", ".intercalate shown ++ (if shown.length = 1 then ",)" else ")")
  | .list address =>
      match left with
      | 0 => "[...]"
      | left + 1 =>
          if path.contains (.list address) then "[...]"
          else
            let items := (store.lists[address]?.map Shared.content).getD []
            "[" ++ ", ".intercalate (renderItems store left (.list address :: path) items) ++ "]"
  | .dict address =>
      match left with
      | 0 => "\x7b...\x7d"
      | left + 1 =>
          if path.contains (.dict address) then "\x7b...\x7d"
          else
            let entries := (store.dicts[address]?.map Shared.content).getD []
            let shown := renderEntries store left (.dict address :: path) entries
            "\x7b" ++ ", ".intercalate shown ++ "\x7d"
  | .range start stop step => rangeText start stop step
  | .parts kind whole => partsText kind whole
  | .builtin name => "<built-in function " ++ name ++ ">"
  | .method receiver name _ =>
      "<built-in method " ++ name ++ " of " ++ receiver.typeName ++ " value>"
  | .function address =>
      "<function " ++ (store.closures[address]?.map Closure.name).getD "" ++ ">"
termination_by (left, sizeOf value)

/-- The written forms of items. -/
def renderItems (store : Store) (left : Nat) (path : List Container) (items : List Value) :
    List String :=
  match items with
  | [] => []
  | item :: rest => renderWithin store left path item :: renderItems store left path rest
termination_by (left, sizeOf items)

/-- The written forms of entries. -/
def renderEntries (store : Store) (left : Nat) (path : List Container) (entries : Entries) :
    List String :=
  match entries with
  | [] => []
  | (key, value) :: rest =>
      (renderWithin store left path key ++ ": " ++ renderWithin store left path value) ::
        renderEntries store left path rest
termination_by (left, sizeOf entries)

end

/-- The written form of a value. -/
def render (store : Store) (value : Value) : String :=
  store.renderWithin (store.lists.size + store.dicts.size + 1) [] value

/-- The bytes of a value where texts are wanted without quotes. -/
def plain (store : Store) (value : Value) : List UInt8 :=
  match value with
  | .text value => value
  | value => Utf8.encode (store.render value).toList

end Store
end Starlark
end TableAssembler
