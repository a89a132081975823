import TableAssembler.Format.Starlark.Builtin
import TableAssembler.Text.CasedLetter
import TableAssembler.Text.DecimalDigit
import TableAssembler.Text.WhiteSpace

/-!
# Methods of Starlark values

What can be called on texts, byte strings, lists and dictionaries.
-/

namespace TableAssembler
namespace Starlark
namespace Method

/-- The texts of values. -/
def texts? (values : List Value) : Option (List (List UInt8)) :=
  values.mapM fun value =>
    match value with
    | .text text => some text
    | _ => none

/-! ## Pieces of texts -/

/-- A text without certain characters at its start. -/
def dropStart (test : Char → Bool) (segments : List (Char × List UInt8)) :
    List (Char × List UInt8) :=
  segments.dropWhile fun segment => test segment.1

/-- A text without certain characters at its end. -/
def dropEnd (test : Char → Bool) (segments : List (Char × List UInt8)) :
    List (Char × List UInt8) :=
  (dropStart test segments.reverse).reverse

/-- The words of a text between white space; after a number of them all the rest is one. -/
def words : Nat → List (Char × List UInt8) → List (List (Char × List UInt8))
  | limit, segments =>
      let rest := dropStart Text.isWhiteSpace segments
      if rest.isEmpty then []
      else
        match limit with
        | 0 => [rest]
        | limit + 1 =>
            let word := rest.takeWhile fun segment => !Text.isWhiteSpace segment.1
            word :: words limit (rest.drop word.length)

/-- The bytes of a text in segments. -/
def bytesOfSegments (segments : List (Char × List UInt8)) : List UInt8 :=
  segments.flatMap Prod.snd

/-- The pieces of a text between marks or white space.  Without a limit all are cut; at the end of
the text the cuts of a limited number are the last ones. -/
def split (atEnd : Bool) (text : List UInt8) (mark : Option (List UInt8)) (limit : Option Nat) :
    List (List UInt8) :=
  match mark with
  | some mark =>
      if atEnd then
        let pieces := Part.splitAll mark text
        let joined := pieces.length - limit.getD pieces.length
        if joined = 0 then pieces
        else Part.join mark (pieces.take joined) :: pieces.drop joined
      else Part.split mark (limit.getD text.length) text
  | none =>
      let segments := Utf8.segments text
      let limit := limit.getD segments.length
      if atEnd then
        ((words limit segments.reverse).map fun word => bytesOfSegments word.reverse).reverse
      else (words limit segments).map bytesOfSegments

/-- The lines of a text, with or without their ends. -/
def lines (text : List UInt8) (keepEnds : Bool) : List (List UInt8) :=
  let lineEnd := nameBytes "\n"
  let pieces := Part.splitAll lineEnd text
  let complete := pieces.dropLast.map fun piece => if keepEnds then piece ++ lineEnd else piece
  complete ++ (pieces.getLast?.toList.filter fun piece => !piece.isEmpty)

/-- A text with another one in the place of a part, at most a number of times. -/
def replace (text old new : List UInt8) (limit : Option Nat) : List UInt8 :=
  if old.isEmpty then
    let segments := (Utf8.segments text).map Prod.snd
    match min (limit.getD (segments.length + 1)) (segments.length + 1) with
    | 0 => text
    | limit + 1 => Part.join new ([] :: segments.take limit ++ [(segments.drop limit).flatten])
  else Part.join new (Part.split old (limit.getD text.length) text)

/-! ## Case -/

/-- A text with its characters replaced. -/
def mapCharacters (change : Char → Char) (text : List UInt8) : List UInt8 :=
  Utf8.encode ((Utf8.decode text).map change)

/-- A text whose words start with a capital. -/
def title : Bool → List Char → List Char
  | _, [] => []
  | inWord, c :: rest =>
      let c := if inWord then Text.lowerChar c else Text.titleChar c
      c :: title (Text.isCased c) rest

/-- A character with which a word of a title starts: a capital of ASCII, or one that is between the
cases. -/
def startsTitle (c : Char) : Bool := c.isUpper || Text.isTitleLetter c

/-- Every word starts as in a title and goes on in small letters; other capitals do not occur.
`inWord` tells what came last, `found` whether there was a word. -/
def isTitle : Bool → Bool → List Char → Bool
  | _, found, [] => found
  | inWord, found, c :: rest =>
      if startsTitle c then !inWord && isTitle true true rest
      else if Text.isSmall c then inWord && isTitle true true rest
      else !Text.isCapital c && isTitle false found rest

/-- All characters pass a test, and there are some. -/
def allCharacters (test : Char → Bool) (text : List UInt8) : Bool :=
  !text.isEmpty && (Utf8.decode text).all test

/-! ## Methods -/

/-- An optional limit: none for a negative number. -/
def limit? : Option Value → Eval (Option Nat)
  | none => return none
  | some value => do
      let limit ← Eval.ofOption (Number.word? value)
      return if limit < 0 then none else some limit.toNat

/-- The bounds that optional arguments give. -/
def boundsOf (length : Nat) (arguments : List Value) : Eval (Nat × Nat) :=
  Eval.ofOption (bounds? length (arguments[0]?.getD .none) (arguments[1]?.getD .none))

/-- A part of a text, which starts or ends it. -/
def hasEnd (atEnd : Bool) (text part : List UInt8) : Bool :=
  if atEnd then part.isSuffixOf text else part.isPrefixOf text

/-- One of some values starts or ends a text; up to that one all must be texts. -/
def hasAnyEnd? (atEnd : Bool) (text : List UInt8) : List Value → Option Bool
  | [] => some false
  | .text part :: rest =>
      if hasEnd atEnd text part then some true else hasAnyEnd? atEnd text rest
  | _ => none

/-- Calls a method of a text. -/
def callText (text : List UInt8) (name : String) (arguments : Arguments) : Eval Value := do
  let noArguments : Eval Unit := discard (arguments.inOrder 0 0)
  let whole (test : Bool) : Eval Value := do
    noArguments
    return .bool test
  let position (last : Bool) : Eval (Option Nat) := do
    match ← arguments.inOrder 1 3 with
    | .text part :: bounds =>
        let bounds ← boundsOf text.length bounds
        let within := between text bounds
        let place := if last then Part.lastPosition? part within else Part.position? part within
        return place.map (· + bounds.1)
    | _ => Eval.fail
  let strip (atStart atEnd : Bool) : Eval Value := do
    let test : Char → Bool ← match ← arguments.inOrder 0 1 with
      | [] | [.text []] => pure Text.isWhiteSpace
      | [.text characters] => pure fun c => (Utf8.decode characters).contains c
      | _ => Eval.fail
    let segments := Utf8.segments text
    let segments := if atStart then dropStart test segments else segments
    return .text (bytesOfSegments (if atEnd then dropEnd test segments else segments))
  let change (text : List UInt8) : Eval Value := do
    noArguments
    return .text text
  let ends (atEnd : Bool) : Eval Value := do
    match ← arguments.inOrder 1 3 with
    | [] => Eval.fail
    | part :: bounds =>
        let within := between text (← boundsOf text.length bounds)
        match part with
        | .text part => return .bool (hasEnd atEnd within part)
        | .tuple parts => return .bool (← Eval.ofOption (hasAnyEnd? atEnd within parts))
        | _ => Eval.fail
  let parts (kind : Parts) : Eval Value := do
    noArguments
    return .parts kind text
  let cut (atEnd : Bool) : Eval Value := do
    let values ← arguments.inOrder 0 2
    let limit ← limit? values[1]?
    let mark ← match values.headD .none with
      | .none => pure none
      | .text mark => do
          Eval.require !mark.isEmpty
          pure (some mark)
      | _ => Eval.fail
    Store.newList ((split atEnd text mark limit).map .text)
  match name with
  | "capitalize" =>
      change (Utf8.encode
        (match Utf8.decode text with
          | [] => []
          | first :: rest => Text.titleChar first :: rest.map Text.lowerChar))
  | "codepoint_ords" => parts .codepointOrds
  | "codepoints" => parts .codepoints
  | "elem_ords" => parts .elemOrds
  | "elems" => parts .elems
  | "count" =>
      match ← arguments.inOrder 1 3 with
      | .text part :: bounds =>
          let within := between text (← boundsOf text.length bounds)
          if part.isEmpty then return .int ((Utf8.segments within).length + 1)
          else return .int ((Part.splitAll part within).length - 1)
      | _ => Eval.fail
  | "endswith" => ends true
  | "startswith" => ends false
  | "find" => return .int (((← position false).map Int.ofNat).getD (-1))
  | "rfind" => return .int (((← position true).map Int.ofNat).getD (-1))
  | "index" => return .int (← Eval.ofOption (← position false))
  | "rindex" => return .int (← Eval.ofOption (← position true))
  | "format" => return .text (← format text arguments.positional arguments.named)
  | "isalnum" => whole (allCharacters (fun c => Text.isLetter c || Text.isDecimalDigit c) text)
  | "isalpha" => whole (allCharacters Text.isLetter text)
  | "isdigit" => whole (allCharacters Text.isDecimalDigit text)
  | "isspace" => whole (allCharacters Text.isWhiteSpace text)
  | "islower" =>
      whole ((Utf8.decode text).any Text.isCased && mapCharacters Text.lowerChar text == text)
  | "isupper" =>
      whole ((Utf8.decode text).any Text.isCased && mapCharacters Text.upperChar text == text)
  | "istitle" => whole (isTitle false false (Utf8.decode text))
  | "join" =>
      match ← arguments.inOrder 1 1 with
      | [items] => return .text (Part.join text (← Eval.ofOption (texts? (← Store.elements items))))
      | _ => Eval.fail
  | "lower" => change (mapCharacters Text.lowerChar text)
  | "upper" => change (mapCharacters Text.upperChar text)
  | "title" => change (Utf8.encode (title false (Utf8.decode text)))
  | "strip" => strip true true
  | "lstrip" => strip true false
  | "rstrip" => strip false true
  | "partition" | "rpartition" =>
      match ← arguments.inOrder 1 1 with
      | [.text mark] => do
          Eval.require !mark.isEmpty
          let last := name == "rpartition"
          match if last then Part.lastPosition? mark text else Part.position? mark text with
          | some place =>
              return .tuple
                [.text (text.take place), .text mark, .text (text.drop (place + mark.length))]
          | none => return .tuple (if last then [.text [], .text [], .text text]
              else [.text text, .text [], .text []])
      | _ => Eval.fail
  | "removeprefix" =>
      match ← arguments.inOrder 1 1 with
      | [.text part] => return .text (if part.isPrefixOf text then text.drop part.length else text)
      | _ => Eval.fail
  | "removesuffix" =>
      match ← arguments.inOrder 1 1 with
      | [.text part] =>
          return .text
            (if part.isSuffixOf text then text.take (text.length - part.length) else text)
      | _ => Eval.fail
  | "replace" =>
      match ← arguments.inOrder 2 3 with
      | .text old :: .text new :: limit =>
          return .text (replace text old new (← limit? limit.head?))
      | _ => Eval.fail
  | "split" => cut false
  | "rsplit" => cut true
  | "splitlines" =>
      let values ← arguments.inOrder 0 1
      Store.newList ((lines text (← Builtin.flag values.head?)).map .text)
  | _ => Eval.fail

/-- The place of the first item that equals a value, counted from a start. -/
def placeOf? (value : Value) : Nat → List Value → Eval (Option Nat)
  | _, [] => return none
  | start, item :: rest => do
      if ← equal item value then return some start else placeOf? value (start + 1) rest

/-- Calls a method of a list. -/
def callList (address : Nat) (name : String) (arguments : Arguments) : Eval Value := do
  let items ← Store.items address
  let become (items : List Value) : Eval Value := do
    Store.setItems address fun _ => some items
    return .none
  match name with
  | "append" =>
      match ← arguments.inOrder 1 1 with
      | [item] => become (items ++ [item])
      | _ => Eval.fail
  | "clear" =>
      discard (arguments.inOrder 0 0)
      become []
  | "extend" =>
      match ← arguments.inOrder 1 1 with
      | [further] => become (items ++ (← Store.elements further))
      | _ => Eval.fail
  | "index" =>
      match ← arguments.inOrder 1 3 with
      | value :: bounds =>
          let bounds ← boundsOf items.length bounds
          let place ← placeOf? value bounds.1 (between items bounds)
          return .int (← Eval.ofOption place)
      | _ => Eval.fail
  | "insert" =>
      match ← arguments.inOrder 2 2 with
      | [index, item] =>
          let index ← Eval.ofOption (Number.word? index)
          let index := if index < 0 then index + items.length else index
          let place := (clamp 0 items.length index).toNat
          become (items.take place ++ item :: items.drop place)
      | _ => Eval.fail
  | "pop" =>
      let values ← arguments.inOrder 0 1
      let index ← Eval.ofOption (Number.word? (values.headD (.int (-1))))
      let place := if index < 0 then index + items.length else index
      Eval.require (decide (0 ≤ place))
      let item ← Eval.ofOption items[place.toNat]?
      discard (become (items.eraseIdx place.toNat))
      return item
  | "remove" =>
      match ← arguments.inOrder 1 1 with
      | [value] => become (items.eraseIdx (← Eval.ofOption (← placeOf? value 0 items)))
      | _ => Eval.fail
  | _ => Eval.fail

/-- Calls a method of a dictionary. -/
def callDict (address : Nat) (name : String) (arguments : Arguments) : Eval Value := do
  let entries ← Store.entries address
  let become (entries : Entries) : Eval Unit := Store.setEntries address fun _ => some entries
  let listed (view : Value × Value → Value) : Eval Value := do
    discard (arguments.inOrder 0 0)
    Store.newList (entries.map view)
  match name with
  | "clear" =>
      discard (arguments.inOrder 0 0)
      become []
      return .none
  | "get" =>
      match ← arguments.inOrder 1 2 with
      | key :: others => return (← Store.getKey? address key).getD (others.headD .none)
      | _ => Eval.fail
  | "items" => listed fun entry => .tuple [entry.1, entry.2]
  | "keys" => listed Prod.fst
  | "values" => listed Prod.snd
  | "pop" =>
      match ← arguments.inOrder 1 2 with
      | key :: others =>
          let value ← Store.getKey? address key
          become (entries.erase key)
          Eval.ofOption (value.orElse fun _ => others.head?)
      | _ => Eval.fail
  | "popitem" =>
      discard (arguments.inOrder 0 0)
      match entries with
      | first :: rest =>
          become rest
          return .tuple [first.1, first.2]
      | [] => Eval.fail
  | "setdefault" =>
      match ← arguments.inOrder 1 2 with
      | key :: others =>
          match ← Store.getKey? address key with
          | some value => return value
          | none =>
              let value := others.headD .none
              Store.setKey address key value
              return value
      | _ => Eval.fail
  | "update" =>
      Builtin.update address arguments
      return .none
  | _ => Eval.fail

/-- Calls a method of a value. -/
def call (receiver : Value) (name : String) (arguments : Arguments) : Eval Value :=
  match receiver, name with
  | .text text, name => callText text name arguments
  | .list address, name => callList address name arguments
  | .dict address, name => callDict address name arguments
  | .bytes whole, "elems" => do
      discard (arguments.inOrder 0 0)
      return .parts .byteElems whole
  | _, _ => Eval.fail

end Method
end Starlark
end TableAssembler
