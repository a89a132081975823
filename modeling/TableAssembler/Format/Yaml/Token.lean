import TableAssembler.Format.Yaml.Cursor
import TableAssembler.Text.Numeral
import TableAssembler.Text.Utf8

/-!
# YAML tokens

The marks and words that a stream is made of, and the small ones among them: directives, anchors
and tags.
-/

namespace TableAssembler
namespace Yaml

/-- A mark or a word of a stream. -/
inductive Token
  | streamEnd
  /-- The version that a document is written in. -/
  | version (major minor : Nat)
  /-- A handle that stands for the start of tags. -/
  | handle (name value : String)
  | documentStart
  | documentEnd
  | blockSequenceStart
  | blockMappingStart
  | blockEnd
  | flowSequenceStart
  | flowSequenceEnd
  | flowMappingStart
  | flowMappingEnd
  | blockEntry
  | flowEntry
  | key
  | value
  | anchor (name : String)
  /-- An alias of the node with a name. -/
  | reference (name : String)
  /-- A tag as a handle and what follows it. -/
  | tag (handle suffix : String)
  /-- A scalar; `plain` tells that it has no quotes and no mark. -/
  | scalar (text : String) (plain : Bool)
  deriving DecidableEq, Repr, Inhabited

namespace Token

/-! ## Anchors -/

/-- The characters that may follow a name directly. -/
def nameStops : List Char := ['?', ':', ',', ']', '\x7d', '%', '@', '\x60']

/-- The name behind the mark of an anchor or an alias, and the place behind it. -/
def name? (cursor : Cursor) : Option (String × Cursor) := do
  let (name, behind) ← cursor.step.takeWhile? isNameChar
  if name.isEmpty || !(endsWord behind.rest || behind.rest.head?.any nameStops.contains) then none
  else return (String.ofList name, behind)

/-! ## Tags -/

/-- The characters of a tag besides those of names. -/
def tagMarks : List Char :=
  [';', '/', '?', ':', '@', '&', '=', '+', '$', ',', '.', '!', '~', '*', '\'', '(', ')', '[', ']']

/-- The value of two hexadecimal digits behind a percent sign. -/
def octet? (text : List Char) : Option Nat :=
  match text with
  | '%' :: high :: low :: _ => Numeral.value? 16 [high, low]
  | _ => none

/-- Some octets at a cursor, and the place behind them. -/
def octets? : Nat → Cursor → Option (List Nat × Cursor)
  | 0, cursor => some ([], cursor)
  | count + 1, cursor => do
      let cursor ← cursor.need? 3
      let octet ← octet? cursor.rest
      let (further, behind) ← octets? count (cursor.skip 3)
      return (octet :: further, behind)

/-- The escaped character at a cursor, and the place behind it. -/
def escaped? (cursor : Cursor) : Option (List Char × Cursor) := do
  let count ← Utf8.width? (← octet? cursor.rest)
  let (octets, behind) ← octets? count cursor
  if (octets.drop 1).any (· / 64 != 2) then none
  return (Utf8.decode (octets.map UInt8.ofNat), behind)

/-- The characters of a tag from a cursor on, and the place behind them.  `fuel` bounds their
number. -/
def uriFrom? : Nat → Cursor → Option (List Char × Cursor)
  | 0, cursor => some ([], cursor)
  | fuel + 1, cursor => do
      let cursor ← cursor.need? 1
      match cursor.rest with
      | [] => return ([], cursor)
      | c :: _ =>
          if c == '%' then
            let (text, behind) ← escaped? cursor
            let (further, behind) ← uriFrom? fuel behind
            return (text ++ further, behind)
          else if isNameChar c || tagMarks.contains c then
            let (further, behind) ← uriFrom? fuel cursor.step
            return (c :: further, behind)
          else return ([], cursor)

/-- The characters of a tag from a cursor on, and the place behind them. -/
def uri? (cursor : Cursor) : Option (List Char × Cursor) :=
  uriFrom? (cursor.rest.length + 1) cursor

/-- The characters of a tag, of which there must be some. -/
def someUri? (cursor : Cursor) : Option (List Char × Cursor) :=
  (uri? cursor).filter fun (text, _) => !text.isEmpty

/-- An exclamation mark with a name and another mark, if there is one, and the place behind it. -/
def handle? (cursor : Cursor) : Option (List Char × Cursor) := do
  let cursor ← cursor.need? 1
  if cursor.startsWith '!' then
    let (name, behind) ← cursor.step.takeWhile? isNameChar
    if behind.startsWith '!' then return ('!' :: name ++ ['!'], behind.step)
    else return ('!' :: name, behind)
  else none

/-- A tag that stands between angle brackets. -/
def verbatim? (cursor : Cursor) : Option (Token × Cursor) := do
  let (suffix, behind) ← someUri? (cursor.skip 2)
  if behind.startsWith '>' then return (.tag "" (String.ofList suffix), behind.step) else none

/-- A tag with a handle, or one that follows a single mark. -/
def shorthand? (cursor : Cursor) : Option (Token × Cursor) := do
  let (start, behind) ← handle? cursor
  if 1 < start.length && start.getLast? == some '!' then
    let (suffix, behind) ← someUri? behind
    return (.tag (String.ofList start) (String.ofList suffix), behind)
  else
    let (further, behind) ← uri? behind
    let suffix := start.drop 1 ++ further
    return (if suffix.isEmpty then .tag "" "!" else .tag "!" (String.ofList suffix), behind)

/-- The tag at a cursor, and the place behind it. -/
def tag? (cursor : Cursor) : Option (Token × Cursor) := do
  let cursor ← cursor.need? 2
  let (token, behind) ←
    if cursor.step.startsWith '<' then verbatim? cursor else shorthand? cursor
  let behind ← behind.need? 1
  if endsWord behind.rest then return (token, behind) else none

/-! ## Directives -/

/-- The number of digits that a part of a version may have. -/
def versionDigits : Nat := 2

/-- A part of a version, and the place behind it. -/
def versionPart? (cursor : Cursor) : Option (Nat × Cursor) := do
  let (digits, behind) ← cursor.takeWhile? Char.isDigit
  if digits.isEmpty || versionDigits < digits.length then none
  return (← Numeral.value? 10 digits, behind)

/-- A version, and the place behind it. -/
def version? (cursor : Cursor) : Option (Token × Cursor) := do
  let (major, behind) ← versionPart? cursor
  if !behind.startsWith '.' then none
  let (minor, behind) ← versionPart? behind.step
  return (.version major minor, behind)

/-- A handle with the text that it stands for, and the place behind them. -/
def handleValue? (cursor : Cursor) : Option (Token × Cursor) := do
  let (name, behind) ← handle? cursor
  let behind ← behind.need? 1
  if name.getLast? != some '!' || !behind.rest.head?.any isBlank then none
  let (start, behind) ← someUri? (← behind.dropWhile? isBlank)
  if endsWord behind.rest then
    return (.handle (String.ofList name) (String.ofList start), behind)
  else none

/-- The directive at a cursor, and the place behind its line. -/
def directive? (cursor : Cursor) : Option (Token × Cursor) := do
  let (name, behind) ← cursor.step.takeWhile? isNameChar
  if !endsWord behind.rest then none
  let argument ← behind.dropWhile? isBlank
  let (token, behind) ← match String.ofList name with
    | "YAML" => version? argument
    | "TAG" => handleValue? argument
    | _ => none
  return (token, ← behind.endLine?)

end Token
end Yaml
end TableAssembler
