import TableAssembler.Format.Starlark.Literal
import TableAssembler.Text.Letter
import TableAssembler.Text.LineBreak

/-!
# Starlark tokens

The words of a program.  Line breaks and indentation count outside of brackets only; a null
character outside of a string ends the program.
-/

namespace TableAssembler
namespace Starlark

/-- A word of a program. -/
inductive Token
  | name (text : String)
  | keyword (text : String)
  | literal (value : Literal)
  | symbol (text : String)
  | newline
  | indent
  | outdent
  deriving DecidableEq, Repr, Inhabited

namespace Token

/-- The first character of a name. -/
def startsName (c : Char) : Bool := c == '_' || Text.isLetter c

/-- Another character of a name. -/
def continuesName (c : Char) : Bool := startsName c || Numeral.isDigit 10 c

/-- Words that are no names. -/
def keywords : List String :=
  ["and", "break", "continue", "def", "elif", "else", "for", "if", "in", "lambda", "load", "not",
    "or", "pass", "return", "while"]

/-- Words that no program may use. -/
def reserved : List String :=
  ["as", "async", "await", "class", "del", "except", "finally", "from", "global", "import", "is",
    "nonlocal", "raise", "try", "with", "yield"]

/-- A byte that can belong to a name. -/
def inWord (c : Char) : Bool := continuesName c || decide (128 ≤ c.toNat)

/-- The token of a word. -/
def ofWord? (word : List Char) : Option Token :=
  let characters := Utf8.decode (bytesOf word)
  let text := String.ofList characters
  if reserved.contains text then none
  else if keywords.contains text then some (.keyword text)
  else if characters.head?.any startsName && characters.all continuesName then some (.name text)
  else none

/-- Operators and punctuation, the longer ones first. -/
def symbols : List String :=
  ["//=", "<<=", ">>=", "//", "<<", ">>", "**", "==", "!=", "<=", ">=", "+=", "-=", "*=", "/=",
    "%=", "&=", "|=", "^=", "+", "-", "*", "/", "%", "&", "|", "^", "~", "(", ")", "[", "]", "\x7b",
    "\x7d", ",", ".", ":", ";", "=", "<", ">"]

/-- The symbol at the start of a text. -/
def symbol? (text : List Char) : Option String :=
  symbols.find? fun symbol => symbol.toList.isPrefixOf text

/-- The token at the start of a text that is no blank, and the text behind it. -/
def read? (text : List Char) : Option (Token × List Char) :=
  match text with
  | [] => none
  | c :: rest =>
      match Literal.style? text with
      | some (style, body) =>
          (Literal.string? style body).map fun (value, behind) => (.literal value, behind)
      | none =>
          if Numeral.isDigit 10 c || (c == '.' && rest.head?.any (Numeral.isDigit 10)) then
            (Literal.number? text).map fun (value, behind) => (.literal value, behind)
          else if inWord c then
            let word := text.takeWhile inWord
            (ofWord? word).map (·, text.drop word.length)
          else (symbol? text).map fun symbol => (.symbol symbol, text.drop symbol.length)

/-! ## Lines -/

/-- Where a program stands between two tokens. -/
structure Place where
  /-- A line starts here. -/
  lineStart : Bool := true
  /-- The number of open brackets. -/
  depth : Nat := 0
  /-- The indentations of the open blocks, the innermost first. -/
  blocks : List Nat := []

/-- The distance between the stops of tabs. -/
def tabStop : Nat := 8

/-- The width of the blanks at the start of a line. -/
def indentation (text : List Char) : Nat :=
  let blanks := text.takeWhile fun c => c == ' ' || c == '\t'
  blanks.zipIdx.foldl
    (fun width (c, index) => if c == ' ' then width + 1 else width + (tabStop - index % tabStop)) 0

/-- The program ends before this text. -/
def atEnd (text : List Char) : Bool := text.head?.all (·.toNat == 0)

/-- The tokens for a change of indentation, and the blocks that are open then. -/
def reindent? (blocks : List Nat) (width : Nat) : Option (List Token × List Nat) :=
  if blocks.headD 0 < width then some ([.indent], width :: blocks)
  else
    let closed := blocks.takeWhile (width < ·)
    let left := blocks.drop closed.length
    if left.headD 0 = width then some (closed.map fun _ => .outdent, left) else none

/-- The tokens that end a program. -/
def ending (place : Place) : List Token :=
  if place.blocks.isEmpty then []
  else (if place.lineStart then [] else [.newline]) ++ place.blocks.map fun _ => .outdent

/-- The place behind a symbol. -/
def Place.after? (place : Place) (symbol : Token) : Option Place :=
  let place := { place with lineStart := false }
  match symbol with
  | .symbol text =>
      if ["(", "[", "\x7b"].contains text then some { place with depth := place.depth + 1 }
      else if [")", "]", "\x7d"].contains text then
        if place.depth = 0 then none else some { place with depth := place.depth - 1 }
      else some place
  | _ => some place

/-- The tokens of a text.  `fuel` bounds their number. -/
def scan? : Nat → Place → List Char → Option (List Token)
  | 0, _, _ => none
  | fuel + 1, place, text => do
      let width := if place.lineStart then indentation text else 0
      let text := text.dropWhile fun c => c == ' ' || c == '\t'
      let blank := place.lineStart &&
        (text.head? == some '#' || text.head? == some '\n' || (atEnd text && 0 < width))
      let (dents, blocks) ←
        if place.lineStart && !blank && place.depth = 0 then reindent? place.blocks width
        else some ([], place.blocks)
      let place := { place with blocks }
      let text := if text.head? == some '#' then text.dropWhile fun c => c != '\n' && c.toNat != 0
        else text
      if atEnd text then return dents ++ ending place
      let further :=
        match text with
        | '\n' :: rest =>
            let tokens := scan? fuel { place with lineStart := true } rest
            if blank || place.depth != 0 then tokens else tokens.map (.newline :: ·)
        | '\\' :: '\n' :: rest => scan? fuel { place with lineStart := false } rest
        | text => do
            let (token, rest) ← read? text
            let place ← place.after? token
            return token :: (← scan? fuel place rest)
      return dents ++ (← further)

/-- The tokens of a program; a malformed byte counts as a replacement character. -/
def ofProgram? (source : List UInt8) : Option (List Token) :=
  let text := Text.unifyBreaks (charactersOf (Utf8.repair source))
  scan? (text.length + 1) {} text

end Token
end Starlark
end TableAssembler
