import TableAssembler.Fault
import TableAssembler.Text.DecimalDigit
import TableAssembler.Text.Letter
import TableAssembler.Text.WhiteSpace

/-!
# Scanning

A text is a sequence of lexemes with blanks and comments between them.  What a lexeme is depends
only on the characters ahead: `Reading.ofText` reads one lexeme without knowing where it stands,
and `Scan.startingAt` adds the positions.  A fault ends the scan and keeps the lexemes before it.
-/

namespace TableAssembler

/-- One lexeme read from the start of a text. -/
structure Reading where
  /-- Class of the lexeme. -/
  kind : Lexeme.Kind
  /-- Its value. -/
  value : List Char
  /-- Radix of a number, otherwise zero. -/
  radix : Int := 0
  /-- Number of characters read. -/
  width : Nat
  /-- Something was read. -/
  width_pos : 0 < width

/-- A lexeme whose value is its text. -/
def Reading.verbatim (kind : Lexeme.Kind) (first : Char) (further : List Char) : Reading where
  kind := kind
  value := first :: further
  width := further.length + 1
  width_pos := Nat.succ_pos _

/-- A cause, found some characters after the start of the lexeme that could not be read. -/
structure Misreading where
  /-- Number of characters before the place of the fault. -/
  offset : Nat := 0
  /-- What is wrong there. -/
  cause : Cause

namespace Scan

/-- The characters that are a lexeme of their own. -/
def punctuation : List Char := [',', ':', '(', ')']

/-- The operators of one character. -/
def shortOperators : List Char := ['+', '-', '*', '/', '&', '|', '^']

/-- What the operator that starts with `first` goes on with: the shifts have two characters. -/
def operatorTail? (first : Char) (rest : List Char) : Option (List Char) :=
  match first, rest with
  | '<', '<' :: _ => some ['<']
  | '>', '>' :: _ => some ['>']
  | _, _ => if first ∈ shortOperators then some [] else none

/-- The characters of identifiers and numbers. -/
def isWordCharacter (c : Char) : Bool :=
  c == '.' || Text.isLetter c || Text.isDecimalDigit c

/-- The number of characters before the next lexeme: blanks, then a comment up to the end of the
line. -/
def gap (text : List Char) : Nat :=
  let blanks := (text.takeWhile Text.isBlank).length
  match text.dropWhile Text.isBlank with
  | '/' :: '/' :: comment => blanks + 2 + (comment.takeWhile (· != '\n')).length
  | _ => blanks

/-! ## Strings -/

/-- How the text behind an opening quote goes on. -/
inductive StringBody
  /-- A closing quote ends the value; `width` characters are read, the quote included. -/
  | closed (value : List Char) (width : Nat)
  /-- The text ends first. -/
  | unterminated
  /-- A backslash after `offset` characters is followed by a character without an escape. -/
  | unknownEscape (offset : Nat) (c : Char)

/-- A body with one more value before it, read from `width` characters. -/
def StringBody.cons (value : Char) (width : Nat) : StringBody → StringBody
  | .closed values further => .closed (value :: values) (width + further)
  | .unterminated => .unterminated
  | .unknownEscape offset c => .unknownEscape (width + offset) c

/-- The character that an escape stands for. -/
def unescape? (c : Char) : Option Char :=
  if c = 'n' then some '\n'
  else if c = '0' then some (Char.ofNat 0)
  else if c = '\\' ∨ c = '"' ∨ c = '\'' then some c
  else none

/-- Reads the text behind an opening quote. -/
def stringBody (quote : Char) : List Char → StringBody
  | [] => .unterminated
  | ['\\'] => .unterminated
  | '\\' :: c :: rest =>
      match unescape? c with
      | some value => (stringBody quote rest).cons value 2
      | none => .unknownEscape 0 c
  | c :: rest =>
      if c = quote then .closed [] 1 else (stringBody quote rest).cons c 1

/-- Reads a string with its quotes. -/
def readString (quote : Char) (rest : List Char) : Except Misreading Reading :=
  match stringBody quote rest with
  | .closed value width =>
      .ok { kind := .text, value, width := width + 1, width_pos := Nat.succ_pos width }
  | .unterminated => .error { cause := .unterminatedString }
  | .unknownEscape offset c => .error { offset := offset + 1, cause := .unknownEscape c }

/-! ## Words -/

/-- The radix of a form of number. -/
def radixOf : NumberForm → Nat
  | .hexadecimal => 16
  | .binary => 2
  | .decimal => 10

/-- The first character that is no digit of the radix, with its index. -/
def firstNonDigit? (radix : Nat) (digits : List Char) : Option (Char × Nat) :=
  digits.zipIdx.find? fun entry => !Numeral.isDigit radix entry.1

/-- Reads the digits of a number whose mark of the radix has `mark` characters. -/
def readNumber (form : NumberForm) (mark : Nat) (digits : List Char) : Except Misreading Reading :=
  match digits with
  | [] => .error { cause := .numberWithoutDigits }
  | first :: rest =>
      match firstNonDigit? (radixOf form) (first :: rest) with
      | some (c, index) => .error { offset := mark + index, cause := .digitExpected form c }
      | none =>
          .ok
            { kind := .number
              value := first :: rest
              radix := radixOf form
              width := mark + (rest.length + 1)
              width_pos := by omega }

/-- Reads an identifier or a number that starts with `first`. -/
def readWord (first : Char) (rest : List Char) : Except Misreading Reading :=
  let further := rest.takeWhile isWordCharacter
  match first, further with
  | '0', 'x' :: digits => readNumber .hexadecimal 2 digits
  | '0', 'b' :: digits => readNumber .binary 2 digits
  | _, _ =>
      if Text.isDecimalDigit first then readNumber .decimal 0 (first :: further)
      else .ok (.verbatim .identifier first further)

end Scan

/-! ## One lexeme -/

/-- Reads the lexeme that starts with `first`. -/
def Reading.ofText (first : Char) (rest : List Char) : Except Misreading Reading :=
  if first = '\n' then .ok (.verbatim .newline first [])
  else if first ∈ Scan.punctuation then .ok (.verbatim .punctuation first [])
  else
    match Scan.operatorTail? first rest with
    | some tail => .ok (.verbatim .operator first tail)
    | none =>
        if first = '"' ∨ first = '\'' then Scan.readString first rest
        else if Scan.isWordCharacter first then Scan.readWord first rest
        else .error { cause := .unexpectedCharacter first }

/-- The lexeme of a reading that starts at a location. -/
def Reading.place (reading : Reading) (location : Location) : Lexeme :=
  { value := String.ofList reading.value
    kind := reading.kind
    radix := reading.radix
    span := reading.width
    location }

/-! ## A whole text -/

/-- The lexemes of a text up to its end or to a fault. -/
structure Scan where
  /-- The lexemes before the fault. -/
  lexemes : List Lexeme
  /-- The fault that ended the scan. -/
  fault? : Option Fault := none

namespace Scan

/-- A scan with one more lexeme before it. -/
def cons (lexeme : Lexeme) (scan : Scan) : Scan :=
  { scan with lexemes := lexeme :: scan.lexemes }

/-- Scans a text whose first character stands at a location. -/
def startingAt (location : Location) (text : List Char) : Scan :=
  let start := location.advance (text.take (gap text))
  match _ : text.drop (gap text) with
  | [] => { lexemes := [] }
  | first :: rest =>
      match Reading.ofText first rest with
      | .error misreading =>
          { lexemes := []
            fault? := some
              (.located (start.advance ((first :: rest).take misreading.offset)) misreading.cause) }
      | .ok reading =>
          cons (reading.place start)
            (Scan.startingAt (start.advance ((first :: rest).take reading.width))
              ((first :: rest).drop reading.width))
termination_by text.length
decreasing_by
  rename_i ahead
  have shorter := congrArg List.length ahead
  have positive := reading.width_pos
  simp only [List.length_drop, List.length_cons] at shorter ⊢
  omega

/-- Scans the text of a file. -/
def ofText (file : String) (text : String) : Scan :=
  Scan.startingAt (Location.start file) text.toList

/-- The lexemes of a scan that reached the end of its text. -/
def result (scan : Scan) : Except Fault (List Lexeme) :=
  match scan.fault? with
  | some fault => .error fault
  | none => .ok scan.lexemes

end Scan

/-- The lexemes of the text of a file. -/
def Lexeme.scan (file : String) (text : String) : Except Fault (List Lexeme) :=
  (Scan.ofText file text).result

end TableAssembler
