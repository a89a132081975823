import TableAssembler.InstructionSet.Field
import TableAssembler.InstructionSet.Table
import TableAssembler.Text.Letter
import TableAssembler.Text.WhiteSpace

/-!
# Templates

A template describes an encoding: runs of zeros and ones are constants, and a group in braces,
such as a tag and a width, is a field.  White space may stand anywhere but inside a tag or a
width; bits that only white space divides belong to one constant.
-/

namespace TableAssembler
namespace Template

/-- A constant bit. -/
def isBit (c : Char) : Bool := c == '0' || c == '1'

/-- A digit of a width. -/
def isWidthDigit (c : Char) : Bool := decide ('0' ≤ c) && decide (c ≤ '9')

/-- The text behind the white space at its start. -/
def skipSpace (text : List Char) : List Char := text.dropWhile Text.isWhiteSpace

/-- The number that decimal digits write. -/
def writtenWidth (digits : List Char) : Nat :=
  digits.foldl (fun sofar c => sofar * 10 + (c.toNat - 48)) 0

/-- The parts of a brace group, behind its opening brace. -/
structure Group where
  /-- The letters of the tag. -/
  tag : List Char
  /-- The digits of the width. -/
  width : List Char
  /-- What follows the width and white space. -/
  rest : List Char

namespace Group

/-- Cuts the text behind an opening brace into the parts of a group. -/
def ofText (text : List Char) : Group :=
  let text := skipSpace text
  let afterTag := skipSpace (text.dropWhile Text.isLetter)
  { tag := text.takeWhile Text.isLetter
    width := afterTag.takeWhile isWidthDigit
    rest := skipSpace (afterTag.dropWhile isWidthDigit) }

/-- The text behind the closing brace. -/
def afterBrace (group : Group) : List Char := group.rest.tail

/-- The field of a group. -/
def field (tables : Tables) (group : Group) : Except Cause Field :=
  let tag := Text.upper (String.ofList group.tag)
  let width := Numeral.wrap (writtenWidth group.width)
  if group.tag.isEmpty then .error .fieldTagMissing
  else if width = 0 then .error .fieldWidthMissing
  else if group.rest.head? ≠ some '\x7d' then .error .fieldUnclosed
  else if tag = Field.immediateTag then .ok (.immediate width)
  else if tag = Field.optionalTag then .ok (.optional width)
  else if tables.hasTag tag then .ok (.symbol tag width)
  else .error (.unknownTable tag)

theorem length_afterBrace_le (text : List Char) :
    (ofText text).afterBrace.length ≤ text.length := by
  have drop (keep : Char → Bool) (chars : List Char) :
      (chars.dropWhile keep).length ≤ chars.length :=
    (List.dropWhile_suffix keep).length_le
  simp only [afterBrace, ofText, skipSpace, List.length_tail]
  exact Nat.le_trans (Nat.sub_le _ _) <| Nat.le_trans (drop _ _) <| Nat.le_trans (drop _ _) <|
    Nat.le_trans (drop _ _) <| Nat.le_trans (drop _ _) (drop _ _)

end Group

/-- The fields of a template. -/
def fields (tables : Tables) (text : List Char) : Except Cause (List Field) :=
  match text with
  | [] => .ok []
  | c :: rest =>
      if Text.isWhiteSpace c then fields tables rest
      else if isBit c then do
        let gathers (c : Char) : Bool := isBit c || Text.isWhiteSpace c
        let constant := Field.constant (c :: (rest.takeWhile gathers).filter isBit)
        let others ← fields tables (rest.dropWhile gathers)
        return constant :: others
      else if c = '\x7b' then do
        let group := Group.ofText rest
        let field ← group.field tables
        let others ← fields tables group.afterBrace
        return field :: others
      else .error (.templateCharacter c)
termination_by text.length
decreasing_by
  · simp
  · exact Nat.lt_succ_of_le (List.dropWhile_suffix _).length_le
  · exact Nat.lt_succ_of_le (Group.length_afterBrace_le rest)

/-- The fields of the template of an instruction; faults name the instruction. -/
def compile (mnemonic template : String) (tables : Tables) : Except Cause (List Field) :=
  (fields tables template.toList).mapError (.template mnemonic template)

end Template
end TableAssembler
