import TableAssembler.Format.Yaml.Cursor
import TableAssembler.Text.Numeral

/-!
# YAML scalars

How the characters of a scalar are read: plain text up to an indicator, quoted text with its
escapes, blocks of lines, and the folding of line breaks inside all of them.
-/

namespace TableAssembler
namespace Yaml

/-! ## Gaps -/

/-- The blanks and line breaks between two words of a scalar. -/
structure Gap where
  /-- The blanks before the first line break. -/
  blanks : List Char := []
  /-- The first line break. -/
  first : List Char := []
  /-- The line breaks after the first one. -/
  further : List Char := []
  /-- A line ended in the gap. -/
  broken : Bool := false
  deriving DecidableEq, Repr, Inhabited

namespace Gap

/-- The gap with one more blank; blanks at the start of a line do not count. -/
def addBlank (gap : Gap) (c : Char) : Gap :=
  if gap.broken then gap else { gap with blanks := gap.blanks ++ [c] }

/-- The gap with one more line break. -/
def addBreak (gap : Gap) (c : Char) : Gap :=
  if gap.broken then { gap with further := gap.further ++ breakText c }
  else { blanks := [], first := breakText c, further := [], broken := true }

/-- The text of a gap: a single line feed becomes a space, and the first of several is dropped. -/
def text (gap : Gap) : List Char :=
  if !gap.broken then gap.blanks
  else if gap.first == ['\n'] then if gap.further.isEmpty then [' '] else gap.further
  else gap.first ++ gap.further

end Gap

/-- Reads the rest of a gap.  A tab before the column `indent` of a new line is refused. -/
def readGap? (indent : Nat) (gap : Gap) (cursor : Cursor) : Option (Gap × Cursor) :=
  match _ : cursor.need? 1 with
  | none => none
  | some here =>
      match _ : here.rest with
      | [] => some (gap, here)
      | c :: _ =>
          if isBlank c then
            if gap.broken && c == '\t' && decide (here.column < indent) then none
            else readGap? indent (gap.addBlank c) here.step
          else if isBreak c then
            match _ : here.need? 2 with
            | none => none
            | some ready => readGap? indent (gap.addBreak c) ready.step
          else some (gap, here)
termination_by cursor.rest.length
decreasing_by
  · rw [← Cursor.rest_of_need? ‹cursor.need? 1 = some here›]
    exact Cursor.length_rest_step_lt ‹here.rest = _›
  · have ready_rest := Cursor.rest_of_need? ‹here.need? 2 = some ready›
    rw [← Cursor.rest_of_need? ‹cursor.need? 1 = some here›, ← ready_rest]
    exact Cursor.length_rest_step_lt (ready_rest.trans ‹here.rest = _›)

/-! ## Plain scalars -/

/-- The characters that start something other than a plain scalar. -/
def indicators : List Char :=
  ['-', '?', ':', ',', '[', ']', '\x7b', '\x7d', '#', '&', '*', '!', '|', '>', '\'', '"', '%',
    '@', '\x60']

/-- The characters that end a plain scalar between brackets. -/
def flowStops : List Char := [',', '?', '[', ']', '\x7b', '\x7d']

/-- A plain scalar can start with this text. -/
def startsPlain (flow : Bool) (text : List Char) : Bool :=
  match text with
  | [] => false
  | c :: rest =>
      if c == '-' then !rest.head?.any isBlank
      else if c == '?' || c == ':' then !flow && !endsWord rest
      else !isGap c && !indicators.contains c

/-- The first word of a plain scalar. -/
def plainWord (flow : Bool) : List Char → List Char
  | [] => []
  | c :: rest =>
      if isGap c || (c == ':' && endsWord rest) || (flow && flowStops.contains c) then []
      else c :: plainWord flow rest

/-- A scalar with the place behind it. -/
structure Reading where
  /-- The text of the scalar. -/
  text : List Char
  /-- The place behind it and the gap after it. -/
  behind : Cursor
  /-- A line ended behind the last word. -/
  broken : Bool := false
  deriving Repr, Inhabited

/-- Reads on in a plain scalar of which some text and a gap are read.  `fuel` bounds the number of
words. -/
def plainFrom? (flow : Bool) (indent : Nat) : Nat → List Char → Gap → Cursor → Option Reading
  | 0, text, gap, cursor => some ⟨text, cursor, gap.broken⟩
  | fuel + 1, text, gap, cursor => do
      let cursor ← cursor.need? 4
      let word := if cursor.atDocumentMark || cursor.startsWith '#' then []
        else plainWord flow cursor.rest
      if word.isEmpty then return ⟨text, cursor, gap.broken⟩
      else
        let (next, behind) ← readGap? indent {} (← Cursor.walk? 2 word.length cursor)
        let text := text ++ gap.text ++ word
        if !flow && behind.column < indent then return ⟨text, behind, next.broken⟩
        plainFrom? flow indent fuel text next behind

/-- Reads a plain scalar; its further lines start at the column `indent` at least. -/
def plain? (flow : Bool) (indent : Nat) (cursor : Cursor) : Option Reading :=
  plainFrom? flow indent (cursor.rest.length + 1) [] {} cursor

/-! ## Quoted scalars -/

/-- The character of an escape of one letter. -/
def escapeLetter? (c : Char) : Option Char :=
  match c with
  | '0' => some (Char.ofNat 0)
  | 'a' => some (Char.ofNat 7)
  | 'b' => some (Char.ofNat 8)
  | 't' | '\t' => some '\t'
  | 'n' => some '\n'
  | 'v' => some (Char.ofNat 11)
  | 'f' => some (Char.ofNat 12)
  | 'r' => some (Char.ofNat 13)
  | 'e' => some (Char.ofNat 27)
  | ' ' | '"' | '\'' | '\\' => some c
  | 'N' => some (Char.ofNat 0x85)
  | '_' => some (Char.ofNat 0xa0)
  | 'L' => some (Char.ofNat 0x2028)
  | 'P' => some (Char.ofNat 0x2029)
  | _ => none

/-- The number of hexadecimal digits behind the letter of an escape. -/
def escapeDigits? (c : Char) : Option Nat :=
  match c with
  | 'x' => some 2
  | 'u' => some 4
  | 'U' => some 8
  | _ => none

/-- The character with a code point. -/
def character? (point : Nat) : Option Char :=
  if point.isValidChar then some (Char.ofNat point) else none

/-- The character of an escape behind its backslash, and the number of characters that it has. -/
def escape? (text : List Char) : Option (Char × Nat) :=
  match text with
  | [] => none
  | c :: rest =>
      match escapeLetter? c with
      | some value => some (value, 1)
      | none => do
          let count ← escapeDigits? c
          let digits := rest.take count
          if digits.length < count then none
          let value ← (Numeral.value? 16 digits).bind character?
          return (value, count + 1)

/-- The place behind an escape with some number of characters. -/
def skipEscape? (count : Nat) (cursor : Cursor) : Option Cursor :=
  ((cursor.skip 2).need? (count - 1)).map (·.skip (count - 1))

/-- The text up to the next blank, line break or closing quote.  The reading is broken when an
escaped line break ends it.  `fuel` bounds the number of characters. -/
def quotedWord? (quote : Char) : Nat → Cursor → Option Reading
  | 0, cursor => some ⟨[], cursor, false⟩
  | fuel + 1, cursor => do
      let cursor ← cursor.need? 2
      let onward (c : Char) (behind : Cursor) : Option Reading :=
        (quotedWord? quote fuel behind).map fun reading =>
          { reading with text := c :: reading.text }
      match cursor.rest with
      | [] => some ⟨[], cursor, false⟩
      | c :: rest =>
          if isGap c then some ⟨[], cursor, false⟩
          else if c == quote then
            if quote == '\'' && rest.head? == some '\'' then onward '\'' (cursor.skip 2)
            else some ⟨[], cursor, false⟩
          else if quote == '"' && c == '\\' then
            if rest.head?.any isBreak then
              (cursor.need? 3).map fun cursor => ⟨[], cursor.skip 2, true⟩
            else
              let (value, count) ← escape? rest
              onward value (← skipEscape? count cursor)
          else onward c cursor.step

/-- Reads a quoted scalar behind its opening quote.  `fuel` bounds the number of words. -/
def quotedFrom? (quote : Char) : Nat → Cursor → Option Reading
  | 0, _ => none
  | fuel + 1, cursor => do
      let cursor ← cursor.need? 4
      if cursor.atDocumentMark || cursor.rest.isEmpty then none
      else
        let word ← quotedWord? quote cursor.rest.length cursor
        if word.behind.startsWith quote then return ⟨word.text, word.behind.step, false⟩
        let (gap, behind) ← readGap? 0 { broken := word.broken } word.behind
        let further ← quotedFrom? quote fuel behind
        return { further with text := word.text ++ gap.text ++ further.text }

/-- Reads a quoted scalar. -/
def quoted? (quote : Char) (cursor : Cursor) : Option Reading :=
  quotedFrom? quote (cursor.rest.length + 1) cursor.step

/-! ## Blocks -/

/-- What becomes of the line breaks at the end of a block. -/
inductive Chomping
  | strip
  | clip
  | keep
  deriving DecidableEq, Repr, Inhabited

/-- The chomping at the start of a text. -/
def chomping? : List Char → Option Chomping
  | '+' :: _ => some .keep
  | '-' :: _ => some .strip
  | _ => none

/-- The digit at the start of a text. -/
def indentDigit? (text : List Char) : Option Nat :=
  text.head?.bind fun c => if c.isDigit then Numeral.digitValue? c else none

/-- The marks behind the first mark of a block: chomping, added indentation if it is given, and
the place behind them. -/
def blockMarks? (cursor : Cursor) : Option (Chomping × Option Nat × Cursor) := do
  let cursor ← cursor.need? 1
  match chomping? cursor.rest with
  | some chomping =>
      let cursor ← cursor.step.need? 1
      match indentDigit? cursor.rest with
      | some digit => return (chomping, some digit, cursor.step)
      | none => return (chomping, none, cursor)
  | none =>
      match indentDigit? cursor.rest with
      | some digit =>
          let cursor ← cursor.step.need? 1
          match chomping? cursor.rest with
          | some chomping => return (chomping, some digit, cursor.step)
          | none => return (.clip, some digit, cursor)
      | none => return (.clip, none, cursor)

/-- Lines of nothing but indentation: the deepest column that they reach, their line breaks, and
the place behind them and the indentation that follows.  Without an `indent` all spaces are
indentation, and a tab in it is refused.  `fuel` bounds the number of lines. -/
def blankLines? (indent : Option Nat) : Nat → Cursor → Option (Nat × List Char × Cursor)
  | 0, _ => none
  | fuel + 1, cursor => do
      let spaces := (cursor.rest.takeWhile (· == ' ')).length
      let cursor ← Cursor.walk? 1
        (indent.elim spaces fun indent => min spaces (indent - cursor.column)) cursor
      if cursor.startsWith '\t' && indent.all (cursor.column < ·) then none
      else
        match cursor.rest with
        | [] => return (cursor.column, [], cursor)
        | c :: _ =>
            if isBreak c then
              let (deepest, breaks, behind) ← blankLines? indent fuel (← cursor.passBreak?)
              return (max cursor.column deepest, breakText c ++ breaks, behind)
            else return (cursor.column, [], cursor)

/-- The text of a block while it is read. -/
structure Block where
  /-- The text up to the last line. -/
  text : List Char := []
  /-- The line break of the last line. -/
  last : List Char := []
  /-- The line breaks of the empty lines after it. -/
  empty : List Char := []
  /-- The last line starts with a blank. -/
  indented : Bool := false
  deriving Repr, Inhabited

/-- The block with one more line.  In a folded block the break between two lines becomes a space,
unless one of them starts with a blank or empty lines stand between them. -/
def Block.addLine (block : Block) (folded : Bool) (line last empty : List Char) : Block :=
  let indented := line.head?.any isBlank
  let joint :=
    if folded && !block.indented && !indented && block.last == ['\n'] then
      if block.empty.isEmpty then [' '] else []
    else block.last
  { text := block.text ++ joint ++ block.empty ++ line, last, empty, indented }

/-- Reads the lines of a block.  `fuel` bounds their number. -/
def blockLines? (folded : Bool) (indent : Nat) : Nat → Block → Cursor → Option (Block × Cursor)
  | 0, block, cursor => some (block, cursor)
  | fuel + 1, block, cursor =>
      if cursor.column == indent && !cursor.rest.isEmpty then do
        let (line, behind) ← cursor.takeWhile? (!isBreak ·)
        let last := (behind.rest.head?.map breakText).getD []
        let behind ← behind.passBreak?
        let (_, empty, behind) ← blankLines? (some indent) fuel behind
        blockLines? folded indent fuel (block.addLine folded line last empty) behind
      else some (block, cursor)

/-- Reads a block inside a collection that is indented by `parent`. -/
def block? (folded : Bool) (parent : Int) (cursor : Cursor) : Option Reading := do
  let (chomping, added, behind) ← blockMarks? cursor.step
  if added == some 0 then none
  let behind ← behind.endLine?
  let given := added.map fun added => (max 0 parent).toNat + added
  let (deepest, empty, behind) ← blankLines? given (behind.rest.length + 1) behind
  let indent := given.getD (max deepest (max 1 (parent + 1).toNat))
  let (block, behind) ← blockLines? folded indent (behind.rest.length + 1) { empty } behind
  let ending := match chomping with
    | .strip => []
    | .clip => block.last
    | .keep => block.last ++ block.empty
  return ⟨block.text ++ ending, behind, false⟩

end Yaml
end TableAssembler
