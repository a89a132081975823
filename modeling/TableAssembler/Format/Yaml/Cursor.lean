import TableAssembler.Format.Yaml.Input

/-!
# Positions in a YAML stream

A cursor stands before a character and knows its line and column.  It also counts the line breaks
since the last character that is no blank.  Text is loaded only when it is needed, whole chunks at
a time, so that a malformed chunk does no harm to what can be read without it.
-/

namespace TableAssembler
namespace Yaml

/-- A space or a tab. -/
def isBlank (c : Char) : Bool := c == ' ' || c == '\t'

/-- The separators of lines and of paragraphs, which are kept as they are. -/
def isSeparator (c : Char) : Bool := c.toNat == 0x2028 || c.toNat == 0x2029

/-- A line feed or a carriage return. -/
def isFeed (c : Char) : Bool := c == '\n' || c == '\r'

/-- A character that ends a line. -/
def isBreak (c : Char) : Bool := isFeed c || c.toNat == 0x85 || isSeparator c

/-- A blank or a line break. -/
def isGap (c : Char) : Bool := isBlank c || isBreak c

/-- The text that a line break stands for. -/
def breakText (c : Char) : List Char := if isSeparator c then [c] else ['\n']

/-- A word ends before this text. -/
def endsWord (text : List Char) : Bool := text.head?.all isGap

/-- A line ends before this text. -/
def endsLine (text : List Char) : Bool := text.head?.all isBreak

/-- A letter, a digit, an underscore or a hyphen. -/
def isNameChar (c : Char) : Bool := c.isAlphanum || c == '_' || c == '-'

/-- The character that can mark the start of a text. -/
def byteOrderMark : Char := Char.ofNat 0xfeff

/-- A place in a stream. -/
structure Cursor where
  /-- The text from here on. -/
  rest : List Char
  /-- The number of lines before this one. -/
  line : Nat := 0
  /-- The number of characters before this one on its line. -/
  column : Nat := 0
  /-- The number of line breaks since the last character that is no blank. -/
  breaks : Nat := 0
  /-- The number of characters from here on that are loaded; the end of the stream counts too. -/
  loaded : Nat := 0
  /-- The number of characters of each chunk that is not loaded. -/
  chunks : List Nat := []
  /-- The stream ends behind the last chunk; otherwise a malformed chunk follows. -/
  complete : Bool := true
  /-- The loaded text started with a byte order mark when it was last loaded. -/
  marked : Bool := false
  deriving DecidableEq, Repr, Inhabited

namespace Cursor

/-- The start of a stream. -/
def ofInput (input : Input) : Cursor :=
  { rest := input.text, chunks := input.chunks, complete := input.complete }

/-! ## Loading -/

/-- Loads chunks until some number of characters are there or the stream ends: the number that are
there then, and the chunks that are left. -/
def loadChunks? (complete : Bool) (count : Nat) : List Nat → Nat → Option (Nat × List Nat)
  | [], loaded => if complete then some (loaded + 1, []) else none
  | size :: chunks, loaded =>
      if count ≤ loaded + size then some (loaded + size, chunks)
      else loadChunks? complete count chunks (loaded + size)

/-- The same place with some number of characters loaded; none when a malformed chunk would have to
be loaded for that. -/
def need? (cursor : Cursor) (count : Nat) : Option Cursor :=
  if count ≤ cursor.loaded then some cursor
  else
    (loadChunks? cursor.complete count cursor.chunks cursor.loaded).map fun (loaded, chunks) =>
      { cursor with loaded, chunks, marked := cursor.rest.head? == some byteOrderMark }

theorem rest_of_need? {cursor found : Cursor} {count : Nat}
    (loads : cursor.need? count = some found) : found.rest = cursor.rest := by
  unfold need? at loads
  split at loads
  · exact congrArg rest (Option.some.inj loads).symm
  · obtain ⟨_, _, rfl⟩ := Option.map_eq_some_iff.mp loads
    rfl

/-! ## Steps -/

/-- The place behind one character, which is taken for one inside of a line. -/
def pass (cursor : Cursor) : Cursor :=
  match cursor.rest with
  | [] => cursor
  | c :: rest =>
      { cursor with
        rest
        column := cursor.column + 1
        breaks := if isBlank c then cursor.breaks else 0
        loaded := cursor.loaded - 1 }

/-- The number of characters of the line break at the start of a text. -/
def breakSize : List Char → Nat
  | '\r' :: '\n' :: _ => 2
  | _ => 1

/-- The place behind one character or line break. -/
def step (cursor : Cursor) : Cursor :=
  if cursor.rest.head?.any isBreak then
    let size := breakSize cursor.rest
    { cursor with
      rest := cursor.rest.drop size
      line := cursor.line + 1
      column := 0
      breaks := cursor.breaks + 1
      loaded := cursor.loaded - size }
  else cursor.pass

theorem one_le_breakSize (text : List Char) : 1 ≤ breakSize text := by
  unfold breakSize
  split <;> simp

theorem length_rest_step_lt {cursor : Cursor} {c : Char} {rest : List Char}
    (nonempty : cursor.rest = c :: rest) : cursor.step.rest.length < cursor.rest.length := by
  have size := one_le_breakSize cursor.rest
  unfold step
  split
  · simp only [List.length_drop, nonempty, List.length_cons] at size ⊢
    omega
  · simp [pass, nonempty]

/-- The place behind some characters. -/
def skip (cursor : Cursor) (count : Nat) : Cursor :=
  count.repeat step cursor

/-- The place behind some characters, where at each of them and behind the last one some number of
characters are needed. -/
def walk? (need : Nat) : Nat → Cursor → Option Cursor
  | 0, cursor => cursor.need? need
  | count + 1, cursor => (cursor.need? need).bind fun cursor => walk? need count cursor.step

/-- The characters of a class from here on, and the place behind them. -/
def takeWhile? (cursor : Cursor) (holds : Char → Bool) : Option (List Char × Cursor) :=
  let taken := cursor.rest.takeWhile holds
  (walk? 1 taken.length cursor).map fun cursor => (taken, cursor)

/-- The place behind the characters of a class. -/
def dropWhile? (cursor : Cursor) (holds : Char → Bool) : Option Cursor :=
  (cursor.takeWhile? holds).map Prod.snd

/-- The character at the cursor is this one. -/
def startsWith (cursor : Cursor) (c : Char) : Bool := cursor.rest.head? == some c

/-- The place behind the line break at the cursor, if there is one. -/
def passBreak? (cursor : Cursor) : Option Cursor :=
  if cursor.rest.head?.any isBreak then (cursor.need? 2).map step else some cursor

/-- The place behind a line that has nothing but blanks and a comment left. -/
def endLine? (cursor : Cursor) : Option Cursor := do
  let cursor ← cursor.dropWhile? isBlank
  let cursor ← if cursor.startsWith '#' then cursor.dropWhile? (!isBreak ·) else some cursor
  if endsLine cursor.rest then cursor.passBreak? else none

/-- A line of three equal marks starts here. -/
def atMark (cursor : Cursor) (mark : Char) : Bool :=
  cursor.column == 0 && cursor.rest.take 3 == [mark, mark, mark] && endsWord (cursor.rest.drop 3)

/-- A document starts or ends here. -/
def atDocumentMark (cursor : Cursor) : Bool := cursor.atMark '-' || cursor.atMark '.'

end Cursor
end Yaml
end TableAssembler
