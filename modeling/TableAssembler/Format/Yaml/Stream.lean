import TableAssembler.Format.Yaml.Scalar
import TableAssembler.Format.Yaml.Token

/-!
# YAML token streams

A stream turns text into tokens on demand.  It follows the indentation of blocks and the nesting
of brackets, and it remembers where a key could start: only the colon behind it shows that it was
one, and the tokens of the key are then put in before it.
-/

namespace TableAssembler
namespace Yaml

/-- A place where a key could start. -/
structure KeyStart where
  /-- The key is still possible. -/
  possible : Bool := false
  /-- The block holds nothing but keys in this column. -/
  required : Bool := false
  /-- The number of the token that starts the key. -/
  number : Nat := 0
  /-- The line of the key. -/
  line : Nat := 0
  /-- The column of the key. -/
  column : Nat := 0
  deriving DecidableEq, Repr, Inhabited

/-- The greatest number of characters from the start of a key to its colon. -/
def longestKey : Nat := 1024

/-- The number of characters in which a comment is looked for. -/
def commentReach : Nat := 512

/-- Text that becomes tokens. -/
structure Stream where
  /-- The place up to which the text is read. -/
  cursor : Cursor
  /-- The tokens that are read and not yet used. -/
  queue : List Token := []
  /-- The number of tokens that are used. -/
  used : Nat := 0
  /-- The column of the innermost block, below zero outside of all blocks. -/
  indent : Int := -1
  /-- The columns of the blocks around it, the innermost first. -/
  outer : List Int := []
  /-- A key may start at the next token. -/
  keyAllowed : Bool := true
  /-- The number of brackets around the next token. -/
  depth : Nat := 0
  /-- The last possible key inside each bracket, the innermost bracket first; the last one lies
  outside of all brackets. -/
  keys : List KeyStart := [{}]
  /-- The tokens that may start a key, with the number of brackets around them. -/
  pending : List (Nat × Nat) := []
  /-- The number of characters of the whole text, which bounds the number of tokens and lines. -/
  size : Nat := 0
  deriving Repr, Inhabited

namespace Stream

/-- The stream stands between brackets. -/
def inFlow (stream : Stream) : Bool := decide (0 < stream.depth)

/-- The number of the next token. -/
def nextNumber (stream : Stream) : Nat := stream.used + stream.queue.length

/-- The stream with one more token at its end. -/
def push (stream : Stream) (token : Token) : Stream :=
  { stream with queue := stream.queue ++ [token] }

/-- The stream with one more token before the one with a number, or at its end when that one is
used. -/
def insert (stream : Stream) (number : Nat) (token : Token) : Stream :=
  if number < stream.used then stream.push token
  else
    let (front, back) := stream.queue.splitAt (number - stream.used)
    { stream with queue := front ++ token :: back }

/-- The stream with another place. -/
def moveTo (stream : Stream) (cursor : Cursor) : Stream := { stream with cursor }

/-- The stream with one more token, whose text has some characters. -/
def accept (stream : Stream) (count : Nat) (token : Token) : Stream :=
  (stream.moveTo (stream.cursor.skip count)).push token

/-! ## Keys -/

/-- The key can still end on its line. -/
def reaches (cursor : Cursor) (key : KeyStart) : Bool :=
  decide (cursor.line ≤ key.line) && decide (cursor.column ≤ key.column + longestKey)

/-- The key start with some number of brackets around it. -/
def keyAt? (stream : Stream) (depth : Nat) : Option KeyStart :=
  if depth ≤ stream.depth then stream.keys[stream.depth - depth]? else none

/-- The stream with another key start under some number of brackets. -/
def setKey (stream : Stream) (depth : Nat) (key : KeyStart) : Stream :=
  { stream with keys := stream.keys.set (stream.depth - depth) key }

/-- Whether a key start is still possible, as the stream then knows it.  A required key that cannot
end any more is a fault. -/
def check? (stream : Stream) (depth : Nat) : Option (Bool × Stream) :=
  match stream.keyAt? depth with
  | none => some (false, stream)
  | some key =>
      if !key.possible then some (false, stream)
      else if reaches stream.cursor key then some (true, stream)
      else if key.required then none
      else some (false, stream.setKey depth { key with possible := false })

/-- The stream without a token among those that may start a key. -/
def forget (stream : Stream) (number : Nat) : Stream :=
  { stream with pending := stream.pending.filter (·.1 != number) }

/-- Gives up the innermost key start; a required one is a fault. -/
def dropKey? (stream : Stream) : Option Stream :=
  match stream.keyAt? stream.depth with
  | none => some stream
  | some key =>
      if !key.possible then some stream
      else if key.required then none
      else some ((stream.setKey stream.depth { key with possible := false }).forget key.number)

/-- Notes that a key may start at the next token. -/
def saveKey? (stream : Stream) : Option Stream :=
  if !stream.keyAllowed then some stream
  else do
    let cursor := stream.cursor
    let key : KeyStart :=
      { possible := true
        required := !stream.inFlow && stream.indent == cursor.column
        number := stream.nextNumber
        line := cursor.line
        column := cursor.column }
    let stream ← stream.dropKey?
    let stream := (stream.setKey stream.depth key).forget key.number
    return { stream with pending := (key.number, stream.depth) :: stream.pending }

/-- The stream where a key may or may not start next. -/
def allowKey (stream : Stream) (keyAllowed : Bool) : Stream := { stream with keyAllowed }

/-! ## Blocks and brackets -/

/-- Opens a block in a column, unless one is open there; its token comes before the token with a
number, or at the end. -/
def openBlock (stream : Stream) (column : Nat) (number? : Option Nat) (token : Token) : Stream :=
  if stream.inFlow || decide ((column : Int) ≤ stream.indent) then stream
  else
    let stream := match number? with
      | some number => stream.insert number token
      | none => stream.push token
    { stream with indent := column, outer := stream.indent :: stream.outer }

/-- Closes the blocks to the right of a column. -/
def closeBlocks (stream : Stream) (column : Int) : Stream :=
  if stream.inFlow then stream
  else
    let blocks := stream.indent :: stream.outer
    let closed := blocks.takeWhile (column < ·)
    let left := blocks.drop closed.length
    { stream with
      queue := stream.queue ++ closed.map fun _ => Token.blockEnd
      indent := left.headD (-1)
      outer := left.drop 1 }

/-- Opens a bracket. -/
def openBracket? (stream : Stream) (token : Token) : Option Stream := do
  let stream ← stream.saveKey?
  let stream :=
    { stream with
      depth := stream.depth + 1
      keys := { number := stream.nextNumber } :: stream.keys }
  return (stream.allowKey true).accept 1 token

/-- Closes a bracket. -/
def closeBracket? (stream : Stream) (token : Token) : Option Stream := do
  let stream ← stream.dropKey?
  let stream := match stream.keys with
    | key :: next :: rest =>
        { stream.forget key.number with depth := stream.depth - 1, keys := next :: rest }
    | _ => stream
  return (stream.allowKey false).accept 1 token

/-! ## Tokens -/

/-- Ends all blocks and keys before something that belongs to no document. -/
def leave? (stream : Stream) : Option Stream :=
  (stream.closeBlocks (-1)).dropKey?.map (·.allowKey false)

/-- The token at the end of the text. -/
def readEnd? (stream : Stream) : Option Stream := do
  let cursor := stream.cursor
  let cursor := if cursor.column == 0 then cursor
    else { cursor with column := 0, line := cursor.line + 1 }
  let stream ← (stream.moveTo cursor).leave?
  return stream.push .streamEnd

/-- The token of a directive. -/
def readDirective? (stream : Stream) : Option Stream := do
  let stream ← stream.leave?
  let (token, behind) ← Token.directive? stream.cursor
  return (stream.moveTo behind).push token

/-- The token of a mark between documents. -/
def readDocumentMark? (stream : Stream) (token : Token) : Option Stream := do
  let stream ← stream.leave?
  return stream.accept 3 token

/-- The token of a comma. -/
def readFlowEntry? (stream : Stream) : Option Stream := do
  let stream ← stream.dropKey?
  return (stream.allowKey true).accept 1 .flowEntry

/-- The token of a hyphen before an item. -/
def readBlockEntry? (stream : Stream) : Option Stream := do
  if !stream.inFlow && !stream.keyAllowed then none
  let stream := stream.openBlock stream.cursor.column none .blockSequenceStart
  let stream ← stream.dropKey?
  return (stream.allowKey true).accept 1 .blockEntry

/-- The token of a question mark before a key. -/
def readKey? (stream : Stream) : Option Stream := do
  if !stream.inFlow && !stream.keyAllowed then none
  let stream := stream.openBlock stream.cursor.column none .blockMappingStart
  let stream ← stream.dropKey?
  return (stream.allowKey (!stream.inFlow)).accept 1 .key

/-- The token of a colon before a value. -/
def readValue? (stream : Stream) : Option Stream := do
  let (valid, stream) ← stream.check? stream.depth
  match valid, stream.keyAt? stream.depth with
  | true, some key =>
      let stream := stream.insert key.number .key
      let stream := stream.openBlock key.column (some key.number) .blockMappingStart
      let stream := (stream.setKey stream.depth { key with possible := false }).forget key.number
      return (stream.allowKey false).accept 1 .value
  | _, _ =>
      if !stream.inFlow && !stream.keyAllowed then none
      let stream := stream.openBlock stream.cursor.column none .blockMappingStart
      return (stream.allowKey (!stream.inFlow)).accept 1 .value

/-- The token of an anchor or an alias. -/
def readName? (stream : Stream) (token : String → Token) : Option Stream := do
  let stream ← stream.saveKey?
  let (name, behind) ← Token.name? stream.cursor
  return ((stream.allowKey false).moveTo behind).push (token name)

/-- The token of a tag. -/
def readTag? (stream : Stream) : Option Stream := do
  let stream ← stream.saveKey?
  let (token, behind) ← Token.tag? stream.cursor
  return ((stream.allowKey false).moveTo behind).push token

/-- The token of a block of lines. -/
def readBlock? (stream : Stream) (folded : Bool) : Option Stream := do
  let stream ← stream.dropKey?
  let reading ← block? folded stream.indent stream.cursor
  return ((stream.allowKey true).moveTo reading.behind).push
    (.scalar (String.ofList reading.text) false)

/-- The token of a quoted scalar. -/
def readQuoted? (stream : Stream) (quote : Char) : Option Stream := do
  let stream ← stream.saveKey?
  let reading ← quoted? quote stream.cursor
  return ((stream.allowKey false).moveTo reading.behind).push
    (.scalar (String.ofList reading.text) false)

/-- The token of a plain scalar. -/
def readPlain? (stream : Stream) : Option Stream := do
  let stream ← stream.saveKey?
  let reading ← plain? stream.inFlow (stream.indent + 1).toNat stream.cursor
  return ((stream.allowKey reading.broken).moveTo reading.behind).push
    (.scalar (String.ofList reading.text) true)

/-! ## Between tokens -/

/-- The place behind a comment and the comments on the lines after it, with nothing but blanks and
line feeds between them.  `fuel` bounds the number of comments. -/
def skipComments? : Nat → Cursor → Option Cursor
  | 0, cursor => some cursor
  | fuel + 1, cursor => do
      let cursor ← cursor.dropWhile? (!isBreak ·)
      let gap := cursor.rest.takeWhile fun c => isBlank c || isFeed c
      let next := (cursor.rest.drop gap.length).head?
      let cursor ← cursor.need? (min commentReach (gap.length + if next.any isBreak then 2 else 1))
      if next == some '#' && gap.head?.any isFeed && gap.length < commentReach then
        let (_, cursor) ← readGap? 0 {} cursor
        skipComments? fuel cursor
      else return cursor

/-- Passes blanks, comments and line breaks up to the next token.  A tab is a blank where no key
may start.  Where the loaded text starts with a byte order mark, the first character of a line is
passed, whatever it is.  `fuel` bounds the number of lines. -/
def skipGap? : Nat → Stream → Option Stream
  | 0, stream => some stream
  | fuel + 1, stream => do
      let tabs := stream.inFlow || !stream.keyAllowed
      let cursor ← stream.cursor.need? 1
      let cursor := if cursor.marked && cursor.column == 0 then cursor.pass else cursor
      let cursor ← cursor.dropWhile? fun c => c == ' ' || (tabs && c == '\t')
      let cursor ←
        if cursor.startsWith '#' then skipComments? (stream.size + 1) cursor else some cursor
      if cursor.rest.head?.any isBreak then
        skipGap? fuel
          ((stream.moveTo (← cursor.passBreak?)).allowKey (!stream.inFlow || stream.keyAllowed))
      else return stream.moveTo cursor

/-- Passes a comment on the line of the last token. -/
def skipLineComment? (stream : Stream) : Option Stream := do
  let cursor := stream.cursor
  if cursor.breaks != 0 then return stream
  let blanks := (cursor.rest.takeWhile isBlank).length
  let cursor ← cursor.need? (min commentReach (blanks + 1))
  if blanks < commentReach && (cursor.rest.drop blanks).head? == some '#' then
    let cursor ← cursor.dropWhile? isBlank
    return stream.moveTo (← cursor.dropWhile? (!isBreak ·))
  else return stream.moveTo cursor

/-- Reads the token at the cursor, where the text goes on and no document starts or ends. -/
def readToken? (stream : Stream) : Option Stream :=
  match stream.cursor.rest with
  | [] => none
  | c :: rest =>
      if c == '[' then stream.openBracket? .flowSequenceStart
      else if c == '\x7b' then stream.openBracket? .flowMappingStart
      else if c == ']' then stream.closeBracket? .flowSequenceEnd
      else if c == '\x7d' then stream.closeBracket? .flowMappingEnd
      else if c == ',' then stream.readFlowEntry?
      else if c == '-' && endsWord rest then stream.readBlockEntry?
      else if c == '?' && (stream.inFlow || endsWord rest) then stream.readKey?
      else if c == ':' && (stream.inFlow || endsWord rest) then stream.readValue?
      else if c == '*' then stream.readName? .reference
      else if c == '&' then stream.readName? .anchor
      else if c == '!' then stream.readTag?
      else if c == '|' && !stream.inFlow then stream.readBlock? false
      else if c == '>' && !stream.inFlow then stream.readBlock? true
      else if c == '\'' || c == '"' then stream.readQuoted? c
      else if startsPlain stream.inFlow stream.cursor.rest then stream.readPlain?
      else none

/-- Reads one more token. -/
def read? (stream : Stream) : Option Stream := do
  let stream ← skipGap? (stream.size + 1) stream
  let stream := stream.closeBlocks stream.cursor.column
  let cursor ← stream.cursor.need? 4
  let stream := stream.moveTo cursor
  if cursor.rest.isEmpty then stream.readEnd?
  else if cursor.column == 0 && cursor.startsWith '%' then stream.readDirective?
  else if cursor.atMark '-' then stream.readDocumentMark? .documentStart
  else if cursor.atMark '.' then stream.readDocumentMark? .documentEnd
  else
    let stream ← stream.readToken?
    if stream.queue.getLast? == some .blockEntry then return stream else stream.skipLineComment?

/-! ## Use -/

/-- The stream of an input. -/
def ofInput (input : Input) : Stream :=
  { cursor := .ofInput input, size := input.text.length }

/-- The number of tokens that are read ahead. -/
def lookahead : Nat := 3

/-- Reads until enough tokens are there and the first one is known to start a key or not.  `fuel`
bounds the number of tokens. -/
def fill? : Nat → Stream → Option Stream
  | 0, stream => some stream
  | fuel + 1, stream =>
      if stream.queue.length < lookahead then stream.read?.bind (fill? fuel)
      else
        match stream.pending.lookup stream.used with
        | none => some stream
        | some depth => do
            let (possible, stream) ← stream.check? depth
            if possible then stream.read?.bind (fill? fuel) else return stream

/-- The next token, which stays in the stream. -/
def peek? (stream : Stream) : Option (Token × Stream) := do
  let stream ← fill? (stream.size + lookahead + 1) stream
  return (← stream.queue.head?, stream)

/-- The stream behind the next token. -/
def next (stream : Stream) : Stream :=
  { stream with queue := stream.queue.drop 1, used := stream.used + 1 }

end Stream
end Yaml
end TableAssembler
