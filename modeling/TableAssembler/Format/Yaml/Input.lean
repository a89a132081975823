import TableAssembler.Text.Utf8

/-!
# YAML input

A stream of bytes becomes characters, chunk by chunk: each chunk has a bounded number of bytes and
starts at the first byte that is not decoded, since a character may lie across the bound.  A mark
at the start of the stream may tell that it is in one of the two byte orders of UTF-16; otherwise
it is in UTF-8.  A chunk with a malformed sequence or with a control character cannot be read at
all, but the chunks before it can.
-/

namespace TableAssembler
namespace Yaml

/-- The code point of a character that a stream may hold. -/
def isAllowed (point : Nat) : Bool :=
  let between (low high : Nat) : Bool := decide (low ≤ point) && decide (point ≤ high)
  point == 9 || point == 10 || point == 13 || between 0x20 0x7e || point == 0x85 ||
    between 0xa0 0xd7ff || between 0xe000 0xfffd || between 0x10000 0x10ffff

/-- The characters of a stream as far as they can be read. -/
structure Input where
  /-- The characters of the chunks. -/
  text : List Char := []
  /-- The number of characters of each chunk. -/
  chunks : List Nat := []
  /-- The stream ends behind the last chunk; otherwise a malformed chunk follows. -/
  complete : Bool := true
  deriving DecidableEq, Repr, Inhabited

namespace Input

/-- How characters are written in bytes. -/
inductive Encoding
  | utf8
  | utf16 (littleEndian : Bool)
  deriving DecidableEq, Repr, Inhabited

/-- What stands at the start of some bytes. -/
inductive Sequence
  /-- A character with its number of bytes less one. -/
  | character (point further : Nat)
  /-- The bytes end inside of a character. -/
  | unfinished
  | malformed
  deriving DecidableEq, Repr, Inhabited

/-- The character in UTF-8 at the start of some bytes. -/
def utf8Sequence (lead : UInt8) (rest : List UInt8) : Sequence :=
  match Utf8.width? lead.toNat with
  | none => .malformed
  | some width =>
      if (rest.take (width - 1)).length + 1 < width then .unfinished
      else
        match Utf8.sequence? lead rest with
        | some (point, further) => .character point further
        | none => .malformed

/-- The unit of two bytes. -/
def unit (littleEndian : Bool) (first second : UInt8) : Nat :=
  if littleEndian then second.toNat * 256 + first.toNat else first.toNat * 256 + second.toNat

/-- The unit is the first half of a pair. -/
def isHighSurrogate (unit : Nat) : Bool := unit / 1024 == 0x36

/-- The unit is the second half of a pair. -/
def isLowSurrogate (unit : Nat) : Bool := unit / 1024 == 0x37

/-- The character in UTF-16 at the start of some bytes. -/
def utf16Sequence (littleEndian : Bool) (lead : UInt8) (rest : List UInt8) : Sequence :=
  match rest with
  | [] => .unfinished
  | second :: rest =>
      let high := unit littleEndian lead second
      if isLowSurrogate high then .malformed
      else if !isHighSurrogate high then .character high 1
      else
        match rest with
        | third :: fourth :: _ =>
            let low := unit littleEndian third fourth
            if isLowSurrogate low then
              .character (0x10000 + high % 1024 * 1024 + low % 1024) 3
            else .malformed
        | _ => .unfinished

/-- The character at the start of some bytes; one that a stream may not hold is malformed. -/
def sequence (encoding : Encoding) (lead : UInt8) (rest : List UInt8) : Sequence :=
  let found := match encoding with
    | .utf8 => utf8Sequence lead rest
    | .utf16 littleEndian => utf16Sequence littleEndian lead rest
  match found with
  | .character point _ => if isAllowed point then found else .malformed
  | _ => found

/-- The number of bytes of a chunk. -/
def chunkSize : Nat := 512

/-- The greatest number of bytes behind the first one of a character. -/
def longestTail : Nat := 3

/-- The input with one more character at its start. -/
def addCharacter (input : Input) (point : Nat) : Input :=
  { input with text := Char.ofNat point :: input.text }

/-- The input with one more chunk at its start. -/
def addChunk (input : Input) (count : Nat) : Input :=
  { input with chunks := count :: input.chunks }

/-- What follows a chunk that is followed by no other. -/
def broken : Input := { complete := false }

/-- Reads on in a chunk that has room for some more bytes and holds some characters. -/
def readFrom (encoding : Encoding) (room count : Nat) : List UInt8 → Input
  | [] => ({} : Input).addChunk count
  | lead :: rest =>
      let whole := sequence encoding lead rest
      let inside :=
        if room = 0 then .unfinished
        else sequence encoding lead (rest.take (min longestTail (room - 1)))
      match inside, whole with
      | .character point further, _ =>
          (readFrom encoding (room - 1 - further) (count + 1) (rest.drop further)).addCharacter
            point
      | .malformed, _ => broken
      | .unfinished, .character point further =>
          ((readFrom encoding (chunkSize - 1 - further) 1 (rest.drop further)).addCharacter
            point).addChunk count
      | .unfinished, _ => broken.addChunk count
termination_by bytes => bytes.length
decreasing_by all_goals simp only [List.length_cons, List.length_drop]; omega

/-- The characters of a stream, without the mark of its encoding. -/
def ofBytes : List UInt8 → Input
  | 0xff :: 0xfe :: rest => readFrom (.utf16 true) (chunkSize - 2) 0 rest
  | 0xfe :: 0xff :: rest => readFrom (.utf16 false) (chunkSize - 2) 0 rest
  | 0xef :: 0xbb :: 0xbf :: rest => readFrom .utf8 (chunkSize - 3) 0 rest
  | bytes => readFrom .utf8 chunkSize 0 bytes

end Input
end Yaml
end TableAssembler
