/-!
# Writers

Texts are written one after another.  What they are written to may refuse one of them, and keep the
front of it all the same.  Nothing else is known of a writer: what it refuses can depend on
everything that it was given before.
-/

namespace TableAssembler

/-- Less is kept than there was to keep. -/
structure Refusal where
  /-- The number of bytes that are kept all the same. -/
  kept : Nat
  /-- Why no more of them are kept. -/
  reason : String
  deriving DecidableEq, Repr, Inhabited

/-- What is kept of a text that may be refused. -/
def Refusal.keep (refusal? : Option Refusal) (text : List UInt8) : List UInt8 :=
  match refusal? with
  | none => text
  | some refusal => text.take refusal.kept

/-- Something that texts are written to; without more said it takes them all. -/
structure Writer where
  /-- The answer to a text behind the ones that were given before, of which the latest is first. -/
  refuses? : List (List UInt8) → List UInt8 → Option Refusal := fun _ _ => none

/-- What has come of writing some texts. -/
structure Writing where
  /-- The bytes that were taken. -/
  bytes : List UInt8 := []
  /-- Why not all of them were taken. -/
  refused? : Option String := none
  deriving DecidableEq, Repr, Inhabited

namespace Writer

/-- Writes texts behind others, and stops at the first one that is refused. -/
def writeBehind (writer : Writer) : List (List UInt8) → List (List UInt8) → Writing
  | _, [] => {}
  | earlier, text :: rest =>
      match writer.refuses? earlier text with
      | some refusal => { bytes := text.take refusal.kept, refused? := some refusal.reason }
      | none =>
          let writing := writer.writeBehind (text :: earlier) rest
          { writing with bytes := text ++ writing.bytes }

/-- Writes texts, and stops at the first one that is refused. -/
def write (writer : Writer) (texts : List (List UInt8)) : Writing := writer.writeBehind [] texts

/-- The bytes that are taken when texts are written behind others without asking what is refused. -/
def attemptBehind (writer : Writer) : List (List UInt8) → List (List UInt8) → List UInt8
  | _, [] => []
  | earlier, text :: rest =>
      Refusal.keep (writer.refuses? earlier text) text ++
        writer.attemptBehind (text :: earlier) rest

/-- The bytes that are taken when texts are written without asking what is refused. -/
def attempt (writer : Writer) (texts : List (List UInt8)) : List UInt8 :=
  writer.attemptBehind [] texts

end Writer

/-- A file that is written and closed. -/
structure FileWriter extends Writer where
  /-- Why it cannot be opened, when its path does not tell. -/
  blocked? : Option String := none
  /-- The answer to closing it behind the bytes that it took. -/
  spoils? : List UInt8 → Option Refusal := fun _ => none

end TableAssembler
