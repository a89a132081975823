import TableAssembler.Encoding.Instruction

/-!
# Images

An image is the bytes of a program, with a record of the statement that emitted each part.
-/

namespace TableAssembler

/-- The bytes that one statement emitted. -/
structure Record where
  /-- Where the statement stands. -/
  location : Location := {}
  /-- Its mnemonic in lower case. -/
  mnemonic : String := ""
  /-- Its text. -/
  text : String := ""
  /-- Offset of its first byte in the image. -/
  offset : Nat := 0
  /-- Number of its bytes. -/
  size : Nat := 0
  deriving DecidableEq, Repr, Inhabited

namespace Record

/-- The record of a statement whose bytes start at an offset. -/
def ofCode (statement : Statement) (offset : Nat) (code : List UInt8) : Record :=
  { location := statement.location
    mnemonic := statement.mnemonic
    text := statement.render
    offset
    size := code.length }

/-- The record covers the byte at an offset. -/
def covers (record : Record) (offset : Int) : Bool :=
  decide ((record.offset : Int) ≤ offset) && decide (offset < record.offset + record.size)

end Record

/-- An assembled program. -/
structure Image where
  /-- The bytes of all statements. -/
  bytes : List UInt8 := []
  /-- The statements in order. -/
  records : List Record := []
  deriving DecidableEq, Repr, Inhabited

namespace Image

/-! ## Generation -/

/-- The image of statements whose bytes start at an offset. -/
def generateFrom (set : InstructionSet) : Nat → List Statement → Except Fault Image
  | _, [] => .ok {}
  | offset, statement :: rest => do
      let code ← Encoding.encode set statement
      let image ← generateFrom set (offset + code.length) rest
      .ok
        { bytes := code ++ image.bytes
          records := Record.ofCode statement offset code :: image.records }

/-- The image of a program whose labels are resolved. -/
def generate (set : InstructionSet) (statements : List Statement) : Except Fault Image :=
  generateFrom set 0 statements

/-! ## Questions about an image -/

/-- The record of the byte at an offset, with the index of the byte in it. -/
def find? (image : Image) (offset : Int) : Option (Record × Int) :=
  (image.records.find? (·.covers offset)).map fun record => (record, offset - record.offset)

/-- The bytes of a record. -/
def slice (image : Image) (record : Record) : List UInt8 :=
  (image.bytes.drop record.offset).take record.size

/-- The records with their bytes. -/
def code (image : Image) : List (Record × List UInt8) :=
  image.records.map fun record => (record, image.slice record)

/-! ## Listing -/

/-- Bytes in hexadecimal with blanks between them. -/
def spaced (bytes : List UInt8) : String := " ".intercalate (Numeral.hexBytes bytes)

/-- The number of columns that bytes have in a listing. -/
def bytesColumn : Nat := 24

/-- A line of a listing: offset, bytes, location and text. -/
def listingLine (record : Record) (code : List UInt8) : String :=
  let bytes := spaced code
  Numeral.hex 4 record.offset ++ "  " ++ bytes ++
    String.ofList (List.replicate (bytesColumn - bytes.length) ' ') ++ " " ++
    record.location.render ++ "\t" ++ record.text ++ "\n"

/-- The lines of a listing, one for each record; each of them is written by itself. -/
def listing (image : Image) : List String :=
  image.code.map fun (record, code) => listingLine record code

/-! ## Entries -/

/-- The entry about the bytes of a statement. -/
def codeEntry (record : Record) (code : List UInt8) : Log.Entry :=
  { level := .debug
    message := spaced code ++ "\t" ++ record.text
    fields :=
      [("offset", "0x" ++ Numeral.hex 4 record.offset), ("location", record.location.render)] }

/-- The entries that generating from an offset leaves. -/
def entriesFrom (set : InstructionSet) (verbose : Bool) : Nat → List Statement → List Log.Entry
  | _, [] => []
  | offset, statement :: rest =>
      Encoding.warnings set statement ++
        match Encoding.encode set statement with
        | .ok code =>
            (if verbose then [codeEntry (Record.ofCode statement offset code) code] else []) ++
              entriesFrom set verbose (offset + code.length) rest
        | .error _ => []

/-- The entries that generating an image leaves. -/
def entries (set : InstructionSet) (verbose : Bool) (statements : List Statement) :
    List Log.Entry :=
  entriesFrom set verbose 0 statements

end Image
end TableAssembler
