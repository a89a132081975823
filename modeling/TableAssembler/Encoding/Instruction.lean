import TableAssembler.Encoding.Data
import TableAssembler.Log

/-!
# Encoding of instructions

The fields of an instruction take its arguments from left to right, one for each field that is not
constant.  Arguments that are left over are reported and change nothing.  An optional field without
an argument is so many zeros as it is wide.  A width can be negative, and asking for that many
zeros is a panic; any other number of zeros is taken to find its room.
-/

namespace TableAssembler
namespace Encoding

/-- A value in the bits of its field; the argument it came from is at a location. -/
def fit (location : Location) (width : Int) (value : UInt64) : Except Fault Piece :=
  if (Numeral.bitLength value.toNat : Int) ≤ width then .ok (Piece.ofValue width value)
  else .error (.located location (.valueTooWide value width))

/-- The value of a symbol argument. -/
def symbolValue (tables : Tables) (tag : String) (arg : Lexeme) : Except Fault UInt64 :=
  if arg.kind = .identifier then
    (tables.value tag arg.value).mapError (.located arg.location)
  else .error (.located arg.location (.identifierExpected arg.kind))

/-- Encodes one field of a statement at a location, and gives back the arguments it leaves. -/
def encodeField (tables : Tables) (location : Location) :
    Field → List Lexeme → Except Fault (Piece × List Lexeme)
  | .constant bits, args => .ok ({ digits := bits }, args)
  | .symbol _ _, [] => .error (.located location .symbolMissing)
  | .symbol tag width, arg :: rest => do
      let value ← symbolValue tables tag arg
      let piece ← fit arg.location width value
      return (piece, rest)
  | .immediate _, [] => .error (.located location .immediateMissing)
  | .optional width, [] =>
      if 0 ≤ width then .ok ({ zeros := width.toNat }, [])
      else .error (.panicked .negativeRepeat)
  | .immediate width, arg :: rest | .optional width, arg :: rest => do
      let value ← number arg
      let piece ← fit arg.location width value
      return (piece, rest)

/-- Encodes the fields of a statement at a location, and gives back the arguments left over. -/
def encodeFields (tables : Tables) (location : Location) :
    List Field → List Lexeme → Except Fault (List Piece × List Lexeme)
  | [], args => .ok ([], args)
  | field :: fields, args => do
      let (piece, args) ← encodeField tables location field args
      let (pieces, args) ← encodeFields tables location fields args
      return (piece :: pieces, args)

/-- The bytes of an instruction of a set. -/
def encodeInstruction (set : InstructionSet) (instruction : Instruction) (statement : Statement) :
    Except Fault (List UInt8) := do
  let (pieces, _) ←
    encodeFields set.tables statement.location instruction.fields statement.args
  (pack pieces).mapError (.located statement.location)

/-- The bytes of a statement. -/
def encode (set : InstructionSet) (statement : Statement) : Except Fault (List UInt8) :=
  let mnemonic := statement.mnemonic
  if statement.kind ≠ .instruction then
    .error (.located statement.location (.unexpectedSource statement.render))
  else
    match Directive.data? mnemonic with
    | some data => encodeData data statement
    | none =>
        if mnemonic = Directive.origin then
          .error (.located statement.location (.directiveUnresolved mnemonic))
        else
          match set.instruction? mnemonic with
          | some instruction => encodeInstruction set instruction statement
          | none => .error (.located statement.location (.unknownInstruction mnemonic))

/-- The entry about the arguments that no field of the instruction takes. -/
def instructionWarnings (set : InstructionSet) (instruction : Instruction)
    (statement : Statement) : List Log.Entry :=
  match encodeFields set.tables statement.location instruction.fields statement.args with
  | .ok (_, arg :: rest) =>
      [Log.extraArguments arg.location.render statement.mnemonic (rest.length + 1)]
  | _ => []

/-- The entries that encoding a statement leaves. -/
def warnings (set : InstructionSet) (statement : Statement) : List Log.Entry :=
  if statement.kind ≠ .instruction ∨ Directive.isDirective statement.mnemonic then []
  else
    match set.instruction? statement.mnemonic with
    | some instruction => instructionWarnings set instruction statement
    | none => []

end Encoding
end TableAssembler
