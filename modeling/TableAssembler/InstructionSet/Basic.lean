import TableAssembler.InstructionSet.Config
import TableAssembler.InstructionSet.Directive
import TableAssembler.InstructionSet.Template

/-!
# Instruction sets

A compiled instruction set holds its tables, the fields of its instructions, and the sources of
its pseudo-instructions.  Instructions are compiled in ascending order of their names, so that the
first fault does not depend on how the configuration lists them.
-/

namespace TableAssembler

/-- The number of bytes that hold an encoding: 1, 2, 4 or 8, and zero when none of them does. -/
def groupSize (bits : Int) : Nat :=
  if bits ≤ 0 then 0
  else if bits ≤ 8 then 1
  else if bits ≤ 16 then 2
  else if bits ≤ 32 then 4
  else if bits ≤ 64 then 8
  else 0

/-- A compiled instruction. -/
structure Instruction where
  /-- Mnemonic in lower case. -/
  name : String
  /-- The template it was compiled from. -/
  template : String
  /-- Fields from left to right. -/
  fields : List Field
  deriving DecidableEq, Repr, Inhabited

namespace Instruction

/-- The number of bits of the encoding. -/
def bits (instruction : Instruction) : Int := Field.totalSize instruction.fields

/-- The number of bytes that the bits fill, the last one perhaps in part. -/
def size (instruction : Instruction) : Int := (Numeral.wrap (instruction.bits + 7)).tdiv 8

/-- The number of bytes that are emitted. -/
def encodedSize (instruction : Instruction) : Nat := groupSize instruction.bits

end Instruction

/-- A compiled instruction set. -/
structure InstructionSet where
  /-- Tables in the letter case they are looked up by. -/
  tables : Tables
  /-- Instructions with different names. -/
  instructions : List Instruction
  /-- Bodies under the headers of pseudo-instructions. -/
  pseudo : Dictionary String
  deriving DecidableEq, Repr, Inhabited

namespace InstructionSet

/-- The instruction with a mnemonic in lower case. -/
def find? (set : InstructionSet) (mnemonic : String) : Option Instruction :=
  set.instructions.find? (·.name == mnemonic)

/-- The instruction with a mnemonic; letter case does not matter. -/
def instruction? (set : InstructionSet) (mnemonic : String) : Option Instruction :=
  set.find? (Text.lower mnemonic)

/-- Adds an instruction to a set. -/
def add (set : InstructionSet) (name template : String) : Except Cause InstructionSet :=
  let mnemonic := Text.lower name
  if Directive.isDirective mnemonic then .error (.reservedInstruction mnemonic)
  else if (set.find? mnemonic).isSome then .error (.duplicateInstruction mnemonic)
  else do
    let fields ← Template.compile mnemonic template set.tables
    return { set with instructions := set.instructions ++ [{ name := mnemonic, template, fields }] }

/-- Compiles a configuration. -/
def compile (config : Config) : Except Cause InstructionSet :=
  (Dictionary.sorted config.instructions).foldlM
    (fun set entry => set.add entry.1 entry.2)
    { tables := config.tables.normalize
      instructions := []
      pseudo := Dictionary.sorted config.pseudo }

/-- The number of bytes that an instruction emits. -/
def encodedSize (set : InstructionSet) (mnemonic : String) : Except Cause Nat :=
  match set.instruction? mnemonic with
  | none => .error (.unknownInstruction mnemonic)
  | some instruction =>
      if instruction.encodedSize = 0 then .error (.encodingTooWide instruction.bits)
      else .ok instruction.encodedSize

/-- The names of the instructions in ascending order. -/
def instructionNames (set : InstructionSet) : List String :=
  Dictionary.names (Dictionary.sorted (set.instructions.map fun instruction =>
    (instruction.name, instruction.template)))

/-- All that a program can name: directives, instructions, and headers of pseudo-instructions. -/
def mnemonics (set : InstructionSet) : List String :=
  Directive.all ++ set.instructionNames ++ Dictionary.names (Dictionary.sorted set.pseudo)

end InstructionSet
end TableAssembler
