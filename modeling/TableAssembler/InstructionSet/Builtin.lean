import TableAssembler.InstructionSet.Basic

/-!
# The builtin instruction set

An accumulator machine with sixteen registers and one-byte instructions.  Loads of longer
constants, jumps and the missing logical operations are pseudo-instructions.
-/

namespace TableAssembler
namespace Builtin

/-- Registers by name and by number. -/
def registers : Dictionary UInt64 :=
  [("zero", 0), ("acc", 1), ("flg", 2), ("seg", 3), ("tr1", 4), ("tr2", 5), ("r0", 0), ("r1", 1),
    ("r2", 2), ("r3", 3), ("r4", 4), ("r5", 5), ("r6", 6), ("r7", 7), ("r8", 8), ("r9", 9),
    ("r10", 10), ("r11", 11), ("r12", 12), ("r13", 13), ("r14", 14), ("r15", 15)]

/-- Conditions of a branch. -/
def conditions : Dictionary UInt64 :=
  [("false", 0), ("true", 1), ("na", 2), ("a", 3), ("nb", 4), ("b", 5), ("even", 6), ("odd", 7),
    ("nzero", 8), ("zero", 9), ("nsign", 10), ("sign", 11), ("ncarry", 12), ("carry", 13),
    ("noverflow", 14), ("overflow", 15)]

/-- A template of one group and constant bits behind it. -/
def braced (group bits : String) : String := "\x7b" ++ group ++ "\x7d" ++ bits

/-- Templates of the instructions. -/
def instructions : Dictionary String :=
  [("ext", "00000  000"), ("swa", braced "R4" "   0 001"), ("add", braced "R4" "   0 010"),
    ("addi", braced "IMM4" " 0 011"), ("nand", braced "R4" "   0 100"),
    ("ld", braced "R4" "   0 101"), ("swa.f", braced "R4" "   1 001"),
    ("add.f", braced "R4" "   1 010"), ("addi.f", braced "IMM4" " 1 011"),
    ("nand.f", braced "R4" "   1 100"), ("ld.f", braced "R4" "   1 101"),
    ("st", braced "R4" "   0 110"), ("b", braced "C4" "   0 111")]

/-- A body with each statement on a line of its own. -/
def lines (statements : List String) : String :=
  "\n" ++ String.join (statements.map fun statement => "\t\t" ++ statement ++ "\n") ++ "\t"

/-- Headers and bodies of the pseudo-instructions. -/
def pseudo : Dictionary String :=
  [("nop", "b false"),
    ("lim imm",
      lines
        ["swa zero", "addi (((imm >> 4)+(( imm & 8 ) << 1)) & 0b00001111)", "add acc", "add acc",
          "add acc", "add acc", "addi (imm & 0b00001111)"]),
    ("lda src", lines ["swa zero", "add src"]),
    ("sta dest", lines ["swa dest", "swa zero", "add dest"]),
    ("mov dest, src", lines ["swa dest", "swa zero", "add src", "swa dest"]),
    ("not src", lines ["swa zero", "add src", "nand acc"]),
    ("and src", lines ["nand src", "nand acc"]),
    ("andi imm", lines ["swa tr1", "lim imm", "and tr1"]),
    ("or src", lines ["nand acc", "swa tr1", "not src", "nand tr1"]),
    ("ori imm", lines ["nand acc", "swa tr1", "lim imm", "nand tr1"]),
    ("xor src",
      lines
        ["swa tr1", "swa zero", "add src", "nand tr1", "swa tr1", "nand tr1", "swa tr1",
          "nand src", "nand tr1"]),
    ("xori imm", lines ["swa tr2", "lim imm", "xor tr2"]),
    ("sub src", lines ["swa tr1", "nand src", "addi 1", "add tr1"]),
    ("suba src", lines ["nand acc", "addi 1", "add src"]),
    ("brc cond, addr",
      lines
        ["lim ((addr >> 8) & 0xFF)", "swa seg", "lim (addr & 0xFF)", "b cond"]),
    ("jmp addr", lines ["brc true, addr"])]

/-- The configuration of the builtin set. -/
def config : Config :=
  { tables := [("R", registers), ("C", conditions)], instructions, pseudo }

end Builtin

/-- The compiled builtin instruction set. -/
def InstructionSet.builtin : Except Cause InstructionSet :=
  InstructionSet.compile Builtin.config

end TableAssembler
