import TableAssembler.InstructionSet.Builtin
import TableAssembler.Proofs.Assembly.Emission

/-!
# The builtin assembler

The bytes of the instructions that loads and jumps of the builtin set consist of, and the bodies of
these pseudo-instructions, written without places.  The builtin set compiles, and has them.
-/

namespace TableAssembler
namespace Builtin

/-! ## Bodies -/

/-- An identifier. -/
def word (name : String) : Lexeme := { value := name }

/-- A number as it is written. -/
def numeral (radix : Int) (digits : String) : Lexeme :=
  { value := digits, kind := .number, radix }

/-- A parenthesised expression. -/
def combine (left : Lexeme) (operator : String) (right : Lexeme) : Lexeme :=
  .ofOperation left { value := operator, kind := .operator } right {}

/-- An instruction at a location. -/
def statement (location : Location) (name : String) (args : List Lexeme) : Statement :=
  .instruction { value := name, location } args

/-- The operand of the first addition of `lim`.  The bit that is added for the sign of the other
one is masked out again. -/
def upperDigit (imm : Lexeme) : Lexeme :=
  combine
    (combine (combine imm ">>" (numeral 10 "4")) "+"
      (combine (combine imm "&" (numeral 10 "8")) "<<" (numeral 10 "1")))
    "&" (numeral 2 "00001111")

/-- The operand of the last addition of `lim`. -/
def lowerDigit (imm : Lexeme) : Lexeme := combine imm "&" (numeral 2 "00001111")

/-- The operand of the first load of `brc`. -/
def upperByte (addr : Lexeme) : Lexeme :=
  combine (combine addr ">>" (numeral 10 "8")) "&" (numeral 16 "FF")

/-- The operand of the second load of `brc`. -/
def lowerByte (addr : Lexeme) : Lexeme := combine addr "&" (numeral 16 "FF")

/-- The statements of `lim` for an operand. -/
def loadBody (location : Location) (imm : Lexeme) : List Statement :=
  [statement location "swa" [word "zero"], statement location "addi" [upperDigit imm],
    statement location "add" [word "acc"], statement location "add" [word "acc"],
    statement location "add" [word "acc"], statement location "add" [word "acc"],
    statement location "addi" [lowerDigit imm]]

/-- The statements of `brc` for its operands. -/
def branchBody (location : Location) (cond addr : Lexeme) : List Statement :=
  [statement location "lim" [upperByte addr], statement location "swa" [word "seg"],
    statement location "lim" [lowerByte addr], statement location "b" [cond]]

/-- The statement of `jmp` for its operand. -/
def jumpBody (location : Location) (addr : Lexeme) : List Statement :=
  [statement location "brc" [word "true", addr]]

/-! ## Code -/

/-- The byte of an instruction: its operand is the upper digit. -/
def byte (operation operand : Nat) : UInt8 := UInt8.ofNat (16 * operand + operation)

/-- The byte that exchanges the accumulator with a register. -/
def swa (register : Nat) : UInt8 := byte 1 register

/-- The byte that adds a register. -/
def add (register : Nat) : UInt8 := byte 2 register

/-- The byte that adds a digit. -/
def addi (digit : Nat) : UInt8 := byte 3 digit

/-- The byte that branches under a condition. -/
def branch (condition : Nat) : UInt8 := byte 7 condition

/-- The bytes of a load of two digits. -/
def loadCode (upper lower : Nat) : List UInt8 :=
  [swa 0, addi upper, add 1, add 1, add 1, add 1, addi lower]

/-- The bytes of a branch to an address of four digits. -/
def branchCode (condition upper lower upper' lower' : Nat) : List UInt8 :=
  loadCode upper lower ++ [swa 3] ++ loadCode upper' lower' ++ [branch condition]

/-- The instructions of a set have these bytes. -/
structure Codes (set : InstructionSet) : Prop where
  swa_zero : Encoding.encode set (statement {} "swa" [word "zero"]) = .ok [swa 0]
  swa_seg : Encoding.encode set (statement {} "swa" [word "seg"]) = .ok [swa 3]
  add_acc : Encoding.encode set (statement {} "add" [word "acc"]) = .ok [add 1]
  addi : ∀ digit < 16, Encoding.encode set
    (statement {} "addi" [.ofWord (UInt64.ofNat digit) {}]) = .ok [addi digit]
  branch : ∀ condition ∈ conditions, Encoding.encode set
    (statement {} "b" [word condition.1]) = .ok [branch condition.2.toNat]

/-- A library has a pseudo-instruction with the parameters, and with the body apart from places. -/
def Has (library : Library) (name : String) (formals : List String) (body : List Statement) :
    Prop :=
  ∃ pseudo ∈ library.find? name, pseudo.formals = formals ∧
    List.Forall₂ (Statement.Displaced .anywhere) body pseudo.body

/-- What is used of the builtin assembler. -/
structure Machine (assembler : Assembler) : Prop where
  codes : Codes assembler.set
  instructions : ∀ name ∈ ["swa", "add", "addi", "b"], assembler.library.find? name = none ∧
    Directive.isDirective name = false ∧ assembler.set.encodedSize name = .ok 1
  lim : Has assembler.library "lim" ["imm"] (loadBody {} (word "imm"))
  brc : Has assembler.library "brc" ["cond", "addr"] (branchBody {} (word "cond") (word "addr"))
  jmp : Has assembler.library "jmp" ["addr"] (jumpBody {} (word "addr"))

instance (library : Library) (name : String) (formals : List String) (body : List Statement) :
    Decidable (Has library name formals body) :=
  inferInstanceAs (Decidable (∃ pseudo ∈ library.find? name, _ ∧ _))

instance (set : InstructionSet) : Decidable (Codes set) :=
  decidable_of_iff (_ ∧ _ ∧ _ ∧ _ ∧ _)
    ⟨fun ⟨zero, seg, acc, addi, branch⟩ => ⟨zero, seg, acc, addi, branch⟩,
      fun ⟨zero, seg, acc, addi, branch⟩ => ⟨zero, seg, acc, addi, branch⟩⟩

instance (assembler : Assembler) : Decidable (Machine assembler) :=
  decidable_of_iff (_ ∧ _ ∧ _ ∧ _ ∧ _)
    ⟨fun ⟨codes, instructions, lim, brc, jmp⟩ => ⟨codes, instructions, lim, brc, jmp⟩,
      fun ⟨codes, instructions, lim, brc, jmp⟩ => ⟨codes, instructions, lim, brc, jmp⟩⟩

/-- The builtin set compiles, with its pseudo-instructions, and assembles a program. -/
theorem exists_machine :
    ∃ set assembler, InstructionSet.builtin = .ok set ∧ Assembler.ofSet set = .ok assembler ∧
      assembler.set = set ∧ Machine assembler ∧
      (assembler.assemble .units "prog.s" "nop\n").map (·.image.bytes) = .ok [branch 0] := by
  -- Compiling the set is most of the work, so everything is evaluated at once.
  have evaluated : (InstructionSet.builtin.map fun set =>
      (Assembler.ofSet set).map fun assembler => decide (Machine assembler ∧
        (assembler.assemble .units "prog.s" "nop\n").map (·.image.bytes) = .ok [branch 0])) =
      .ok (.ok true) := by
    decide +kernel
  obtain ⟨set, built, compiles⟩ := Success.map_eq_ok.mp evaluated
  obtain ⟨assembler, compiled, holds⟩ := Success.map_eq_ok.mp compiles
  obtain ⟨machine, assembles⟩ := of_decide_eq_true holds
  obtain ⟨library, -, rfl⟩ := Success.map_eq_ok.mp compiled
  exact ⟨set, _, built, compiled, rfl, machine, assembles⟩

end Builtin
end TableAssembler
