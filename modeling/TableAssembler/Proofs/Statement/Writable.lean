import TableAssembler.Proofs.Lexeme.Value
import TableAssembler.Proofs.Statement.Written

/-!
# Statements that can be written

A statement can be written when some lexemes of a program are read as it.  All statements of a
program can, and statements that can make a program again.
-/

namespace TableAssembler

namespace Lexeme

/-- The operand is read from some lexemes. -/
def Writable (operand : Lexeme) : Prop := ∃ part, IsOperand part operand

/-- Changing identifiers to operands that can be written leaves an operand that can be. -/
theorem Writable.mapIdentifiers {operand : Lexeme} {change : Lexeme → Lexeme}
    (writable : operand.Writable)
    (changes : ∀ lexeme : Lexeme, lexeme.kind = .identifier → (change lexeme).Writable) :
    (operand.mapIdentifiers change).Writable := by
  obtain ⟨part, derives⟩ := writable
  induction derives with
  | @word lexeme word =>
      by_cases identifier : lexeme.kind = .identifier
      · rw [mapIdentifiers_of_identifier identifier]
        exact changes lexeme identifier
      · have no_closure : lexeme.kind ≠ .closure := by
          rcases word with kind | kind | kind <;> simp [kind]
        rw [mapIdentifiers_of_other identifier no_closure]
        exact ⟨[lexeme], .word word⟩
  | @closure opening operator closing left right leftPart rightPart opens _ kind _ closes left_ih
      right_ih =>
      obtain ⟨newLeft, left_derives⟩ := left_ih
      obtain ⟨newRight, right_derives⟩ := right_ih
      have operator_eq : operator.mapIdentifiers change = operator :=
        mapIdentifiers_of_other (by simp [kind]) (by simp [kind])
      have changed : (ofOperation left operator right opening.location).mapIdentifiers change =
          ofOperation (left.mapIdentifiers change) operator (right.mapIdentifiers change)
            opening.location := by
        rw [mapIdentifiers_of_closure rfl]
        simp [ofOperation, operator_eq]
      rw [changed]
      exact ⟨_, .closure opens left_derives kind right_derives closes⟩

end Lexeme

namespace Statement

/-- The statement is read from some lexemes. -/
structure Writable (statement : Statement) : Prop where
  name : statement.name.kind = .identifier
  kind : statement.kind = .label ∧ statement.args = [] ∨ statement.kind = .instruction
  args : ∀ arg ∈ statement.args, arg.Writable

theorem ReadFrom.writable {statement : Statement} {lexemes : List Lexeme}
    (readFrom : statement.ReadFrom lexemes) : statement.Writable := by
  refine ⟨readFrom.name_kind, readFrom.kind, fun arg member => ?_⟩
  obtain ⟨part, -, derives⟩ := readFrom.args arg member
  exact ⟨part, derives⟩

/-- The statements of a program can be written. -/
theorem IsProgram.writable {lexemes : List Lexeme} {statements : List Statement}
    (derives : IsProgram lexemes statements) : ∀ statement ∈ statements, statement.Writable :=
  fun statement member => (derives.readFrom statement member).writable

private theorem exists_areOperands {operand : Lexeme} {operands : List Lexeme}
    (writable : ∀ arg ∈ operand :: operands, arg.Writable) :
    ∃ part, AreOperands part (operand :: operands) := by
  induction operands generalizing operand with
  | nil =>
      obtain ⟨part, derives⟩ := writable operand List.mem_cons_self
      exact ⟨part, .single derives⟩
  | cons next operands induction =>
      obtain ⟨⟨part, derives⟩, others⟩ := List.forall_mem_cons.mp writable
      obtain ⟨rest, rest_derives⟩ := induction others
      exact ⟨part ++ Lexeme.mark "," :: rest, .cons derives rfl rest_derives⟩

theorem Writable.exists_isInstruction {statement : Statement} (writable : statement.Writable)
    (kind : statement.kind = .instruction) : ∃ part, IsInstruction part statement := by
  obtain ⟨_, name, args⟩ := statement
  obtain rfl : Kind.instruction = _ := kind.symm
  cases args with
  | nil => exact ⟨[name], .bare writable.name⟩
  | cons operand operands =>
      obtain ⟨part, derives⟩ := exists_areOperands writable.args
      exact ⟨name :: part, .operands writable.name derives⟩

/-- Statements that can be written, one on a line, are a program. -/
theorem exists_isProgram {statements : List Statement}
    (writable : ∀ statement ∈ statements, statement.Writable) :
    ∃ lexemes, IsProgram lexemes statements := by
  induction statements with
  | nil => exact ⟨[], .nil⟩
  | cons statement statements induction =>
      obtain ⟨first, others⟩ := List.forall_mem_cons.mp writable
      obtain ⟨rest, derives⟩ := induction others
      rcases first.kind with ⟨label, no_args⟩ | instruction
      · obtain ⟨_, name, _⟩ := statement
        dsimp only at label no_args
        subst label no_args
        exact ⟨name :: Lexeme.mark ":" :: rest, .label first.name rfl derives⟩
      · obtain ⟨part, part_derives⟩ := first.exists_isInstruction instruction
        exact ⟨part ++ { value := "\n", kind := .newline, span := 1 } :: rest,
          .instruction part_derives rfl derives⟩

end Statement
end TableAssembler
