import TableAssembler.Statement.Basic

/-!
# The grammar of statements

A program is a sequence of labels, instructions and ends of lines, where an instruction ends with
its line or with the text.  Each rule names the lexemes that it derives and what they stand for.
-/

namespace TableAssembler

/-! ## Derivations -/

namespace Lexeme

/-- The lexemes are those of an operand. -/
inductive IsOperand : List Lexeme → Lexeme → Prop
  /-- An identifier, a number or a string stands for itself. -/
  | word {lexeme : Lexeme} :
      lexeme.kind = .identifier ∨ lexeme.kind = .number ∨ lexeme.kind = .text →
        IsOperand [lexeme] lexeme
  /-- A closure has two operands with an operator between them. -/
  | closure {opening operator closing left right : Lexeme} {leftPart rightPart : List Lexeme} :
      opening.is .punctuation "(" = true → IsOperand leftPart left → operator.kind = .operator →
        IsOperand rightPart right → closing.is .punctuation ")" = true →
        IsOperand (opening :: leftPart ++ operator :: rightPart ++ [closing])
          (.ofOperation left operator right opening.location)

theorem kind_of_is {lexeme : Lexeme} {kind : Kind} {value : String}
    (same : lexeme.is kind value = true) : lexeme.kind = kind := by
  rw [is, Bool.and_eq_true] at same
  exact of_decide_eq_true same.1

/-- The lexeme neither ends a line nor makes a label. -/
def IsInner (lexeme : Lexeme) : Prop :=
  lexeme.kind ≠ .newline ∧ lexeme.is .punctuation ":" = false

theorem isInner_of_kind {lexeme : Lexeme} (no_newline : lexeme.kind ≠ .newline)
    (no_mark : lexeme.kind ≠ .punctuation) : lexeme.IsInner :=
  ⟨no_newline, by simp [is, no_mark]⟩

theorem isInner_of_is {lexeme : Lexeme} {value : String}
    (same : lexeme.is .punctuation value = true) (other : value ≠ ":") : lexeme.IsInner := by
  refine ⟨by simp [kind_of_is same], ?_⟩
  rw [is, Bool.and_eq_true, beq_iff_eq] at same
  simp [is, same, other]

theorem IsOperand.isInner {part : List Lexeme} {operand : Lexeme}
    (derives : IsOperand part operand) : ∀ lexeme ∈ part, lexeme.IsInner := by
  induction derives with
  | word word =>
      intro lexeme member
      rw [List.mem_singleton.mp member]
      rcases word with kind | kind | kind <;>
        exact isInner_of_kind (by simp [kind]) (by simp [kind])
  | closure opens _ kind _ closes left_ih right_ih =>
      simp only [List.cons_append, List.append_assoc, List.mem_cons, List.mem_append,
        List.not_mem_nil, or_false]
      rintro lexeme (rfl | left | rfl | right | rfl)
      · exact isInner_of_is opens (by decide)
      · exact left_ih lexeme left
      · exact isInner_of_kind (by simp [kind]) (by simp [kind])
      · exact right_ih lexeme right
      · exact isInner_of_is closes (by decide)

end Lexeme

namespace Statement

/-- The lexemes are those of operands with commas between them. -/
inductive AreOperands : List Lexeme → List Lexeme → Prop
  | single {part : List Lexeme} {operand : Lexeme} :
      Lexeme.IsOperand part operand → AreOperands part [operand]
  | cons {part rest : List Lexeme} {operand comma : Lexeme} {operands : List Lexeme} :
      Lexeme.IsOperand part operand → comma.is .punctuation "," = true →
        AreOperands rest operands → AreOperands (part ++ comma :: rest) (operand :: operands)

/-- The lexemes are those of an instruction. -/
inductive IsInstruction : List Lexeme → Statement → Prop
  | bare {name : Lexeme} : name.kind = .identifier → IsInstruction [name] (.instruction name [])
  | operands {name : Lexeme} {part args : List Lexeme} :
      name.kind = .identifier → AreOperands part args →
        IsInstruction (name :: part) (.instruction name args)

/-- The lexemes are those of a program. -/
inductive IsProgram : List Lexeme → List Statement → Prop
  | nil : IsProgram [] []
  /-- A line may end anywhere between statements. -/
  | newline {newline : Lexeme} {rest : List Lexeme} {statements : List Statement} :
      newline.kind = .newline → IsProgram rest statements → IsProgram (newline :: rest) statements
  /-- A label is a name with a colon. -/
  | label {name colon : Lexeme} {rest : List Lexeme} {statements : List Statement} :
      name.kind = .identifier → colon.is .punctuation ":" = true → IsProgram rest statements →
        IsProgram (name :: colon :: rest) (.label name :: statements)
  /-- An instruction may end with the text. -/
  | last {part : List Lexeme} {statement : Statement} :
      IsInstruction part statement → IsProgram part [statement]
  /-- An instruction ends with its line. -/
  | instruction {part rest : List Lexeme} {newline : Lexeme} {statement : Statement}
      {statements : List Statement} :
      IsInstruction part statement → newline.kind = .newline → IsProgram rest statements →
        IsProgram (part ++ newline :: rest) (statement :: statements)

/-! ## Lexemes behind the name of an instruction -/

theorem AreOperands.isInner {part operands : List Lexeme} (derives : AreOperands part operands) :
    ∀ lexeme ∈ part, lexeme.IsInner := by
  induction derives with
  | single derives => exact derives.isInner
  | cons derives is_comma _ induction =>
      intro lexeme member
      rcases List.mem_append.mp member with first | behind
      · exact derives.isInner lexeme first
      · rcases List.mem_cons.mp behind with rfl | later
        · exact Lexeme.isInner_of_is is_comma (by decide)
        · exact induction lexeme later

theorem AreOperands.ne_nil {part operands : List Lexeme} (derives : AreOperands part operands) :
    part ≠ [] := by
  cases derives with
  | single derives => cases derives <;> simp
  | cons => simp

theorem IsInstruction.isInner {part : List Lexeme} {statement : Statement}
    (derives : IsInstruction part statement) : ∀ lexeme ∈ part, lexeme.IsInner := by
  intro lexeme member
  cases derives with
  | bare kind =>
      rw [List.mem_singleton.mp member]
      exact Lexeme.isInner_of_kind (by simp [kind]) (by simp [kind])
  | operands kind derives =>
      rcases List.mem_cons.mp member with rfl | operand
      · exact Lexeme.isInner_of_kind (by simp [kind]) (by simp [kind])
      · exact derives.isInner lexeme operand

/-! ## What a statement is read from -/

/-- The name and the operands of the statement are read from some of the lexemes. -/
structure ReadFrom (statement : Statement) (lexemes : List Lexeme) : Prop where
  kind : statement.kind = .label ∧ statement.args = [] ∨ statement.kind = .instruction
  name : statement.name ∈ lexemes
  name_kind : statement.name.kind = .identifier
  args : ∀ arg ∈ statement.args, ∃ part, part ⊆ lexemes ∧ Lexeme.IsOperand part arg

theorem ReadFrom.mono {statement : Statement} {lexemes others : List Lexeme}
    (readFrom : statement.ReadFrom lexemes) (subset : lexemes ⊆ others) :
    statement.ReadFrom others := by
  refine ⟨readFrom.kind, subset readFrom.name, readFrom.name_kind, fun arg member => ?_⟩
  obtain ⟨part, inside, derives⟩ := readFrom.args arg member
  exact ⟨part, fun lexeme used => subset (inside used), derives⟩

theorem AreOperands.exists_part {part operands : List Lexeme}
    (derives : AreOperands part operands) :
    ∀ operand ∈ operands, ∃ inner, inner ⊆ part ∧ Lexeme.IsOperand inner operand := by
  induction derives with
  | @single part operand derives =>
      exact List.forall_mem_singleton.mpr ⟨part, fun _ used => used, derives⟩
  | @cons part _ _ _ _ derives _ _ induction =>
      refine List.forall_mem_cons.mpr ⟨⟨part, by simp, derives⟩, fun operand member => ?_⟩
      obtain ⟨inner, inside, derives⟩ := induction operand member
      exact ⟨inner, fun lexeme used => by simp [inside used], derives⟩

theorem IsInstruction.readFrom {part : List Lexeme} {statement : Statement}
    (derives : IsInstruction part statement) : statement.ReadFrom part := by
  cases derives with
  | bare kind => exact ⟨.inr rfl, List.mem_cons_self, kind, by simp [instruction]⟩
  | operands kind derives =>
      refine ⟨.inr rfl, List.mem_cons_self, kind, fun arg member => ?_⟩
      obtain ⟨inner, inside, derives⟩ := derives.exists_part arg member
      exact ⟨inner, fun lexeme used => List.mem_cons_of_mem _ (inside used), derives⟩

/-- The statements of a program are read from its lexemes. -/
theorem IsProgram.readFrom {lexemes : List Lexeme} {statements : List Statement}
    (derives : IsProgram lexemes statements) :
    ∀ statement ∈ statements, statement.ReadFrom lexemes := by
  induction derives with
  | nil => simp
  | newline _ _ induction =>
      exact fun statement member => (induction statement member).mono (by simp)
  | label kind _ _ induction =>
      refine List.forall_mem_cons.mpr ⟨?_, fun statement member => ?_⟩
      · exact ⟨.inl ⟨rfl, rfl⟩, List.mem_cons_self, kind, by simp [Statement.label]⟩
      · exact (induction statement member).mono (by simp)
  | last derives => exact List.forall_mem_singleton.mpr derives.readFrom
  | instruction derives _ _ induction =>
      refine List.forall_mem_cons.mpr ⟨derives.readFrom.mono (by simp), fun statement member => ?_⟩
      exact (induction statement member).mono (by simp)

/-! ## What a program starts with -/

theorem IsInstruction.exists_eq_cons {part : List Lexeme} {statement : Statement}
    (derives : IsInstruction part statement) :
    statement.name.kind = .identifier ∧ ∃ rest, part = statement.name :: rest := by
  cases derives with
  | bare kind => exact ⟨kind, [], rfl⟩
  | operands kind => exact ⟨kind, _, rfl⟩

/-- The first lexeme of a program ends a line, or is the name of the first statement. -/
theorem IsProgram.newline_or_name {lexeme : Lexeme} {rest : List Lexeme}
    {statements : List Statement} (derives : IsProgram (lexeme :: rest) statements) :
    lexeme.kind = .newline ∧ IsProgram rest statements ∨
      lexeme.kind = .identifier ∧ statements.head?.map Statement.name = some lexeme := by
  generalize split : lexeme :: rest = lexemes at derives
  cases derives with
  | nil => contradiction
  | newline kind derives =>
      obtain ⟨rfl, rfl⟩ := List.cons.inj split
      exact .inl ⟨kind, derives⟩
  | label kind =>
      obtain ⟨rfl, -⟩ := List.cons.inj split
      exact .inr ⟨kind, rfl⟩
  | last derives =>
      obtain ⟨kind, further, rfl⟩ := derives.exists_eq_cons
      obtain ⟨rfl, -⟩ := List.cons.inj split
      exact .inr ⟨kind, rfl⟩
  | instruction derives =>
      obtain ⟨kind, further, rfl⟩ := derives.exists_eq_cons
      obtain ⟨rfl, -⟩ := List.cons.inj split
      exact .inr ⟨kind, rfl⟩

theorem IsProgram.of_newlines {newlines rest : List Lexeme} {statements : List Statement}
    (derives : IsProgram (newlines ++ rest) statements)
    (kinds : ∀ newline ∈ newlines, newline.kind = .newline) : IsProgram rest statements := by
  induction newlines with
  | nil => exact derives
  | cons newline newlines induction =>
      obtain ⟨kind, kinds⟩ := List.forall_mem_cons.mp kinds
      rcases derives.newline_or_name with ⟨-, later⟩ | ⟨identifier, -⟩
      · exact induction later kinds
      · simp [kind] at identifier

end Statement
end TableAssembler
