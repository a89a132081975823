import TableAssembler.Proofs.Statement.Grouping

/-!
# Statements written out

Statements hold all the lexemes that they were read from, apart from punctuation and the ends of
lines.  Writing them out, with new punctuation, gives the lexemes back in their order.
-/

namespace TableAssembler

namespace Lexeme

/-- A new punctuation mark, like one that is read from text but without its place. -/
def mark (value : String) : Lexeme := { value, kind := .punctuation, span := 1 }

/-- The lexeme, with a new mark in the place of punctuation. -/
def remarked (lexeme : Lexeme) : Lexeme :=
  if lexeme.kind = .punctuation then mark lexeme.value else lexeme

/-- The lexemes of an operand. -/
def written : Lexeme → List Lexeme
  | { kind := .closure, args := [left, operator, right], .. } =>
      mark "(" :: left.written ++ operator :: right.written ++ [mark ")"]
  | lexeme => [lexeme]

private theorem written_of_word {lexeme : Lexeme}
    (word : lexeme.kind = .identifier ∨ lexeme.kind = .number ∨ lexeme.kind = .text) :
    lexeme.written = [lexeme] := by
  obtain ⟨value, kind, radix, args, span, location⟩ := lexeme
  rcases word with rfl | rfl | rfl <;> simp [written]

private theorem written_ofOperation (left operator right : Lexeme) (location : Location) :
    (ofOperation left operator right location).written =
      mark "(" :: left.written ++ operator :: right.written ++ [mark ")"] := by
  rw [ofOperation, written]

theorem remarked_of_is {lexeme : Lexeme} {value : String}
    (same : lexeme.is .punctuation value = true) : lexeme.remarked = mark value := by
  rw [remarked, if_pos (kind_of_is same)]
  rw [is, Bool.and_eq_true, beq_iff_eq] at same
  rw [same.2]

theorem remarked_of_ne {lexeme : Lexeme} (other : lexeme.kind ≠ .punctuation) :
    lexeme.remarked = lexeme :=
  if_neg other

theorem IsOperand.written_eq {part : List Lexeme} {operand : Lexeme}
    (derives : IsOperand part operand) : operand.written = part.map remarked := by
  induction derives with
  | @word lexeme word =>
      have other : lexeme.kind ≠ .punctuation := by
        rcases word with kind | kind | kind <;> simp [kind]
      rw [written_of_word word, List.map_singleton, remarked_of_ne other]
  | closure opens _ kind _ closes left_ih right_ih =>
      rw [written_ofOperation, left_ih, right_ih]
      simp [remarked_of_is opens, remarked_of_is closes, remarked_of_ne, kind]

end Lexeme

namespace Statement

/-- The lexemes of operands with commas between them. -/
def writtenOperands : List Lexeme → List Lexeme
  | [] => []
  | [operand] => operand.written
  | operand :: operands => operand.written ++ Lexeme.mark "," :: writtenOperands operands

/-- The lexemes of a statement. -/
def written (statement : Statement) : List Lexeme :=
  if statement.kind = .label then [statement.name, Lexeme.mark ":"]
  else statement.name :: writtenOperands statement.args

theorem AreOperands.written_eq {part operands : List Lexeme}
    (derives : AreOperands part operands) :
    writtenOperands operands = part.map Lexeme.remarked := by
  induction derives with
  | single derives => exact derives.written_eq
  | @cons part rest operand comma operands derives is_comma others induction =>
      have behind : writtenOperands (operand :: operands) =
          operand.written ++ Lexeme.mark "," :: writtenOperands operands := by
        cases others <;> rfl
      rw [behind, induction, derives.written_eq, List.map_append, List.map_cons,
        Lexeme.remarked_of_is is_comma]

theorem IsInstruction.written_eq {part : List Lexeme} {statement : Statement}
    (derives : IsInstruction part statement) :
    statement.written = part.map Lexeme.remarked := by
  cases derives with
  | bare kind => simp [written, instruction, writtenOperands, Lexeme.remarked_of_ne, kind]
  | operands kind derives =>
      simp [written, instruction, derives.written_eq, Lexeme.remarked_of_ne, kind]

theorem IsInstruction.filter_newline {part : List Lexeme} {statement : Statement}
    (derives : IsInstruction part statement) :
    (part.filter fun lexeme => decide (lexeme.kind ≠ .newline)) = part := by
  rw [List.filter_eq_self]
  intro lexeme member
  exact decide_eq_true (derives.isInner lexeme member).1

theorem IsProgram.written_eq {lexemes : List Lexeme} {statements : List Statement}
    (derives : IsProgram lexemes statements) :
    statements.flatMap written =
      (lexemes.filter fun lexeme => decide (lexeme.kind ≠ .newline)).map Lexeme.remarked := by
  induction derives with
  | nil => rfl
  | newline kind _ induction => simpa [kind] using induction
  | @label name colon rest statements kind is_colon _ induction =>
      have name_written : (Statement.label name).written = [name, Lexeme.mark ":"] := rfl
      rw [List.flatMap_cons, induction, name_written]
      simp [kind, Lexeme.kind_of_is is_colon, Lexeme.remarked_of_is is_colon,
        Lexeme.remarked_of_ne]
  | last derives =>
      rw [List.flatMap_singleton, derives.written_eq, derives.filter_newline]
  | instruction derives kind _ induction =>
      rw [List.flatMap_cons, induction, derives.written_eq, List.filter_append,
        derives.filter_newline, List.map_append]
      simp [kind]

theorem IsInstruction.exists_eq_append {part rest front back : List Lexeme}
    {newline name colon : Lexeme} {statement : Statement} (derives : IsInstruction part statement)
    (newline_kind : newline.kind = .newline) (kind : name.kind = .identifier)
    (is_colon : colon.is .punctuation ":" = true)
    (split : part ++ newline :: rest = front ++ name :: colon :: back) :
    ∃ between, rest = between ++ name :: colon :: back := by
  have name_ne : newline ≠ name := by
    rintro rfl
    simp [kind] at newline_kind
  have colon_ne : newline ≠ colon := by
    rintro rfl
    simp [Lexeme.kind_of_is is_colon] at newline_kind
  rcases List.append_eq_append_iff.mp split with ⟨middle, rfl, behind⟩ | ⟨middle, rfl, behind⟩
  · cases middle with
    | nil => exact absurd (List.cons.inj behind).1 name_ne
    | cons first middle => exact ⟨middle, (List.cons.inj behind).2⟩
  · match middle with
    | [] => exact absurd (List.cons.inj behind).1.symm name_ne
    | [_] => exact absurd (List.cons.inj (List.cons.inj behind).2).1.symm colon_ne
    | _ :: second :: _ =>
        obtain ⟨rfl, -⟩ := List.cons.inj (List.cons.inj behind).2
        have inner := derives.isInner colon (by simp)
        simp [Lexeme.IsInner, is_colon] at inner

theorem IsProgram.label_mem {lexemes front back : List Lexeme} {name colon : Lexeme}
    {statements : List Statement} (derives : IsProgram lexemes statements)
    (split : lexemes = front ++ name :: colon :: back) (kind : name.kind = .identifier)
    (is_colon : colon.is .punctuation ":" = true) : Statement.label name ∈ statements := by
  induction derives generalizing front with
  | nil => simp at split
  | newline newline_kind _ induction =>
      cases front with
      | nil =>
          obtain ⟨rfl, -⟩ := List.cons.inj split
          simp [kind] at newline_kind
      | cons first front => exact induction (List.cons.inj split).2
  | label _ mark _ induction =>
      match front with
      | [] =>
          obtain ⟨rfl, -⟩ := List.cons.inj split
          exact List.mem_cons_self
      | [_] =>
          obtain ⟨rfl, -⟩ := List.cons.inj (List.cons.inj split).2
          simp [Lexeme.kind_of_is mark] at kind
      | _ :: _ :: front =>
          have behind := (List.cons.inj (List.cons.inj split).2).2
          exact List.mem_cons_of_mem _ (induction behind)
  | last derives =>
      subst split
      have inner := derives.isInner colon (by simp)
      simp [Lexeme.IsInner, is_colon] at inner
  | instruction derives newline_kind _ induction =>
      obtain ⟨between, behind⟩ := derives.exists_eq_append newline_kind kind is_colon split
      exact List.mem_cons_of_mem _ (induction behind)

/-- Grouping accepts exactly the programs of the grammar and loses nothing: a name with a colon
behind it is a label, and the statements can be written out again. -/
theorem group_accepts_programs (lexemes : List Lexeme) :
    ((∃ statements, group lexemes = .ok statements) ↔
        ∃ statements, IsProgram lexemes statements) ∧
      ∀ statements, group lexemes = .ok statements →
        IsProgram lexemes statements ∧
          (∀ front name colon back, lexemes = front ++ name :: colon :: back →
            name.kind = .identifier → colon.is .punctuation ":" = true →
            Statement.label name ∈ statements) ∧
          statements.flatMap written =
            (lexemes.filter fun lexeme => decide (lexeme.kind ≠ .newline)).map
              Lexeme.remarked := by
  refine ⟨exists_congr fun _ => group_eq_ok_iff, fun statements grouped => ?_⟩
  have derives := group_eq_ok_iff.mp grouped
  exact ⟨derives, fun _ _ _ _ => derives.label_mem, derives.written_eq⟩

/-- A label and a call with a closure on one line, and an empty line. -/
def labelledCall : List Lexeme :=
  [{ value := "loop" }, { value := ":", kind := .punctuation }, { value := "call" },
    { value := "(", kind := .punctuation }, { value := "1", kind := .number, radix := 10 },
    { value := "+", kind := .operator }, { value := "x" }, { value := ")", kind := .punctuation },
    { value := ",", kind := .punctuation }, { value := "y" },
    { value := "\n", kind := .newline }, { value := "\n", kind := .newline }]

theorem group_accepts_labelledCall :
    ∃ statements, group labelledCall = .ok statements ∧
      statements.map render = ["loop:", "call (1 + x), y"] ∧ IsProgram labelledCall statements ∧
      statements.flatMap written =
        (labelledCall.filter fun lexeme => decide (lexeme.kind ≠ .newline)).map
          Lexeme.remarked := by
  have evaluated : (group labelledCall).map (fun statements => statements.map render) =
      .ok ["loop:", "call (1 + x), y"] := by
    rfl
  obtain ⟨statements, grouped, rendered⟩ := Success.map_eq_ok.mp evaluated
  obtain ⟨derives, -, written_eq⟩ := (group_accepts_programs labelledCall).2 statements grouped
  exact ⟨statements, grouped, rendered, derives, written_eq⟩

end Statement
end TableAssembler
