import TableAssembler.Proofs.Lexeme.Spelling
import TableAssembler.Proofs.Statement.Displacement
import TableAssembler.Proofs.Statement.Grouping

/-!
# Programs written out and read again

The text of a statement yields the lexemes it was read from, unless there is a string among its
operands.  So do the texts of all statements of a program, one on a line; parsing them gives the
program back, apart from places.
-/

namespace TableAssembler

open Scan

/-! ## Operands -/

namespace Lexeme

/-- The lexeme is no string, and none stands in it at any depth of its closures. -/
def isStringFree (lexeme : Lexeme) : Bool :=
  decide (lexeme.kind ≠ .text) && lexeme.args.attach.all fun ⟨arg, _⟩ => arg.isStringFree
termination_by sizeOf lexeme
decreasing_by
  have := List.sizeOf_lt_of_mem ‹_ ∈ _›
  cases lexeme
  simp_all
  omega

theorem isStringFree_iff {lexeme : Lexeme} :
    lexeme.isStringFree = true ↔
      lexeme.kind ≠ .text ∧ ∀ arg ∈ lexeme.args, arg.isStringFree = true := by
  rw [isStringFree, Bool.and_eq_true, decide_eq_true_iff, List.all_eq_true]
  simp

/-- All lexemes are read from characters of their own. -/
abbrev AllSpelled (lexemes : List Lexeme) : Prop :=
  ∀ lexeme ∈ lexemes, ∃ characters, lexeme.Spelled characters

private theorem yields_source {lexeme : Lexeme} (spelled : ∃ characters, lexeme.Spelled characters)
    (no_text : lexeme.kind ≠ .text) (no_newline : lexeme.kind ≠ .newline) :
    Yields lexeme.source.toList [lexeme] := by
  obtain ⟨characters, spelled⟩ := spelled
  rw [spelled.source_eq no_text no_newline]
  exact .of_spelled spelled

private theorem toList_source_ofOperation (left operator right : Lexeme) (location : Location) :
    (ofOperation left operator right location).source.toList =
      "(".toList ++ (left.source.toList ++ ' ' :: (operator.source.toList ++
        ' ' :: (right.source.toList ++ ")".toList))) := by
  simp [ofOperation, source]

theorem IsOperand.yields {part : List Lexeme} {operand : Lexeme} (derives : IsOperand part operand)
    (spelled : AllSpelled part) (stringFree : operand.isStringFree = true) :
    Yields operand.source.toList part := by
  induction derives with
  | word word =>
      refine yields_source (spelled _ List.mem_cons_self) (isStringFree_iff.mp stringFree).1 ?_
      rcases word with kind | kind | kind <;> simp [kind]
  | @closure opening operator closing left right leftPart rightPart opens _ kind _ closes left_ih
      right_ih =>
      simp only [List.cons_append, List.append_assoc, AllSpelled, List.forall_mem_cons,
        List.forall_mem_append] at spelled
      obtain ⟨⟨_, opening_spelled⟩, left_spelled, operator_spelled, right_spelled,
        ⟨_, closing_spelled⟩, -⟩ := spelled
      have args_free := (isStringFree_iff.mp stringFree).2
      have left_yields := left_ih left_spelled (args_free left (by simp [ofOperation]))
      have operator_yields := yields_source operator_spelled (by simp [kind]) (by simp [kind])
      have right_yields := right_ih right_spelled (args_free right (by simp [ofOperation]))
      have closing_yields := Yields.nil.punctuation closing_spelled closes
      -- The parts are put together from the right, each in front of what stops it.
      have from_right := right_yields.append closing_yields (stops_cons (by decide) [])
      have from_left := left_yields.append_space (operator_yields.append_space from_right)
      have whole := from_left.punctuation opening_spelled opens
      rw [toList_source_ofOperation]
      simpa using whole

end Lexeme

namespace Statement

/-! ## Statements -/

theorem AreOperands.yields {part operands : List Lexeme} (derives : AreOperands part operands)
    (spelled : Lexeme.AllSpelled part)
    (stringFree : ∀ operand ∈ operands, operand.isStringFree = true) :
    Yields (", ".intercalate (operands.map Lexeme.source)).toList part := by
  induction derives with
  | single derives =>
      simpa using derives.yields spelled (stringFree _ List.mem_cons_self)
  | @cons part rest operand comma operands derives is_comma others induction =>
      obtain ⟨first_spelled, ⟨_, comma_spelled⟩, rest_spelled⟩ :
          Lexeme.AllSpelled part ∧ (∃ characters, comma.Spelled characters) ∧
            Lexeme.AllSpelled rest := by
        simpa only [List.forall_mem_append, List.forall_mem_cons] using spelled
      obtain ⟨first_free, rest_free⟩ := List.forall_mem_cons.mp stringFree
      have first_yields := derives.yields first_spelled first_free
      have rest_yields := induction rest_spelled rest_free
      have from_comma := rest_yields.space.punctuation comma_spelled is_comma
      have whole := first_yields.append from_comma (stops_cons (by decide) _)
      cases others <;> simpa [String.intercalate_cons_cons] using whole

theorem yields_name {name : Lexeme} (spelled : ∃ characters, name.Spelled characters)
    (kind : name.kind = .identifier) : Yields name.value.toList [name] := by
  obtain ⟨characters, spelled⟩ := spelled
  rw [spelled.value_eq kind]
  exact .of_spelled spelled

theorem IsInstruction.yields {part : List Lexeme} {statement : Statement}
    (derives : IsInstruction part statement) (spelled : Lexeme.AllSpelled part)
    (stringFree : ∀ arg ∈ statement.args, arg.isStringFree = true) :
    Yields statement.render.toList part := by
  cases derives with
  | bare kind => exact yields_name (spelled _ List.mem_cons_self) kind
  | @operands name part args kind derives =>
      obtain ⟨name_spelled, part_spelled⟩ := List.forall_mem_cons.mp spelled
      have args_yield := derives.yields part_spelled stringFree
      have whole := (yields_name name_spelled kind).append_space args_yield
      have shown : args.isEmpty = false := by cases derives <;> rfl
      simpa [render, Statement.instruction, shown] using whole

private theorem yields_label {name colon : Lexeme} (kind : name.kind = .identifier)
    (is_colon : colon.is .punctuation ":" = true) (spelled : Lexeme.AllSpelled [name, colon]) :
    Yields (Statement.label name).render.toList [name, colon] := by
  obtain ⟨name_spelled, colon_spelled⟩ := List.forall_mem_cons.mp spelled
  obtain ⟨_, colon_spelled⟩ := List.forall_mem_singleton.mp colon_spelled
  have colon_yields := Yields.nil.punctuation colon_spelled is_colon
  have whole := (yields_name name_spelled kind).append colon_yields (stops_cons (by decide) [])
  simpa [render, Statement.label] using whole

/-! ## Programs -/

/-- The lexemes are those of a statement that may stand on a line of its own. -/
structure IsLine (part : List Lexeme) (statement : Statement) : Prop where
  alone : IsProgram part [statement]
  followed : ∀ {newline : Lexeme} {rest : List Lexeme} {statements : List Statement},
    newline.kind = .newline → IsProgram rest statements →
      IsProgram (part ++ newline :: rest) (statement :: statements)

theorem IsInstruction.isLine {part : List Lexeme} {statement : Statement}
    (derives : IsInstruction part statement) : IsLine part statement :=
  ⟨.last derives, fun newline rest => .instruction derives newline rest⟩

private theorem isLine_label {name colon : Lexeme} (kind : name.kind = .identifier)
    (is_colon : colon.is .punctuation ":" = true) : IsLine [name, colon] (.label name) :=
  ⟨.label kind is_colon .nil, fun newline rest => .label kind is_colon (.newline newline rest)⟩

/-- The text of the program, one statement on a line, yields lexemes that are the program. -/
def ReadsBack (program : List Statement) : Prop :=
  ∃ lexemes, IsProgram lexemes program ∧
    Yields ("\n".intercalate (program.map render)).toList lexemes

private theorem readsBack_nil : ReadsBack [] := ⟨[], .nil, .nil⟩

theorem ReadsBack.cons {part : List Lexeme} {statement : Statement} {statements : List Statement}
    (later : ReadsBack statements) (line : IsLine part statement)
    (yields : Yields statement.render.toList part) : ReadsBack (statement :: statements) := by
  cases statements with
  | nil => exact ⟨part, line.alone, by simpa using yields⟩
  | cons next statements =>
      obtain ⟨rest, derives, rest_yields⟩ := later
      have whole := yields.append (rest_yields.newline {}) (stops_cons (by decide) _)
      refine ⟨part ++ (Reading.verbatim .newline '\n' []).place {} :: rest,
        line.followed rfl derives, ?_⟩
      simpa [String.intercalate_cons_cons] using whole

theorem IsProgram.readsBack {lexemes : List Lexeme} {program : List Statement}
    (derives : IsProgram lexemes program) (spelled : Lexeme.AllSpelled lexemes)
    (stringFree : ∀ statement ∈ program, ∀ arg ∈ statement.args, arg.isStringFree = true) :
    ReadsBack program := by
  induction derives with
  | nil => exact readsBack_nil
  | newline _ _ induction => exact induction (List.forall_mem_cons.mp spelled).2 stringFree
  | @label name colon rest _ kind is_colon _ induction =>
      obtain ⟨line_spelled, rest_spelled⟩ :
          Lexeme.AllSpelled [name, colon] ∧ Lexeme.AllSpelled rest :=
        List.forall_mem_append.mp spelled
      have later := induction rest_spelled (List.forall_mem_cons.mp stringFree).2
      exact later.cons (isLine_label kind is_colon) (yields_label kind is_colon line_spelled)
  | last derives =>
      have yields := derives.yields spelled (stringFree _ List.mem_cons_self)
      exact readsBack_nil.cons derives.isLine yields
  | instruction derives _ _ induction =>
      obtain ⟨line_spelled, rest_spelled⟩ := List.forall_mem_append.mp spelled
      obtain ⟨line_free, rest_free⟩ := List.forall_mem_cons.mp stringFree
      have later := induction (List.forall_mem_cons.mp rest_spelled).2 rest_free
      exact later.cons derives.isLine (derives.yields line_spelled line_free)

/-- A program without strings that is written out, one statement on a line, is parsed again as it
was, apart from places. -/
theorem parse_intercalate_render {file text : String} {program : List Statement}
    (parsed : parse file text = .ok program)
    (stringFree : ∀ statement ∈ program, ∀ arg ∈ statement.args, arg.isStringFree = true)
    (other : String) :
    ∃ again, parse other ("\n".intercalate (program.map render)) = .ok again ∧
      List.Forall₂ (Displaced .anywhere) program again := by
  obtain ⟨lexemes, scanned, grouped⟩ := Success.bind_eq_ok.mp parsed
  have derives := group_eq_ok_iff.mp grouped
  obtain ⟨words, words_derive, yields⟩ :=
    derives.readsBack (Lexeme.spelled_of_scan scanned) stringFree
  obtain ⟨others, rescanned, same⟩ := yields.scan other
  have alike := displaced_group same
  rw [group_of_isProgram words_derive] at alike
  cases again : group others with
  | error fault =>
      rw [again] at alike
      contradiction
  | ok statements =>
      rw [again] at alike
      obtain ⟨displaced⟩ := alike
      refine ⟨statements, ?_, displaced⟩
      rw [parse, rescanned]
      exact again

/-- Labels, numbers of each radix, and closures in each other, with a comment among them. -/
def commentedSums : String := ".loop: // x\n\tadd 0x1F , (a+(.b<<0b10))\nstop:  nop"

theorem parse_intercalate_render_commentedSums :
    ∃ program again, parse "s" commentedSums = .ok program ∧
      parse "t" ".loop:\nadd 0x1F, (a + (.b << 0b10))\nstop:\nnop" = .ok again ∧
      List.Forall₂ (Displaced .anywhere) program again := by
  have evaluated : (parse "s" commentedSums).map (fun program =>
      ("\n".intercalate (program.map render),
        program.all fun statement => statement.args.all Lexeme.isStringFree)) =
      .ok (".loop:\nadd 0x1F, (a + (.b << 0b10))\nstop:\nnop", true) := by
    decide +kernel
  obtain ⟨program, parsed, observed⟩ := Success.map_eq_ok.mp evaluated
  obtain ⟨rendered, stringFree⟩ := Prod.mk.inj observed
  simp only [List.all_eq_true] at stringFree
  obtain ⟨again, reparsed, displaced⟩ := parse_intercalate_render parsed stringFree "t"
  rw [rendered] at reparsed
  exact ⟨program, again, parsed, reparsed, displaced⟩

end Statement
end TableAssembler
