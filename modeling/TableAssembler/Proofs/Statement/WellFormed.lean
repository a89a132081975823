import TableAssembler.Assembly.Resolution
import TableAssembler.Proofs.Label.Scope
import TableAssembler.Proofs.Lexeme.WellFormed
import TableAssembler.Proofs.Pseudo.Expansion
import TableAssembler.Proofs.Statement.Grouping

/-!
# Well-formed programs

The statements that are read from text have well-formed operands.  Every pass over a program keeps
them so: calls put well-formed arguments into bodies that are read from text, and full names and
addresses are words.
-/

namespace TableAssembler

namespace Statement

/-- The statement is a label or an instruction, with a word for its name and well-formed
operands. -/
structure WellFormed (statement : Statement) : Prop where
  kind : statement.kind = .label ∨ statement.kind = .instruction
  name : statement.name.kind = .identifier
  name_args : statement.name.args = []
  args : ∀ arg ∈ statement.args, arg.WellFormed

/-- All statements are well-formed. -/
abbrev AllWellFormed (statements : List Statement) : Prop :=
  ∀ statement ∈ statements, statement.WellFormed

/-! ## Programs that are read -/

theorem ReadFrom.wellFormed {statement : Statement} {lexemes : List Lexeme}
    (readFrom : statement.ReadFrom lexemes) (scanned : ∀ lexeme ∈ lexemes, lexeme.Scanned) :
    statement.WellFormed := by
  refine ⟨readFrom.kind.imp_left And.left, readFrom.name_kind,
    (scanned _ readFrom.name).args, fun arg member => ?_⟩
  obtain ⟨part, inside, derives⟩ := readFrom.args arg member
  exact derives.wellFormed fun lexeme used => scanned lexeme (inside used)

theorem wellFormed_of_group {lexemes : List Lexeme} {statements : List Statement}
    (scanned : ∀ lexeme ∈ lexemes, lexeme.Scanned) (grouped : group lexemes = .ok statements) :
    AllWellFormed statements := by
  have derives := group_eq_ok_iff.mp grouped
  exact fun statement member => (derives.readFrom statement member).wellFormed scanned

/-! ## Operands changed -/

theorem WellFormed.mapArgs {statement : Statement} {change : Lexeme → Lexeme}
    (wellFormed : statement.WellFormed)
    (changes : ∀ arg : Lexeme, arg.WellFormed → (change arg).WellFormed) :
    (statement.mapArgs change).WellFormed := by
  unfold Statement.mapArgs
  split_ifs
  · refine ⟨wellFormed.kind, wellFormed.name, wellFormed.name_args, ?_⟩
    exact List.forall_mem_map.mpr fun arg member => changes arg (wellFormed.args arg member)
  · exact wellFormed

/-- All closures in a well-formed statement hold an operation. -/
theorem WellFormed.holdsOperation {statement : Statement} (wellFormed : statement.WellFormed)
    {outer lexeme : Lexeme} (member : outer ∈ statement.name :: statement.args)
    (within : lexeme.Within outer) (closure : lexeme.kind = .closure) :
    lexeme.HoldsOperation := by
  rcases List.mem_cons.mp member with rfl | operand
  · have name : statement.name.WellFormed := .word ⟨.inl wellFormed.name, wellFormed.name_args⟩
    exact name.holdsOperation within closure
  · exact (wellFormed.args outer operand).holdsOperation within closure

theorem WellFormed.fold {statement result : Statement} (wellFormed : statement.WellFormed)
    (folded : statement.fold = .ok result) : result.WellFormed := by
  unfold Statement.fold at folded
  split_ifs at folded
  · simp only [Success.bind_eq_ok, Success.pure_eq_ok, Success.mapM_eq_ok] at folded
    obtain ⟨args, each, rfl⟩ := folded
    refine ⟨wellFormed.kind, wellFormed.name, wellFormed.name_args, fun arg member => ?_⟩
    obtain ⟨operand, operand_member, folded⟩ := Success.exists_input_of_forall₂ each member
    exact .word ((wellFormed.args operand operand_member).isWord_of_fold folded)
  · obtain rfl := Except.ok.inj folded
    exact wellFormed

end Statement

/-! ## Calls -/

namespace Pseudo

private theorem wellFormed_of_bind {pseudo : Pseudo} {call : Statement} {out : List Statement}
    (body : Statement.AllWellFormed pseudo.body) (args : ∀ arg ∈ call.args, arg.WellFormed)
    (bound : pseudo.bind call = .ok out) : Statement.AllWellFormed out := by
  obtain ⟨-, rfl⟩ := bind_eq_ok_iff.mp bound
  refine List.forall_mem_map.mpr fun statement member => ?_
  have wellFormed := body statement member
  refine ⟨wellFormed.kind, wellFormed.name, wellFormed.name_args, ?_⟩
  refine List.forall_mem_map.mpr fun arg arg_member => ?_
  refine (wellFormed.args arg arg_member).mapIdentifiers fun lexeme identifier no_args => ?_
  unfold bindIdentifier
  cases found : Dictionary.find? (pseudo.binding call.args) lexeme.value with
  | none => exact .word ⟨.inl identifier, no_args⟩
  | some actual => exact args actual (mem_of_find?_binding found)

end Pseudo

namespace Library

variable {library : Library}

theorem Parsed.wellFormed (parsed : library.Parsed) :
    ∀ pseudo ∈ library.pseudos, Statement.AllWellFormed pseudo.body := by
  intro pseudo member
  obtain ⟨file, text, body_parsed⟩ := parsed pseudo member
  obtain ⟨lexemes, scanned, grouped⟩ := Success.bind_eq_ok.mp body_parsed
  exact Statement.wellFormed_of_group (Lexeme.scanned_of_scan scanned) grouped

theorem Parsed.wellFormed_of_call (parsed : library.Parsed) {call : Statement} {pseudo : Pseudo}
    {out : List Statement} (wellFormed : call.WellFormed)
    (found : library.find? call.mnemonic = some pseudo) (bound : pseudo.bind call = .ok out) :
    Statement.AllWellFormed out := by
  have body := parsed.wellFormed pseudo (List.mem_of_find?_eq_some found)
  exact Pseudo.wellFormed_of_bind body wellFormed.args bound

theorem Parsed.wellFormed_of_expand (parsed : library.Parsed) {program out : List Statement}
    (expanded : library.expand program = .ok out) (wellFormed : Statement.AllWellFormed program) :
    Statement.AllWellFormed out := by
  refine forall_mem_of_expand expanded (fun call pseudo _ call_wellFormed found bound _ => ?_)
    wellFormed
  exact parsed.wellFormed_of_call call_wellFormed found bound

end Library

/-! ## Names and addresses -/

namespace Scope

private theorem wellFormed_qualifyStatement {statement : Statement} (scope : String)
    (wellFormed : statement.WellFormed) : (qualifyStatement scope statement).WellFormed := by
  unfold qualifyStatement
  split_ifs
  · exact ⟨wellFormed.kind, by simp [wellFormed.name], by simp [wellFormed.name_args],
      wellFormed.args⟩
  · refine wellFormed.mapArgs fun arg arg_wellFormed => ?_
    refine arg_wellFormed.mapIdentifiers fun lexeme identifier no_args => ?_
    exact .word ⟨.inl (by simp [identifier]), by simp [no_args]⟩

theorem wellFormed_qualifyFrom {statements : List Statement}
    (wellFormed : Statement.AllWellFormed statements) (scope : String) :
    Statement.AllWellFormed (qualifyFrom scope statements) := by
  induction statements generalizing scope with
  | nil => exact wellFormed
  | cons statement statements induction =>
      obtain ⟨first, others⟩ := List.forall_mem_cons.mp wellFormed
      exact List.forall_mem_cons.mpr
        ⟨wellFormed_qualifyStatement scope first, induction others (after scope statement)⟩

end Scope

namespace Labels

theorem wellFormed_substitute (labels : Labels) {code : List Statement}
    (wellFormed : Statement.AllWellFormed code) :
    Statement.AllWellFormed (labels.substitute code) := by
  refine List.forall_mem_map.mpr fun statement member => ?_
  refine (wellFormed statement member).mapArgs fun arg arg_wellFormed => ?_
  refine arg_wellFormed.mapIdentifiers fun lexeme identifier no_args => ?_
  unfold substituteIdentifier
  split
  · exact .word (Lexeme.isWord_ofWord _ _)
  · exact .word ⟨.inl identifier, no_args⟩

end Labels
end TableAssembler
