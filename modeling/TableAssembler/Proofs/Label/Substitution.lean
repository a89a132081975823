import TableAssembler.Proofs.Label.Scope
import TableAssembler.Statement.Folding

/-!
# What operands mean

An operand of a program stands for something that depends only on its scope and on the addresses
of full names: a name of a label for the address, a closure for its value, and everything else
for itself.  Qualifying, substituting and folding give this meaning, and fail where there is none.
-/

namespace TableAssembler

/-! ## Operands -/

namespace Lexeme

/-- What an identifier becomes in a scope: the address of its full name, or else the full name. -/
def located (address? : String → Option UInt64) (scope : String) (identifier : Lexeme) : Lexeme :=
  match address? (Scope.fullName scope identifier) with
  | some address => ofWord address identifier.location
  | none => { identifier with value := Scope.fullName scope identifier }

/-- What an operand becomes in a scope, with addresses read from an environment of full names. -/
def Means (address? : String → Option UInt64) (scope : String) (operand result : Lexeme) : Prop :=
  match operand.kind with
  | .identifier => result = operand.located address? scope
  | .closure =>
      ∃ value : UInt64,
        operand.HasValue (fun name => address? (Scope.fullName scope name)) value.toNat ∧
          result = ofWord value operand.location
  | _ => result = operand

theorem located_of_some {address? : String → Option UInt64} {scope : String}
    {identifier : Lexeme} {address : UInt64}
    (found : address? (Scope.fullName scope identifier) = some address) :
    identifier.located address? scope = ofWord address identifier.location := by
  rw [located, found]

theorem located_of_none {address? : String → Option UInt64} {scope : String}
    {identifier : Lexeme} (missing : address? (Scope.fullName scope identifier) = none) :
    identifier.located address? scope =
      { identifier with value := Scope.fullName scope identifier } := by
  rw [located, missing]

/-- An identifier never becomes a closure or an operator. -/
theorem kind_located (address? : String → Option UInt64) (scope : String) {identifier : Lexeme}
    (kind : identifier.kind = .identifier) :
    (identifier.located address? scope).kind = .number ∨
      (identifier.located address? scope).kind = .identifier := by
  cases found : address? (Scope.fullName scope identifier) with
  | some address => exact .inl (by rw [located_of_some found, ofWord])
  | none => exact .inr (by rw [located_of_none found, kind])

theorem reads_located (address? : String → Option UInt64) (scope : String) :
    Reads (fun name => address? (Scope.fullName scope name)) (located address? scope) where
  evaluate_eq_ok_iff := by
    intro lexeme identifier value
    cases found : address? (Scope.fullName scope lexeme) with
    | some address =>
        rw [located_of_some found, evaluate_eq_word (by simp [ofWord]) (by simp [ofWord]),
          word_ofWord, Except.ok.injEq, Option.some.injEq]
    | none =>
        rw [located_of_none found]
        exact iff_of_false (evaluate_ne_ok_of_identifier (by exact identifier) value) (by simp)
  no_operator := by
    intro lexeme identifier
    rcases kind_located address? scope identifier with kind | kind <;> simp [kind]

private theorem fold_mapIdentifiers_of_closure {change : Lexeme → Lexeme} {lexeme : Lexeme}
    (closure : lexeme.kind = .closure) :
    (lexeme.mapIdentifiers change).fold =
      (lexeme.mapIdentifiers change).evaluate.map fun value => ofWord value lexeme.location := by
  rw [mapIdentifiers_of_closure closure, fold, if_pos (by exact closure)]

end Lexeme

namespace Labels

private theorem substituteIdentifier_qualifyLexeme (labels : Labels) (scope : String)
    (identifier : Lexeme) :
    labels.substituteIdentifier (Scope.qualifyLexeme scope identifier) =
      identifier.located (Dictionary.find? labels) scope := by
  rw [substituteIdentifier, Scope.value_qualifyLexeme, Scope.location_qualifyLexeme,
    Lexeme.located]
  cases Dictionary.find? labels (Scope.fullName scope identifier) with
  | some address => rfl
  | none =>
      cases identifier
      simp only [Scope.qualifyLexeme, Scope.fullName]
      split_ifs <;> rfl

private theorem substituteOperand_qualifyOperand (labels : Labels) (scope : String)
    (operand : Lexeme) :
    labels.substituteOperand (Scope.qualifyOperand scope operand) =
      operand.mapIdentifiers (Lexeme.located (Dictionary.find? labels) scope) := by
  rw [substituteOperand, Scope.qualifyOperand, Lexeme.mapIdentifiers_mapIdentifiers]
  · exact congrArg (operand.mapIdentifiers ·)
      (funext (labels.substituteIdentifier_qualifyLexeme scope))
  · exact fun lexeme identifier => (Scope.kind_qualifyLexeme scope lexeme).trans identifier

/-- An operand is resolved to what it means. -/
theorem fold_substituteOperand_eq_ok_iff {labels : Labels} {scope : String}
    {operand result : Lexeme} :
    (labels.substituteOperand (Scope.qualifyOperand scope operand)).fold = .ok result ↔
      operand.Means (Dictionary.find? labels) scope result := by
  rw [substituteOperand_qualifyOperand, Lexeme.Means]
  by_cases identifier : operand.kind = .identifier
  · have no_closure : (operand.located (Dictionary.find? labels) scope).kind ≠ .closure := by
      rcases Lexeme.kind_located (Dictionary.find? labels) scope identifier with kind | kind <;>
        simp [kind]
    rw [Lexeme.mapIdentifiers_of_identifier identifier, Lexeme.fold, if_neg no_closure,
      Except.ok.injEq, identifier]
    exact eq_comm
  · by_cases closure : operand.kind = .closure
    · rw [Lexeme.fold_mapIdentifiers_of_closure closure, Success.map_eq_ok, closure]
      simp only [Lexeme.evaluate_mapIdentifiers_eq_ok_iff
        (Lexeme.reads_located (Dictionary.find? labels) scope)]
      exact exists_congr fun value => and_congr_right fun _ => eq_comm
    · rw [Lexeme.mapIdentifiers_of_other identifier closure, Lexeme.fold, if_neg closure,
        Except.ok.injEq]
      split
      · next kind => exact absurd kind identifier
      · next kind => exact absurd kind closure
      · exact eq_comm

end Labels

/-! ## Statements -/

/-- What a statement becomes in a scope.  Only an instruction has operands with a meaning. -/
structure Statement.Means (address? : String → Option UInt64) (scope : String)
    (statement result : Statement) : Prop where
  /-- The class stays. -/
  kind : result.kind = statement.kind
  /-- The name stays. -/
  name : result.name = statement.name
  /-- Every operand of an instruction becomes what it means. -/
  args : statement.kind = .instruction →
    List.Forall₂ (Lexeme.Means address? scope) statement.args result.args
  /-- A statement of another class keeps its operands. -/
  kept : statement.kind ≠ .instruction → result.args = statement.args

theorem Labels.means_of_fold {labels : Labels} {scope : String} {statement result : Statement}
    (other : statement.isLabel = false)
    (folded : ((Scope.qualifyStatement scope statement).mapArgs labels.substituteOperand).fold =
      .ok result) :
    statement.Means (Dictionary.find? labels) scope result := by
  rw [Scope.qualifyStatement_of_other other] at folded
  by_cases instruction : statement.kind = .instruction
  · simp only [Statement.mapArgs, instruction, if_true, Statement.fold, Success.bind_eq_ok,
      Success.pure_eq_ok, Success.mapM_eq_ok, List.forall₂_map_left_iff,
      fold_substituteOperand_eq_ok_iff] at folded
    obtain ⟨args, means, rfl⟩ := folded
    exact ⟨instruction.symm, rfl, fun _ => means, fun none => absurd instruction none⟩
  · simp only [Statement.mapArgs, instruction, if_false, Statement.fold,
      Except.ok.injEq] at folded
    subst folded
    exact ⟨rfl, rfl, fun some => absurd some instruction, fun _ => rfl⟩

end TableAssembler
