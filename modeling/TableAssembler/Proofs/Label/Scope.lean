import TableAssembler.Label.Scope
import TableAssembler.Proofs.Label.Address
import TableAssembler.Proofs.Lexeme.Value

/-!
# Full names

The full name of a local name starts with the last global label before it.  Qualifying a program
writes full names into labels and operands, and moves no address.
-/

namespace TableAssembler
namespace Scope

/-! ## The scope behind the start of a program -/

/-- The statement is a label that opens a scope. -/
def isGlobalLabel (statement : Statement) : Bool :=
  statement.isLabel && !statement.name.isLocal

/-- The name of the last global label, empty when there is none. -/
def behind (front : List Statement) : String :=
  (front.filter isGlobalLabel).getLast?.elim "" fun label => label.name.value

/-- The name of a lexeme as a scope completes it. -/
def fullName (scope : String) (lexeme : Lexeme) : String :=
  if lexeme.isLocal then scope ++ lexeme.value else lexeme.value

private theorem behind_append_singleton (front : List Statement) (statement : Statement) :
    behind (front ++ [statement]) = after (behind front) statement := by
  unfold behind after
  by_cases global : isGlobalLabel statement
  · have named : statement.kind = .label ∧ ¬ statement.name.isLocal := by
      simpa [isGlobalLabel, Statement.isLabel] using global
    simp [List.filter_append, global, named]
  · have other : ¬ (statement.kind = .label ∧ ¬ statement.name.isLocal) := by
      simpa [isGlobalLabel, Statement.isLabel] using global
    have unchanged : (front ++ [statement]).filter isGlobalLabel = front.filter isGlobalLabel := by
      simp [List.filter_append, global]
    rw [if_neg other, unchanged]

private theorem foldl_after (front : List Statement) : front.foldl after "" = behind front := by
  induction front using List.reverseRecOn with
  | nil => rfl
  | append_singleton front statement induction =>
      rw [List.foldl_append, induction, behind_append_singleton]
      rfl

theorem qualifyFrom_append (scope : String) (front back : List Statement) :
    qualifyFrom scope (front ++ back) =
      qualifyFrom scope front ++ qualifyFrom (front.foldl after scope) back := by
  induction front generalizing scope with
  | nil => rfl
  | cons statement front induction => simp [qualifyFrom, induction]

/-- A statement is qualified in the scope of the statements before it. -/
theorem qualify_append_cons (front : List Statement) (statement : Statement)
    (back : List Statement) :
    qualify (front ++ statement :: back) =
      qualify front ++ qualifyStatement (behind front) statement ::
        qualifyFrom (after (behind front) statement) back := by
  rw [qualify, qualifyFrom_append, foldl_after]
  rfl

theorem qualify_append_singleton (front : List Statement) (statement : Statement) :
    qualify (front ++ [statement]) =
      qualify front ++ [qualifyStatement (behind front) statement] :=
  qualify_append_cons front statement []

theorem after_of_ne_label {statement : Statement} (other : statement.kind ≠ .label)
    (scope : String) : after scope statement = scope :=
  if_neg fun both => other both.1

/-- Without labels every statement is qualified in one scope. -/
theorem qualifyFrom_of_no_label {part : List Statement} (scope : String)
    (no_label : ∀ inner ∈ part, inner.kind ≠ .label) :
    qualifyFrom scope part = part.map (Statement.mapArgs (qualifyOperand scope)) ∧
      part.foldl after scope = scope := by
  induction part with
  | nil => exact ⟨rfl, rfl⟩
  | cons inner part induction =>
      obtain ⟨first, others⟩ := List.forall_mem_cons.mp no_label
      obtain ⟨qualified, kept⟩ := induction others
      constructor
      · rw [qualifyFrom, after_of_ne_label first, qualified, qualifyStatement, if_neg first,
          List.map_cons]
      · rw [List.foldl_cons, after_of_ne_label first, kept]

/-! ## What qualifying keeps -/

theorem value_qualifyLexeme (scope : String) (lexeme : Lexeme) :
    (qualifyLexeme scope lexeme).value = fullName scope lexeme := by
  unfold qualifyLexeme fullName
  split_ifs <;> rfl

@[simp]
theorem kind_qualifyLexeme (scope : String) (lexeme : Lexeme) :
    (qualifyLexeme scope lexeme).kind = lexeme.kind := by
  unfold qualifyLexeme
  split_ifs <;> rfl

@[simp]
theorem location_qualifyLexeme (scope : String) (lexeme : Lexeme) :
    (qualifyLexeme scope lexeme).location = lexeme.location := by
  unfold qualifyLexeme
  split_ifs <;> rfl

@[simp]
theorem args_qualifyLexeme (scope : String) (lexeme : Lexeme) :
    (qualifyLexeme scope lexeme).args = lexeme.args := by
  unfold qualifyLexeme
  split_ifs <;> rfl

theorem qualifyOperand_of_other {scope : String} {lexeme : Lexeme}
    (no_identifier : lexeme.kind ≠ .identifier) (no_closure : lexeme.kind ≠ .closure) :
    qualifyOperand scope lexeme = lexeme :=
  Lexeme.mapIdentifiers_of_other no_identifier no_closure

theorem kind_location_qualifyOperand (scope : String) (lexeme : Lexeme) :
    (qualifyOperand scope lexeme).kind = lexeme.kind ∧
      (qualifyOperand scope lexeme).location = lexeme.location :=
  Lexeme.kind_location_mapIdentifiers
    (fun lexeme => ⟨kind_qualifyLexeme scope lexeme, location_qualifyLexeme scope lexeme⟩) lexeme

@[simp]
theorem kind_qualifyOperand (scope : String) (lexeme : Lexeme) :
    (qualifyOperand scope lexeme).kind = lexeme.kind :=
  (kind_location_qualifyOperand scope lexeme).1

@[simp]
theorem location_qualifyOperand (scope : String) (lexeme : Lexeme) :
    (qualifyOperand scope lexeme).location = lexeme.location :=
  (kind_location_qualifyOperand scope lexeme).2

theorem qualifyStatement_of_other {scope : String} {statement : Statement}
    (other : statement.isLabel = false) :
    qualifyStatement scope statement = statement.mapArgs (qualifyOperand scope) := by
  have no_label : statement.kind ≠ .label := by simpa [Statement.isLabel] using other
  rw [qualifyStatement, if_neg no_label]

@[simp]
theorem kind_qualifyStatement (scope : String) (statement : Statement) :
    (qualifyStatement scope statement).kind = statement.kind := by
  unfold qualifyStatement
  split_ifs
  · rfl
  · exact Statement.kind_mapArgs _ _

@[simp]
theorem isLabel_qualifyStatement (scope : String) (statement : Statement) :
    (qualifyStatement scope statement).isLabel = statement.isLabel := by
  simp [Statement.isLabel]

/-- A label is qualified to its full name. -/
theorem value_name_qualifyStatement {scope : String} {label : Statement}
    (is_label : label.isLabel = true) :
    (qualifyStatement scope label).name.value = fullName scope label.name := by
  have kind : label.kind = .label := by simpa [Statement.isLabel] using is_label
  rw [qualifyStatement, if_pos kind, value_qualifyLexeme]

theorem mnemonic_qualifyStatement (scope : String) {statement : Statement}
    (other : statement.isLabel = false) :
    (qualifyStatement scope statement).mnemonic = statement.mnemonic := by
  rw [qualifyStatement_of_other other, Statement.mnemonic, Statement.name_mapArgs]
  rfl

@[simp]
theorem isOrigin_qualifyStatement (scope : String) (statement : Statement) :
    (qualifyStatement scope statement).isOrigin = statement.isOrigin := by
  cases label : statement.isLabel with
  | true => rw [Statement.isOrigin_of_isLabel label, Statement.isOrigin_of_isLabel (by simpa)]
  | false => simp [Statement.isOrigin, mnemonic_qualifyStatement scope label]

@[simp]
theorem isCode_qualifyStatement (scope : String) (statement : Statement) :
    (qualifyStatement scope statement).isCode = statement.isCode := by
  cases label : statement.isLabel with
  | true => rw [Statement.isCode_of_isLabel label, Statement.isCode_of_isLabel (by simpa)]
  | false => simp [Statement.isCode, mnemonic_qualifyStatement scope label]

theorem countP_isCode_qualify (front : List Statement) :
    (qualify front).countP Statement.isCode = front.countP Statement.isCode := by
  induction front using List.reverseRecOn with
  | nil => rfl
  | append_singleton front statement induction =>
      simp [qualify_append_singleton, List.countP_append, induction]

/-! ## Addresses -/

theorem originAddress_qualifyStatement {scope : String} {statement : Statement}
    (other : statement.isLabel = false) :
    Placement.originAddress (qualifyStatement scope statement) =
      Placement.originAddress statement := by
  rw [qualifyStatement_of_other other, Statement.mapArgs]
  split_ifs with instruction
  · unfold Placement.originAddress
    match args : statement.args with
    | [] => simp [Statement.location]
    | [arg] =>
        by_cases number : arg.kind = .number
        · rw [List.map_singleton, qualifyOperand_of_other (by simp [number]) (by simp [number])]
        · simp [number]
    | first :: second :: rest => simp [Statement.location]
  · rfl

private theorem argumentSize_qualifyOperand (layout : Layout) (data : Directive.Data)
    (scope : String) (arg : Lexeme) :
    layout.argumentSize data (qualifyOperand scope arg) = layout.argumentSize data arg := by
  by_cases text : arg.kind = .text
  · rw [qualifyOperand_of_other (by simp [text]) (by simp [text])]
  · simp only [Layout.argumentSize, kind_qualifyOperand, location_qualifyOperand]
    cases kind : arg.kind with
    | text => exact absurd kind text
    | _ => rfl

private theorem statementSize_qualifyStatement {layout : Layout} {sizer? : Option Sizer}
    {scope : String} {statement : Statement} (other : statement.isLabel = false) :
    layout.statementSize sizer? (qualifyStatement scope statement) =
      layout.statementSize sizer? statement := by
  have mnemonic := mnemonic_qualifyStatement scope other
  have location : (qualifyStatement scope statement).location = statement.location := by
    rw [qualifyStatement_of_other other, Statement.location, Statement.name_mapArgs]
    rfl
  have args : ∀ data, layout.dataSize data (qualifyStatement scope statement).args =
      layout.dataSize data statement.args := by
    intro data
    rw [qualifyStatement_of_other other, Statement.mapArgs]
    split_ifs with instruction
    · have same : layout.argumentSize data ∘ qualifyOperand scope = layout.argumentSize data :=
        funext (argumentSize_qualifyOperand layout data scope)
      simp only [Layout.dataSize, List.mapM_map, same]
    · rfl
  simp only [Layout.statementSize, Layout.instructionSize, mnemonic, location, args]

/-- Qualifying a program moves no address. -/
theorem addressBehind_of_qualify {layout : Layout} {sizer? : Option Sizer}
    {front : List Statement} {address : UInt64}
    (behind : Placement.AddressBehind layout sizer? (qualify front) address) :
    Placement.AddressBehind layout sizer? front address := by
  induction front using List.reverseRecOn generalizing address with
  | nil => exact behind
  | append_singleton front statement induction =>
      rw [qualify_append_singleton] at behind
      generalize same : qualify front ++ [qualifyStatement (Scope.behind front) statement] =
        qualified at behind
      cases behind with
      | start => simp at same
      | label behind label =>
          obtain ⟨rfl, last⟩ := List.append_inj' same rfl
          obtain rfl := List.singleton_inj.mp last
          exact .label (induction behind) (by simpa using label)
      | origin behind origin target_eq =>
          obtain ⟨rfl, last⟩ := List.append_inj' same rfl
          obtain rfl := List.singleton_inj.mp last
          rw [isOrigin_qualifyStatement] at origin
          rw [originAddress_qualifyStatement (Statement.isLabel_of_isOrigin origin)] at target_eq
          exact .origin (induction behind) origin target_eq
      | code behind code size_eq =>
          obtain ⟨rfl, last⟩ := List.append_inj' same rfl
          obtain rfl := List.singleton_inj.mp last
          rw [isCode_qualifyStatement] at code
          rw [statementSize_qualifyStatement (Statement.isLabel_of_isCode code)] at size_eq
          exact .code (induction behind) code size_eq

end Scope
end TableAssembler
