import TableAssembler.Proofs.Lexeme.Scanned
import TableAssembler.Proofs.Lexeme.Value
import TableAssembler.Proofs.Outcome
import TableAssembler.Proofs.Statement.Grammar

/-!
# Well-formed operands

A closure is well-formed when it holds an operator between two well-formed operands.  Operands
that are read from text are, and they stay so whatever well-formed operands are put in for their
names; what is wrong with their values is then never a matter of their form.
-/

namespace TableAssembler

/-- What only programs that no text can write are reported for, once lexemes are grouped. -/
def Cause.IsInternal : Cause → Prop
  | .operatorExpected _ | .unknownOperator _ | .dataArgument _ | .unexpectedSource _
  | .directiveUnresolved _ | .unexpectedKind .closure => True
  | _ => False

/-- The fault has such a cause, or a closure has fewer lexemes than are read. -/
def Fault.IsInternal : Fault → Prop
  | .located _ cause | .nowhere cause => cause.IsInternal
  | .panicked (.indexOutOfRange _ _) => True
  | .panicked .negativeRepeat => False

/-- The computation fails with no internal fault. -/
abbrev Fault.Sound {α : Type} (result : Except Fault α) : Prop :=
  Outcome.Confined (fun fault => ¬ fault.IsInternal) result

theorem Fault.sound_located {α : Type} {location : Location} {cause : Cause}
    (admitted : ¬ cause.IsInternal) :
    Fault.Sound (.error (.located location cause) : Except Fault α) :=
  .error admitted

namespace Lexeme

/-! ## Closures -/

/-- The lexeme has one operator of text between two others, and nothing else. -/
def HoldsOperation (lexeme : Lexeme) : Prop :=
  ∃ left operator right, lexeme.args = [left, operator, right] ∧ operator.kind = .operator ∧
    operator.value ∈ Scan.operators

/-- The lexeme is another one, or stands in it at some depth. -/
inductive Within : Lexeme → Lexeme → Prop
  | here (lexeme : Lexeme) : Within lexeme lexeme
  | arg {lexeme arg outer : Lexeme} : arg ∈ outer.args → Within lexeme arg → Within lexeme outer

/-- The lexeme is an operand of an instruction by its class, and has no operands of its own. -/
structure IsWord (lexeme : Lexeme) : Prop where
  kind : lexeme.kind = .identifier ∨ lexeme.kind = .number ∨ lexeme.kind = .text
  args : lexeme.args = []

/-- The operand is a word, or a closure of an operator and two operands like it. -/
inductive WellFormed : Lexeme → Prop
  | word {lexeme : Lexeme} : lexeme.IsWord → WellFormed lexeme
  | closure {lexeme left operator right : Lexeme} :
      lexeme.kind = .closure → lexeme.args = [left, operator, right] → WellFormed left →
        operator.kind = .operator → operator.Scanned → WellFormed right → WellFormed lexeme

theorem isWord_ofWord (value : UInt64) (location : Location) : (ofWord value location).IsWord :=
  ⟨.inr (.inl rfl), rfl⟩

theorem IsWord.kind_ne_closure {lexeme : Lexeme} (word : lexeme.IsWord) :
    lexeme.kind ≠ .closure := by
  rcases word.kind with kind | kind | kind <;> simp [kind]

/-- Nothing stands in a lexeme without operands but itself. -/
theorem Within.eq_of_args {lexeme outer : Lexeme} (within : lexeme.Within outer)
    (no_args : outer.args = []) : lexeme = outer := by
  cases within with
  | here => rfl
  | arg member => simp [no_args] at member

/-- All closures in a well-formed operand hold an operation. -/
theorem WellFormed.holdsOperation {lexeme outer : Lexeme} (wellFormed : outer.WellFormed)
    (within : lexeme.Within outer) (closure : lexeme.kind = .closure) :
    lexeme.HoldsOperation := by
  induction wellFormed with
  | word word =>
      obtain rfl := within.eq_of_args word.args
      exact absurd closure word.kind_ne_closure
  | @closure outer left operator right _ args _ kind scanned _ left_ih right_ih =>
      cases within with
      | here => exact ⟨left, operator, right, args, kind, scanned.operator kind⟩
      | arg member inner =>
          rw [args] at member
          simp only [List.mem_cons, List.not_mem_nil, or_false] at member
          rcases member with rfl | rfl | rfl
          · exact left_ih inner
          · obtain rfl := inner.eq_of_args scanned.args
            exact absurd closure scanned.kind
          · exact right_ih inner

/-- An operand that is read from text is well-formed. -/
theorem IsOperand.wellFormed {part : List Lexeme} {operand : Lexeme}
    (derives : IsOperand part operand) (scanned : ∀ lexeme ∈ part, lexeme.Scanned) :
    operand.WellFormed := by
  induction derives with
  | word kind => exact .word ⟨kind, (scanned _ List.mem_cons_self).args⟩
  | closure _ _ kind _ _ left_ih right_ih =>
      simp only [List.cons_append, List.append_assoc, List.forall_mem_cons,
        List.forall_mem_append] at scanned
      obtain ⟨-, left, operator, right, -⟩ := scanned
      exact .closure rfl rfl (left_ih left) kind operator (right_ih right)

/-! ## Names replaced -/

/-- Well-formed operands put in for names leave a well-formed operand. -/
theorem WellFormed.mapIdentifiers {operand : Lexeme} {change : Lexeme → Lexeme}
    (wellFormed : operand.WellFormed)
    (changes : ∀ lexeme : Lexeme, lexeme.kind = .identifier → lexeme.args = [] →
      (change lexeme).WellFormed) :
    (operand.mapIdentifiers change).WellFormed := by
  induction wellFormed with
  | @word lexeme word =>
      by_cases identifier : lexeme.kind = .identifier
      · rw [mapIdentifiers_of_identifier identifier]
        exact changes lexeme identifier word.args
      · rw [mapIdentifiers_of_other identifier word.kind_ne_closure]
        exact .word word
  | @closure lexeme left operator right closure args _ kind scanned _ left_ih right_ih =>
      have operator_eq : operator.mapIdentifiers change = operator :=
        mapIdentifiers_of_other (by simp [kind]) (by simp [kind])
      rw [mapIdentifiers_of_closure closure, args, List.map_cons, List.map_cons, operator_eq]
      exact .closure closure rfl left_ih kind scanned right_ih

/-! ## Values -/

theorem sound_word (lexeme : Lexeme) : Fault.Sound lexeme.word := by
  unfold word
  split_ifs
  · split
    · exact .ok _
    · exact Fault.sound_located (by simp [Cause.IsInternal])
  · exact Fault.sound_located (by simp [Cause.IsInternal])

theorem Scanned.sound_compute {operator : Lexeme} (scanned : operator.Scanned)
    (kind : operator.kind = .operator) (left right : UInt64) :
    Fault.Sound (Operation.compute operator left right) := by
  have known : ∀ text ∈ Scan.operators, (Operation.ofText? text).isSome := by decide
  obtain ⟨operation, found⟩ := Option.isSome_iff_exists.mp (known _ (scanned.operator kind))
  rw [Operation.compute, if_pos kind, found]
  dsimp only
  split
  · exact .ok _
  · exact Fault.sound_located (by simp [Cause.IsInternal])

/-- A well-formed operand is evaluated without looking past its operands. -/
theorem WellFormed.sound_evaluate {operand : Lexeme} (wellFormed : operand.WellFormed) :
    Fault.Sound operand.evaluate := by
  induction wellFormed with
  | @word lexeme word =>
      by_cases identifier : lexeme.kind = .identifier
      · obtain ⟨value, kind, radix, args, span, location⟩ := lexeme
        obtain rfl : kind = .identifier := identifier
        exact Fault.sound_located (by simp [Cause.IsInternal])
      · rw [evaluate_eq_word identifier word.kind_ne_closure]
        exact lexeme.sound_word
  | @closure lexeme left operator right closure args _ kind scanned _ left_ih right_ih =>
      obtain ⟨value, _, radix, _, span, location⟩ := lexeme
      dsimp only at closure args
      subst closure args
      simp only [evaluate]
      refine left_ih.bind fun leftValue _ => right_ih.bind fun rightValue _ => ?_
      exact scanned.sound_compute kind leftValue rightValue

/-- Folding leaves words. -/
theorem WellFormed.isWord_of_fold {operand result : Lexeme} (wellFormed : operand.WellFormed)
    (folded : operand.fold = .ok result) : result.IsWord := by
  unfold fold at folded
  split_ifs at folded with closure
  · obtain ⟨value, -, rfl⟩ := Success.map_eq_ok.mp folded
    exact isWord_ofWord value operand.location
  · obtain rfl := Except.ok.inj folded
    cases wellFormed with
    | word word => exact word
    | closure kind => exact absurd kind closure

end Lexeme
end TableAssembler
