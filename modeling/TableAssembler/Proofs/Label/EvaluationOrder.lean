import TableAssembler.Proofs.Dictionary
import TableAssembler.Proofs.Label.Substitution
import TableAssembler.Proofs.Lexeme.Number
import TableAssembler.Proofs.Lexeme.WellFormed
import TableAssembler.Proofs.Statement.Grouping

/-!
# The order of evaluation

An operand is evaluated from left to right, its operator last.  With the addresses of labels in
place of their names it has the value that it has in the environment of the labels, unless one of
the operands in it is at fault: then the first of these in this order is reported, at its own place
or, for a division by zero, at its operator.
-/

namespace TableAssembler

/-- Only a division by zero has no result. -/
theorem Operation.result?_eq_none_iff {operation : Operation} {left right : UInt64} :
    operation.result? left right = none ↔ operation = .divide ∧ right = 0 := by
  cases operation <;> simp [result?]

namespace Labels

/-- The address of a name. -/
def addressOf (labels : Labels) (name : Lexeme) : Option UInt64 :=
  Dictionary.find? labels name.value

end Labels

namespace Lexeme

/-! ## Nodes and their faults -/

/-- An operand and the operands in it, each behind its own. -/
def postorder : Lexeme → List Lexeme
  | node@{ kind := .closure, args := [left, _, right], .. } =>
      left.postorder ++ (right.postorder ++ [node])
  | node => [node]

theorem postorder_of_ne {node : Lexeme} (no_closure : node.kind ≠ .closure) :
    node.postorder = [node] := by
  unfold postorder
  split
  · contradiction
  · rfl

theorem postorder_ofOperation (left operator right : Lexeme) (location : Location) :
    (ofOperation left operator right location).postorder =
      left.postorder ++ (right.postorder ++ [ofOperation left operator right location]) := by
  rw [ofOperation, postorder]

/-- What is wrong with one node of an operand, apart from the operands in it. -/
inductive NodeFault (labels : Labels) (node : Lexeme) : Fault → Prop
  /-- No word holds the number. -/
  | numberOutOfRange {number : Nat} :
      node.kind = .number →
        Numeral.value? node.radix.toNat node.value.toList = some number → 2 ^ 64 ≤ number →
        NodeFault labels node (.located node.location (.numberOutOfRange node.source))
  /-- The name is no label. -/
  | undeclaredLabel :
      node.kind = .identifier → node.value ∉ Dictionary.names labels →
        NodeFault labels node (.located node.location (.undeclaredLabel node.value))
  /-- A string has no value. -/
  | numberExpected :
      node.kind = .text →
        NodeFault labels node (.located node.location (.numberExpected .text))
  /-- The divisor has the value zero; this is found at the operator. -/
  | divisionByZero {left operator right : Lexeme} :
      node.kind = .closure → node.args = [left, operator, right] → operator.value = "/" →
        right.HasValue labels.addressOf 0 →
        NodeFault labels node (.located operator.location .divisionByZero)

variable {labels : Labels}

/-- A node has at most one fault. -/
theorem NodeFault.unique {node : Lexeme} {fault other : Fault}
    (faulty : NodeFault labels node fault) (again : NodeFault labels node other) :
    fault = other := by
  cases faulty with
  | divisionByZero kind args =>
      cases again with
      | divisionByZero _ args' =>
          obtain ⟨-, rfl, -⟩ := by simpa only [List.cons.injEq] using args.symm.trans args'
          rfl
      | numberOutOfRange other | undeclaredLabel other | numberExpected other =>
          simp [kind] at other
  | numberOutOfRange kind | undeclaredLabel kind | numberExpected kind =>
      cases again <;> simp_all

/-! ## Evaluation of one node -/

theorem reports_evaluate_of_identifier {name : Lexeme} (identifier : name.kind = .identifier) :
    Outcome.Reports (NodeFault labels) [name]
      (fun value => name.HasValue labels.addressOf value.toNat)
      (labels.substituteOperand name).evaluate := by
  rw [Labels.substituteOperand, mapIdentifiers_of_identifier identifier,
    Labels.substituteIdentifier]
  cases found : Dictionary.find? labels name.value with
  | some address =>
      dsimp only
      rw [evaluate_eq_word (by simp [ofWord]) (by simp [ofWord]), word_ofWord]
      refine .single_ok (fun fault faulty => ?_) (.name identifier found)
      cases faulty with
      | undeclaredLabel _ absent => simp [Dictionary.find?_eq_none_iff.mpr absent] at found
      | numberOutOfRange kind | numberExpected kind | divisionByZero kind =>
          simp [identifier] at kind
  | none =>
      have absent := Dictionary.find?_eq_none_iff.mp found
      obtain ⟨value, kind, radix, args, span, location⟩ := name
      obtain rfl : kind = .identifier := identifier
      exact .single_error (.undeclaredLabel rfl absent)

theorem reports_evaluate_of_number {node : Lexeme} {number : Nat} (kind : node.kind = .number)
    (writes : node.Writes number) :
    Outcome.Reports (NodeFault labels) [node]
      (fun value => node.HasValue labels.addressOf value.toNat)
      (labels.substituteOperand node).evaluate := by
  rw [Labels.substituteOperand, mapIdentifiers_of_other (by simp [kind]) (by simp [kind]),
    evaluate_eq_word (by simp [kind]) (by simp [kind])]
  have word_eq := writes.word_eq kind
  by_cases fits : number < 2 ^ 64
  · rw [if_pos fits] at word_eq
    rw [word_eq]
    refine .single_ok (fun fault faulty => ?_) (.number word_eq)
    cases faulty with
    | numberOutOfRange _ value great =>
        obtain rfl := Option.some.inj (writes.value.symm.trans value)
        omega
    | undeclaredLabel other | numberExpected other | divisionByZero other => simp [kind] at other
  · rw [if_neg fits] at word_eq
    rw [word_eq]
    exact .single_error (.numberOutOfRange kind writes.value (by omega))

theorem reports_evaluate_of_text {node : Lexeme} (kind : node.kind = .text) :
    Outcome.Reports (NodeFault labels) [node]
      (fun value => node.HasValue labels.addressOf value.toNat)
      (labels.substituteOperand node).evaluate := by
  rw [Labels.substituteOperand, mapIdentifiers_of_other (by simp [kind]) (by simp [kind]),
    evaluate_eq_word (by simp [kind]) (by simp [kind]), word, if_neg (by simp [kind]), kind]
  exact .single_error (.numberExpected kind)

theorem reports_compute {node left operator right : Lexeme} {leftValue rightValue : UInt64}
    (closure : node.kind = .closure) (args : node.args = [left, operator, right])
    (kind : operator.kind = .operator) (scanned : operator.Scanned)
    (left_value : left.HasValue labels.addressOf leftValue.toNat)
    (right_value : right.HasValue labels.addressOf rightValue.toNat) :
    Outcome.Reports (NodeFault labels) [node]
      (fun value => node.HasValue labels.addressOf value.toNat)
      (Operation.compute operator leftValue rightValue) := by
  have known : ∀ text ∈ Scan.operators, ∃ operation, Operation.ofText? text = some operation ∧
      (operation = .divide ↔ text = "/") := by
    decide
  obtain ⟨operation, found, divides⟩ := known _ (scanned.operator kind)
  rw [Operation.compute, if_pos kind, found]
  dsimp only
  cases computed : operation.result? leftValue rightValue with
  | some value =>
      refine .single_ok (fun fault faulty => ?_) ?_
      · cases faulty with
        | divisionByZero _ args' slash zero =>
            obtain ⟨-, rfl, rfl, -⟩ := by simpa only [List.cons.injEq] using args.symm.trans args'
            have right_zero : rightValue = 0 := UInt64.toNat_inj.mp (right_value.unique zero)
            have no_result : operation.result? leftValue rightValue = none :=
              Operation.result?_eq_none_iff.mpr ⟨divides.mpr slash, right_zero⟩
            simp [no_result] at computed
        | numberOutOfRange other | undeclaredLabel other | numberExpected other =>
            simp [closure] at other
      · exact .closure closure args kind found left_value right_value
          (Operation.result?_eq_some_iff.mp computed)
  | none =>
      obtain ⟨divide, rfl⟩ := Operation.result?_eq_none_iff.mp computed
      exact .single_error (.divisionByZero closure args (divides.mp divide) right_value)

/-! ## Evaluation of an operand -/

private theorem evaluate_substituteOperand_ofOperation (labels : Labels) {operator : Lexeme}
    (kind : operator.kind = .operator) (left right : Lexeme) (location : Location) :
    (labels.substituteOperand (ofOperation left operator right location)).evaluate =
      (labels.substituteOperand left).evaluate >>= fun leftValue =>
        (labels.substituteOperand right).evaluate >>= fun rightValue =>
          Operation.compute operator leftValue rightValue := by
  have kept : operator.mapIdentifiers labels.substituteIdentifier = operator :=
    mapIdentifiers_of_other (by simp [kind]) (by simp [kind])
  rw [Labels.substituteOperand, mapIdentifiers_of_closure rfl]
  simp only [ofOperation, List.map_cons, List.map_nil, kept, evaluate]
  rfl

/-- Evaluating an operand of a text, with addresses in place of names, reports the first fault of
its nodes. -/
theorem IsOperand.reports_evaluate {part : List Lexeme} {operand : Lexeme}
    (derives : IsOperand part operand)
    (spelled : ∀ lexeme ∈ part, ∃ characters, lexeme.Spelled characters) (labels : Labels) :
    Outcome.Reports (NodeFault labels) operand.postorder
      (fun value => operand.HasValue labels.addressOf value.toNat)
      (labels.substituteOperand operand).evaluate := by
  induction derives with
  | @word lexeme word =>
      rw [postorder_of_ne (by rcases word with kind | kind | kind <;> simp [kind])]
      rcases word with kind | kind | kind
      · exact reports_evaluate_of_identifier kind
      · obtain ⟨characters, spelled⟩ := spelled lexeme List.mem_cons_self
        obtain ⟨number, writes⟩ := spelled.exists_writes kind
        exact reports_evaluate_of_number kind writes
      · exact reports_evaluate_of_text kind
  | @closure opening operator closing left right _ _ _ _ kind _ _ left_ih right_ih =>
      simp only [List.cons_append, List.append_assoc, List.forall_mem_cons,
        List.forall_mem_append] at spelled
      obtain ⟨-, left_spelled, ⟨characters, operator_spelled⟩, right_spelled, -⟩ := spelled
      rw [postorder_ofOperation, evaluate_substituteOperand_ofOperation labels kind]
      refine (left_ih left_spelled).bind fun leftValue left_value => ?_
      refine (right_ih right_spelled).bind fun rightValue right_value => ?_
      exact reports_compute rfl rfl kind operator_spelled.scanned left_value right_value

theorem IsOperand.exists_part_of_within {part : List Lexeme} {operand closure : Lexeme}
    (derives : IsOperand part operand) (scanned : ∀ lexeme ∈ part, lexeme.Scanned)
    (within : closure.Within operand) (kind : closure.kind = .closure) :
    ∃ inner, inner ⊆ part ∧ IsOperand inner closure := by
  induction derives with
  | @word lexeme word =>
      obtain rfl := within.eq_of_args (scanned lexeme List.mem_cons_self).args
      rcases word with other | other | other <;> simp [kind] at other
  | @closure opening operator closing left right leftPart rightPart opens left_derives
      operator_kind right_derives closes left_ih right_ih =>
      simp only [List.cons_append, List.append_assoc, List.forall_mem_cons,
        List.forall_mem_append] at scanned
      obtain ⟨-, left_scanned, operator_scanned, right_scanned, -⟩ := scanned
      cases within with
      | here =>
          exact ⟨_, List.Subset.refl _,
            .closure opens left_derives operator_kind right_derives closes⟩
      | arg member inside =>
          simp only [ofOperation, List.mem_cons, List.not_mem_nil, or_false] at member
          rcases member with rfl | rfl | rfl
          · obtain ⟨inner, subset, derives⟩ := left_ih left_scanned inside
            exact ⟨inner, fun lexeme used => by simp [subset used], derives⟩
          · obtain rfl := inside.eq_of_args operator_scanned.args
            simp [operator_kind] at kind
          · obtain ⟨inner, subset, derives⟩ := right_ih right_scanned inside
            exact ⟨inner, fun lexeme used => by simp [subset used], derives⟩

end Lexeme

namespace Labels

/-- How an operand is evaluated with the addresses of labels in place of their names. -/
structure Evaluates (labels : Labels) (operand : Lexeme) : Prop where
  /-- It is evaluated exactly when none of its nodes is at fault. -/
  exists_ok_iff : (∃ value, (labels.substituteOperand operand).evaluate = .ok value) ↔
    ∀ node ∈ operand.postorder, ∀ fault, ¬ Lexeme.NodeFault labels node fault
  /-- The result is the value of the operand with its names read from the labels. -/
  hasValue : ∀ value, (labels.substituteOperand operand).evaluate = .ok value →
    operand.HasValue labels.addressOf value.toNat
  /-- Otherwise the first node at fault is reported. -/
  eq_error_iff : ∀ fault, (labels.substituteOperand operand).evaluate = .error fault ↔
    Outcome.IsFirst (Lexeme.NodeFault labels) operand.postorder fault

/-- Every closure of a program is evaluated in the environment of any labels. -/
theorem evaluates_of_parse {file text : String} {program : List Statement}
    {statement : Statement} {operand closure : Lexeme}
    (parsed : Statement.parse file text = .ok program) (member : statement ∈ program)
    (argument : operand ∈ statement.args) (within : closure.Within operand)
    (kind : closure.kind = .closure) (labels : Labels) : labels.Evaluates closure := by
  obtain ⟨lexemes, scanned, grouped⟩ := Success.bind_eq_ok.mp parsed
  have spelled := Lexeme.spelled_of_scan scanned
  have readFrom := (Statement.group_eq_ok_iff.mp grouped).readFrom statement member
  obtain ⟨part, subset, derives⟩ := readFrom.args operand argument
  have part_scanned : ∀ lexeme ∈ part, lexeme.Scanned := fun lexeme used =>
    Lexeme.scanned_of_scan scanned lexeme (subset used)
  obtain ⟨inner, inner_subset, closure_derives⟩ :=
    derives.exists_part_of_within part_scanned within kind
  have reports := closure_derives.reports_evaluate
    (fun lexeme used => spelled lexeme (subset (inner_subset used))) labels
  exact ⟨reports.exists_ok_iff, fun value => reports.results_of_ok,
    reports.eq_error_iff fun _ _ _ => Lexeme.NodeFault.unique⟩

/-- A quotient of a sum and a difference of labels, in three radices. -/
def quotientSource : String := "db ((a + 0xFF) / (b - 0b10))"

/-- A second label two below which there is nothing to divide by. -/
def quotientLabels (second : UInt64) : Labels := [("a", 1), ("b", second)]

theorem evaluates_of_parse_quotientSource :
    ∃ program statement closure, Statement.parse "a.s" quotientSource = .ok program ∧
      statement ∈ program ∧ closure ∈ statement.args ∧ closure.kind = .closure ∧
      ((quotientLabels 4).substituteOperand closure).evaluate = .ok 128 ∧
      (quotientLabels 4).Evaluates closure ∧
      ((quotientLabels 2).substituteOperand closure).evaluate =
        .error (.located ⟨"a.s", 1, 16⟩ .divisionByZero) ∧
      (quotientLabels 2).Evaluates closure := by
  have evaluated : (Statement.parse "a.s" quotientSource).map
      (fun program => program.map fun statement => statement.args.map fun arg =>
        (arg.kind, ((quotientLabels 4).substituteOperand arg).evaluate,
          ((quotientLabels 2).substituteOperand arg).evaluate)) =
      .ok [[(.closure, .ok 128, .error (.located ⟨"a.s", 1, 16⟩ .divisionByZero))]] := by
    decide +kernel
  obtain ⟨program, parsed, statements⟩ := Success.map_eq_ok.mp evaluated
  obtain ⟨statement, rfl, operands⟩ := List.map_eq_singleton_iff.mp statements
  obtain ⟨closure, args, computed⟩ := List.map_eq_singleton_iff.mp operands
  obtain ⟨kind, fourth, second⟩ := by simpa only [Prod.mk.injEq] using computed
  have member : statement ∈ [statement] := List.mem_cons_self
  have argument : closure ∈ statement.args := by rw [args]; exact List.mem_cons_self
  have evaluates := evaluates_of_parse parsed member argument (.here closure) kind
  exact ⟨[statement], statement, closure, parsed, member, argument, kind, fourth,
    evaluates (quotientLabels 4), second, evaluates (quotientLabels 2)⟩

end Labels
end TableAssembler
