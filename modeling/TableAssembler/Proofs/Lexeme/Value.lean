import TableAssembler.Lexeme.Evaluation
import TableAssembler.Proofs.Success
import TableAssembler.Proofs.Text.Numeral

/-!
# Values of operands

The value of an operand is defined on natural numbers below 2⁶⁴, with the names in it read from an
environment.  Evaluating an operand whose names have been replaced gives this value, and fails
where there is none.
-/

namespace TableAssembler

/-! ## Arithmetic -/

namespace Operation

/-- The result of an operation in arithmetic modulo 2⁶⁴. -/
def modular? (operation : Operation) (left right : Nat) : Option Nat :=
  match operation with
  | .add => some ((left + right) % 2 ^ 64)
  | .subtract => some (((left : Int) - right) % 2 ^ 64).toNat
  | .multiply => some (left * right % 2 ^ 64)
  | .divide => if right = 0 then none else some (left / right)
  | .conjunction => some (left &&& right)
  | .disjunction => some (left ||| right)
  | .exclusion => some (left ^^^ right)
  | .shiftLeft => some (left * 2 ^ right % 2 ^ 64)
  | .shiftRight => some (left / 2 ^ right)

private theorem toNat_shiftLeft (left right : UInt64) :
    (if right < 64 then left <<< right else 0).toNat =
      left.toNat * 2 ^ right.toNat % 2 ^ 64 := by
  split_ifs with small
  · have below : right.toNat < 64 := small
    rw [UInt64.toNat_shiftLeft, Nat.mod_eq_of_lt below, Nat.shiftLeft_eq]
  · have large : 64 ≤ right.toNat := Nat.le_of_not_lt small
    obtain ⟨further, split⟩ := Nat.exists_eq_add_of_le large
    rw [split, Nat.pow_add, Nat.mul_left_comm, Nat.mul_mod_right]
    rfl

private theorem toNat_shiftRight (left right : UInt64) :
    (if right < 64 then left >>> right else 0).toNat = left.toNat / 2 ^ right.toNat := by
  split_ifs with small
  · have below : right.toNat < 64 := small
    rw [UInt64.toNat_shiftRight, Nat.mod_eq_of_lt below, Nat.shiftRight_eq_div_pow]
  · have large : 64 ≤ right.toNat := Nat.le_of_not_lt small
    have wide : left.toNat < 2 ^ right.toNat :=
      left.toNat_lt.trans_le (Nat.pow_le_pow_right (by decide) large)
    rw [Nat.div_eq_of_lt wide]
    rfl

/-- Words compute modulo 2⁶⁴. -/
theorem map_toNat_result? (operation : Operation) (left right : UInt64) :
    (operation.result? left right).map UInt64.toNat =
      operation.modular? left.toNat right.toNat := by
  have left_lt := left.toNat_lt
  have right_lt := right.toNat_lt
  cases operation with
  | add => exact congrArg some (UInt64.toNat_add left right)
  | subtract =>
      simp only [result?, modular?, Option.map_some, UInt64.toNat_sub]
      congr 1
      omega
  | multiply => exact congrArg some (UInt64.toNat_mul left right)
  | divide =>
      have zero : right = 0 ↔ right.toNat = 0 := UInt64.toNat_inj.symm
      by_cases none : right = 0
      · simp [result?, modular?, none]
      · simp [result?, modular?, none, mt zero.mpr none]
  | conjunction => exact congrArg some (UInt64.toNat_and left right)
  | disjunction => exact congrArg some (UInt64.toNat_or left right)
  | exclusion => exact congrArg some (UInt64.toNat_xor left right)
  | shiftLeft => exact congrArg some (toNat_shiftLeft left right)
  | shiftRight => exact congrArg some (toNat_shiftRight left right)

theorem result?_eq_some_iff {operation : Operation} {left right value : UInt64} :
    operation.result? left right = some value ↔
      operation.modular? left.toNat right.toNat = some value.toNat := by
  rw [← map_toNat_result?]
  exact (Option.map_injective fun _ _ => UInt64.toNat_inj.mp).eq_iff.symm

theorem compute_eq_ok_iff {operator : Lexeme} {left right value : UInt64} :
    compute operator left right = .ok value ↔
      operator.kind = .operator ∧
        ∃ operation, ofText? operator.value = some operation ∧
          operation.result? left right = some value := by
  unfold compute
  by_cases kind : operator.kind = .operator
  · cases known : ofText? operator.value with
    | none => simp [kind]
    | some operation =>
        cases computed : operation.result? left right with
        | none => simp [kind, computed]
        | some result => simp [kind, computed]
  · simp [kind]

end Operation

namespace Lexeme

/-! ## The value of an operand -/

/-- The value of an operand, with names read from an environment. -/
inductive HasValue (address? : Lexeme → Option UInt64) : Lexeme → Nat → Prop
  /-- A number has the value that its digits write. -/
  | number {lexeme : Lexeme} {value : UInt64} :
      lexeme.word = .ok value → HasValue address? lexeme value.toNat
  /-- A name has the value of its address. -/
  | name {lexeme : Lexeme} {address : UInt64} :
      lexeme.kind = .identifier → address? lexeme = some address →
        HasValue address? lexeme address.toNat
  /-- A closure has the value that its operator gives to the values of its operands. -/
  | closure {lexeme left operator right : Lexeme} {further : List Lexeme} {operation : Operation}
      {leftValue rightValue value : Nat} :
      lexeme.kind = .closure → lexeme.args = left :: operator :: right :: further →
        operator.kind = .operator → Operation.ofText? operator.value = some operation →
        HasValue address? left leftValue → HasValue address? right rightValue →
        operation.modular? leftValue rightValue = some value → HasValue address? lexeme value

theorem kind_of_word_eq_ok {lexeme : Lexeme} {value : UInt64} (read : lexeme.word = .ok value) :
    lexeme.kind = .number := by
  unfold word at read
  split_ifs at read with kind
  exact kind

variable {address? : Lexeme → Option UInt64} {lexeme : Lexeme}

theorem hasValue_iff_of_identifier (identifier : lexeme.kind = .identifier) {value : UInt64} :
    HasValue address? lexeme value.toNat ↔ address? lexeme = some value := by
  constructor
  · intro hasValue
    generalize same : value.toNat = number at hasValue
    cases hasValue with
    | number read => exact absurd (kind_of_word_eq_ok read) (by simp [identifier])
    | name _ found => rwa [UInt64.toNat_inj.mp same]
    | closure kind => simp [identifier] at kind
  · exact .name identifier

theorem hasValue_iff_of_other (no_identifier : lexeme.kind ≠ .identifier)
    (no_closure : lexeme.kind ≠ .closure) {value : UInt64} :
    HasValue address? lexeme value.toNat ↔ lexeme.word = .ok value := by
  constructor
  · intro hasValue
    generalize same : value.toNat = number at hasValue
    cases hasValue with
    | number read => rwa [UInt64.toNat_inj.mp same]
    | name kind => exact absurd kind no_identifier
    | closure kind => exact absurd kind no_closure
  · exact .number

theorem HasValue.exists_word {number : Nat} (hasValue : HasValue address? lexeme number) :
    ∃ value : UInt64, number = value.toNat := by
  induction hasValue with
  | number => exact ⟨_, rfl⟩
  | name => exact ⟨_, rfl⟩
  | closure _ _ _ _ _ _ computed left_ih right_ih =>
      obtain ⟨leftValue, rfl⟩ := left_ih
      obtain ⟨rightValue, rfl⟩ := right_ih
      rw [← Operation.map_toNat_result?, Option.map_eq_some_iff] at computed
      obtain ⟨value, -, rfl⟩ := computed
      exact ⟨value, rfl⟩

/-- An operand has at most one value. -/
theorem HasValue.unique {first second : Nat} (hasFirst : HasValue address? lexeme first)
    (hasSecond : HasValue address? lexeme second) : first = second := by
  induction hasFirst generalizing second with
  | number read =>
      have kind := kind_of_word_eq_ok read
      cases hasSecond with
      | number again => rw [Except.ok.inj (read.symm.trans again)]
      | name identifier => simp [kind] at identifier
      | closure closure => simp [kind] at closure
  | name kind found =>
      cases hasSecond with
      | number read => exact absurd (kind_of_word_eq_ok read) (by simp [kind])
      | name _ again => rw [Option.some.inj (found.symm.trans again)]
      | closure closure => simp [kind] at closure
  | closure kind args _ known _ _ computed left_ih right_ih =>
      cases hasSecond with
      | number read => exact absurd (kind_of_word_eq_ok read) (by simp [kind])
      | name identifier => simp [kind] at identifier
      | closure _ args' _ known' left_value right_value computed' =>
          obtain ⟨rfl, rfl, rfl, -⟩ : _ = _ ∧ _ = _ ∧ _ = _ ∧ _ = _ := by
            simpa using args.symm.trans args'
          obtain rfl := Option.some.inj (known.symm.trans known')
          rw [left_ih left_value, right_ih right_value] at computed
          exact Option.some.inj (computed.symm.trans computed')

theorem hasValue_iff_of_closure (closure : lexeme.kind = .closure) {value : UInt64} :
    HasValue address? lexeme value.toNat ↔
      ∃ left operator right further leftValue rightValue,
        lexeme.args = left :: operator :: right :: further ∧
          HasValue address? left (UInt64.toNat leftValue) ∧
          HasValue address? right (UInt64.toNat rightValue) ∧
          Operation.compute operator leftValue rightValue = .ok value := by
  constructor
  · intro hasValue
    generalize same : value.toNat = number at hasValue
    cases hasValue with
    | number read => exact absurd (kind_of_word_eq_ok read) (by simp [closure])
    | name kind => simp [closure] at kind
    | closure _ args kind known left_value right_value computed =>
        obtain ⟨leftValue, rfl⟩ := left_value.exists_word
        obtain ⟨rightValue, rfl⟩ := right_value.exists_word
        subst same
        exact ⟨_, _, _, _, leftValue, rightValue, args, left_value, right_value,
          Operation.compute_eq_ok_iff.mpr
            ⟨kind, _, known, Operation.result?_eq_some_iff.mpr computed⟩⟩
  · rintro ⟨left, operator, right, further, leftValue, rightValue, args, left_value, right_value,
      computed⟩
    obtain ⟨kind, operation, known, result⟩ := Operation.compute_eq_ok_iff.mp computed
    exact .closure closure args kind known left_value right_value
      (Operation.result?_eq_some_iff.mp result)

@[simp]
theorem word_ofWord (value : UInt64) (location : Location) :
    (ofWord value location).word = .ok value := by
  simp [word, ofWord, Numeral.parse?_decimal]

/-! ## Evaluation -/

theorem evaluate_eq_word {lexeme : Lexeme} (no_identifier : lexeme.kind ≠ .identifier)
    (no_closure : lexeme.kind ≠ .closure) : lexeme.evaluate = lexeme.word := by
  apply evaluate.eq_5
  · rintro _ _ _ _ _ rfl
    exact no_identifier rfl
  · rintro _ _ _ _ _ _ _ _ rfl
    exact no_closure rfl
  · rintro _ _ _ _ _ _ rfl
    exact no_closure rfl
  · rintro _ _ _ _ rfl
    exact no_closure rfl

theorem evaluate_ne_ok_of_identifier {lexeme : Lexeme} (identifier : lexeme.kind = .identifier)
    (value : UInt64) : lexeme.evaluate ≠ .ok value := by
  obtain ⟨text, kind, radix, args, span, location⟩ := lexeme
  obtain rfl : kind = .identifier := identifier
  simp [evaluate]

theorem evaluate_eq_ok_iff_of_closure {lexeme : Lexeme} (closure : lexeme.kind = .closure)
    {value : UInt64} :
    lexeme.evaluate = .ok value ↔
      ∃ left operator right further leftValue rightValue,
        lexeme.args = left :: operator :: right :: further ∧ left.evaluate = .ok leftValue ∧
          right.evaluate = .ok rightValue ∧
          Operation.compute operator leftValue rightValue = .ok value := by
  obtain ⟨text, kind, radix, args, span, location⟩ := lexeme
  obtain rfl : kind = .closure := closure
  match args with
  | [] => simp [evaluate]
  | [left] => simp [evaluate, Success.bind_eq_ok]
  | [left, operator] => simp [evaluate, Success.bind_eq_ok]
  | left :: operator :: right :: further =>
      simp only [evaluate, Success.bind_eq_ok, List.cons.injEq]
      constructor
      · rintro ⟨leftValue, left_ok, rightValue, right_ok, computed⟩
        exact ⟨left, operator, right, further, leftValue, rightValue, ⟨rfl, rfl, rfl, rfl⟩,
          left_ok, right_ok, computed⟩
      · rintro ⟨_, _, _, _, leftValue, rightValue, ⟨rfl, rfl, rfl, rfl⟩, left_ok, right_ok,
          computed⟩
        exact ⟨leftValue, left_ok, rightValue, right_ok, computed⟩

/-! ## Replaced names -/

theorem mapIdentifiers_of_identifier {change : Lexeme → Lexeme} {lexeme : Lexeme}
    (identifier : lexeme.kind = .identifier) : lexeme.mapIdentifiers change = change lexeme := by
  rw [mapIdentifiers, identifier]

theorem mapIdentifiers_of_closure {change : Lexeme → Lexeme} {lexeme : Lexeme}
    (closure : lexeme.kind = .closure) :
    lexeme.mapIdentifiers change =
      { lexeme with args := lexeme.args.map (mapIdentifiers change) } := by
  rw [mapIdentifiers, closure]

theorem mapIdentifiers_of_other {change : Lexeme → Lexeme} {lexeme : Lexeme}
    (no_identifier : lexeme.kind ≠ .identifier) (no_closure : lexeme.kind ≠ .closure) :
    lexeme.mapIdentifiers change = lexeme := by
  rw [mapIdentifiers]
  split
  · next identifier => exact absurd identifier no_identifier
  · next closure => exact absurd closure no_closure
  · rfl

/-- A change that keeps the class and the place of identifiers keeps those of operands. -/
theorem kind_location_mapIdentifiers {change : Lexeme → Lexeme}
    (keeps : ∀ lexeme : Lexeme, (change lexeme).kind = lexeme.kind ∧
      (change lexeme).location = lexeme.location)
    (lexeme : Lexeme) :
    (lexeme.mapIdentifiers change).kind = lexeme.kind ∧
      (lexeme.mapIdentifiers change).location = lexeme.location := by
  by_cases identifier : lexeme.kind = .identifier
  · rw [mapIdentifiers_of_identifier identifier]
    exact keeps lexeme
  · by_cases closure : lexeme.kind = .closure
    · rw [mapIdentifiers_of_closure closure]
      exact ⟨rfl, rfl⟩
    · rw [mapIdentifiers_of_other identifier closure]
      exact ⟨rfl, rfl⟩

/-- Two changes in a row are one, as long as the first keeps identifiers. -/
theorem mapIdentifiers_mapIdentifiers {first second : Lexeme → Lexeme}
    (keeps : ∀ lexeme, lexeme.kind = .identifier → (first lexeme).kind = .identifier)
    (lexeme : Lexeme) :
    (lexeme.mapIdentifiers first).mapIdentifiers second =
      lexeme.mapIdentifiers fun identifier => second (first identifier) := by
  induction lexeme using Lexeme.induction with
  | node lexeme induction =>
      by_cases identifier : lexeme.kind = .identifier
      · rw [mapIdentifiers_of_identifier identifier, mapIdentifiers_of_identifier identifier,
          mapIdentifiers_of_identifier (keeps lexeme identifier)]
      · by_cases closure : lexeme.kind = .closure
        · rw [mapIdentifiers_of_closure closure, mapIdentifiers_of_closure closure,
            mapIdentifiers_of_closure (by exact closure)]
          simp only [List.map_map, Lexeme.mk.injEq, true_and, and_true]
          exact List.map_congr_left induction
        · rw [mapIdentifiers_of_other identifier closure,
            mapIdentifiers_of_other identifier closure,
            mapIdentifiers_of_other identifier closure]

/-- A change of identifiers that puts in the values of an environment. -/
structure Reads (address? : Lexeme → Option UInt64) (change : Lexeme → Lexeme) : Prop where
  /-- What is put in has the value of the name, and none if the name has none. -/
  evaluate_eq_ok_iff : ∀ lexeme, lexeme.kind = .identifier → ∀ value,
    (change lexeme).evaluate = .ok value ↔ address? lexeme = some value
  /-- What is put in is no operator. -/
  no_operator : ∀ lexeme, lexeme.kind = .identifier → (change lexeme).kind ≠ .operator

private theorem kind_mapIdentifiers_eq_operator_iff {change : Lexeme → Lexeme}
    (reads : Reads address? change) (lexeme : Lexeme) :
    (lexeme.mapIdentifiers change).kind = .operator ↔ lexeme.kind = .operator := by
  by_cases identifier : lexeme.kind = .identifier
  · rw [mapIdentifiers_of_identifier identifier, identifier]
    exact iff_of_false (reads.no_operator lexeme identifier) (by decide)
  · by_cases closure : lexeme.kind = .closure
    · rw [mapIdentifiers_of_closure closure]
    · rw [mapIdentifiers_of_other identifier closure]

private theorem compute_mapIdentifiers_eq_ok_iff {change : Lexeme → Lexeme}
    (reads : Reads address? change) {operator : Lexeme} {left right value : UInt64} :
    Operation.compute (operator.mapIdentifiers change) left right = .ok value ↔
      Operation.compute operator left right = .ok value := by
  rw [Operation.compute_eq_ok_iff, Operation.compute_eq_ok_iff,
    kind_mapIdentifiers_eq_operator_iff reads]
  refine and_congr_right fun kind => ?_
  rw [mapIdentifiers_of_other (by simp [kind]) (by simp [kind])]

private theorem closure_mapIdentifiers_iff {change : Lexeme → Lexeme}
    (reads : Reads address? change) {args : List Lexeme} {value : UInt64}
    (induction : ∀ arg ∈ args, ∀ {value : UInt64},
      (arg.mapIdentifiers change).evaluate = .ok value ↔ HasValue address? arg value.toNat) :
    (∃ left operator right further leftValue rightValue,
      args.map (mapIdentifiers change) = left :: operator :: right :: further ∧
        left.evaluate = .ok leftValue ∧ right.evaluate = .ok rightValue ∧
        Operation.compute operator leftValue rightValue = .ok value) ↔
      ∃ left operator right further leftValue rightValue,
        args = left :: operator :: right :: further ∧
          HasValue address? left (UInt64.toNat leftValue) ∧
          HasValue address? right (UInt64.toNat rightValue) ∧
          Operation.compute operator leftValue rightValue = .ok value := by
  constructor
  · rintro ⟨_, _, _, _, leftValue, rightValue, split, left_ok, right_ok, computed⟩
    simp only [List.map_eq_cons_iff] at split
    obtain ⟨left, _, rfl, rfl, operator, _, rfl, rfl, right, further, rfl, rfl, -⟩ := split
    refine ⟨left, operator, right, further, leftValue, rightValue, rfl, ?_, ?_, ?_⟩
    · exact (induction left (by simp)).mp left_ok
    · exact (induction right (by simp)).mp right_ok
    · exact (compute_mapIdentifiers_eq_ok_iff reads).mp computed
  · rintro ⟨left, operator, right, further, leftValue, rightValue, rfl, left_value, right_value,
      computed⟩
    refine ⟨_, _, _, _, leftValue, rightValue, rfl, ?_, ?_, ?_⟩
    · exact (induction left (by simp)).mpr left_value
    · exact (induction right (by simp)).mpr right_value
    · exact (compute_mapIdentifiers_eq_ok_iff reads).mpr computed

/-- The value of an operand is found by putting in the values of its names and evaluating. -/
theorem evaluate_mapIdentifiers_eq_ok_iff {change : Lexeme → Lexeme}
    (reads : Reads address? change) {value : UInt64} :
    (lexeme.mapIdentifiers change).evaluate = .ok value ↔
      HasValue address? lexeme value.toNat := by
  induction lexeme using Lexeme.induction generalizing value with
  | node lexeme induction =>
      by_cases identifier : lexeme.kind = .identifier
      · rw [mapIdentifiers_of_identifier identifier, reads.evaluate_eq_ok_iff lexeme identifier,
          hasValue_iff_of_identifier identifier]
      · by_cases closure : lexeme.kind = .closure
        · rw [hasValue_iff_of_closure closure, mapIdentifiers_of_closure closure,
            evaluate_eq_ok_iff_of_closure (by exact closure)]
          exact closure_mapIdentifiers_iff reads induction
        · rw [mapIdentifiers_of_other identifier closure, evaluate_eq_word identifier closure,
            hasValue_iff_of_other identifier closure]

end Lexeme
end TableAssembler
