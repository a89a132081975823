import TableAssembler.Label.Placement
import TableAssembler.Proofs.Encoding.Instruction
import TableAssembler.Proofs.InstructionSet.Template
import TableAssembler.Proofs.Lexeme.Value
import TableAssembler.Statement.Folding

/-!
# Sizes foretell bytes

A program is measured before its labels are put in, from the widths of templates and the classes
of operands, and encoded afterwards, from the bits of values.  Both agree because resolving an
operand never turns a string into something else, or something else into a string.  An instruction
without bits is the exception: it can be encoded, but has no size.
-/

namespace TableAssembler

/-! ## What resolving an operand keeps -/

/-- Both operands are the same string, or neither is a string. -/
def Lexeme.KeepsText (operand result : Lexeme) : Prop :=
  if operand.kind = .text then result = operand else result.kind ≠ .text

namespace Labels

private theorem keepsText_of_fold {labels : Labels} {operand result : Lexeme}
    (folded : (labels.substituteOperand operand).fold = .ok result) :
    operand.KeepsText result := by
  unfold Lexeme.KeepsText
  by_cases identifier : operand.kind = .identifier
  · rw [substituteOperand, Lexeme.mapIdentifiers_of_identifier identifier] at folded
    rw [if_neg (by simp [identifier])]
    unfold substituteIdentifier at folded
    cases found : Dictionary.find? labels operand.value with
    | some address =>
        obtain rfl : Lexeme.ofWord address operand.location = result := by
          simpa [found, Lexeme.fold, Lexeme.ofWord] using folded
        simp [Lexeme.ofWord]
    | none =>
        obtain rfl : operand = result := by simpa [found, Lexeme.fold, identifier] using folded
        simp [identifier]
  · by_cases closure : operand.kind = .closure
    · rw [substituteOperand, Lexeme.mapIdentifiers_of_closure closure, Lexeme.fold,
        if_pos (by exact closure), Success.map_eq_ok] at folded
      obtain ⟨value, -, rfl⟩ := folded
      rw [if_neg (by simp [closure])]
      simp [Lexeme.ofWord]
    · rw [substituteOperand, Lexeme.mapIdentifiers_of_other identifier closure, Lexeme.fold,
        if_neg closure, Except.ok.injEq] at folded
      subst folded
      split_ifs with text
      · rfl
      · exact text

end Labels

/-- A statement and what it is encoded from: the name is the same, and so are the strings. -/
structure Statement.KeepsText (statement result : Statement) : Prop where
  /-- The class stays. -/
  kind : result.kind = statement.kind
  /-- The name stays. -/
  name : result.name = statement.name
  /-- The operands of an instruction keep their strings. -/
  args : result.kind = .instruction →
    List.Forall₂ Lexeme.KeepsText statement.args result.args

theorem Labels.statement_keepsText_of_fold {labels : Labels} {statement result : Statement}
    (folded : (statement.mapArgs labels.substituteOperand).fold = .ok result) :
    statement.KeepsText result := by
  by_cases instruction : statement.kind = .instruction
  · simp only [Statement.mapArgs, instruction, if_true, Statement.fold, Success.bind_eq_ok,
      Success.pure_eq_ok, Success.mapM_eq_ok, List.forall₂_map_left_iff] at folded
    obtain ⟨args, each, rfl⟩ := folded
    exact ⟨instruction.symm, rfl, fun _ => each.imp fun _ _ => keepsText_of_fold⟩
  · simp only [Statement.mapArgs, instruction, if_false, Statement.fold,
      Except.ok.injEq] at folded
    subst folded
    exact ⟨rfl, rfl, fun some => absurd some instruction⟩

namespace Encoding

/-! ## Instructions -/

theorem totalSize_eq_sum (fields : List Field) :
    Field.totalSize fields = Numeral.wrap (fields.map Field.size).sum := by
  rw [Field.totalSize, List.sum_eq_foldr, List.foldr_map]

/-- The template of an instruction foretells the number of its bytes. -/
theorem encodedSize_eq_length {set : InstructionSet} {instruction : Instruction}
    {statement : Statement} {code : List UInt8}
    (encoded : encodeInstruction set instruction statement = .ok code)
    (nonzero : ∀ field ∈ instruction.fields, field.size ≠ 0) :
    instruction.encodedSize = code.length := by
  obtain ⟨total, carries, -, fits, length⟩ := encodeInstruction_eq_ok encoded nonzero
  rw [length, Instruction.encodedSize, Instruction.bits, totalSize_eq_sum, carries.sum_size,
    Numeral.wrap_eq_self (by omega) (by omega)]

/-! ## Data -/

private theorem length_unit (data : Directive.Data) (value : UInt64) :
    (unit data value).length = data.width :=
  length_bigEndian _ _

/-- The number of bytes of one argument of a data directive. -/
def argumentLength (data : Directive.Data) (arg : Lexeme) : Nat :=
  if arg.kind = .text then arg.value.length * data.width else data.width

/-- The number of bytes of a data directive. -/
def dataLength (data : Directive.Data) (args : List Lexeme) : Nat :=
  (args.map (argumentLength data)).sum

theorem length_argumentUnits {data : Directive.Data} {arg : Lexeme} {units : List UInt8}
    (encoded : argumentUnits data arg = .ok units) :
    units.length = argumentLength data arg := by
  unfold argumentUnits at encoded
  unfold argumentLength
  split_ifs at encoded ⊢ with text
  · obtain rfl := Except.ok.inj encoded
    simp [List.length_flatMap, length_unit, String.length_toList]
  · obtain ⟨value, -, rfl⟩ := Success.map_eq_ok.mp encoded
    exact length_unit data value

private theorem argumentLength_of_keepsText (data : Directive.Data) {arg result : Lexeme}
    (keeps : arg.KeepsText result) : argumentLength data result = argumentLength data arg := by
  unfold Lexeme.KeepsText at keeps
  split_ifs at keeps with text
  · rw [keeps]
  · rw [argumentLength, argumentLength, if_neg keeps, if_neg text]

private theorem argumentSize_eq_argumentLength {data : Directive.Data} {arg : Lexeme}
    {size : UInt64} (sized : Layout.bytes.argumentSize data arg = .ok size) :
    size = UInt64.ofNat (argumentLength data arg) := by
  unfold argumentLength
  split_ifs with text
  · rw [UInt64.ofNat_mul]
    simpa [Layout.argumentSize, text, Layout.dataUnit] using sized.symm
  · unfold Layout.argumentSize at sized
    split at sized
    all_goals simp_all [Layout.dataUnit]

private theorem dataSize_eq_dataLength {data : Directive.Data} {args : List Lexeme} {size : UInt64}
    (sized : Layout.bytes.dataSize data args = .ok size) :
    size = UInt64.ofNat (dataLength data args) := by
  simp only [Layout.dataSize, Success.bind_eq_ok, Success.pure_eq_ok,
    Success.mapM_eq_ok] at sized
  obtain ⟨sizes, sized, rfl⟩ := sized
  induction sized with
  | nil => rfl
  | cons first_sized _ induction =>
      rw [List.foldr_cons, induction, argumentSize_eq_argumentLength first_sized,
        ← UInt64.ofNat_add]
      rfl

theorem length_encodeData {data : Directive.Data} {statement result : Statement}
    {code : List UInt8} (keeps : List.Forall₂ Lexeme.KeepsText statement.args result.args)
    (encoded : encodeData data result = .ok code) :
    code.length = dataLength data statement.args := by
  unfold encodeData at encoded
  split_ifs at encoded with missing
  simp only [Success.bind_eq_ok, Success.pure_eq_ok, Success.mapM_eq_ok] at encoded
  obtain ⟨units, encoded, rfl⟩ := encoded
  generalize statement.args = args at keeps
  generalize result.args = results at keeps encoded
  clear missing
  induction keeps generalizing units with
  | nil =>
      cases encoded
      rfl
  | cons keeps _ induction =>
      cases encoded with
      | cons first_encoded encoded =>
          rw [List.flatten_cons, List.length_append, induction _ encoded,
            length_argumentUnits first_encoded, argumentLength_of_keepsText data keeps]
          rfl

/-! ## Statements -/

/-- The number of bytes of a statement, which its labels have no part in. -/
def codeLength (set : InstructionSet) (statement : Statement) : Nat :=
  match Directive.data? statement.mnemonic with
  | some data => dataLength data statement.args
  | none => (set.instruction? statement.mnemonic).elim 0 Instruction.encodedSize

/-- A statement takes the room of its bytes. -/
theorem statementSize_eq_codeLength {set : InstructionSet} {statement : Statement}
    {size : UInt64}
    (sized : Layout.bytes.statementSize (some set.encodedSize) statement = .ok size) :
    size = UInt64.ofNat (codeLength set statement) := by
  unfold Layout.statementSize at sized
  unfold codeLength
  cases directive : Directive.data? statement.mnemonic with
  | some data =>
      simp only [directive, reduceCtorEq, false_and, if_false] at sized
      exact dataSize_eq_dataLength sized
  | none =>
      simp only [directive, Layout.instructionSize, InstructionSet.encodedSize] at sized
      cases found : set.instruction? statement.mnemonic with
      | none => simp [found] at sized
      | some instruction =>
          simp only [found] at sized
          split_ifs at sized with empty
          exact (Except.ok.inj sized).symm

/-- A statement is encoded into the same number of bytes whatever it is resolved to. -/
theorem length_encode {set : InstructionSet} {statement result : Statement} {code : List UInt8}
    (wellFormed : set.WellFormed) (keeps : statement.KeepsText result)
    (encoded : encode set result = .ok code) : code.length = codeLength set statement := by
  have mnemonic : result.mnemonic = statement.mnemonic := by
    rw [Statement.mnemonic, keeps.name, Statement.mnemonic]
  obtain ⟨instruction, by_mnemonic⟩ := encode_eq_ok_iff.mp encoded
  rw [mnemonic] at by_mnemonic
  unfold codeLength
  cases directive : Directive.data? statement.mnemonic with
  | some data =>
      rw [directive] at by_mnemonic
      exact length_encodeData (keeps.args instruction) by_mnemonic
  | none =>
      cases found : set.instruction? statement.mnemonic with
      | none => simp [directive, found] at by_mnemonic
      | some instruction =>
          rw [directive, found] at by_mnemonic
          exact (encodedSize_eq_length by_mnemonic.2
            (wellFormed.size_ne_zero_of_instruction? found)).symm

/-! ## Instructions without bits -/

private theorem eq_nil_iff_of_encodeInstruction {set : InstructionSet} {instruction : Instruction}
    {statement : Statement} {code : List UInt8}
    (encoded : encodeInstruction set instruction statement = .ok code)
    (nonzero : ∀ field ∈ instruction.fields, field.size ≠ 0) :
    code = [] ↔ instruction.fields = [] := by
  constructor
  · rintro rfl
    obtain ⟨total, carries, -, fits, length⟩ := encodeInstruction_eq_ok encoded nonzero
    have no_bits : total = 0 := by
      have no_group := (groupSize_eq_zero_iff total).mp length.symm
      omega
    -- The first of several fields would leave its width out of the total.
    by_contra some_field
    obtain ⟨field, fields, split⟩ := List.exists_cons_of_ne_nil some_field
    obtain ⟨shift, width, -, size, inside, -⟩ := carries.holds [] field fields split
    exact nonzero field (split ▸ List.mem_cons_self) (by omega)
  · intro no_fields
    have length := encodedSize_eq_length encoded nonzero
    rw [Instruction.encodedSize, Instruction.bits, no_fields] at length
    exact List.length_eq_zero_iff.mp length.symm

/-- What is known of the bytes of a statement before it is encoded. -/
structure Foretold (set : InstructionSet) (instruction : Instruction) (statement : Statement)
    (code : List UInt8) : Prop where
  /-- The widths of the fields give the number of bytes. -/
  length : instruction.encodedSize = code.length
  /-- There are none exactly when the template writes nothing. -/
  eq_nil_iff : code = [] ↔ ∀ c ∈ instruction.template.toList, Text.isWhiteSpace c = true
  /-- The set gives the number, but takes no bits for too many. -/
  encodedSize : set.encodedSize statement.mnemonic =
    if code = [] then .error (.encodingTooWide 0) else .ok code.length
  /-- The layout in bytes makes room for them, and refuses a statement that has none. -/
  statementSize : Layout.bytes.statementSize (some set.encodedSize) statement =
    if code = [] then .error (.located statement.location (.encodingTooWide 0))
    else .ok (UInt64.ofNat code.length)

/-- The template of an instruction foretells the bytes of every statement that can be encoded,
unless it writes nothing: then the statement is encoded to no bytes, and no size is foretold. -/
theorem foretold_of_encode {config : Config} {set : InstructionSet} {statement : Statement}
    {instruction : Instruction} {code : List UInt8}
    (compiled : InstructionSet.compile config = .ok set)
    (found : set.instruction? statement.mnemonic = some instruction)
    (encoded : encode set statement = .ok code) : Foretold set instruction statement code := by
  have wellFormed := InstructionSet.wellFormed_of_compile compiled
  have nonzero := wellFormed.size_ne_zero_of_instruction? found
  have by_fields := encode_eq_encodeInstruction wellFormed found encoded
  have length := encodedSize_eq_length by_fields nonzero
  have no_fields := eq_nil_iff_of_encodeInstruction by_fields nonzero
  have encodedSize : set.encodedSize statement.mnemonic =
      if code = [] then .error (.encodingTooWide 0) else .ok code.length := by
    rw [InstructionSet.encodedSize, found]
    simp only [length, List.length_eq_zero_iff]
    by_cases empty : code = []
    · rw [if_pos empty, if_pos empty, Instruction.bits, no_fields.mp empty]
      rfl
    · rw [if_neg empty, if_neg empty]
  refine ⟨length, ?_, encodedSize, ?_⟩
  · have accepted :=
      InstructionSet.template_compile_of_mem compiled (List.mem_of_find?_eq_some found)
    obtain ⟨parts, writes, gives⟩ :=
      Template.exists_writes_of_fields (Success.mapError_eq_ok.mp accepted)
    have same_length := gives.length_eq
    rw [no_fields, ← writes.eq_nil_iff, ← List.length_eq_zero_iff, ← same_length,
      List.length_eq_zero_iff]
  · rw [Layout.statementSize, wellFormed.data?_eq_none found]
    dsimp only [Layout.instructionSize]
    rw [encodedSize]
    split_ifs
    · rfl
    · rfl

theorem foretold_of_encode_loadStatement :
    InstructionSet.compile
        { tables := loadSet.tables
          instructions := [(loadInstruction.name, loadInstruction.template)] } = .ok loadSet ∧
      loadSet.instruction? loadStatement.mnemonic = some loadInstruction ∧
      encode loadSet loadStatement = .ok loadCode ∧
      Foretold loadSet loadInstruction loadStatement loadCode := by
  have compiled : InstructionSet.compile
      { tables := loadSet.tables
        instructions := [(loadInstruction.name, loadInstruction.template)] } = .ok loadSet := by
    decide +kernel
  have found : loadSet.instruction? loadStatement.mnemonic = some loadInstruction := rfl
  have encoded : encode loadSet loadStatement = .ok loadCode := rfl
  exact ⟨compiled, found, encoded, foretold_of_encode compiled found encoded⟩

/-- A set with one instruction, whose template is empty. -/
def emptySet : InstructionSet where
  tables := []
  instructions := [{ name := "nil", template := "", fields := [] }]
  pseudo := []

/-- A call of the instruction. -/
def emptyStatement : Statement := .instruction { value := "nil" } []

/-- An instruction without bits is encoded, and its size is refused. -/
theorem encoded_without_size :
    InstructionSet.compile { instructions := [("nil", "")] } = .ok emptySet ∧
      (emptySet.instruction? emptyStatement.mnemonic).isSome ∧
      encode emptySet emptyStatement = .ok [] ∧
      emptySet.encodedSize emptyStatement.mnemonic = .error (.encodingTooWide 0) ∧
      Layout.bytes.statementSize (some emptySet.encodedSize) emptyStatement =
        .error (.located emptyStatement.location (.encodingTooWide 0)) := by
  refine ⟨?_, ?_, ?_, ?_, ?_⟩ <;> decide +kernel

end Encoding
end TableAssembler
