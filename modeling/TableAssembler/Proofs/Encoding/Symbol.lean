import TableAssembler.Image.Basic
import TableAssembler.Proofs.Encoding.Instruction
import TableAssembler.Proofs.Label.Fresh

/-!
# Names that are looked up in tables

When an address is put in for a name in a program that can be encoded, the name can only have been
looked up in a table: a number has no names, and data has none either.  So the program is still
encoded, and into the same bytes, unless some field of a table takes the name.
-/

namespace TableAssembler

variable {name : String} {address : UInt64}

/-! ## One name -/

namespace Labels

theorem substituteOperand_eq_self {operand : Lexeme} (no_closure : operand.kind ≠ .closure)
    (other : operand.is .identifier name = false) :
    Labels.substituteOperand [(name, address)] operand = operand := by
  by_cases identifier : operand.kind = .identifier
  · have different : ¬ operand.value = name := by simpa [Lexeme.is, identifier] using other
    rw [substituteOperand, Lexeme.mapIdentifiers_of_identifier identifier, substituteIdentifier,
      Dictionary.find?_cons, if_neg different]
    rfl
  · exact substituteOperand_of_other identifier no_closure

theorem substituteOperand_eq_ofWord {operand : Lexeme}
    (same : operand.is .identifier name = true) :
    Labels.substituteOperand [(name, address)] operand =
      Lexeme.ofWord address operand.location := by
  obtain ⟨identifier, value⟩ : operand.kind = .identifier ∧ operand.value = name := by
    simpa [Lexeme.is] using same
  rw [substituteOperand, Lexeme.mapIdentifiers_of_identifier identifier, substituteIdentifier,
    Dictionary.find?_cons, if_pos value]

end Labels

namespace Encoding

/-- The operands that the fields of tables take. -/
def symbolOperands : List Field → List Lexeme → List Lexeme
  | [], _ => []
  | .symbol _ _ :: fields, args => args.head?.toList ++ symbolOperands fields args.tail
  | .constant _ :: fields, args => symbolOperands fields args
  | .immediate _ :: fields, args | .optional _ :: fields, args => symbolOperands fields args.tail

/-- The operands of a statement that are looked up in tables. -/
def lookedUp (set : InstructionSet) (statement : Statement) : List Lexeme :=
  match Directive.data? statement.mnemonic, set.instruction? statement.mnemonic with
  | none, some instruction => symbolOperands instruction.fields statement.args
  | _, _ => []

private theorem mem_args_of_mem_symbolOperands {fields : List Field} {args : List Lexeme}
    {operand : Lexeme} (member : operand ∈ symbolOperands fields args) : operand ∈ args := by
  induction fields generalizing args with
  | nil => simp [symbolOperands] at member
  | cons field fields induction =>
      cases field with
      | constant => exact induction member
      | immediate | optional => exact List.mem_of_mem_tail (induction member)
      | symbol =>
          rcases List.mem_append.mp member with first | later
          · exact List.mem_of_mem_head? (Option.mem_toList.mp first)
          · exact List.mem_of_mem_tail (induction later)

theorem mem_args_of_mem_lookedUp {set : InstructionSet} {statement : Statement}
    {operand : Lexeme} (member : operand ∈ lookedUp set statement) :
    operand ∈ statement.args := by
  unfold lookedUp at member
  split at member
  · exact mem_args_of_mem_symbolOperands member
  · contradiction

/-! ## Fields -/

theorem substituteOperand_of_number {arg : Lexeme} {value : UInt64}
    (read : number arg = .ok value) : Labels.substituteOperand [(name, address)] arg = arg := by
  have kind := Lexeme.kind_of_word_eq_ok (number_eq_ok read)
  exact Labels.substituteOperand_of_other (by simp [kind]) (by simp [kind])

theorem symbolOperands_cons (field : Field) (fields : List Field) (args : List Lexeme) :
    symbolOperands (field :: fields) args =
      symbolOperands [field] args ++
        symbolOperands fields (if field.takesArgument then args.tail else args) := by
  cases field <;> simp [symbolOperands, Field.takesArgument]

theorem encodeField_substitute_iff {tables : Tables} {location : Location} {field : Field}
    {args rest : List Lexeme} {piece : Piece}
    (encoded : encodeField tables location field args = .ok (piece, rest))
    {result : Piece × List Lexeme} :
    encodeField tables location field (args.map (Labels.substituteOperand [(name, address)])) =
        .ok result ↔
      (∀ operand ∈ symbolOperands [field] args, operand.is .identifier name = false) ∧
        (piece, rest.map (Labels.substituteOperand [(name, address)])) = result := by
  cases field with
  | constant digits =>
      cases encoded
      simp [encodeField, symbolOperands]
  | symbol tag width =>
      cases args with
      | nil => cases encoded
      | cons arg args =>
          simp only [encodeField, Success.bind_eq_ok, Success.pure_eq_ok, Prod.mk.injEq] at encoded
          obtain ⟨value, read, _, fitted, rfl, rfl⟩ := encoded
          have identifier := (symbolValue_eq_ok read).1
          cases same : arg.is .identifier name with
          | true =>
              rw [List.map_cons, Labels.substituteOperand_eq_ofWord same]
              simp [encodeField, symbolValue, Lexeme.ofWord, symbolOperands, same, bind,
                Except.bind]
          | false =>
              rw [List.map_cons, Labels.substituteOperand_eq_self (by simp [identifier]) same]
              simp [encodeField, read, fitted, symbolOperands, same, bind, Except.bind, pure,
                Except.pure]
  | immediate width =>
      cases args with
      | nil => cases encoded
      | cons arg args =>
          simp only [encodeField, Success.bind_eq_ok, Success.pure_eq_ok, Prod.mk.injEq] at encoded
          obtain ⟨value, read, _, fitted, rfl, rfl⟩ := encoded
          rw [List.map_cons, substituteOperand_of_number read]
          simp [encodeField, read, fitted, symbolOperands, bind, Except.bind, pure, Except.pure]
  | optional width =>
      cases args with
      | nil =>
          simp only [encodeField] at encoded
          split_ifs at encoded with nonnegative
          cases encoded
          simp [encodeField, symbolOperands, nonnegative]
      | cons arg args =>
          simp only [encodeField, Success.bind_eq_ok, Success.pure_eq_ok, Prod.mk.injEq] at encoded
          obtain ⟨value, read, _, fitted, rfl, rfl⟩ := encoded
          rw [List.map_cons, substituteOperand_of_number read]
          simp [encodeField, read, fitted, symbolOperands, bind, Except.bind, pure, Except.pure]

private theorem encodeFields_substitute_iff {tables : Tables} {location : Location}
    {fields : List Field} {args rest : List Lexeme} {pieces : List Piece}
    (encoded : encodeFields tables location fields args = .ok (pieces, rest))
    {result : List Piece × List Lexeme} :
    encodeFields tables location fields (args.map (Labels.substituteOperand [(name, address)])) =
        .ok result ↔
      (∀ operand ∈ symbolOperands fields args, operand.is .identifier name = false) ∧
        (pieces, rest.map (Labels.substituteOperand [(name, address)])) = result := by
  induction fields generalizing args rest pieces result with
  | nil =>
      cases encoded
      simp [encodeFields, symbolOperands]
  | cons field fields induction =>
      simp only [encodeFields, Success.bind_eq_ok, Success.pure_eq_ok, Prod.mk.injEq,
        Prod.exists] at encoded
      obtain ⟨piece, left, first, others, last, later, rfl, rfl⟩ := encoded
      have left_eq := rest_of_encodeField first
      simp only [encodeFields, Success.bind_eq_ok, Success.pure_eq_ok,
        encodeField_substitute_iff first, symbolOperands_cons field fields args, ← left_eq,
        List.forall_mem_append]
      constructor
      · rintro ⟨_, ⟨first_kept, rfl⟩, _, encoded, rfl⟩
        obtain ⟨others_kept, rfl⟩ := (induction later).mp encoded
        exact ⟨⟨first_kept, others_kept⟩, rfl⟩
      · rintro ⟨⟨first_kept, others_kept⟩, rfl⟩
        exact ⟨_, ⟨first_kept, rfl⟩, _, (induction later).mpr ⟨others_kept, rfl⟩, rfl⟩

/-! ## Statements -/

theorem encodeInstruction_substitute_iff {set : InstructionSet} {instruction : Instruction}
    {statement : Statement} {code code' : List UInt8} (kind : statement.kind = .instruction)
    (encoded : encodeInstruction set instruction statement = .ok code) :
    encodeInstruction set instruction
        (statement.mapArgs (Labels.substituteOperand [(name, address)])) = .ok code' ↔
      (∀ operand ∈ symbolOperands instruction.fields statement.args,
        operand.is .identifier name = false) ∧ code = code' := by
  simp only [encodeInstruction, Success.bind_eq_ok, Success.mapError_eq_ok] at encoded
  obtain ⟨⟨pieces, rest⟩, fields, packed⟩ := encoded
  simp only [Statement.mapArgs, kind, if_true, encodeInstruction, Success.bind_eq_ok,
    Success.mapError_eq_ok]
  constructor
  · rintro ⟨_, fields', packed'⟩
    obtain ⟨kept, rfl⟩ := (encodeFields_substitute_iff fields).mp fields'
    exact ⟨kept, Except.ok.inj (packed.symm.trans packed')⟩
  · rintro ⟨kept, rfl⟩
    exact ⟨_, (encodeFields_substitute_iff fields).mpr ⟨kept, rfl⟩, packed⟩

private theorem mapArgs_of_encodeData {data : Directive.Data} {statement : Statement}
    {code : List UInt8} (encoded : encodeData data statement = .ok code) :
    statement.mapArgs (Labels.substituteOperand [(name, address)]) = statement := by
  unfold encodeData at encoded
  split_ifs at encoded
  simp only [Success.bind_eq_ok, Success.pure_eq_ok, Success.mapM_eq_ok] at encoded
  obtain ⟨units, each, rfl⟩ := encoded
  have kept : ∀ arg ∈ statement.args,
      Labels.substituteOperand [(name, address)] arg = arg := by
    intro arg member
    obtain ⟨_, _, encoded⟩ := Success.exists_input_of_forall₂ each.flip member
    unfold argumentUnits at encoded
    split_ifs at encoded with text
    · exact Labels.substituteOperand_of_other (by simp [text]) (by simp [text])
    · obtain ⟨value, read, -⟩ := Success.map_eq_ok.mp encoded
      exact substituteOperand_of_number read
  unfold Statement.mapArgs
  split_ifs
  · rw [List.map_congr_left kept, List.map_id']
  · rfl

private theorem encode_substitute_iff {set : InstructionSet} {statement : Statement}
    {code code' : List UInt8} (encoded : encode set statement = .ok code) :
    encode set (statement.mapArgs (Labels.substituteOperand [(name, address)])) = .ok code' ↔
      (∀ operand ∈ lookedUp set statement, operand.is .identifier name = false) ∧
        code = code' := by
  have mnemonic : (statement.mapArgs (Labels.substituteOperand [(name, address)])).mnemonic =
      statement.mnemonic := by
    rw [Statement.mnemonic, Statement.name_mapArgs, Statement.mnemonic]
  obtain ⟨kind, by_mnemonic⟩ := encode_eq_ok_iff.mp encoded
  cases directive : Directive.data? statement.mnemonic with
  | some data =>
      -- Data stays as it is, so it is encoded again.
      simp only [directive] at by_mnemonic
      rw [mapArgs_of_encodeData by_mnemonic, encoded, Except.ok.injEq]
      simp [lookedUp, directive]
  | none =>
      cases found : set.instruction? statement.mnemonic with
      | none => simp [directive, found] at by_mnemonic
      | some instruction =>
          simp only [directive, found] at by_mnemonic
          obtain ⟨no_origin, encoded⟩ := by_mnemonic
          rw [encode_eq_ok_iff, Statement.kind_mapArgs, mnemonic, lookedUp]
          simp only [directive, found, kind, true_and]
          rw [encodeInstruction_substitute_iff kind encoded]
          exact and_iff_right no_origin

end Encoding

/-! ## Images -/

namespace Image

variable {set : InstructionSet} {statements : List Statement}

/-- The name is not looked up by any of the statements. -/
def Spares (set : InstructionSet) (name : String) (statements : List Statement) : Prop :=
  ∀ statement ∈ statements, ∀ operand ∈ Encoding.lookedUp set statement,
    operand.is .identifier name = false

/-- Statements that can be encoded still can with an address put in for a name exactly when they
do not look the name up; then they have the same bytes. -/
theorem generateFrom_substitute_iff {image : Image} {offset : Nat} {bytes : List UInt8}
    (generated : generateFrom set offset statements = .ok image) :
    (generateFrom set offset (Labels.substitute [(name, address)] statements)).map Image.bytes =
        .ok bytes ↔
      Spares set name statements ∧ image.bytes = bytes := by
  induction statements generalizing offset image bytes with
  | nil =>
      cases generated
      simp [Labels.substitute, generateFrom, Spares, Except.map]
  | cons statement statements induction =>
      simp only [generateFrom, Success.bind_eq_ok, Except.ok.injEq] at generated
      obtain ⟨code, encoded, rest, later, rfl⟩ := generated
      simp only [Labels.substitute, List.map_cons, generateFrom, Success.map_eq_ok,
        Success.bind_eq_ok, Except.ok.injEq]
      constructor
      · rintro ⟨_, ⟨code', encoded', rest', later', rfl⟩, rfl⟩
        obtain ⟨kept, rfl⟩ := (Encoding.encode_substitute_iff encoded).mp encoded'
        obtain ⟨others, same⟩ :=
          (induction later).mp (Success.map_eq_ok.mpr ⟨rest', later', rfl⟩)
        exact ⟨List.forall_mem_cons.mpr ⟨kept, others⟩, by rw [same]⟩
      · rintro ⟨spares, rfl⟩
        obtain ⟨kept, others⟩ := List.forall_mem_cons.mp spares
        obtain ⟨rest', later', same⟩ := Success.map_eq_ok.mp ((induction later).mpr ⟨others, rfl⟩)
        exact ⟨_, ⟨code, (Encoding.encode_substitute_iff encoded).mpr ⟨kept, rfl⟩, rest', later',
          rfl⟩, by rw [same]⟩

end Image
end TableAssembler
