import TableAssembler.Proofs.Dictionary
import TableAssembler.Proofs.Encoding.Instruction
import TableAssembler.Proofs.InstructionSet.Template
import TableAssembler.Proofs.Outcome

/-!
# The order of faults in an encoding

The fields of an instruction take the arguments of a statement from left to right.  The first field
that is at fault with what it takes is reported, at its argument or, when that is missing, at the
statement.  Only when no field is at fault the number of bits is looked at: first whether it is too
great, then whether it fills whole bytes.
-/

namespace TableAssembler

namespace Field

/-- The width of a field that takes a number. -/
def numberWidth? : Field → Option Int
  | .immediate width | .optional width => some width
  | .constant _ | .symbol _ _ => none

/-- The argument that a field takes. -/
def taken (field : Field) (args : List Lexeme) : Option Lexeme :=
  if field.takesArgument then args.head? else none

/-- The arguments that a field leaves. -/
def left (field : Field) (args : List Lexeme) : List Lexeme :=
  if field.takesArgument then args.tail else args

/-- What the encoding of a field relies on. -/
inductive Encodable (tables : Tables) : Field → Prop
  | constant {bits : List Char} :
      (∀ c ∈ bits, Template.isBit c = true) → Encodable tables (.constant bits)
  | symbol {tag : String} {width : Int} :
      tables.hasTag tag = true → 1 ≤ width → width ≤ Encoding.Piece.widthLimit →
        Encodable tables (.symbol tag width)
  | immediate {width : Int} :
      1 ≤ width → width ≤ Encoding.Piece.widthLimit → Encodable tables (.immediate width)
  | optional {width : Int} :
      1 ≤ width → width ≤ Encoding.Piece.widthLimit → Encodable tables (.optional width)

end Field

/-! ## Compiled fields -/

namespace Template

/-- The fields of a template can be encoded if their widths are neither negative nor beyond what
zeros are written for. -/
theorem encodable_of_fields {tables : Tables} {text : List Char} {all : List Field}
    (accepted : fields tables text = .ok all)
    (widths : ∀ field ∈ all, field.takesArgument = true →
      1 ≤ field.size ∧ field.size ≤ Encoding.Piece.widthLimit) :
    ∀ field ∈ all, field.Encodable tables := by
  obtain ⟨parts, writes, gives⟩ := exists_writes_of_fields accepted
  intro field member
  obtain ⟨part, part_member, given⟩ := Success.exists_input_of_forall₂ gives member
  cases given with
  | bits => exact .constant (writes.wellFormed _ part_member).2
  | immediate =>
      obtain ⟨positive, narrow⟩ := widths _ member rfl
      exact .immediate positive narrow
  | optional =>
      obtain ⟨positive, narrow⟩ := widths _ member rfl
      exact .optional positive narrow
  | symbol _ known =>
      obtain ⟨positive, narrow⟩ := widths _ member rfl
      exact .symbol known positive narrow

end Template

namespace Encoding

/-! ## Faults of fields -/

/-- What is wrong with the name that a field of the table with a tag takes. -/
inductive SymbolFault (tables : Tables) (tag : String) (width : Int) (arg : Lexeme) : Cause → Prop
  /-- It is no name. -/
  | identifierExpected :
      arg.kind ≠ .identifier → SymbolFault tables tag width arg (.identifierExpected arg.kind)
  /-- The table does not have it. -/
  | unknownSymbol {table : Dictionary UInt64} :
      arg.kind = .identifier → Dictionary.find? tables (Text.upper tag) = some table →
        Text.lower arg.value ∉ Dictionary.names table →
        SymbolFault tables tag width arg (.unknownSymbol (Text.upper tag) arg.value)
  /-- Its value does not fit. -/
  | valueTooWide {table : Dictionary UInt64} {value : UInt64} :
      arg.kind = .identifier → Dictionary.find? tables (Text.upper tag) = some table →
        Dictionary.find? table (Text.lower arg.value) = some value →
        2 ^ width.toNat ≤ value.toNat →
        SymbolFault tables tag width arg (.valueTooWide value width)

/-- What is wrong with the number that a field takes. -/
inductive NumberFault (width : Int) (arg : Lexeme) : Cause → Prop
  /-- It is the name of no label. -/
  | undeclaredLabel :
      arg.kind = .identifier → NumberFault width arg (.undeclaredLabel arg.value)
  /-- It is neither a number nor a name. -/
  | unexpectedKind :
      arg.kind ≠ .identifier → arg.kind ≠ .number →
        NumberFault width arg (.unexpectedKind arg.kind)
  /-- No word holds it. -/
  | numberOutOfRange :
      arg.kind = .number → Numeral.parse? arg.radix arg.value.toList = none →
        NumberFault width arg (.numberOutOfRange arg.source)
  /-- It does not fit. -/
  | valueTooWide {value : UInt64} :
      arg.kind = .number → Numeral.parse? arg.radix arg.value.toList = some value →
        2 ^ width.toNat ≤ value.toNat → NumberFault width arg (.valueTooWide value width)

/-- What is wrong with a field and the argument that it takes, in a statement at a location. -/
inductive FieldFault (tables : Tables) (location : Location) :
    Field × Option Lexeme → Fault → Prop
  | symbolMissing {tag : String} {width : Int} :
      FieldFault tables location (.symbol tag width, none) (.located location .symbolMissing)
  | symbol {tag : String} {width : Int} {arg : Lexeme} {cause : Cause} :
      SymbolFault tables tag width arg cause →
        FieldFault tables location (.symbol tag width, some arg) (.located arg.location cause)
  | immediateMissing {width : Int} :
      FieldFault tables location (.immediate width, none) (.located location .immediateMissing)
  | number {field : Field} {width : Int} {arg : Lexeme} {cause : Cause} :
      field.numberWidth? = some width → NumberFault width arg cause →
        FieldFault tables location (field, some arg) (.located arg.location cause)

variable {tables : Tables} {location : Location} {arg : Lexeme} {args : List Lexeme} {width : Int}

theorem fit_eq_error {value : UInt64} (wide : 2 ^ width.toNat ≤ value.toNat) :
    fit location width value = .error (.located location (.valueTooWide value width)) := by
  rw [fit, if_neg]
  intro fits
  have small : value.toNat < 2 ^ width.toNat := Numeral.bitLength_le_iff.mp (by omega)
  omega

/-- A field that takes a number reads it and puts it into its bits. -/
theorem encodeField_of_numberWidth? {field : Field} (takes : field.numberWidth? = some width) :
    encodeField tables location field (arg :: args) = do
      let value ← number arg
      let piece ← fit arg.location width value
      return (piece, args) := by
  cases field with
  | constant | symbol => contradiction
  | immediate | optional =>
      obtain rfl := Option.some.inj takes
      rfl

theorem SymbolFault.encodeField_eq {tag : String} {cause : Cause}
    (faulty : SymbolFault tables tag width arg cause) :
    encodeField tables location (.symbol tag width) (arg :: args) =
      .error (.located arg.location cause) := by
  rw [encodeField, symbolValue]
  cases faulty with
  | identifierExpected kind =>
      rw [if_neg kind]
      rfl
  | unknownSymbol kind table_found absent =>
      rw [if_pos kind, Tables.value, table_found]
      dsimp only
      rw [Dictionary.find?_eq_none_iff.mpr absent]
      rfl
  | valueTooWide kind table_found found wide =>
      rw [if_pos kind, Tables.value, table_found]
      dsimp only
      rw [found]
      change fit arg.location width _ >>= _ = _
      rw [fit_eq_error wide]
      rfl

theorem number_of_parse? {value : UInt64} (kind : arg.kind = .number)
    (reads : Numeral.parse? arg.radix arg.value.toList = some value) : number arg = .ok value := by
  rw [number, kind]
  dsimp only
  rw [Lexeme.word, if_pos kind, reads]

theorem NumberFault.number_eq {cause : Cause} (faulty : NumberFault width arg cause) :
    number arg = .error (.located arg.location cause) ∨
      ∃ value, number arg = .ok value ∧ 2 ^ width.toNat ≤ value.toNat ∧
        cause = .valueTooWide value width := by
  cases faulty with
  | undeclaredLabel kind =>
      left
      rw [number, kind]
  | unexpectedKind no_name no_number =>
      left
      unfold number
      split
      · contradiction
      · contradiction
      · rfl
  | numberOutOfRange kind great =>
      left
      rw [number, kind]
      dsimp only
      rw [Lexeme.word, if_pos kind, great]
  | valueTooWide kind reads wide => exact .inr ⟨_, number_of_parse? kind reads, wide, rfl⟩

theorem NumberFault.encodeField_eq {field : Field} {cause : Cause}
    (takes : field.numberWidth? = some width) (faulty : NumberFault width arg cause) :
    encodeField tables location field (arg :: args) = .error (.located arg.location cause) := by
  rw [encodeField_of_numberWidth? takes]
  rcases faulty.number_eq with failed | ⟨value, read, wide, rfl⟩
  · rw [failed]
    rfl
  · rw [read]
    change fit arg.location width value >>= _ = _
    rw [fit_eq_error wide]
    rfl

/-- A field that is at fault with the argument it takes is not encoded. -/
theorem FieldFault.encodeField_eq {field : Field} {fault : Fault}
    (faulty : FieldFault tables location (field, field.taken args) fault) :
    encodeField tables location field args = .error fault := by
  generalize taken : field.taken args = arg? at faulty
  cases args with
  | nil =>
      obtain rfl : none = arg? := by simpa [Field.taken] using taken
      cases faulty with
      | symbolMissing => rfl
      | immediateMissing => rfl
  | cons arg args =>
      cases faulty with
      | symbolMissing | immediateMissing => contradiction
      | symbol faulty =>
          obtain rfl := Option.some.inj taken
          exact faulty.encodeField_eq
      | @number _ width other _ takes faulty =>
          obtain rfl : arg = other := by
            cases field with
            | constant | symbol => contradiction
            | immediate | optional => exact Option.some.inj taken
          exact faulty.encodeField_eq takes

/-! ## What fields give -/

/-- The piece fills its field with zeros and ones. -/
structure Fills (piece : Piece) (field : Field) : Prop where
  length : (piece.toList.length : Int) = field.size
  binary : ∃ bits, Numeral.value? 2 piece.toList = some bits

theorem fills_constant {bits : List Char} (binary : ∀ c ∈ bits, Template.isBit c = true) :
    Fills { digits := bits } (.constant bits) := by
  refine ⟨rfl, Numeral.exists_value?_eq_some fun c member => ?_⟩
  rcases (by simpa [Template.isBit] using binary c member : c = '0' ∨ c = '1') with rfl | rfl
  · decide
  · decide

theorem fills_optional {width : Int} (positive : 1 ≤ width) :
    Fills { zeros := width.toNat } (.optional width) := by
  refine ⟨?_, 0, ?_⟩
  · simp only [Piece.toList, List.append_nil, List.length_replicate, Field.size]
    omega
  · simp only [Piece.toList]
    rw [Numeral.value?_replicate_zero_append (by decide), Numeral.value?_nil]

theorem fills_ofValue {field : Field} {width : Int} {value : UInt64} (size : field.size = width)
    (positive : 1 ≤ width) (narrow : width ≤ Piece.widthLimit)
    (fits : value.toNat < 2 ^ width.toNat) : Fills (Piece.ofValue width value) field := by
  have short : (Nat.toDigits 2 value.toNat).length ≤ width.toNat :=
    (Nat.length_toDigits_le_iff (by decide) (by omega)).mpr fits
  rw [Piece.ofValue, if_pos narrow]
  refine ⟨?_, value.toNat, ?_⟩
  · simp only [Piece.toList, List.length_append, List.length_replicate]
    omega
  · simp only [Piece.toList]
    rw [Numeral.value?_replicate_zero_append (by decide),
      Numeral.value?_toDigits (by decide) (by decide)]

/-- What encoding one field gives. -/
structure Encodes (field : Field) (args : List Lexeme) (result : Piece × List Lexeme) : Prop where
  fills : Fills result.1 field
  left : result.2 = field.left args

theorem fit_eq_ofValue {value : UInt64} (positive : 1 ≤ width)
    (fits : value.toNat < 2 ^ width.toNat) :
    fit location width value = .ok (Piece.ofValue width value) := by
  have bits := Numeral.bitLength_le_iff.mpr fits
  rw [fit, if_pos (by omega)]

theorem lands_symbol {tag : String} (known : tables.hasTag tag = true) (positive : 1 ≤ width)
    (narrow : width ≤ Piece.widthLimit) (arg : Lexeme) (args : List Lexeme) :
    Outcome.Lands (FieldFault tables location (.symbol tag width, some arg))
      (Encodes (.symbol tag width) (arg :: args))
      (encodeField tables location (.symbol tag width) (arg :: args)) := by
  by_cases sound : ∀ cause, ¬ SymbolFault tables tag width arg cause
  · have kind : arg.kind = .identifier := by
      by_contra other
      exact sound _ (.identifierExpected other)
    obtain ⟨table, table_found⟩ := Option.isSome_iff_exists.mp known
    obtain ⟨value, found⟩ :
        ∃ value, Dictionary.find? table (Text.lower arg.value) = some value := by
      by_contra absent
      rw [← Option.isSome_iff_exists, Option.not_isSome_iff_eq_none,
        Dictionary.find?_eq_none_iff] at absent
      exact sound _ (.unknownSymbol kind table_found absent)
    have fits : value.toNat < 2 ^ width.toNat := by
      by_contra wide
      exact sound _ (.valueTooWide kind table_found found (Nat.le_of_not_lt wide))
    have encoded : encodeField tables location (.symbol tag width) (arg :: args) =
        .ok (Piece.ofValue width value, args) := by
      rw [encodeField, symbolValue, if_pos kind, Tables.value, table_found]
      dsimp only
      rw [found]
      change fit arg.location width value >>= _ = _
      rw [fit_eq_ofValue positive fits]
      rfl
    rw [encoded]
    exact .ok ⟨fills_ofValue rfl positive narrow fits, rfl⟩
  · push Not at sound
    obtain ⟨cause, faulty⟩ := sound
    rw [faulty.encodeField_eq]
    exact .error (.symbol faulty)

private theorem lands_number {field : Field} (takes : field.numberWidth? = some width)
    (positive : 1 ≤ width) (narrow : width ≤ Piece.widthLimit) (arg : Lexeme)
    (args : List Lexeme) :
    Outcome.Lands (FieldFault tables location (field, some arg)) (Encodes field (arg :: args))
      (encodeField tables location field (arg :: args)) := by
  by_cases sound : ∀ cause, ¬ NumberFault width arg cause
  · have kind : arg.kind = .number := by
      by_contra other
      by_cases name : arg.kind = .identifier
      · exact sound _ (.undeclaredLabel name)
      · exact sound _ (.unexpectedKind name other)
    obtain ⟨value, reads⟩ : ∃ value, Numeral.parse? arg.radix arg.value.toList = some value := by
      by_contra great
      rw [← Option.isSome_iff_exists, Option.not_isSome_iff_eq_none] at great
      exact sound _ (.numberOutOfRange kind great)
    have fits : value.toNat < 2 ^ width.toNat := by
      by_contra wide
      exact sound _ (.valueTooWide kind reads (Nat.le_of_not_lt wide))
    have encoded : encodeField tables location field (arg :: args) =
        .ok (Piece.ofValue width value, args) := by
      rw [encodeField_of_numberWidth? takes, number_of_parse? kind reads]
      change fit arg.location width value >>= _ = _
      rw [fit_eq_ofValue positive fits]
      rfl
    rw [encoded]
    cases field with
    | constant | symbol => contradiction
    | immediate | optional =>
        obtain rfl := Option.some.inj takes
        exact .ok ⟨fills_ofValue rfl positive narrow fits, rfl⟩
  · push Not at sound
    obtain ⟨cause, faulty⟩ := sound
    rw [faulty.encodeField_eq takes]
    exact .error (.number takes faulty)

private theorem lands_encodeField {field : Field} (encodable : field.Encodable tables)
    (args : List Lexeme) :
    Outcome.Lands (FieldFault tables location (field, field.taken args)) (Encodes field args)
      (encodeField tables location field args) := by
  cases encodable with
  | constant binary => exact .ok ⟨fills_constant binary, rfl⟩
  | symbol known positive narrow =>
      cases args with
      | nil => exact .error .symbolMissing
      | cons arg args => exact lands_symbol known positive narrow arg args
  | immediate positive narrow =>
      cases args with
      | nil => exact .error .immediateMissing
      | cons arg args => exact lands_number rfl positive narrow arg args
  | @optional width positive narrow =>
      cases args with
      | nil =>
          rw [encodeField, if_pos (by omega)]
          exact .ok ⟨fills_optional positive, rfl⟩
      | cons arg args => exact lands_number rfl positive narrow arg args

private theorem reports_encodeField {field : Field} (encodable : field.Encodable tables)
    (args : List Lexeme) :
    Outcome.Reports (FieldFault tables location) [(field, field.taken args)]
      (Encodes field args) (encodeField tables location field args) := by
  have lands : Outcome.Lands (FieldFault tables location (field, field.taken args))
      (Encodes field args) (encodeField tables location field args) :=
    lands_encodeField encodable args
  cases encoded : encodeField tables location field args with
  | error fault =>
      rw [encoded] at lands
      cases lands with
      | error faulty => exact .single_error faulty
  | ok result =>
      rw [encoded] at lands
      cases lands with
      | ok encodes =>
          refine .single_ok (fun fault faulty => ?_) encodes
          simp [faulty.encodeField_eq] at encoded

/-! ## Rows of fields -/

/-- The fields of a row, each with the argument that it takes. -/
def given : List Field → List Lexeme → List (Field × Option Lexeme)
  | [], _ => []
  | field :: fields, args => (field, field.taken args) :: given fields (field.left args)

theorem FieldFault.taken_eq {field : Field} {arg? : Option Lexeme} {fault : Fault}
    (faulty : FieldFault tables location (field, arg?) fault) :
    field.taken arg?.toList = arg? := by
  cases faulty with
  | symbolMissing | symbol | immediateMissing => rfl
  | number takes =>
      cases field with
      | constant | symbol => contradiction
      | immediate | optional => rfl

/-- A field has at most one fault with what it takes. -/
theorem FieldFault.unique {item : Field × Option Lexeme} {fault other : Fault}
    (faulty : FieldFault tables location item fault)
    (again : FieldFault tables location item other) : fault = other := by
  obtain ⟨field, arg?⟩ := item
  have taken := faulty.taken_eq
  rw [← taken] at faulty again
  exact Except.error.inj (faulty.encodeField_eq.symm.trans again.encodeField_eq)

theorem reports_encodeFields {fields : List Field}
    (encodable : ∀ field ∈ fields, field.Encodable tables) (args : List Lexeme) :
    Outcome.Reports (FieldFault tables location) (given fields args)
      (fun result => List.Forall₂ Fills result.1 fields)
      (encodeFields tables location fields args) := by
  induction fields generalizing args with
  | nil => exact .ok (by simp [given]) .nil
  | cons field fields induction =>
      obtain ⟨first, others⟩ := List.forall_mem_cons.mp encodable
      rw [given, ← List.singleton_append]
      refine (reports_encodeField first args).bind fun result encodes => ?_
      obtain ⟨piece, left⟩ := result
      obtain rfl : left = field.left args := encodes.left
      refine (induction others (field.left args)).map fun further fills => ?_
      exact .cons encodes.fills fills

/-- The number of bits of a row of fields, however great it is. -/
def exactSize (fields : List Field) : Nat := (fields.map fun field => field.size.toNat).sum

theorem binary_of_fills {pieces : List Piece} {fields : List Field}
    (fills : List.Forall₂ Fills pieces fields) :
    (pieces.flatMap Piece.toList).length = exactSize fields ∧
      ∃ value, Numeral.value? 2 (pieces.flatMap Piece.toList) = some value := by
  induction fills with
  | nil => exact ⟨rfl, 0, rfl⟩
  | @cons piece field pieces fields first _ induction =>
      obtain ⟨length, low, low_reads⟩ := induction
      obtain ⟨high, high_reads⟩ := first.binary
      have first_length := first.length
      rw [List.flatMap_cons, List.length_append, length, exactSize, exactSize, List.map_cons,
        List.sum_cons]
      have both := Numeral.value?_append_eq_some.mpr ⟨high, low, high_reads, low_reads, rfl⟩
      exact ⟨by omega, _, both⟩

/-- Zeros and ones are packed unless there are too many of them or they fill no whole bytes. -/
theorem pack_of_binary {pieces : List Piece} {value : Nat}
    (reads : Numeral.value? 2 (pieces.flatMap Piece.toList) = some value) :
    pack pieces =
      if 64 < (pieces.flatMap Piece.toList).length then
        .error (.bitsTooMany (pieces.flatMap Piece.toList).length)
      else if (pieces.flatMap Piece.toList).length % 8 ≠ 0 then
        .error (.bitsUnaligned (pieces.flatMap Piece.toList).length)
      else .ok (bigEndian (groupSize (pieces.flatMap Piece.toList).length) value) := by
  have size := totalSize_eq_length reads
  have group := groupSize_eq_zero_iff ((pieces.flatMap Piece.toList).length : Int)
  by_cases great : 64 < (pieces.flatMap Piece.toList).length
  · rw [if_pos great, pack, size, if_neg (by omega), if_pos (group.mpr (by omega))]
  rw [if_neg great]
  by_cases aligned : (pieces.flatMap Piece.toList).length % 8 = 0
  · rw [if_neg (not_not.mpr aligned)]
    exact pack_eq_ok_iff.mpr ⟨value, reads, aligned, not_lt.mp great, rfl⟩
  · have filled : groupSize (pieces.flatMap Piece.toList).length ≠ 0 := by
      intro empty
      have bounds := group.mp empty
      omega
    rw [if_pos aligned, pack, size, if_neg (by omega), if_neg filled, if_pos aligned]

/-! ## Arguments left over -/

private theorem fit_read_eq_map (read : Except Fault UInt64) (width : Int) (args : List Lexeme) :
    (do
      let value ← read
      let piece ← fit location width value
      return (piece, args)) =
      Except.map (fun result : Piece × List Lexeme => (result.1, args))
        (do
          let value ← read
          let piece ← fit location width value
          return (piece, [])) := by
  cases read with
  | error fault => rfl
  | ok value =>
      change fit location width value >>= _ = Except.map _ (fit location width value >>= _)
      cases fit location width value <;> rfl

private theorem encodeField_eq_map (field : Field) (args : List Lexeme) :
    encodeField tables location field args =
      (encodeField tables location field (field.taken args).toList).map
        fun result => (result.1, field.left args) := by
  cases args with
  | nil =>
      cases field with
      | constant | symbol | immediate => rfl
      | optional width =>
          change encodeField tables location (.optional width) [] =
            (encodeField tables location (.optional width) []).map fun result => (result.1, [])
          rw [encodeField]
          split_ifs <;> rfl
  | cons arg args =>
      cases field with
      | constant bits => rfl
      | symbol tag width => exact fit_read_eq_map (symbolValue tables tag arg) width args
      | immediate width | optional width => exact fit_read_eq_map (number arg) width args

/-- A row of fields looks at no more arguments than it has fields that take one. -/
theorem encodeFields_take (fields : List Field) (args : List Lexeme) :
    (encodeFields tables location fields (args.take (fields.countP Field.takesArgument))).map
        Prod.fst =
      (encodeFields tables location fields args).map Prod.fst := by
  induction fields generalizing args with
  | nil => rfl
  | cons field fields induction =>
      have taken : field.taken (args.take ((field :: fields).countP Field.takesArgument)) =
          field.taken args := by
        cases args <;> by_cases takes : field.takesArgument <;> simp [Field.taken, takes]
      have left : field.left (args.take ((field :: fields).countP Field.takesArgument)) =
          (field.left args).take (fields.countP Field.takesArgument) := by
        cases args <;> by_cases takes : field.takesArgument <;> simp [Field.left, takes]
      rw [encodeFields, encodeFields, encodeField_eq_map, encodeField_eq_map field args, taken,
        left]
      cases encodeField tables location field (field.taken args).toList with
      | error fault => rfl
      | ok result =>
          have behind (rest : List Lexeme) :
              Except.map Prod.fst
                (do
                  let others ← encodeFields tables location fields rest
                  return (result.1 :: others.1, others.2)) =
                ((encodeFields tables location fields rest).map Prod.fst).map (result.1 :: ·) := by
            cases encodeFields tables location fields rest <;> rfl
          exact (behind _).trans
            ((congrArg (Except.map (result.1 :: ·)) (induction (field.left args))).trans
              (behind _).symm)

/-! ## Statements -/

/-- No field of an instruction is at fault with what it takes from a statement. -/
def IsSound (set : InstructionSet) (instruction : Instruction) (statement : Statement) : Prop :=
  ∀ item ∈ given instruction.fields statement.args, ∀ fault,
    ¬ FieldFault set.tables statement.location item fault

/-- How a statement is encoded as an instruction. -/
structure Diagnosed (set : InstructionSet) (instruction : Instruction) (statement : Statement) :
    Prop where
  /-- It has bytes exactly when no field is at fault and the bits fill at most eight bytes. -/
  exists_ok_iff : (∃ code, encode set statement = .ok code) ↔
    IsSound set instruction statement ∧ exactSize instruction.fields ≤ 64 ∧
      exactSize instruction.fields % 8 = 0
  /-- The first field at fault is reported, and otherwise too many bits before unaligned ones. -/
  eq_error_iff : ∀ fault, encode set statement = .error fault ↔
    Outcome.IsFirst (FieldFault set.tables statement.location)
        (given instruction.fields statement.args) fault ∨
      IsSound set instruction statement ∧
        (64 < exactSize instruction.fields ∧
            fault = .located statement.location (.bitsTooMany (exactSize instruction.fields)) ∨
          exactSize instruction.fields ≤ 64 ∧ exactSize instruction.fields % 8 ≠ 0 ∧
            fault = .located statement.location (.bitsUnaligned (exactSize instruction.fields)))
  /-- Arguments that no field takes change nothing. -/
  take_args : encode set
      { statement with
        args := statement.args.take (instruction.fields.countP Field.takesArgument) } =
    encode set statement

private theorem encodeInstruction_eq (set : InstructionSet) (instruction : Instruction)
    (statement : Statement) :
    encodeInstruction set instruction statement =
      (encodeFields set.tables statement.location instruction.fields statement.args).map
          Prod.fst >>=
        fun pieces => (pack pieces).mapError (.located statement.location) := by
  rw [encodeInstruction]
  cases encodeFields set.tables statement.location instruction.fields statement.args <;> rfl

theorem exists_encodeInstruction_eq {set : InstructionSet} {instruction : Instruction}
    {statement : Statement} {pieces : List Piece} {left : List Lexeme}
    (encoded : encodeFields set.tables statement.location instruction.fields statement.args =
      .ok (pieces, left))
    (fills : List.Forall₂ Fills pieces instruction.fields) :
    ∃ code, encodeInstruction set instruction statement =
      if 64 < exactSize instruction.fields then
        .error (.located statement.location (.bitsTooMany (exactSize instruction.fields)))
      else if exactSize instruction.fields % 8 ≠ 0 then
        .error (.located statement.location (.bitsUnaligned (exactSize instruction.fields)))
      else .ok code := by
  obtain ⟨length, value, reads⟩ := binary_of_fills fills
  refine ⟨bigEndian (groupSize (exactSize instruction.fields)) value, ?_⟩
  rw [encodeInstruction, encoded]
  change (pack pieces).mapError _ = _
  rw [pack_of_binary reads, length]
  split_ifs <;> rfl

private theorem encode_take_args {set : InstructionSet} {statement : Statement}
    {instruction : Instruction} (wellFormed : set.WellFormed)
    (found : set.instruction? statement.mnemonic = some instruction)
    (kind : statement.kind = .instruction) :
    encode set
        { statement with
          args := statement.args.take (instruction.fields.countP Field.takesArgument) } =
      encode set statement := by
  let shorter : Statement :=
    { statement with
      args := statement.args.take (instruction.fields.countP Field.takesArgument) }
  calc
    encode set shorter = encodeInstruction set instruction shorter :=
      encode_eq_of_instruction? wellFormed found kind
    _ = encodeInstruction set instruction statement := by
      rw [encodeInstruction_eq, encodeInstruction_eq]
      exact congrArg (· >>= _) (encodeFields_take instruction.fields statement.args)
    _ = encode set statement := (encode_eq_of_instruction? wellFormed found kind).symm

/-- Every statement of a compiled instruction is diagnosed in the order of its fields, if the widths
of those that take arguments are positive and zeros are written for them. -/
theorem diagnosed_of_compile {config : Config} {set : InstructionSet} {statement : Statement}
    {instruction : Instruction} (compiled : InstructionSet.compile config = .ok set)
    (kind : statement.kind = .instruction)
    (found : set.instruction? statement.mnemonic = some instruction)
    (widths : ∀ field ∈ instruction.fields, field.takesArgument = true →
      1 ≤ field.size ∧ field.size ≤ 1000000) :
    Diagnosed set instruction statement := by
  have wellFormed := InstructionSet.wellFormed_of_compile compiled
  have template := InstructionSet.template_compile_of_mem compiled (List.mem_of_find?_eq_some found)
  have encodable := Template.encodable_of_fields (Success.mapError_eq_ok.mp template) widths
  have reports : Outcome.Reports (FieldFault set.tables statement.location)
      (given instruction.fields statement.args)
      (fun result => List.Forall₂ Fills result.1 instruction.fields)
      (encodeFields set.tables statement.location instruction.fields statement.args) :=
    reports_encodeFields encodable statement.args
  have unique : ∀ item fault other, FieldFault set.tables statement.location item fault →
      FieldFault set.tables statement.location item other → fault = other :=
    fun _ _ _ => FieldFault.unique
  have encode_eq := encode_eq_of_instruction? wellFormed found kind
  cases encoded : encodeFields set.tables statement.location instruction.fields statement.args with
  | error first =>
      rw [encoded] at reports
      have failed : encode set statement = .error first := by
        rw [encode_eq, encodeInstruction, encoded]
        rfl
      have unsound : ¬ IsSound set instruction statement := fun sound => by
        simpa using reports.exists_ok_iff.mpr sound
      refine ⟨?_, fun fault => ?_, encode_take_args wellFormed found kind⟩
      · rw [failed]
        exact iff_of_false (by simp) fun sound => unsound sound.1
      · have first_iff := reports.eq_error_iff unique fault
        rw [Except.error.injEq] at first_iff
        rw [failed, Except.error.injEq, first_iff]
        simp [unsound]
  | ok result =>
      rw [encoded] at reports
      have sound : IsSound set instruction statement := reports.exists_ok_iff.mp ⟨result, rfl⟩
      obtain ⟨code, packed⟩ := exists_encodeInstruction_eq encoded (reports.results_of_ok rfl)
      refine ⟨?_, fun fault => ?_, encode_take_args wellFormed found kind⟩
      · rw [encode_eq, packed]
        split_ifs with great unaligned
        · simp [not_le.mpr great]
        · simp [unaligned]
        · simp [sound, not_lt.mp great, not_not.mp unaligned]
      · have no_first := (reports.eq_error_iff unique fault).not.mp (by simp)
        rw [encode_eq, packed]
        split_ifs with great unaligned
        · simp [sound, no_first, great, not_le.mpr great, eq_comm]
        · simp [sound, no_first, great, not_lt.mp great, unaligned, eq_comm]
        · simp [sound, no_first, great, unaligned]

/-- A load with a number that is too wide in front of an undeclared label. -/
def misfitStatement : Statement :=
  .instruction { value := "LD" }
    [{ value := "R2", location := ⟨"a.s", 1, 4⟩ },
      { value := "1ff", kind := .number, radix := 16, location := ⟨"a.s", 1, 8⟩ },
      { value := "far", location := ⟨"a.s", 1, 15⟩ }]

theorem diagnosed_of_compile_misfitStatement :
    InstructionSet.compile
        { tables := loadSet.tables
          instructions := [(loadInstruction.name, loadInstruction.template)] } = .ok loadSet ∧
      misfitStatement.kind = .instruction ∧
      loadSet.instruction? misfitStatement.mnemonic = some loadInstruction ∧
      (∀ field ∈ loadInstruction.fields, field.takesArgument = true →
        1 ≤ field.size ∧ field.size ≤ 1000000) ∧
      encode loadSet misfitStatement =
        .error (.located ⟨"a.s", 1, 8⟩ (.valueTooWide 511 6)) ∧
      Diagnosed loadSet loadInstruction misfitStatement := by
  have compiled : InstructionSet.compile
      { tables := loadSet.tables
        instructions := [(loadInstruction.name, loadInstruction.template)] } = .ok loadSet := by
    decide +kernel
  have found : loadSet.instruction? misfitStatement.mnemonic = some loadInstruction := rfl
  have widths : ∀ field ∈ loadInstruction.fields, field.takesArgument = true →
      1 ≤ field.size ∧ field.size ≤ 1000000 := by
    decide
  have failed : encode loadSet misfitStatement =
      .error (.located ⟨"a.s", 1, 8⟩ (.valueTooWide 511 6)) := rfl
  exact ⟨compiled, rfl, found, widths, failed, diagnosed_of_compile compiled rfl found widths⟩

end Encoding
end TableAssembler
