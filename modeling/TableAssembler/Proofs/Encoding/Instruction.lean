import Mathlib.Algebra.BigOperators.Group.List.Basic
import TableAssembler.Encoding.Instruction
import TableAssembler.Proofs.Encoding.Bits
import TableAssembler.Proofs.InstructionSet.WellFormed

/-!
# Encodings can be decoded

The bytes of an instruction, read as one big-endian number, hold the value of every field at the
place that the widths of the later fields give it.  Fields take the arguments of the statement
from left to right, constants none of them.
-/

namespace TableAssembler

namespace Field

/-- The field takes an argument if one is left. -/
def takesArgument : Field → Bool
  | .constant _ => false
  | .immediate _ | .symbol _ _ | .optional _ => true

/-- What the bits of a field must be, given the argument that it takes. -/
def Holds (tables : Tables) (arg? : Option Lexeme) (bits : Nat) : Field → Prop
  | .constant digits => Numeral.value? 2 digits = some bits
  | .symbol tag _ =>
      ∃ arg value, arg? = some arg ∧ arg.kind = .identifier ∧
        tables.value tag arg.value = .ok value ∧ bits = value.toNat
  | .immediate _ => ∃ arg value, arg? = some arg ∧ arg.word = .ok value ∧ bits = value.toNat
  | .optional _ =>
      (∃ arg value, arg? = some arg ∧ arg.word = .ok value ∧ bits = value.toNat) ∨
        arg? = none ∧ bits = 0

end Field

namespace Encoding

/-! ## One field -/

private theorem length_toDigits_le_of_bitLength {value width : Nat} (positive : 0 < width)
    (fits : Numeral.bitLength value ≤ width) : (Nat.toDigits 2 value).length ≤ width := by
  rw [Nat.length_toDigits_le_iff (by decide) positive]
  unfold Numeral.bitLength at fits
  split_ifs at fits with zero
  · rw [zero]
    positivity
  · exact Nat.lt_log2_self.trans_le (Nat.pow_le_pow_right (by decide) fits)

private theorem value?_tooWide_append (digits : List Char) :
    Numeral.value? 2 (Piece.tooWide ++ digits) = none := by
  rw [Option.eq_none_iff_forall_ne_some]
  intro value reads
  obtain ⟨high, -, wide, -⟩ := Numeral.value?_append_eq_some.mp reads
  have none : Numeral.value? 2 Piece.tooWide = Option.none := by decide
  simp [none] at wide

/-- A value that fits in a field fills it, unless the field is too wide for its zeros to be
written. -/
private theorem fit_eq_ok {location : Location} {width : Int} {value : UInt64} {piece : Piece}
    {bits : Nat} (fitted : fit location width value = .ok piece) (nonzero : width ≠ 0)
    (reads : Numeral.value? 2 piece.toList = some bits) :
    (piece.toList.length : Int) = width ∧ bits = value.toNat := by
  unfold fit at fitted
  split_ifs at fitted with fits
  obtain rfl := Except.ok.inj fitted
  unfold Piece.ofValue at reads ⊢
  split_ifs at reads ⊢ with narrow
  · have positive : 0 < width.toNat := by omega
    have short : (Nat.toDigits 2 value.toNat).length ≤ width.toNat :=
      length_toDigits_le_of_bitLength positive (by omega)
    simp only [Piece.toList] at reads ⊢
    rw [Numeral.value?_replicate_zero_append (by decide),
      Numeral.value?_toDigits (by decide) (by decide)] at reads
    rw [List.length_append, List.length_replicate]
    exact ⟨by omega, (Option.some.inj reads).symm⟩
  · simp [Piece.toList, value?_tooWide_append] at reads

theorem number_eq_ok {arg : Lexeme} {value : UInt64} (read : number arg = .ok value) :
    arg.word = .ok value := by
  unfold number at read
  split at read
  · exact read
  · cases read
  · cases read

theorem symbolValue_eq_ok {tables : Tables} {tag : String} {arg : Lexeme} {value : UInt64}
    (read : symbolValue tables tag arg = .ok value) :
    arg.kind = .identifier ∧ tables.value tag arg.value = .ok value := by
  unfold symbolValue at read
  split_ifs at read with identifier
  exact ⟨identifier, Success.mapError_eq_ok.mp read⟩

private theorem fit_read_eq_ok {read : Except Fault UInt64} {location : Location} {width : Int}
    {args rest : List Lexeme} {piece : Piece} {bits : Nat}
    (encoded :
      (do
        let value ← read
        let piece ← fit location width value
        return (piece, args)) = .ok (piece, rest))
    (nonzero : width ≠ 0) (reads : Numeral.value? 2 piece.toList = some bits) :
    ∃ value, read = .ok value ∧ (piece.toList.length : Int) = width ∧ bits = value.toNat ∧
      rest = args := by
  simp only [Success.bind_eq_ok, Success.pure_eq_ok, Prod.mk.injEq] at encoded
  obtain ⟨value, read_ok, fitting, fitted, rfl, rfl⟩ := encoded
  obtain ⟨length, bits_eq⟩ := fit_eq_ok fitted nonzero reads
  exact ⟨value, read_ok, length, bits_eq, rfl⟩

/-- The arguments that a field leaves: all of them, or all behind the first. -/
theorem rest_of_encodeField {tables : Tables} {location : Location} {field : Field}
    {args rest : List Lexeme} {piece : Piece}
    (encoded : encodeField tables location field args = .ok (piece, rest)) :
    rest = if field.takesArgument then args.tail else args := by
  cases field with
  | constant digits =>
      cases encoded
      rfl
  | symbol | immediate =>
      cases args with
      | nil => cases encoded
      | cons arg args =>
          simp only [encodeField, Success.bind_eq_ok, Success.pure_eq_ok, Prod.mk.injEq] at encoded
          obtain ⟨value, -, piece, -, -, rfl⟩ := encoded
          rfl
  | optional width =>
      cases args with
      | nil =>
          simp only [encodeField] at encoded
          split_ifs at encoded
          cases encoded
          rfl
      | cons arg args =>
          simp only [encodeField, Success.bind_eq_ok, Success.pure_eq_ok, Prod.mk.injEq] at encoded
          obtain ⟨value, -, piece, -, -, rfl⟩ := encoded
          rfl

/-- What encoding one field gives: a piece of the width of the field, with its bits, and the
arguments for the fields behind it. -/
theorem encodeField_eq_ok {tables : Tables} {location : Location} {field : Field}
    {args rest : List Lexeme} {piece : Piece} {bits : Nat}
    (encoded : encodeField tables location field args = .ok (piece, rest))
    (nonzero : field.size ≠ 0) (reads : Numeral.value? 2 piece.toList = some bits) :
    (piece.toList.length : Int) = field.size ∧ field.Holds tables args.head? bits ∧
      rest = if field.takesArgument then args.tail else args := by
  cases field with
  | constant digits =>
      cases encoded
      simp only [Piece.toList, List.replicate_zero, List.nil_append] at reads ⊢
      exact ⟨rfl, reads, rfl⟩
  | symbol tag width =>
      cases args with
      | nil => cases encoded
      | cons arg args =>
          obtain ⟨value, read, length, rfl, rfl⟩ := fit_read_eq_ok encoded nonzero reads
          obtain ⟨identifier, found⟩ := symbolValue_eq_ok read
          exact ⟨length, ⟨arg, value, rfl, identifier, found, rfl⟩, rfl⟩
  | immediate width =>
      cases args with
      | nil => cases encoded
      | cons arg args =>
          obtain ⟨value, read, length, rfl, rfl⟩ := fit_read_eq_ok encoded nonzero reads
          exact ⟨length, ⟨arg, value, rfl, number_eq_ok read, rfl⟩, rfl⟩
  | optional width =>
      cases args with
      | nil =>
          simp only [encodeField] at encoded
          split_ifs at encoded with nonnegative
          cases encoded
          simp only [Piece.toList] at reads ⊢
          rw [Numeral.value?_replicate_zero_append (by decide), Numeral.value?_nil,
            Option.some.injEq] at reads
          rw [List.append_nil, List.length_replicate]
          exact ⟨Int.toNat_of_nonneg nonnegative, .inr ⟨rfl, reads.symm⟩, rfl⟩
      | cons arg args =>
          obtain ⟨value, read, length, rfl, rfl⟩ := fit_read_eq_ok encoded nonzero reads
          exact ⟨length, .inl ⟨arg, value, rfl, number_eq_ok read, rfl⟩, rfl⟩

/-! ## A row of fields -/

/-- A number holds the fields of an encoding, each above the bits of those behind it. -/
structure Carries (tables : Tables) (fields : List Field) (args : List Lexeme)
    (number total : Nat) : Prop where
  /-- The number of bits is the sum of the widths. -/
  sum_size : (fields.map Field.size).sum = total
  /-- The number has no other bits. -/
  lt_two_pow : number < 2 ^ total
  /-- Every field is where the widths behind it say, for the argument that its turn gives it. -/
  holds : ∀ front field back, fields = front ++ field :: back →
    ∃ shift width : Nat, (back.map Field.size).sum = shift ∧ field.size = width ∧
      shift + width ≤ total ∧
      field.Holds tables args[front.countP Field.takesArgument]? (number >>> shift % 2 ^ width)

private theorem slice_add_high {high low total shift width : Nat} (inside : shift + width ≤ total) :
    (high * 2 ^ total + low) >>> shift % 2 ^ width = low >>> shift % 2 ^ width := by
  obtain ⟨above, rfl⟩ := Nat.exists_eq_add_of_le inside
  have split : high * 2 ^ (shift + width + above) + low =
      2 ^ shift * (2 ^ width * (high * 2 ^ above)) + low := by
    rw [Nat.pow_add, Nat.pow_add]
    ring
  rw [split, Nat.shiftRight_eq_div_pow, Nat.shiftRight_eq_div_pow,
    Nat.mul_add_div (by positivity), Nat.mul_add_mod]

theorem Carries.nil {tables : Tables} {args : List Lexeme} : Carries tables [] args 0 0 where
  sum_size := rfl
  lt_two_pow := by decide
  holds front field back split := by simp at split

theorem Carries.cons {tables : Tables} {field : Field} {fields : List Field} {args : List Lexeme}
    {bits number width total : Nat}
    (rest : Carries tables fields (if field.takesArgument then args.tail else args) number total)
    (size : field.size = width) (bits_lt : bits < 2 ^ width)
    (first : field.Holds tables args.head? bits) :
    Carries tables (field :: fields) args (bits * 2 ^ total + number) (width + total) where
  sum_size := by
    rw [List.map_cons, List.sum_cons, size, rest.sum_size, Nat.cast_add]
  lt_two_pow := by
    calc
      bits * 2 ^ total + number < bits * 2 ^ total + 2 ^ total :=
        Nat.add_lt_add_left rest.lt_two_pow _
      _ = (bits + 1) * 2 ^ total := by rw [Nat.add_mul, Nat.one_mul]
      _ ≤ 2 ^ width * 2 ^ total := Nat.mul_le_mul_right _ bits_lt
      _ = 2 ^ (width + total) := (Nat.pow_add 2 width total).symm
  holds := by
    intro front later back split
    cases front with
    | nil =>
        obtain ⟨rfl, rfl⟩ := List.cons.inj split
        refine ⟨total, width, rest.sum_size, size, by omega, ?_⟩
        have above : (bits * 2 ^ total + number) >>> total % 2 ^ width = bits := by
          rw [Nat.shiftRight_eq_div_pow, Nat.mul_comm, Nat.mul_add_div (by positivity),
            Nat.div_eq_of_lt rest.lt_two_pow, Nat.add_zero, Nat.mod_eq_of_lt bits_lt]
        rw [above, List.countP_nil, ← List.head?_eq_getElem?]
        exact first
    | cons front_head front =>
        obtain ⟨rfl, rfl⟩ := List.cons.inj split
        obtain ⟨shift, later_width, shift_eq, width_eq, inside, holds⟩ :=
          rest.holds front later back rfl
        refine ⟨shift, later_width, shift_eq, width_eq, by omega, ?_⟩
        rw [slice_add_high inside, List.countP_cons]
        by_cases takes : field.takesArgument
        · simpa [takes, List.getElem?_tail] using holds
        · simpa [takes] using holds

private theorem encodeFields_eq_ok {tables : Tables} {location : Location} {fields : List Field}
    {args rest : List Lexeme} {pieces : List Piece} {number : Nat}
    (encoded : encodeFields tables location fields args = .ok (pieces, rest))
    (nonzero : ∀ field ∈ fields, field.size ≠ 0)
    (reads : Numeral.value? 2 (pieces.flatMap Piece.toList) = some number) :
    Carries tables fields args number (pieces.flatMap Piece.toList).length := by
  induction fields generalizing args rest pieces number with
  | nil =>
      cases encoded
      obtain rfl : 0 = number := by simpa using reads
      exact .nil
  | cons field fields induction =>
      simp only [encodeFields, Success.bind_eq_ok, Success.pure_eq_ok, Prod.mk.injEq,
        Prod.exists] at encoded
      obtain ⟨piece, left, first, pieces, others, further, rfl, -⟩ := encoded
      rw [List.flatMap_cons, Numeral.value?_append_eq_some] at reads
      obtain ⟨bits, low, first_reads, further_reads, rfl⟩ := reads
      obtain ⟨size, holds, rfl⟩ :=
        encodeField_eq_ok first (nonzero field List.mem_cons_self) first_reads
      have carries :=
        induction further (fun later member => nonzero later (List.mem_cons_of_mem _ member))
          further_reads
      rw [List.flatMap_cons, List.length_append]
      exact carries.cons size.symm (Numeral.value?_lt first_reads) holds

/-- The bytes of an instruction carry its fields. -/
theorem encodeInstruction_eq_ok {set : InstructionSet} {instruction : Instruction}
    {statement : Statement} {code : List UInt8}
    (encoded : encodeInstruction set instruction statement = .ok code)
    (nonzero : ∀ field ∈ instruction.fields, field.size ≠ 0) :
    ∃ total, Carries set.tables instruction.fields statement.args (ofBigEndian code) total ∧
      total % 8 = 0 ∧ total ≤ 64 ∧ code.length = groupSize total := by
  simp only [encodeInstruction, Success.bind_eq_ok, Success.mapError_eq_ok,
    Prod.exists] at encoded
  obtain ⟨pieces, rest, fields_ok, packed⟩ := encoded
  obtain ⟨number, reads, aligned, fits, code_eq⟩ := pack_eq_ok_iff.mp packed
  refine ⟨_, ?_, aligned, fits, ?_⟩
  · rw [ofBigEndian_of_pack packed reads]
    exact encodeFields_eq_ok fields_ok nonzero reads
  · rw [code_eq, length_bigEndian]

theorem encode_eq_ok_iff {set : InstructionSet} {statement : Statement} {code : List UInt8} :
    encode set statement = .ok code ↔
      statement.kind = .instruction ∧
        match Directive.data? statement.mnemonic, set.instruction? statement.mnemonic with
        | some data, _ => encodeData data statement = .ok code
        | none, some instruction =>
            statement.mnemonic ≠ Directive.origin ∧
              encodeInstruction set instruction statement = .ok code
        | none, none => False := by
  dsimp only [encode]
  by_cases kind : statement.kind = .instruction
  · rw [if_neg (not_not.mpr kind)]
    cases Directive.data? statement.mnemonic with
    | some data => simp [kind]
    | none =>
        by_cases origin : statement.mnemonic = Directive.origin
        · cases set.instruction? statement.mnemonic <;> simp [origin]
        · cases set.instruction? statement.mnemonic <;> simp [kind, origin]
  · simp [kind]

/-- A statement whose mnemonic is an instruction of a well-formed set is encoded as one. -/
theorem encode_eq_of_instruction? {set : InstructionSet} {statement : Statement}
    {instruction : Instruction} (wellFormed : set.WellFormed)
    (found : set.instruction? statement.mnemonic = some instruction)
    (kind : statement.kind = .instruction) :
    encode set statement = encodeInstruction set instruction statement := by
  have no_origin : statement.mnemonic ≠ Directive.origin := by
    intro origin
    have plain := wellFormed.not_isDirective found
    rw [origin] at plain
    exact absurd plain (by decide)
  simp [encode, kind, wellFormed.data?_eq_none found, no_origin, found]

theorem encode_eq_encodeInstruction {set : InstructionSet} {statement : Statement}
    {instruction : Instruction} {code : List UInt8} (wellFormed : set.WellFormed)
    (found : set.instruction? statement.mnemonic = some instruction)
    (encoded : encode set statement = .ok code) :
    encodeInstruction set instruction statement = .ok code := by
  rw [← encode_eq_of_instruction? wellFormed found (encode_eq_ok_iff.mp encoded).1]
  exact encoded

/-- Encoding loses nothing: with `total` the sum of the widths of all fields, the bytes are a group
that holds `total` bits, and the number that they write carries every field. -/
theorem exists_carries_of_encode {config : Config} {set : InstructionSet} {statement : Statement}
    {instruction : Instruction} {code : List UInt8}
    (compiled : InstructionSet.compile config = .ok set)
    (found : set.instruction? statement.mnemonic = some instruction)
    (encoded : encode set statement = .ok code) :
    ∃ total, Carries set.tables instruction.fields statement.args (ofBigEndian code) total ∧
      total % 8 = 0 ∧ total ≤ 64 ∧ code.length = groupSize total := by
  have wellFormed := InstructionSet.wellFormed_of_compile compiled
  exact encodeInstruction_eq_ok (encode_eq_encodeInstruction wellFormed found encoded)
    (wellFormed.size_ne_zero_of_instruction? found)

/-! ### An encoding of 24 bits -/

/-- A load with a register, an immediate and an optional field between constant bits. -/
def loadInstruction : Instruction where
  name := "ld"
  template := "\x7bR4\x7d01\x7bIMM6\x7d1\x7bE11\x7d"
  fields :=
    [.symbol "R" 4, .constant ['0', '1'], .immediate 6, .constant ['1'], .optional 11]

/-- A set with the load alone, and one register. -/
def loadSet : InstructionSet where
  tables := [("R", [("r2", 2)])]
  instructions := [loadInstruction]
  pseudo := []

/-- A load that leaves its optional field out. -/
def loadStatement : Statement :=
  .instruction { value := "LD" }
    [{ value := "R2" }, { value := "2a", kind := .number, radix := 16 }]

/-- The three bytes of the load, padded to four. -/
def loadCode : List UInt8 := [0, 0x26, 0xa8, 0]

theorem exists_carries_of_encode_loadStatement :
    InstructionSet.compile
        { tables := loadSet.tables
          instructions := [(loadInstruction.name, loadInstruction.template)] } = .ok loadSet ∧
      loadSet.instruction? loadStatement.mnemonic = some loadInstruction ∧
      encode loadSet loadStatement = .ok loadCode ∧
      ∃ total, Carries loadSet.tables loadInstruction.fields loadStatement.args
          (ofBigEndian loadCode) total ∧
        total % 8 = 0 ∧ total ≤ 64 ∧ loadCode.length = groupSize total := by
  have compiled : InstructionSet.compile
      { tables := loadSet.tables
        instructions := [(loadInstruction.name, loadInstruction.template)] } = .ok loadSet := by
    decide +kernel
  have found : loadSet.instruction? loadStatement.mnemonic = some loadInstruction := rfl
  have encoded : encode loadSet loadStatement = .ok loadCode := rfl
  exact ⟨compiled, found, encoded, exists_carries_of_encode compiled found encoded⟩

end Encoding
end TableAssembler
