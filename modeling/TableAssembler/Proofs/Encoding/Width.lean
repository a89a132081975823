import TableAssembler.Proofs.Encoding.Size
import TableAssembler.Proofs.InstructionSet.Template

/-!
# Written widths

Widths are signed 64-bit numbers.  The number in the braces of a field wraps around from `2 ^ 63`
on, and so does the sum of all widths.  A width that came out negative is noticed only where an
optional field is left out and its zeros are to be written.
-/

namespace TableAssembler

/-! ## Computations that break down -/

/-- The computation breaks down in the panic. -/
def Fault.Panics {α : Type} (computation : Except Fault α) (panic : Panic) : Prop :=
  computation = .error (.panicked panic)

namespace Fault

variable {α β : Type} {panic : Panic}

@[simp]
theorem not_panics_ok (value : α) : ¬ Panics (.ok value) panic := by
  simp [Panics]

@[simp]
theorem not_panics_located (location : Location) (cause : Cause) :
    ¬ Panics (.error (.located location cause) : Except Fault α) panic := by
  simp [Panics]

/-- A computation of two steps breaks down where the first one does, or the second one on its
result. -/
theorem panics_bind_iff {first : Except Fault α} {next : α → Except Fault β} :
    Panics (first >>= next) panic ↔
      Panics first panic ∨ ∃ value, first = .ok value ∧ Panics (next value) panic := by
  cases first with
  | error fault => simp [Panics, bind, Except.bind]
  | ok value => simp [Panics, bind, Except.bind]

theorem not_panics_mapError_located (computation : Except Cause α) (location : Location) :
    ¬ Panics (computation.mapError (.located location)) panic := by
  cases computation with
  | error cause => exact not_panics_located location cause
  | ok value => exact not_panics_ok value

end Fault

namespace Encoding

/-! ## Negative numbers of zeros -/

variable {panic : Panic}

private theorem not_panics_number (arg : Lexeme) : ¬ Fault.Panics (number arg) panic := by
  unfold number
  split
  · unfold Lexeme.word
    split_ifs
    split
    · exact Fault.not_panics_ok _
    · simp
  · simp
  · simp

private theorem not_panics_symbolValue (tables : Tables) (tag : String) (arg : Lexeme) :
    ¬ Fault.Panics (symbolValue tables tag arg) panic := by
  unfold symbolValue
  split_ifs
  · exact Fault.not_panics_mapError_located _ _
  · simp

private theorem not_panics_fit (location : Location) (width : Int) (value : UInt64) :
    ¬ Fault.Panics (fit location width value) panic := by
  unfold fit
  split_ifs
  · exact Fault.not_panics_ok _
  · simp

private theorem not_panics_fit_read {read : Except Fault UInt64} {location : Location} {width : Int}
    {args : List Lexeme} (reads : ¬ Fault.Panics read panic) :
    ¬ Fault.Panics
        (do
          let value ← read
          let piece ← fit location width value
          return (piece, args)) panic := by
  simp only [Fault.panics_bind_iff, not_or, not_exists, not_and]
  refine ⟨reads, fun value _ => ⟨not_panics_fit location width value, fun piece _ => ?_⟩⟩
  exact Fault.not_panics_ok _

private theorem panics_encodeField_iff {tables : Tables} {location : Location} {field : Field}
    {args : List Lexeme} :
    Fault.Panics (encodeField tables location field args) .negativeRepeat ↔
      args = [] ∧ ∃ width < 0, field = .optional width := by
  cases args with
  | nil =>
      cases field with
      | constant | symbol | immediate => simp [encodeField]
      | optional width =>
          by_cases negative : width < 0
          · simp [Fault.Panics, encodeField, negative, not_le.mpr negative]
          · simp [encodeField, negative, not_lt.mp negative]
  | cons arg args =>
      refine iff_of_false ?_ (by simp)
      cases field with
      | constant bits => exact Fault.not_panics_ok _
      | symbol tag width => exact not_panics_fit_read (not_panics_symbolValue tables tag arg)
      | immediate width | optional width => exact not_panics_fit_read (not_panics_number arg)

/-- A row of fields breaks down on a negative number of zeros where the arguments run out in front
of an optional field with a negative width. -/
theorem panics_encodeFields_iff {tables : Tables} {location : Location} {fields : List Field}
    {args : List Lexeme} :
    Fault.Panics (encodeFields tables location fields args) .negativeRepeat ↔
      ∃ front width back pieces, fields = front ++ .optional width :: back ∧ width < 0 ∧
        encodeFields tables location front args = .ok (pieces, []) := by
  -- Induction on the row: the first field fails itself, or is the first of those in front.
  induction fields generalizing args with
  | nil => simp [encodeFields]
  | cons field fields induction =>
      simp only [encodeFields, Fault.panics_bind_iff, panics_encodeField_iff, Prod.exists,
        induction]
      constructor
      · rintro (⟨rfl, width, negative, rfl⟩ | ⟨piece, left, first, later | ⟨_, _, _, last⟩⟩)
        · exact ⟨[], width, fields, [], rfl, negative, rfl⟩
        · obtain ⟨front, width, back, pieces, rfl, negative, ahead⟩ := later
          refine ⟨field :: front, width, back, piece :: pieces, rfl, negative, ?_⟩
          simp [encodeFields, Success.bind_eq_ok, first, ahead]
        · exact absurd last (Fault.not_panics_ok _)
      · rintro ⟨front, width, back, pieces, split, negative, ahead⟩
        cases front with
        | nil =>
            obtain ⟨rfl, rfl⟩ := List.cons.inj split
            obtain ⟨-, rfl⟩ : pieces = [] ∧ args = [] := by
              simpa [encodeFields, eq_comm] using ahead
            exact .inl ⟨rfl, width, negative, rfl⟩
        | cons front_head front =>
            obtain ⟨rfl, rfl⟩ := List.cons.inj split
            simp only [encodeFields, Success.bind_eq_ok, Success.pure_eq_ok, Prod.mk.injEq,
              Prod.exists] at ahead
            obtain ⟨piece, left, first, further, _, others, -, rfl⟩ := ahead
            refine .inr ⟨piece, left, first, .inl ?_⟩
            exact ⟨front, width, back, further, rfl, negative, others⟩

theorem panics_encodeInstruction_iff {set : InstructionSet} {instruction : Instruction}
    {statement : Statement} :
    Fault.Panics (encodeInstruction set instruction statement) panic ↔
      Fault.Panics
        (encodeFields set.tables statement.location instruction.fields statement.args) panic := by
  simp [encodeInstruction, Fault.panics_bind_iff, Fault.not_panics_mapError_located]

end Encoding

/-! ## Widths of a template -/

namespace Template

/-- The field of a part has the bits of the part, or the width in its braces as far as a signed
64-bit number holds it. -/
def Part.Sized : Part → Field → Prop
  | .bits run, field => field = .constant run
  | .braces _ number, field =>
      (field.size = number ↔ number < 2 ^ 63) ∧ (1 ≤ field.size ↔ number % 2 ^ 64 < 2 ^ 63)

namespace Part.Gives

variable {tables : Tables} {part : Part} {field : Field}

private theorem wrap_size (gives : part.Gives tables field) :
    Numeral.wrap field.size = Numeral.wrap part.width := by
  cases gives with
  | bits => rfl
  | immediate | optional | symbol => exact Numeral.wrap_wrap _

theorem sized (gives : part.Gives tables field) : part.Sized field := by
  cases gives with
  | bits => rfl
  | immediate _ nonzero | optional _ nonzero | symbol _ _ nonzero =>
      exact ⟨Numeral.wrap_natCast_eq_iff _, Numeral.one_le_wrap_natCast_iff nonzero⟩

end Part.Gives

private theorem wrap_sum_size {tables : Tables} {parts : List Part} {fields : List Field}
    (gives : List.Forall₂ (Part.Gives tables) parts fields) :
    Numeral.wrap (fields.map Field.size).sum = Numeral.wrap (parts.map Part.width).sum := by
  induction gives with
  | nil => rfl
  | @cons part field parts fields first _ induction =>
      calc
        Numeral.wrap ((field :: fields).map Field.size).sum =
            Numeral.wrap (Numeral.wrap field.size +
              Numeral.wrap (fields.map Field.size).sum) := by
          rw [Numeral.wrap_wrap_add_wrap, List.map_cons, List.sum_cons]
        _ = Numeral.wrap (Numeral.wrap part.width +
              Numeral.wrap (parts.map Part.width).sum) := by
          rw [first.wrap_size, induction]
        _ = Numeral.wrap ((part :: parts).map Part.width).sum := by
          rw [Numeral.wrap_wrap_add_wrap, List.map_cons, List.sum_cons, Nat.cast_add]

end Template

/-- What the template of an instruction writes, and what has become of it. -/
structure Instruction.Measured (tables : Tables) (parts : List Template.Part)
    (instruction : Instruction) : Prop where
  /-- The template writes the parts and nothing else. -/
  writes_iff : ∀ written, Template.Writes instruction.template.toList written ↔ written = parts
  /-- There is one field for each part, and its width is known from the part. -/
  fields : List.Forall₂ (fun part field => part.Gives tables field ∧ part.Sized field) parts
    instruction.fields
  /-- The number of bits is the sum of the written widths, but for wrapping around. -/
  bits_eq : instruction.bits = Numeral.wrap (parts.map Template.Part.width).sum
  /-- The sum is the true one exactly when a signed 64-bit number can be as great. -/
  bits_eq_sum_iff : instruction.bits = (parts.map Template.Part.width).sum ↔
    (parts.map Template.Part.width).sum < 2 ^ 63
  /-- A statement breaks down on a negative number of zeros exactly when its arguments run out in
  front of an optional field with a negative width. -/
  panics_iff : ∀ (set : InstructionSet) (statement : Statement), set.WellFormed →
    set.instruction? statement.mnemonic = some instruction → statement.kind = .instruction →
    (Fault.Panics (Encoding.encode set statement) .negativeRepeat ↔
      ∃ front width back pieces,
        instruction.fields = front ++ .optional width :: back ∧ width < 0 ∧
          Encoding.encodeFields set.tables statement.location front statement.args =
            .ok (pieces, []))

namespace Instruction

/-- The widths of an instruction are those that its template writes, as far as signed 64-bit
numbers hold them. -/
theorem exists_measured_of_compile {name template : String} {tables : Tables}
    {fields : List Field} (accepted : Template.compile name template tables = .ok fields) :
    ∃ parts, Measured tables parts { name, template, fields } := by
  obtain ⟨parts, writes, gives⟩ :=
    Template.exists_writes_of_fields (Success.mapError_eq_ok.mp accepted)
  have bits_eq : Field.totalSize fields = Numeral.wrap (parts.map Template.Part.width).sum := by
    rw [Encoding.totalSize_eq_sum, Template.wrap_sum_size gives]
  refine ⟨parts, ?_, ?_, bits_eq, ?_, ?_⟩
  · intro written
    constructor
    · exact fun again => again.unique writes
    · rintro rfl
      exact writes
  · exact gives.imp fun part field given => ⟨given, given.sized⟩
  · rw [bits, bits_eq]
    exact Numeral.wrap_natCast_eq_iff _
  · intro set statement wellFormed found kind
    rw [Encoding.encode_eq_of_instruction? wellFormed found kind,
      Encoding.panics_encodeInstruction_iff, Encoding.panics_encodeFields_iff]

/-! ### Widths that wrap around -/

/-- An optional field without white space, alone. -/
theorem writes_optional {digits : List Char} {number : Nat}
    (value : Numeral.value? 10 digits = some number) :
    Template.Writes ('\x7b' :: (['E'] ++ (digits ++ ['\x7d']))) [.braces ['E'] number] := by
  have letter : Text.isLetter 'E' = true := by decide
  simpa using @Template.Writes.braces [] ['E'] [] digits [] [] number [] (by simp) (by simp)
    (by simpa using letter) value .nil

/-- A bit, and an optional field with seven bits more than a word can count. -/
def wrappingInstruction : Instruction where
  name := "x"
  template := "0 \x7bE18446744073709551623\x7d"
  fields := [.constant ['0'], .optional 7]

theorem exists_measured_of_compile_wrappingInstruction :
    Template.compile wrappingInstruction.name wrappingInstruction.template [] =
        .ok wrappingInstruction.fields ∧
      Measured [] [.bits ['0'], .braces ['E'] 18446744073709551623] wrappingInstruction ∧
      wrappingInstruction.bits = 8 := by
  have accepted : Template.compile wrappingInstruction.name wrappingInstruction.template [] =
      .ok wrappingInstruction.fields := by
    decide +kernel
  have text : wrappingInstruction.template.toList =
      '0' :: ([' '] ++ '\x7b' :: (['E'] ++ ("18446744073709551623".toList ++ ['\x7d']))) := rfl
  have writes : Template.Writes wrappingInstruction.template.toList
      [.bits ['0'], .braces ['E'] 18446744073709551623] := by
    have continued : Template.continuesBits ' ' = true := by decide
    have stopped : Template.continuesBits '\x7b' = false := by decide
    rw [text]
    exact .bits (by decide) (by simpa using continued) (by simpa using stopped)
      (writes_optional rfl)
  obtain ⟨parts, measured⟩ := exists_measured_of_compile accepted
  obtain rfl := (measured.writes_iff _).mp writes
  exact ⟨accepted, measured, by decide⟩

/-- An instruction whose only field may be left out, with a width that became negative. -/
def negativeInstruction : Instruction where
  name := "x"
  template := "\x7bE9223372036854775808\x7d"
  fields := [.optional (-9223372036854775808)]

/-- The statement that leaves the field out. -/
def negativeStatement : Statement := .instruction { value := "x" } []

/-- A width that is too great is accepted and becomes negative, and a statement that leaves its
field out breaks down on a negative number of zeros. -/
theorem great_width_becomes_negative :
    Template.compile negativeInstruction.name negativeInstruction.template [] =
        .ok negativeInstruction.fields ∧
      Template.Writes negativeInstruction.template.toList [.braces ['E'] 9223372036854775808] ∧
      negativeInstruction.bits = -9223372036854775808 ∧
      (InstructionSet.compile
            { instructions := [(negativeInstruction.name, negativeInstruction.template)] }).map
          (fun set => Encoding.encode set negativeStatement) =
        .ok (.error (.panicked .negativeRepeat)) := by
  have text : negativeInstruction.template.toList =
      '\x7b' :: (['E'] ++ ("9223372036854775808".toList ++ ['\x7d'])) := rfl
  refine ⟨by decide +kernel, ?_, by decide, by decide +kernel⟩
  rw [text]
  exact writes_optional rfl

end Instruction
end TableAssembler
