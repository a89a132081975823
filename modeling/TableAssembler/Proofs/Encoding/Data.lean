import TableAssembler.Encoding.Data
import TableAssembler.Proofs.Encoding.Bits
import TableAssembler.Proofs.Outcome

/-!
# Units of data

A data directive writes its arguments as units of one width: one for every number and one for
every character of a text.  A unit holds the low bits of its value, whatever mask the directive
has.  The first argument that has no values is reported, and nothing is written then.
-/

namespace TableAssembler
namespace Encoding

variable {data : Directive.Data} {arg : Lexeme} {args : List Lexeme} {width : Nat}

/-! ## Arguments -/

/-- A data directive can write the argument: it is a text, or a number that a word holds. -/
def Storable (arg : Lexeme) : Prop :=
  arg.kind = .text ∨ arg.kind = .number ∧ ∃ value, arg.word = .ok value

/-- The values that an argument stands for: the code points of a text, or a number. -/
inductive StandsFor (arg : Lexeme) : List Nat → Prop
  | text : arg.kind = .text → StandsFor arg (arg.value.toList.map Char.toNat)
  | number {value : UInt64} :
      arg.kind = .number → arg.word = .ok value → StandsFor arg [value.toNat]

/-- What is wrong with an argument that a data directive cannot write. -/
inductive DataFault (arg : Lexeme) : Fault → Prop
  /-- It is the name of no label. -/
  | undeclaredLabel : arg.kind = .identifier →
      DataFault arg (.located arg.location (.undeclaredLabel arg.value))
  /-- It is neither a text nor a number nor a name. -/
  | unexpectedKind : arg.kind ∉ [.text, .number, .identifier] →
      DataFault arg (.located arg.location (.unexpectedKind arg.kind))
  /-- No word holds it. -/
  | numberOutOfRange :
      arg.kind = .number → Numeral.parse? arg.radix arg.value.toList = none →
        DataFault arg (.located arg.location (.numberOutOfRange arg.source))

theorem number_of_kind (kind : arg.kind = .number) : number arg = arg.word := by
  rw [number, kind]

theorem DataFault.argumentUnits_eq {fault : Fault} (faulty : DataFault arg fault)
    (data : Directive.Data) : argumentUnits data arg = .error fault := by
  unfold argumentUnits
  cases faulty with
  | undeclaredLabel kind =>
      rw [if_neg (by simp [kind]), number, kind]
      rfl
  | unexpectedKind kind =>
      simp only [List.mem_cons, List.not_mem_nil, or_false, not_or] at kind
      obtain ⟨no_text, no_number, no_name⟩ := kind
      rw [if_neg no_text, number]
      split
      · contradiction
      · contradiction
      · rfl
  | numberOutOfRange kind great =>
      rw [if_neg (by simp [kind]), number_of_kind kind, Lexeme.word, if_pos kind, great]
      rfl

theorem DataFault.unique {fault other : Fault} (faulty : DataFault arg fault)
    (again : DataFault arg other) : fault = other := by
  have failed := faulty.argumentUnits_eq default
  rw [again.argumentUnits_eq default] at failed
  exact (Except.error.inj failed).symm

/-- Nothing is wrong with an argument exactly when it can be written. -/
theorem forall_not_dataFault_iff : (∀ fault, ¬ DataFault arg fault) ↔ Storable arg := by
  constructor
  · intro sound
    by_cases number : arg.kind = .number
    · cases value : Numeral.parse? arg.radix arg.value.toList with
      | none => exact absurd (.numberOutOfRange number value) (sound _)
      | some word => exact .inr ⟨number, word, by rw [Lexeme.word, if_pos number, value]⟩
    · left
      by_contra text
      by_cases name : arg.kind = .identifier
      · exact sound _ (.undeclaredLabel name)
      · exact sound _ (.unexpectedKind (by simp [text, number, name]))
  · rintro storable fault faulty
    rcases storable with text | ⟨number, value, word⟩
    · cases faulty with
      | undeclaredLabel kind | unexpectedKind kind | numberOutOfRange kind => simp [text] at kind
    · cases faulty with
      | undeclaredLabel kind | unexpectedKind kind => simp [number] at kind
      | numberOutOfRange _ great => simp [Lexeme.word, number, great] at word

/-! ## Units -/

/-- The bytes are big-endian units of a width, one for each value, that hold its low bits. -/
inductive Holds (width : Nat) : List UInt8 → List Nat → Prop
  | nil : Holds width [] []
  | cons {unit code : List UInt8} {value : Nat} {values : List Nat} :
      unit.length = width → ofBigEndian unit = value % 2 ^ (8 * width) →
        Holds width code values → Holds width (unit ++ code) (value :: values)

theorem Holds.append {front back : List UInt8} {values others : List Nat}
    (holds : Holds width front values) (further : Holds width back others) :
    Holds width (front ++ back) (values ++ others) := by
  induction holds with
  | nil => exact further
  | cons length value _ induction =>
      rw [List.append_assoc, List.cons_append]
      exact .cons length value induction

theorem Holds.length_eq {code : List UInt8} {values : List Nat} (holds : Holds width code values) :
    code.length = width * values.length := by
  induction holds with
  | nil => rfl
  | cons length _ _ induction =>
      rw [List.length_append, length, induction, List.length_cons, Nat.mul_succ, Nat.add_comm]

private theorem exists_mask_eq (known : data ∈ Directive.allData) :
    ∃ bits, data.mask.toNat = 2 ^ bits - 1 ∧ 8 * data.width ≤ bits := by
  simp only [Directive.allData, List.mem_cons, List.not_mem_nil, or_false] at known
  rcases known with rfl | rfl | rfl | rfl
  · exact ⟨16, rfl, by decide⟩
  · exact ⟨16, rfl, by decide⟩
  · exact ⟨32, rfl, by decide⟩
  · exact ⟨64, rfl, by decide⟩

private theorem ofBigEndian_unit (known : data ∈ Directive.allData) (value : UInt64) :
    ofBigEndian (unit data value) = value.toNat % 2 ^ (8 * data.width) := by
  obtain ⟨bits, mask, wide⟩ := exists_mask_eq known
  calc
    ofBigEndian (unit data value) = (value &&& data.mask).toNat % 256 ^ data.width :=
      ofBigEndian_bigEndian _ _
    _ = value.toNat % 2 ^ bits % 2 ^ (8 * data.width) := by
      rw [UInt64.toNat_and, mask, Nat.and_two_pow_sub_one_eq_mod, Nat.pow_mul]
    _ = value.toNat % 2 ^ (8 * data.width) :=
      Nat.mod_mod_of_dvd _ (Nat.pow_dvd_pow 2 wide)

theorem holds_unit (known : data ∈ Directive.allData) (value : UInt64) :
    Holds data.width (unit data value) [value.toNat] := by
  have single := Holds.cons (length_bigEndian _ _) (ofBigEndian_unit known value) .nil
  rwa [List.append_nil] at single

private theorem holds_characters (known : data ∈ Directive.allData) (characters : List Char) :
    Holds data.width (characters.flatMap fun c => unit data (UInt64.ofNat c.toNat))
      (characters.map Char.toNat) := by
  induction characters with
  | nil => exact .nil
  | cons c characters induction =>
      have small : c.toNat < UInt64.size := Nat.lt_trans c.val.toNat_lt (by decide)
      have first := holds_unit known (UInt64.ofNat c.toNat)
      rw [UInt64.toNat_ofNat_of_lt' small] at first
      exact first.append induction

/-! ## Directives -/

private theorem exists_holds_of_storable (known : data ∈ Directive.allData)
    (storable : Storable arg) :
    ∃ units values, argumentUnits data arg = .ok units ∧ StandsFor arg values ∧
      Holds data.width units values := by
  unfold argumentUnits
  rcases storable with text | ⟨kind, value, word⟩
  · rw [if_pos text]
    exact ⟨_, _, rfl, .text text, holds_characters known arg.value.toList⟩
  · rw [if_neg (by simp [kind]), number_of_kind kind, word]
    exact ⟨_, _, rfl, .number kind word, holds_unit known value⟩

theorem reports_argumentUnits (known : data ∈ Directive.allData) (arg : Lexeme) :
    Outcome.Reports DataFault [arg]
      (fun units => ∃ values, StandsFor arg values ∧ Holds data.width units values)
      (argumentUnits data arg) := by
  by_cases sound : ∀ fault, ¬ DataFault arg fault
  · obtain ⟨units, values, written, stands, holds⟩ :=
      exists_holds_of_storable known (forall_not_dataFault_iff.mp sound)
    rw [written]
    exact .single_ok sound ⟨values, stands, holds⟩
  · push Not at sound
    obtain ⟨fault, faulty⟩ := sound
    rw [faulty.argumentUnits_eq data]
    exact .single_error faulty

theorem exists_holds_flatten {written : List (List UInt8)}
    (each : List.Forall₂
      (fun arg units => ∃ values, StandsFor arg values ∧ Holds width units values) args written) :
    ∃ values, List.Forall₂ StandsFor args values ∧ Holds width written.flatten values.flatten := by
  induction each with
  | nil => exact ⟨[], .nil, .nil⟩
  | cons first _ induction =>
      obtain ⟨values, stands, holds⟩ := first
      obtain ⟨others, others_stand, others_hold⟩ := induction
      exact ⟨values :: others, .cons stands others_stand, holds.append others_hold⟩

private theorem length_flatten_of_standsFor {values : List (List Nat)}
    (stands : List.Forall₂ StandsFor args values) :
    values.flatten.length = args.countP (·.kind = .number) +
      ((args.filter (·.kind = .text)).map (·.value.length)).sum := by
  induction stands with
  | nil => rfl
  | cons first _ induction =>
      cases first with
      | text kind =>
          simp [kind, induction, String.length_toList]
          omega
      | number kind =>
          simp [kind, induction]
          omega

/-- What a data directive writes for its arguments. -/
structure Emitted (data : Directive.Data) (args : List Lexeme) (code : List UInt8) : Prop where
  /-- There is a unit for every number and for every character of a text. -/
  length : code.length = data.width * (args.countP (·.kind = .number) +
    ((args.filter (·.kind = .text)).map (·.value.length)).sum)
  /-- The units hold the values of the arguments, in order and modulo their size. -/
  holds : ∃ values, List.Forall₂ StandsFor args values ∧ Holds data.width code values.flatten

/-- A data directive writes its arguments when there are some and all of them can be written, as
units that hold their values.  Otherwise the first fault of an argument is reported, or that there
is none. -/
theorem encodeData_emits_units {data : Directive.Data} (known : data ∈ Directive.allData)
    (statement : Statement) :
    ((∃ code, encodeData data statement = .ok code) ↔
        statement.args ≠ [] ∧ ∀ arg ∈ statement.args, Storable arg) ∧
      (∀ code, encodeData data statement = .ok code → Emitted data statement.args code) ∧
      ∀ fault, encodeData data statement = .error fault ↔
        statement.args = [] ∧ fault = .located statement.location .dataMissing ∨
          Outcome.IsFirst DataFault statement.args fault := by
  by_cases missing : statement.args = []
  · have failed : encodeData data statement = .error (.located statement.location .dataMissing) :=
      if_pos (by simp [missing])
    have no_first (fault : Fault) : ¬ Outcome.IsFirst DataFault [] fault := fun first => by
      obtain ⟨arg, member, -⟩ := first.exists_faulty
      contradiction
    simp [failed, missing, no_first, eq_comm]
  · have computed : encodeData data statement =
        (statement.args.mapM (argumentUnits data)).map List.flatten :=
      if_neg (by simpa using missing)
    have reports : Outcome.Reports DataFault statement.args (Emitted data statement.args)
        (encodeData data statement) := by
      rw [computed]
      refine (Outcome.Reports.mapM fun arg _ => reports_argumentUnits known arg).map
        fun written each => ?_
      obtain ⟨values, stands, holds⟩ := exists_holds_flatten each
      exact ⟨by rw [holds.length_eq, length_flatten_of_standsFor stands], values, stands, holds⟩
    refine ⟨?_, fun code => reports.results_of_ok, fun fault => ?_⟩
    · rw [reports.exists_ok_iff]
      simp only [forall_not_dataFault_iff]
      exact (and_iff_right missing).symm
    · rw [reports.eq_error_iff fun _ _ _ => DataFault.unique]
      exact (or_iff_right fun both => missing both.1).symm

/-- A number beyond its unit, and a text of characters with one, two and three bytes. -/
def mixedData : Statement :=
  .instruction { value := "db" }
    [{ value := "1ff", kind := .number, radix := 16 }, { value := "aé€", kind := .text }]

/-- Bytes, with a mask that is wider than they are. -/
theorem encodeData_emits_units_mixedData :
    ⟨"db", 0xffff, 1⟩ ∈ Directive.allData ∧
      encodeData ⟨"db", 0xffff, 1⟩ mixedData = .ok [0xff, 0x61, 0xe9, 0xac] ∧
      Emitted ⟨"db", 0xffff, 1⟩ mixedData.args [0xff, 0x61, 0xe9, 0xac] := by
  have known : ⟨"db", 0xffff, 1⟩ ∈ Directive.allData := by decide
  have written : encodeData ⟨"db", 0xffff, 1⟩ mixedData = .ok [0xff, 0x61, 0xe9, 0xac] := rfl
  exact ⟨known, written, (encodeData_emits_units known mixedData).2.1 _ written⟩

end Encoding
end TableAssembler
