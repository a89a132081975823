import TableAssembler.Proofs.Lexeme.Literal
import TableAssembler.Proofs.Lexeme.Value

/-!
# The values of numbers

A number of a text has digits of its radix, and stands for what they write by their places: however
many there are, it is refused only when no word can hold that.  A word goes unharmed through the
number that is made of it, and through the text of that number.
-/

namespace TableAssembler
namespace Lexeme

variable {lexeme : Lexeme}

/-- The number is written in one of three radices with these digits, the most significant one
first. -/
structure HasDigits (lexeme : Lexeme) (radix : Nat) (digits : List Nat) : Prop where
  announced : radix ∈ [2, 10, 16]
  radix_eq : lexeme.radix = radix
  digits_ne : digits ≠ []
  small : ∀ digit ∈ digits, digit < radix
  spells : Numeral.Spells lexeme.value.toList digits

/-- The number is read as the value of its digits by their places, and refused exactly when this
is too great for a word. -/
def IsExact (lexeme : Lexeme) : Prop :=
  ∃ radix digits, lexeme.HasDigits radix digits ∧
    lexeme.word =
      if Nat.ofDigits radix digits.reverse < 2 ^ 64 then
        .ok (UInt64.ofNat (Nat.ofDigits radix digits.reverse))
      else .error (.located lexeme.location (.numberOutOfRange lexeme.source))

theorem Writes.exists_hasDigits {number : Nat} (writes : lexeme.Writes number) :
    ∃ radix digits, lexeme.HasDigits radix digits ∧ Nat.ofDigits radix digits.reverse = number := by
  obtain ⟨form, radix_eq⟩ := writes.radix
  have announced : Scan.radixOf form ∈ [2, 10, 16] := by cases form <;> decide
  have le_sixteen : Scan.radixOf form ≤ 16 := by cases form <;> decide
  have reads := writes.value
  rw [radix_eq, Int.toNat_natCast] at reads
  obtain ⟨digits, spells, small, value⟩ := Numeral.exists_spells_of_value? le_sixteen reads
  refine ⟨Scan.radixOf form, digits, ⟨announced, radix_eq, ?_, small, spells⟩, value⟩
  rintro rfl
  exact writes.digits_ne (List.map_eq_nil_iff.mp spells)

theorem Spelled.scan_eq {characters : List Char} (spelled : lexeme.Spelled characters)
    (file : String) :
    scan file (String.ofList characters) = .ok [{ lexeme with location := .start file }] := by
  obtain ⟨location, no_gap, read, width⟩ := spelled
  exact Scan.scan_alone no_gap read width file

private theorem exists_scan_source_ofWord (value : UInt64) (location : Location) (file : String) :
    ∃ again, scan file (ofWord value location).source = .ok [again] ∧ again.kind = .number ∧
      again.word = .ok value := by
  have literal : IsLiteral (Nat.toDigits 10 value.toNat) value.toNat := by
    refine ⟨.decimal, Nat.toDigits 10 value.toNat, rfl, ?_, ?_⟩
    · exact List.ne_nil_of_length_pos Nat.length_toDigits_pos
    · exact Numeral.value?_toDigits (by decide) (by decide) value.toNat
  obtain ⟨lexeme, spelled, kind, writes⟩ := literal.exists_spelled
  have again_writes : Writes { lexeme with location := .start file } value.toNat :=
    ⟨writes.radix, writes.digits_ne, writes.value⟩
  have text : (ofWord value location).source = String.ofList (Nat.toDigits 10 value.toNat) := by
    simp [ofWord, source, Numeral.decimal]
  refine ⟨{ lexeme with location := .start file }, ?_, kind, ?_⟩
  · rw [text, spelled.scan_eq]
  · rw [again_writes.word_eq kind, if_pos value.toNat_lt, UInt64.ofNat_toNat]

/-- Every number of a text has digits and is read as their value, or refused because no word can
hold it.  A word is the value of the number that is made of it, and of the one number that is
scanned from the text of that number. -/
theorem numbers_are_exact :
    (∀ {file text : String} {lexemes : List Lexeme}, scan file text = .ok lexemes →
      ∀ lexeme ∈ lexemes, lexeme.kind = .number → lexeme.IsExact) ∧
    ∀ (value : UInt64) (location : Location),
      (ofWord value location).word = .ok value ∧
        ∀ file, ∃ again, scan file (ofWord value location).source = .ok [again] ∧
          again.kind = .number ∧ again.word = .ok value := by
  constructor
  · intro file text lexemes scanned lexeme member kind
    obtain ⟨characters, spelled⟩ := spelled_of_scan scanned lexeme member
    obtain ⟨number, writes⟩ := spelled.exists_writes kind
    obtain ⟨radix, digits, has_digits, rfl⟩ := writes.exists_hasDigits
    exact ⟨radix, digits, has_digits, writes.word_eq kind⟩
  · intro value location
    exact ⟨word_ofWord value location, exists_scan_source_ofWord value location⟩

/-- Leading zeros, digits of both cases, and the least number that is no word. -/
def numberedData : String := "dq 0x00fF, 0b0101, 007, 18446744073709551616"

theorem numbers_are_exact_numberedData :
    (∃ lexemes, scan "n.s" numberedData = .ok lexemes ∧
      (lexemes.filter (·.kind = .number)).map word =
        [.ok 255, .ok 5, .ok 7,
          .error (.located ⟨"n.s", 1, 25⟩ (.numberOutOfRange "18446744073709551616"))] ∧
      ∀ lexeme ∈ lexemes, lexeme.kind = .number → lexeme.IsExact) ∧
    ∃ again, scan "t.s" "18446744073709551615" = .ok [again] ∧ again.kind = .number ∧
      again.word = .ok 18446744073709551615 := by
  have evaluated : (scan "n.s" numberedData).map
      (fun lexemes => (lexemes.filter (·.kind = .number)).map word) =
      .ok [.ok 255, .ok 5, .ok 7,
        .error (.located ⟨"n.s", 1, 25⟩ (.numberOutOfRange "18446744073709551616"))] := by
    decide +kernel
  obtain ⟨lexemes, scanned, words⟩ := Success.map_eq_ok.mp evaluated
  refine ⟨⟨lexemes, scanned, words, numbers_are_exact.1 scanned⟩, ?_⟩
  exact (numbers_are_exact.2 18446744073709551615 {}).2 "t.s"

end Lexeme
end TableAssembler
