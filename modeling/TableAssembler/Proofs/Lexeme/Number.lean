import TableAssembler.Lexeme.Word
import TableAssembler.Proofs.Lexeme.Scanned
import TableAssembler.Proofs.Text.Numeral

/-!
# Numbers that are read

A number of a text has digits of its radix and at least one of them, so they always write a number.
Reading it as a word fails for no other reason than that the number is too great for one.
-/

namespace TableAssembler

namespace Scan

private theorem isDigit_of_firstNonDigit? {radix : Nat} {digits : List Char}
    (absent : firstNonDigit? radix digits = none) :
    ∀ c ∈ digits, Numeral.isDigit radix c = true := by
  intro c member
  obtain ⟨index, bound, rfl⟩ := List.mem_iff_getElem.mp member
  have listed : (digits[index], index) ∈ digits.zipIdx :=
    List.mk_mem_zipIdx_iff_getElem?.mpr (List.getElem?_eq_getElem bound)
  simpa using List.find?_eq_none.mp absent _ listed

end Scan

namespace Lexeme

/-- The lexeme writes a number with digits of one of the radices that a text can announce. -/
structure Writes (lexeme : Lexeme) (number : Nat) : Prop where
  radix : ∃ form, lexeme.radix = Scan.radixOf form
  digits_ne : lexeme.value.toList ≠ []
  value : Numeral.value? lexeme.radix.toNat lexeme.value.toList = some number

end Lexeme

namespace Reading

private theorem exists_writes_of_readNumber {form : NumberForm} {mark : Nat} {digits : List Char}
    {reading : Reading} (read : Scan.readNumber form mark digits = .ok reading)
    (location : Location) : ∃ number, (reading.place location).Writes number := by
  unfold Scan.readNumber at read
  split at read
  · contradiction
  · next first rest =>
      split at read
      · contradiction
      · next absent =>
          obtain rfl := Except.ok.inj read
          obtain ⟨number, reads⟩ :=
            Numeral.exists_value?_eq_some (Scan.isDigit_of_firstNonDigit? absent)
          exact ⟨number, ⟨form, rfl⟩, by simp [place], by simpa [place] using reads⟩

private theorem exists_writes_of_readWord {first : Char} {rest : List Char} {reading : Reading}
    (read : Scan.readWord first rest = .ok reading) (kind : reading.kind = .number)
    (location : Location) : ∃ number, (reading.place location).Writes number := by
  unfold Scan.readWord at read
  dsimp only at read
  split at read
  · exact exists_writes_of_readNumber read location
  · exact exists_writes_of_readNumber read location
  · split_ifs at read
    · exact exists_writes_of_readNumber read location
    · obtain rfl := Except.ok.inj read
      contradiction

end Reading

namespace Lexeme

variable {lexeme : Lexeme}

/-- A number that is read from text writes a number. -/
theorem Spelled.exists_writes {characters : List Char} (spelled : lexeme.Spelled characters)
    (kind : lexeme.kind = .number) : ∃ number, lexeme.Writes number := by
  obtain ⟨location, -, read, -⟩ := spelled
  cases Reading.isRead_of_ofText read with
  | newline => contradiction
  | punctuation => contradiction
  | operator => contradiction
  | text read =>
      have text := Reading.kind_of_readString read
      simp [Reading.place, text] at kind
  | word read => exact Reading.exists_writes_of_readWord read kind location

/-- A written number is a word unless it is too great. -/
theorem Writes.word_eq {number : Nat} (writes : lexeme.Writes number)
    (kind : lexeme.kind = .number) :
    lexeme.word =
      if number < 2 ^ 64 then .ok (UInt64.ofNat number)
      else .error (.located lexeme.location (.numberOutOfRange lexeme.source)) := by
  obtain ⟨form, radix⟩ := writes.radix
  have between : 2 ≤ lexeme.radix ∧ lexeme.radix ≤ 36 := by
    rw [radix]
    cases form <;> decide
  have parsed : Numeral.parse? lexeme.radix lexeme.value.toList = Numeral.word? number := by
    rw [Numeral.parse?, if_neg (by simpa using writes.digits_ne), if_neg (by omega),
      if_pos between, writes.value, Option.bind_some]
  have size : UInt64.size = 2 ^ 64 := rfl
  rw [word, if_pos kind, parsed, Numeral.word?, size]
  by_cases fits : number < 2 ^ 64
  · rw [if_pos fits, if_pos fits]
  · rw [if_neg fits, if_neg fits]

end Lexeme
end TableAssembler
