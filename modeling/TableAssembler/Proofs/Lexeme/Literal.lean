import TableAssembler.Proofs.Lexeme.Culprit
import TableAssembler.Proofs.Lexeme.Number

/-!
# Names and literals

A word that does not start with a digit is one lexeme, and a name.  A number is written as digits
behind the mark of their radix.  Every such text is one lexeme, however many digits there are.
-/

namespace TableAssembler

namespace Scan

variable {form : NumberForm} {digits : List Char}

theorem isWordCharacter_of_isDigit {radix : Nat} {c : Char}
    (digit : Numeral.isDigit radix c = true) : isWordCharacter c = true := by
  obtain ⟨ascii, kind⟩ := Numeral.isDigit_or_isAlpha digit
  rcases kind with kind | ⟨kind, -⟩ <;>
    simp [isWordCharacter, Text.isLetter, Text.isDecimalDigit, ascii, kind]

theorem isDecimalDigit_of_isDigit {c : Char} (digit : Numeral.isDigit 10 c = true) :
    Text.isDecimalDigit c = true := by
  obtain ⟨ascii, kind⟩ := Numeral.isDigit_or_isAlpha digit
  have decimal : c.isDigit = true := kind.resolve_right fun letter => absurd letter.2 (by decide)
  simp [Text.isDecimalDigit, ascii, decimal]

/-- Digits behind the mark of their radix announce it. -/
theorem announced_append
    (all_digits : ∀ c ∈ digits, Numeral.isDigit (radixOf form) c = true) :
    announced ((Reading.markOf form).toList ++ digits) = form := by
  cases form with
  | hexadecimal => exact if_pos (List.prefix_append _ _)
  | binary => exact (if_neg (by simp [Reading.markOf])).trans (if_pos (List.prefix_append _ _))
  | decimal =>
      have no_mark (mark : Char) (letter : Numeral.isDigit 10 mark = false) :
          ¬ ['0', mark] <+: digits := by
        intro is_front
        have digit := all_digits mark (is_front.subset (by simp))
        rw [radixOf, letter] at digit
        contradiction
      exact (if_neg (no_mark 'x' (by decide))).trans (if_neg (no_mark 'b' (by decide)))

private theorem exists_readNumber (nonempty : digits ≠ []) (mark : Nat)
    (all_digits : ∀ c ∈ digits, Numeral.isDigit (radixOf form) c = true) :
    ∃ reading, readNumber form mark digits = .ok reading ∧ reading.kind = .number ∧
      reading.value = digits ∧ reading.radix = radixOf form ∧
      reading.width = mark + digits.length := by
  cases digits with
  | nil => contradiction
  | cons first rest =>
      have absent : firstNonDigit? (radixOf form) (first :: rest) = none := by
        rw [firstNonDigit?, List.find?_eq_none]
        intro entry member
        simp [all_digits entry.1 (List.fst_mem_of_mem_zipIdx member)]
      refine ⟨⟨.number, first :: rest, radixOf form, mark + (rest.length + 1), by omega⟩, ?_, rfl,
        rfl, rfl, rfl⟩
      simp only [readNumber, absent]

end Scan

namespace Lexeme

/-- A name is an identifier, apart from its place. -/
theorem exists_spelled_of_name {name : String} (isName : Scan.IsGlobalName name) :
    ∃ lexeme : Lexeme, lexeme.Spelled name.toList ∧
      ({ value := name } : Lexeme).Displaced .anywhere lexeme := by
  obtain ⟨⟨first, head, digit⟩, word, -⟩ := isName
  obtain ⟨further, characters⟩ := List.head?_eq_some_iff.mp head
  rw [characters] at word ⊢
  obtain ⟨first_word, further_word⟩ := List.forall_mem_cons.mp word
  have no_gap := Scan.gap_of_isWordCharacter first_word further
  have read := Scan.ofText_of_takeWhile_eq first_word digit
    (List.takeWhile_eq_self_iff.mpr further_word)
  have spelled : Spelled _ ((Reading.verbatim .identifier first further).place {}) :=
    .intro {} no_gap read rfl
  refine ⟨_, spelled, .intro rfl ?_ rfl .nil trivial trivial⟩
  exact String.toList_inj.mp (characters.trans (spelled.value_eq rfl).symm)

/-- The text writes the number in one of the radices. -/
def IsLiteral (text : List Char) (number : Nat) : Prop :=
  ∃ form digits, text = (Reading.markOf form).toList ++ digits ∧ digits ≠ [] ∧
    Numeral.value? (Scan.radixOf form) digits = some number

/-- A literal is one lexeme, and writes its number. -/
theorem IsLiteral.exists_spelled {text : List Char} {number : Nat}
    (literal : IsLiteral text number) :
    ∃ lexeme : Lexeme, lexeme.Spelled text ∧ lexeme.kind = .number ∧ lexeme.Writes number := by
  obtain ⟨form, digits, text_eq, nonempty, reads⟩ := literal
  have all_digits := Numeral.isDigit_of_value? reads
  obtain ⟨reading, read, kind, value, radix, width⟩ :=
    Scan.exists_readNumber nonempty (Reading.markOf form).length all_digits
  have word : ∀ c ∈ text, Scan.isWordCharacter c = true := by
    rw [text_eq]
    refine List.forall_mem_append.mpr ⟨?_, fun c member =>
      Scan.isWordCharacter_of_isDigit (all_digits c member)⟩
    exact List.all_eq_true.mp (by cases form <;> decide)
  cases text with
  | nil => exact absurd (List.append_eq_nil_iff.mp text_eq.symm).2 nonempty
  | cons first further =>
      obtain ⟨first_word, further_word⟩ := List.forall_mem_cons.mp word
      have taken : further.takeWhile Scan.isWordCharacter = further :=
        List.takeWhile_eq_self_iff.mpr further_word
      have leads : form = .decimal → Text.isDecimalDigit first = true := by
        rintro rfl
        obtain rfl : first :: further = digits := text_eq
        exact Scan.isDecimalDigit_of_isDigit (all_digits first List.mem_cons_self)
      have whole : first :: further.takeWhile Scan.isWordCharacter =
          (Reading.markOf form).toList ++ digits := by
        rw [taken, text_eq]
      have form_eq : Scan.announced (first :: further.takeWhile Scan.isWordCharacter) = form := by
        rw [whole, Scan.announced_append all_digits]
      have no_gap := Scan.gap_of_isWordCharacter first_word further
      have read : Reading.ofText first further = .ok reading := by
        rw [Scan.ofText_of_isWordCharacter first_word,
          Scan.readWord_of_announced whole form_eq leads, read]
      have length := congrArg List.length text_eq
      rw [List.length_cons, List.length_append, String.length_toList] at length
      refine ⟨reading.place {}, .intro {} no_gap read (width.trans length.symm), kind,
        ⟨form, radix⟩, ?_, ?_⟩
      · simpa [Reading.place, value] using nonempty
      · simpa [Reading.place, value, radix] using reads

end Lexeme
end TableAssembler
