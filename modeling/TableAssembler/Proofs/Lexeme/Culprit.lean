import TableAssembler.Proofs.Lexeme.Lines
import TableAssembler.Proofs.Lexeme.Name
import TableAssembler.Proofs.Lexeme.Quotation
import TableAssembler.Proofs.Lexeme.Spelling

/-!
# What cannot be read

Reading a lexeme fails at one character of it, which the cause names.  For every cause it is said of
the text alone which character that is and why no lexeme can be read there.
-/

namespace TableAssembler
namespace Scan

variable {quote first : Char} {rest body front further behind : List Char} {reading : Reading}
  {misreading : Misreading}

/-! ## Strings -/

/-- The characters that open a string, and close it again. -/
def quotes : List Char := ['"', '\'']

/-- Text inside of a string: characters that stand for themselves, and escapes. -/
inductive Inside (quote : Char) : List Char → Prop
  | nil : Inside quote []
  | plain {c : Char} {rest : List Char} :
      c ≠ quote → c ≠ '\\' → Inside quote rest → Inside quote (c :: rest)
  | escape {c value : Char} {rest : List Char} :
      unescape? c = some value → Inside quote rest → Inside quote ('\\' :: c :: rest)

/-- The text behind an opening quote ends inside of the string, perhaps in the middle of an
escape. -/
def NeverCloses (quote : Char) (rest : List Char) : Prop :=
  ∃ body, Inside quote body ∧ (rest = body ∨ rest = body ++ ['\\'])

/-- Text inside of a string is read, whatever stands behind it. -/
theorem Inside.exists_stringBody_append (inside : Inside quote body) :
    ∃ values, ∀ rest,
      stringBody quote (body ++ rest) = (stringBody quote rest).behind values body.length := by
  induction inside with
  | nil => exact ⟨[], fun rest => (StringBody.behind_nil _).symm⟩
  | @plain c body no_quote plain _ induction =>
      obtain ⟨values, read⟩ := induction
      refine ⟨c :: values, fun rest => ?_⟩
      rw [List.cons_append, stringBody_cons_of_ne plain, if_neg no_quote, read,
        StringBody.cons_behind, List.length_cons, Nat.add_comm]
  | @escape c value body known _ induction =>
      obtain ⟨values, read⟩ := induction
      refine ⟨value :: values, fun rest => ?_⟩
      have here : stringBody quote ('\\' :: c :: (body ++ rest)) =
          (stringBody quote (body ++ rest)).cons value 2 := by
        simp [stringBody, known]
      rw [List.cons_append, List.cons_append, here, read, StringBody.cons_behind,
        List.length_cons, List.length_cons, Nat.add_comm]

theorem NeverCloses.stringBody_eq (never : NeverCloses quote rest) :
    stringBody quote rest = .unterminated := by
  obtain ⟨body, inside, ends⟩ := never
  obtain ⟨values, read⟩ := inside.exists_stringBody_append
  rcases ends with rfl | rfl
  · rw [← List.append_nil rest, read]
    rfl
  · rw [read]
    rfl

theorem StringBody.cons_eq_unterminated_iff {body : StringBody} {value : Char} {width : Nat} :
    body.cons value width = .unterminated ↔ body = .unterminated := by
  cases body <;> simp [cons]

theorem StringBody.cons_eq_unknownEscape_iff {body : StringBody} {value c : Char}
    {width offset : Nat} :
    body.cons value width = .unknownEscape offset c ↔
      ∃ inner, body = .unknownEscape inner c ∧ offset = width + inner := by
  cases body <;> simp [cons, eq_comm, and_comm]

/-- A string without an end never closes. -/
theorem neverCloses_of_stringBody (open_ended : stringBody quote rest = .unterminated) :
    NeverCloses quote rest := by
  fun_induction stringBody quote rest with
  | case1 => exact ⟨[], .nil, .inl rfl⟩
  | case2 => exact ⟨[], .nil, .inr rfl⟩
  | case3 c rest value known induction =>
      rw [StringBody.cons_eq_unterminated_iff] at open_ended
      obtain ⟨body, inside, ends⟩ := induction open_ended
      refine ⟨'\\' :: c :: body, .escape known inside, ends.imp ?_ ?_⟩
      · exact congrArg ('\\' :: c :: ·)
      · exact congrArg ('\\' :: c :: ·)
  | case4 => contradiction
  | case5 => contradiction
  | case6 c rest single escape other induction =>
      rw [StringBody.cons_eq_unterminated_iff] at open_ended
      obtain ⟨body, inside, ends⟩ := induction open_ended
      exact ⟨c :: body, .plain other (ne_backslash single escape) inside,
        ends.imp (congrArg _) (congrArg _)⟩

/-- The unknown escape stands behind text inside of the string. -/
theorem exists_of_unknownEscape {offset : Nat} {c : Char}
    (unknown : stringBody quote rest = .unknownEscape offset c) :
    ∃ body behind, rest = body ++ '\\' :: c :: behind ∧ offset = body.length ∧
      Inside quote body ∧ unescape? c = none := by
  fun_induction stringBody quote rest generalizing offset with
  | case1 => contradiction
  | case2 => contradiction
  | case3 letter rest value known induction =>
      obtain ⟨inner, read, rfl⟩ := StringBody.cons_eq_unknownEscape_iff.mp unknown
      obtain ⟨body, behind, rfl, rfl, inside, none⟩ := induction read
      refine ⟨'\\' :: letter :: body, behind, rfl, ?_, .escape known inside, none⟩
      rw [List.length_cons, List.length_cons]
      omega
  | case4 letter rest none =>
      obtain ⟨rfl, rfl⟩ := StringBody.unknownEscape.inj unknown
      exact ⟨[], rest, rfl, rfl, .nil, none⟩
  | case5 => contradiction
  | case6 letter rest single escape other induction =>
      obtain ⟨inner, read, rfl⟩ := StringBody.cons_eq_unknownEscape_iff.mp unknown
      obtain ⟨body, behind, rfl, rfl, inside, none⟩ := induction read
      refine ⟨letter :: body, behind, rfl, ?_,
        .plain other (ne_backslash single escape) inside, none⟩
      rw [List.length_cons, Nat.add_comm]

/-! ## Words -/

/-- The form of number that a word announces. -/
def announced (word : List Char) : NumberForm :=
  if "0x".toList <+: word then .hexadecimal
  else if "0b".toList <+: word then .binary
  else .decimal

theorem exists_of_firstNonDigit? {radix index : Nat} {digits : List Char} {c : Char}
    (found : firstNonDigit? radix digits = some (c, index)) :
    ∃ front back, digits = front ++ c :: back ∧ index = front.length ∧
      (∀ digit ∈ front, Numeral.isDigit radix digit = true) ∧
      Numeral.isDigit radix c = false := by
  obtain ⟨no_digit, before, after, split, all_digits⟩ := List.find?_eq_some_iff_append.mp found
  obtain ⟨front, back, rfl, rfl, last⟩ := List.zipIdx_eq_append_iff.mp split
  cases back with
  | nil => contradiction
  | cons head back =>
      obtain ⟨same, -⟩ := List.cons.inj last
      obtain ⟨rfl, rfl⟩ := Prod.mk.inj same
      refine ⟨front, back, rfl, Nat.zero_add _, fun digit member => ?_, by simpa using no_digit⟩
      obtain ⟨position, bound, rfl⟩ := List.mem_iff_getElem.mp member
      have listed : (front[position], position) ∈ front.zipIdx :=
        List.mk_mem_zipIdx_iff_getElem?.mpr (List.getElem?_eq_getElem bound)
      simpa using all_digits _ listed

/-! ## Lexemes that cannot be read -/

/-- Neither a lexeme nor a gap starts with the text. -/
structure StartsNothing (text : List Char) : Prop where
  newline : text.head? ≠ some '\n'
  punctuation : ∀ c ∈ punctuation, text.head? ≠ some c
  operator : ∀ operator ∈ operators, ¬ operator.toList <+: text
  quote : ∀ c ∈ quotes, text.head? ≠ some c
  word : ∀ c ∈ text.head?, isWordCharacter c = false
  comment : ¬ "//".toList <+: text
  blank : ∀ c ∈ text.head?, Text.isBlank c = false

/-- What is wrong with the lexeme in front of a text, at the character some way behind its
start. -/
def Culprit (ahead : List Char) (offset : Nat) : Cause → Prop
  | .unexpectedCharacter c => offset = 0 ∧ ahead.head? = some c ∧ StartsNothing ahead
  | .unknownEscape c =>
      ∃ quote ∈ quotes, ∃ body behind, ahead = quote :: (body ++ '\\' :: c :: behind) ∧
        offset = body.length + 1 ∧ Inside quote body ∧ unescape? c = none
  | .unterminatedString =>
      offset = 0 ∧ ∃ quote ∈ quotes, ∃ rest, ahead = quote :: rest ∧ NeverCloses quote rest
  | .numberWithoutDigits =>
      offset = 0 ∧ ahead.takeWhile isWordCharacter ∈ ["0x".toList, "0b".toList]
  | .digitExpected form c =>
      ∃ digits rest,
        ahead.takeWhile isWordCharacter =
          (Reading.markOf form).toList ++ (digits ++ c :: rest) ∧
        offset = (Reading.markOf form).length + digits.length ∧
        announced (ahead.takeWhile isWordCharacter) = form ∧
        (form = .decimal → ∀ first ∈ ahead.head?, Text.isDecimalDigit first = true) ∧
        (∀ digit ∈ digits, Numeral.isDigit (radixOf form) digit = true) ∧
        Numeral.isDigit (radixOf form) c = false
  | _ => False

/-- The culprit is a character of the text. -/
theorem Culprit.lt_length {ahead : List Char} {offset : Nat} {cause : Cause}
    (culprit : Culprit ahead offset cause) : offset < ahead.length := by
  have word_le : (ahead.takeWhile isWordCharacter).length ≤ ahead.length :=
    (List.takeWhile_prefix _).length_le
  cases cause with
  | unexpectedCharacter =>
      obtain ⟨rfl, head, -⟩ := culprit
      obtain ⟨rest, rfl⟩ := List.head?_eq_some_iff.mp head
      exact Nat.succ_pos _
  | unknownEscape =>
      obtain ⟨_, _, body, behind, rfl, rfl, -⟩ := culprit
      rw [List.length_cons, List.length_append, List.length_cons]
      omega
  | unterminatedString =>
      obtain ⟨rfl, _, _, rest, rfl, -⟩ := culprit
      exact Nat.succ_pos _
  | numberWithoutDigits =>
      obtain ⟨rfl, listed⟩ := culprit
      refine Nat.lt_of_lt_of_le ?_ word_le
      simp only [List.mem_cons, List.not_mem_nil, or_false] at listed
      rcases listed with word | word <;> rw [word] <;> decide
  | digitExpected =>
      obtain ⟨digits, rest, word, rfl, -⟩ := culprit
      rw [word, List.length_append, List.length_append, List.length_cons,
        String.length_toList] at word_le
      omega
  | _ => exact culprit.elim

private theorem culprit_of_readNumber {form : NumberForm} {digits ahead : List Char}
    (word : ahead.takeWhile isWordCharacter = (Reading.markOf form).toList ++ digits)
    (form_eq : announced (ahead.takeWhile isWordCharacter) = form)
    (marked : digits = [] → (Reading.markOf form).toList ∈ ["0x".toList, "0b".toList])
    (leads : form = .decimal → ∀ first ∈ ahead.head?, Text.isDecimalDigit first = true)
    (read : readNumber form (Reading.markOf form).length digits = .error misreading) :
    Culprit ahead misreading.offset misreading.cause := by
  unfold readNumber at read
  split at read
  · obtain rfl := Except.error.inj read
    refine ⟨rfl, ?_⟩
    rw [word, List.append_nil]
    exact marked rfl
  · split at read
    · next found =>
        obtain ⟨front, back, split, rfl, all_digits, no_digit⟩ := exists_of_firstNonDigit? found
        obtain rfl := Except.error.inj read
        exact ⟨front, back, by rw [word, split], rfl, form_eq, leads, all_digits, no_digit⟩
    · contradiction

theorem culprit_of_readWord (word : isWordCharacter first = true)
    (read : readWord first rest = .error misreading) :
    Culprit (first :: rest) misreading.offset misreading.cause := by
  have whole : (first :: rest).takeWhile isWordCharacter =
      first :: rest.takeWhile isWordCharacter := List.takeWhile_cons_of_pos word
  unfold readWord at read
  dsimp only at read
  split at read
  · next digits further =>
      rw [further] at whole
      refine culprit_of_readNumber whole ?_ (fun _ => by decide)
        (fun decimal => by contradiction) read
      rw [whole]
      exact if_pos ⟨digits, rfl⟩
  · next digits further =>
      rw [further] at whole
      refine culprit_of_readNumber whole ?_ (fun _ => by decide)
        (fun decimal => by contradiction) read
      rw [whole]
      exact (if_neg (by simp)).trans (if_pos ⟨digits, rfl⟩)
  · next no_hexadecimal no_binary =>
      split_ifs at read with digit
      refine culprit_of_readNumber whole ?_ (fun nothing => by contradiction)
        (fun _ => by simpa using digit) read
      rw [whole]
      refine (if_neg ?_).trans (if_neg ?_)
      · rintro ⟨digits, split⟩
        obtain ⟨rfl, further⟩ := List.cons.inj split
        exact no_hexadecimal digits rfl further.symm
      · rintro ⟨digits, split⟩
        obtain ⟨rfl, further⟩ := List.cons.inj split
        exact no_binary digits rfl further.symm

private theorem culprit_of_readString (listed : quote ∈ quotes)
    (read : readString quote rest = .error misreading) :
    Culprit (quote :: rest) misreading.offset misreading.cause := by
  unfold readString at read
  split at read
  · contradiction
  · next open_ended =>
      obtain rfl := Except.error.inj read
      exact ⟨rfl, quote, listed, rest, rfl, neverCloses_of_stringBody open_ended⟩
  · next unknown =>
      obtain ⟨body, behind, rfl, rfl, inside, none⟩ := exists_of_unknownEscape unknown
      obtain rfl := Except.error.inj read
      exact ⟨quote, listed, body, behind, rfl, rfl, inside, none⟩

private theorem not_isPrefix_of_operatorTail? (absent : operatorTail? first rest = none) :
    ∀ operator ∈ operators, ¬ operator.toList <+: first :: rest := by
  have short : first ∉ shortOperators := by
    intro short
    unfold operatorTail? at absent
    split at absent <;> simp_all
  have no_shift (c : Char) (shift : c = '<' ∨ c = '>') : ¬ [c, c] <+: first :: rest := by
    rintro ⟨behind, split⟩
    obtain ⟨rfl, rfl⟩ := List.cons.inj split
    rcases shift with rfl | rfl <;> contradiction
  have no_short (c : Char) (listed : c ∈ shortOperators) : ¬ [c] <+: first :: rest := by
    rintro ⟨behind, split⟩
    obtain ⟨rfl, -⟩ := List.cons.inj split
    exact short listed
  intro operator listed
  simp only [operators, List.mem_cons, List.not_mem_nil, or_false] at listed
  rcases listed with rfl | rfl | rfl | rfl | rfl | rfl | rfl | rfl | rfl
  all_goals first
    | exact no_short _ (by decide)
    | exact no_shift _ (by decide)

/-- A lexeme that cannot be read has a culprit. -/
theorem culprit_of_ofText (no_gap : gap (first :: rest) = 0)
    (read : Reading.ofText first rest = .error misreading) :
    Culprit (first :: rest) misreading.offset misreading.cause := by
  obtain ⟨blank, comment⟩ := gap_cons_eq_zero_iff.mp no_gap
  unfold Reading.ofText at read
  split at read
  · contradiction
  split at read
  · contradiction
  rename_i newline mark
  split at read
  · contradiction
  · next absent =>
      split_ifs at read with quote word
      · exact culprit_of_readString (by simpa [quotes] using quote) read
      · exact culprit_of_readWord word read
      · obtain rfl := Except.error.inj read
        refine ⟨rfl, rfl, ?_, ?_, not_isPrefix_of_operatorTail? absent, ?_, ?_, ?_, ?_⟩
        · simpa using newline
        · rintro c listed ⟨⟩
          exact mark listed
        · rintro c listed ⟨⟩
          exact quote (by simpa [quotes] using listed)
        · rintro c ⟨⟩
          simpa using word
        · rintro ⟨behind, split⟩
          obtain ⟨rfl, rfl⟩ := List.cons.inj split
          exact comment ⟨rfl, rfl⟩
        · rintro c ⟨⟩
          exact blank

/-! ## One culprit only -/

private theorem firstNonDigit?_append {radix : Nat} {digits : List Char} {c : Char}
    (all_digits : ∀ digit ∈ digits, Numeral.isDigit radix digit = true)
    (no_digit : Numeral.isDigit radix c = false) (rest : List Char) :
    firstNonDigit? radix (digits ++ c :: rest) = some (c, digits.length) := by
  have front : digits.zipIdx.find? (fun entry => !Numeral.isDigit radix entry.1) = none := by
    rw [List.find?_eq_none]
    intro entry member
    simp [all_digits entry.1 (List.fst_mem_of_mem_zipIdx member)]
  rw [firstNonDigit?, List.zipIdx_append, List.find?_append, front, Option.none_or,
    List.zipIdx_cons, List.find?_cons_of_pos (by simp [no_digit]), Nat.zero_add]

theorem readNumber_append {form : NumberForm} {digits : List Char} {c : Char}
    (all_digits : ∀ digit ∈ digits, Numeral.isDigit (radixOf form) digit = true)
    (no_digit : Numeral.isDigit (radixOf form) c = false) (mark : Nat) (rest : List Char) :
    readNumber form mark (digits ++ c :: rest) =
      .error { offset := mark + digits.length, cause := .digitExpected form c } := by
  have found := firstNonDigit?_append all_digits no_digit rest
  unfold readNumber
  split
  · next nothing => simp at nothing
  · next split =>
      rw [split] at found
      rw [found]

/-- A word that announces a form of number is read as the digits behind the mark. -/
theorem readWord_of_announced {form : NumberForm} {digits : List Char}
    (whole : first :: rest.takeWhile isWordCharacter = (Reading.markOf form).toList ++ digits)
    (form_eq : announced (first :: rest.takeWhile isWordCharacter) = form)
    (leads : form = .decimal → Text.isDecimalDigit first = true) :
    readWord first rest = readNumber form (Reading.markOf form).length digits := by
  unfold readWord
  dsimp only
  cases form with
  | hexadecimal =>
      obtain ⟨rfl, further⟩ := List.cons.inj whole
      rw [further]
      rfl
  | binary =>
      obtain ⟨rfl, further⟩ := List.cons.inj whole
      rw [further]
      rfl
  | decimal =>
      split
      · next further =>
          rw [further, announced, if_pos ⟨_, rfl⟩] at form_eq
          contradiction
      · next further =>
          rw [further, announced, if_neg (by simp), if_pos ⟨_, rfl⟩] at form_eq
          contradiction
      · rw [if_pos (leads rfl), whole]
        rfl

private theorem ofText_of_mem_quotes (listed : quote ∈ quotes) (rest : List Char) :
    Reading.ofText quote rest = readString quote rest := by
  simp only [quotes, List.mem_cons, List.not_mem_nil, or_false] at listed
  rcases listed with rfl | rfl <;>
    simp [Reading.ofText, punctuation, operatorTail?, shortOperators]

theorem StartsNothing.ofText_eq (nothing : StartsNothing (first :: rest)) :
    Reading.ofText first rest = .error { cause := .unexpectedCharacter first } := by
  have newline : first ≠ '\n' := by simpa using nothing.newline
  have mark : first ∉ Scan.punctuation := fun listed => nothing.punctuation first listed rfl
  have quote : ¬ (first = '"' ∨ first = '\'') := fun quote =>
    nothing.quote first (by simpa [quotes] using quote) rfl
  have word := nothing.word first rfl
  have operator : operatorTail? first rest = none := by
    cases found : operatorTail? first rest with
    | none => rfl
    | some tail =>
        obtain ⟨behind, rfl, -⟩ := exists_of_operatorTail? found
        refine absurd ?_ (nothing.operator _ (Reading.verbatim_mem_operators found))
        rw [String.toList_ofList]
        exact List.prefix_append (first :: tail) behind
  simp [Reading.ofText, newline, mark, quote, word, operator]

theorem Culprit.ofText_eq {offset : Nat} {cause : Cause}
    (culprit : Culprit (first :: rest) offset cause) :
    Reading.ofText first rest = .error { offset, cause } := by
  cases cause with
  | unexpectedCharacter =>
      obtain ⟨rfl, head, nothing⟩ := culprit
      obtain rfl := Option.some.inj head
      exact nothing.ofText_eq
  | unknownEscape c =>
      obtain ⟨quote, listed, body, behind, split, rfl, inside, none⟩ := culprit
      obtain ⟨rfl, rfl⟩ := List.cons.inj split
      obtain ⟨values, read⟩ := inside.exists_stringBody_append
      have unknown : stringBody first (body ++ '\\' :: c :: behind) =
          .unknownEscape body.length c := by
        rw [read]
        simp only [stringBody, none, StringBody.behind, Nat.add_zero]
      rw [ofText_of_mem_quotes listed, readString, unknown]
  | unterminatedString =>
      obtain ⟨rfl, quote, listed, behind, split, never⟩ := culprit
      obtain ⟨rfl, rfl⟩ := List.cons.inj split
      rw [ofText_of_mem_quotes listed, readString, never.stringBody_eq]
  | numberWithoutDigits =>
      obtain ⟨rfl, listed⟩ := culprit
      have word : isWordCharacter first = true := by
        by_contra no_word
        simp [List.takeWhile_cons_of_neg no_word] at listed
      obtain ⟨form, decimal, whole⟩ : ∃ form, form ≠ .decimal ∧
          (first :: rest).takeWhile isWordCharacter = (Reading.markOf form).toList ++ [] := by
        simp only [List.mem_cons, List.not_mem_nil, or_false] at listed
        rcases listed with whole | whole
        · exact ⟨.hexadecimal, by decide, whole⟩
        · exact ⟨.binary, by decide, whole⟩
      have form_eq : announced ((first :: rest).takeWhile isWordCharacter) = form := by
        rw [whole]
        cases form <;> first | contradiction | decide
      rw [List.takeWhile_cons_of_pos word] at whole form_eq
      rw [ofText_of_isWordCharacter word,
        readWord_of_announced whole form_eq fun same => absurd same decimal]
      rfl
  | digitExpected =>
      obtain ⟨digits, behind, whole, rfl, form_eq, leads, all_digits, no_digit⟩ := culprit
      have word : isWordCharacter first = true := by
        by_contra no_word
        simp [List.takeWhile_cons_of_neg no_word] at whole
      rw [List.takeWhile_cons_of_pos word] at whole form_eq
      rw [ofText_of_isWordCharacter word,
        readWord_of_announced whole form_eq fun decimal => leads decimal first rfl,
        readNumber_append all_digits no_digit]
  | _ => exact culprit.elim

/-- A lexeme has one culprit at most, and one cause. -/
theorem Culprit.unique {ahead : List Char} {offset other_offset : Nat} {cause other : Cause}
    (culprit : Culprit ahead offset cause) (second : Culprit ahead other_offset other) :
    other_offset = offset ∧ other = cause := by
  cases ahead with
  | nil => exact absurd culprit.lt_length (Nat.not_lt_zero _)
  | cons first rest =>
      have same := second.ofText_eq.symm.trans culprit.ofText_eq
      simpa using same

end Scan
end TableAssembler
