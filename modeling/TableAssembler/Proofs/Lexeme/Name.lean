import TableAssembler.Proofs.Lexeme.Lines
import TableAssembler.Proofs.Lexeme.Value
import TableAssembler.Proofs.Statement.Grammar

/-!
# Names

A global name is a word without a dot that is read as an identifier.  With a colon behind it, it is
read as a label.  The names that an operand uses are the identifiers at any depth of its closures.
-/

namespace TableAssembler

/-! ## Words -/

namespace Text

private theorem covers_eq_false_of_apart {first second : List (Nat × Nat)}
    (apart : ∀ interval ∈ first, ∀ other ∈ second,
      interval.2 < other.1 ∨ other.2 < interval.1)
    {point : Nat} (covered : covers first point = true) : covers second point = false := by
  rw [Bool.eq_false_iff, Ne, covers_eq_true_iff]
  rw [covers_eq_true_iff] at covered
  obtain ⟨interval, member, low, high⟩ := covered
  rintro ⟨other, other_member, other_low, other_high⟩
  rcases apart interval member other other_member with before | behind
  · omega
  · omega

end Text

namespace Scan

/-- Characters of words are no white space. -/
theorem isWhiteSpace_eq_false_of_isWordCharacter {c : Char} (word : isWordCharacter c = true) :
    Text.isWhiteSpace c = false := by
  by_cases ascii : c.toNat < 128
  · have small : ∀ point < 128, isWordCharacter (Char.ofNat point) = true →
        Text.isWhiteSpace (Char.ofNat point) = false := by
      decide +kernel
    have here := small c.toNat ascii
    rw [Char.ofNat_toNat] at here
    exact here word
  · -- Outside ASCII the tables decide, and white space lies apart from both.
    have letters : ∀ interval ∈ Text.letterIntervals, ∀ other ∈ Text.whiteSpaceIntervals,
        interval.2 < other.1 ∨ other.2 < interval.1 := by
      decide +kernel
    have digits : ∀ interval ∈ Text.decimalDigitIntervals, ∀ other ∈ Text.whiteSpaceIntervals,
        interval.2 < other.1 ∨ other.2 < interval.1 := by
      decide +kernel
    have no_dot : (c == '.') = false := by
      rw [beq_eq_false_iff_ne]
      rintro rfl
      exact ascii (by decide)
    rw [Text.isWhiteSpace, if_neg ascii]
    rw [isWordCharacter, no_dot, Text.isLetter, if_neg ascii, Text.isDecimalDigit, if_neg ascii,
      Bool.false_or, Bool.or_eq_true] at word
    rcases word with letter | digit
    · exact Text.covers_eq_false_of_apart letters letter
    · exact Text.covers_eq_false_of_apart digits digit

theorem isBlank_eq_false_of_isWordCharacter {c : Char} (word : isWordCharacter c = true) :
    Text.isBlank c = false := by
  rw [Text.isBlank, isWhiteSpace_eq_false_of_isWordCharacter word, Bool.false_and]

/-- A character of words does not start a gap. -/
theorem gap_of_isWordCharacter {first : Char} (word : isWordCharacter first = true)
    (rest : List Char) : gap (first :: rest) = 0 := by
  refine gap_cons_eq_zero_iff.mpr ⟨isBlank_eq_false_of_isWordCharacter word, ?_⟩
  rintro ⟨rfl, -⟩
  exact absurd word (by decide)

/-- Characters of words start nothing else. -/
theorem not_mem_of_isWordCharacter {c : Char} (word : isWordCharacter c = true) :
    c ∉ ['\n', '"', '\'', '<', '>'] ++ punctuation ++ shortOperators := by
  have others : (['\n', '"', '\'', '<', '>'] ++ punctuation ++ shortOperators).any
      isWordCharacter = false := by
    decide
  intro member
  exact List.any_eq_false.mp others c member word

/-- A character of words starts a word. -/
theorem ofText_of_isWordCharacter {first : Char} (word : isWordCharacter first = true)
    (rest : List Char) : Reading.ofText first rest = readWord first rest := by
  have others := not_mem_of_isWordCharacter word
  simp only [List.mem_append, List.mem_cons, List.not_mem_nil, or_false, not_or] at others
  obtain ⟨⟨⟨newline, quote, apostrophe, less, greater⟩, mark⟩, short⟩ := others
  have operator : operatorTail? first rest = none := by
    unfold operatorTail?
    split
    · contradiction
    · contradiction
    · exact if_neg short
  simp [Reading.ofText, newline, mark, operator, quote, apostrophe, word]

/-- A word that does not start with a digit is read as an identifier. -/
theorem ofText_of_takeWhile_eq {first : Char} {rest further : List Char}
    (word : isWordCharacter first = true) (digit : Text.isDecimalDigit first = false)
    (taken : rest.takeWhile isWordCharacter = further) :
    Reading.ofText first rest = .ok (.verbatim .identifier first further) := by
  have no_zero : first ≠ '0' := by
    rintro rfl
    simp [Text.isDecimalDigit] at digit
  rw [ofText_of_isWordCharacter word]
  unfold readWord
  dsimp only
  rw [taken]
  split
  · contradiction
  · contradiction
  · rw [digit]
    rfl

private theorem ofText_identifier {first stop : Char} {further : List Char} (rest : List Char)
    (digit : Text.isDecimalDigit first = false)
    (word : ∀ c ∈ first :: further, isWordCharacter c = true)
    (stops : isWordCharacter stop = false) :
    Reading.ofText first (further ++ stop :: rest) =
      .ok (.verbatim .identifier first further) := by
  obtain ⟨first_word, further_word⟩ := List.forall_mem_cons.mp word
  refine ofText_of_takeWhile_eq first_word digit ?_
  exact Text.takeWhile_append_eq further_word (by simpa using stops)

/-- The name is a word that is read as an identifier, and has no dot. -/
structure IsGlobalName (name : String) : Prop where
  first : ∃ c ∈ name.toList.head?, Text.isDecimalDigit c = false
  word : ∀ c ∈ name.toList, isWordCharacter c = true
  no_dot : '.' ∉ name.toList

instance (name : String) : Decidable (IsGlobalName name) :=
  decidable_of_iff
    (name.toList.head?.any (fun c => !Text.isDecimalDigit c) = true ∧
      name.toList.all isWordCharacter = true ∧ '.' ∉ name.toList)
    ⟨fun ⟨first, word, no_dot⟩ =>
        ⟨by simpa [Option.any_eq_true] using first, List.all_eq_true.mp word, no_dot⟩,
      fun ⟨first, word, no_dot⟩ =>
        ⟨by simpa [Option.any_eq_true] using first, List.all_eq_true.mpr word, no_dot⟩⟩

end Scan

/-- A global name with a colon is read as two lexemes. -/
theorem Lexeme.scan_label {name : String} (isName : Scan.IsGlobalName name) (file : String) :
    ∃ lexeme colon, scan file (name ++ ":") = .ok [lexeme, colon] ∧ lexeme.kind = .identifier ∧
      lexeme.value = name ∧ colon.is .punctuation ":" = true := by
  obtain ⟨⟨first, head, digit⟩, word, -⟩ := isName
  obtain ⟨further, characters⟩ := List.head?_eq_some_iff.mp head
  rw [characters] at word
  have text : (name ++ ":").toList = first :: (further ++ [':']) := by
    rw [String.toList_append, characters]
    rfl
  have no_gap : Scan.gap (first :: (further ++ [':'])) = 0 :=
    Scan.gap_of_isWordCharacter (word first List.mem_cons_self) _
  have colon (location : Location) : Scan.startingAt location [':'] =
      { lexemes := [(Reading.verbatim .punctuation ':' []).place location] } :=
    Scan.startingAt_alone location rfl rfl rfl
  refine ⟨(Reading.verbatim .identifier first further).place (.start file),
    (Reading.verbatim .punctuation ':' []).place ((Location.start file).advance (first :: further)),
    ?_, rfl, String.toList_inj.mp ?_, rfl⟩
  · have stop : Scan.isWordCharacter ':' = false := by decide
    have identifier := Scan.ofText_identifier [] digit word stop
    rw [scan, Scan.ofText, text, Scan.startingAt_of_ofText _ no_gap identifier rfl, colon]
    rfl
  · rw [characters]
    exact String.toList_ofList

/-! ## The names in an operand -/

namespace Lexeme

/-- The identifiers of an operand, at any depth of its closures. -/
def identifiers (lexeme : Lexeme) : List Lexeme :=
  match lexeme.kind with
  | .identifier => [lexeme]
  | .closure => lexeme.args.flatMap identifiers
  | _ => []
termination_by sizeOf lexeme
decreasing_by
  rename_i arg mem
  have := List.sizeOf_lt_of_mem mem
  cases lexeme
  simp_all
  omega

theorem identifiers_of_identifier {lexeme : Lexeme} (identifier : lexeme.kind = .identifier) :
    lexeme.identifiers = [lexeme] := by
  rw [identifiers, identifier]

theorem identifiers_of_closure {lexeme : Lexeme} (closure : lexeme.kind = .closure) :
    lexeme.identifiers = lexeme.args.flatMap identifiers := by
  rw [identifiers, closure]

theorem identifiers_of_other {lexeme : Lexeme} (no_identifier : lexeme.kind ≠ .identifier)
    (no_closure : lexeme.kind ≠ .closure) : lexeme.identifiers = [] := by
  rw [identifiers]
  split
  · next identifier => exact absurd identifier no_identifier
  · next closure => exact absurd closure no_closure
  · rfl

theorem kind_of_mem_identifiers {lexeme identifier : Lexeme}
    (member : identifier ∈ lexeme.identifiers) : identifier.kind = .identifier := by
  induction lexeme using Lexeme.induction with
  | node lexeme induction =>
      by_cases kind : lexeme.kind = .identifier
      · rw [identifiers_of_identifier kind, List.mem_singleton] at member
        rw [member, kind]
      · by_cases closure : lexeme.kind = .closure
        · rw [identifiers_of_closure closure, List.mem_flatMap] at member
          obtain ⟨arg, arg_member, member⟩ := member
          exact induction arg arg_member member
        · simp [identifiers_of_other kind closure] at member

/-- Changing the identifiers of an operand leaves the identifiers of what they become. -/
theorem identifiers_mapIdentifiers (change : Lexeme → Lexeme) (lexeme : Lexeme) :
    (lexeme.mapIdentifiers change).identifiers =
      lexeme.identifiers.flatMap fun identifier => (change identifier).identifiers := by
  induction lexeme using Lexeme.induction with
  | node lexeme induction =>
      by_cases identifier : lexeme.kind = .identifier
      · rw [mapIdentifiers_of_identifier identifier, identifiers_of_identifier identifier,
          List.flatMap_singleton]
      · by_cases closure : lexeme.kind = .closure
        · rw [mapIdentifiers_of_closure closure, identifiers_of_closure (by exact closure),
            identifiers_of_closure closure, List.flatMap_map, List.flatMap_assoc]
          exact List.flatMap_congr induction
        · rw [mapIdentifiers_of_other identifier closure, identifiers_of_other identifier closure,
            List.flatMap_nil]

/-- What an operand becomes depends on what its own identifiers become. -/
theorem mapIdentifiers_congr {first second : Lexeme → Lexeme} {lexeme : Lexeme}
    (same : ∀ identifier ∈ lexeme.identifiers, first identifier = second identifier) :
    lexeme.mapIdentifiers first = lexeme.mapIdentifiers second := by
  induction lexeme using Lexeme.induction with
  | node lexeme induction =>
      by_cases identifier : lexeme.kind = .identifier
      · rw [identifiers_of_identifier identifier] at same
        rw [mapIdentifiers_of_identifier identifier, mapIdentifiers_of_identifier identifier,
          same lexeme List.mem_cons_self]
      · by_cases closure : lexeme.kind = .closure
        · rw [identifiers_of_closure closure] at same
          have args_eq : ∀ arg ∈ lexeme.args,
              arg.mapIdentifiers first = arg.mapIdentifiers second :=
            fun arg member => induction arg member fun name used =>
              same name (List.mem_flatMap.mpr ⟨arg, member, used⟩)
          rw [mapIdentifiers_of_closure closure, mapIdentifiers_of_closure closure,
            List.map_congr_left args_eq]
        · rw [mapIdentifiers_of_other identifier closure,
            mapIdentifiers_of_other identifier closure]

/-- What is put in for identifiers is changed along with the rest of an operand. -/
theorem mapIdentifiers_comp (first second : Lexeme → Lexeme) (lexeme : Lexeme) :
    (lexeme.mapIdentifiers first).mapIdentifiers second =
      lexeme.mapIdentifiers fun identifier => (first identifier).mapIdentifiers second := by
  induction lexeme using Lexeme.induction with
  | node lexeme induction =>
      by_cases identifier : lexeme.kind = .identifier
      · rw [mapIdentifiers_of_identifier identifier, mapIdentifiers_of_identifier identifier]
      · by_cases closure : lexeme.kind = .closure
        · rw [mapIdentifiers_of_closure closure, mapIdentifiers_of_closure closure,
            mapIdentifiers_of_closure (by exact closure)]
          simp only [List.map_map, Lexeme.mk.injEq, true_and, and_true]
          exact List.map_congr_left induction
        · rw [mapIdentifiers_of_other identifier closure,
            mapIdentifiers_of_other identifier closure,
            mapIdentifiers_of_other identifier closure]

private theorem mapIdentifiers_id (lexeme : Lexeme) : lexeme.mapIdentifiers id = lexeme := by
  induction lexeme using Lexeme.induction with
  | node lexeme induction =>
      by_cases identifier : lexeme.kind = .identifier
      · exact mapIdentifiers_of_identifier identifier
      · by_cases closure : lexeme.kind = .closure
        · rw [mapIdentifiers_of_closure closure, List.map_congr_left induction, List.map_id']
          cases lexeme
          rfl
        · exact mapIdentifiers_of_other identifier closure

/-- An operand whose identifiers stay is left as it is. -/
theorem mapIdentifiers_eq_self {change : Lexeme → Lexeme} {lexeme : Lexeme}
    (keeps : ∀ identifier ∈ lexeme.identifiers, change identifier = identifier) :
    lexeme.mapIdentifiers change = lexeme :=
  (mapIdentifiers_congr keeps).trans lexeme.mapIdentifiers_id

theorem IsOperand.identifiers_mem {part : List Lexeme} {operand : Lexeme}
    (derives : IsOperand part operand) : ∀ identifier ∈ operand.identifiers, identifier ∈ part := by
  induction derives with
  | @word lexeme kind =>
      by_cases identifier : lexeme.kind = .identifier
      · simp [identifiers_of_identifier identifier]
      · have no_closure : lexeme.kind ≠ .closure := by
          rcases kind with kind | kind | kind <;> simp [kind]
        simp [identifiers_of_other identifier no_closure]
  | @closure _ operator _ left right _ _ _ _ kind _ _ left_ih right_ih =>
      have none : operator.identifiers = [] :=
        identifiers_of_other (by simp [kind]) (by simp [kind])
      rw [identifiers_of_closure rfl]
      simp only [ofOperation, List.flatMap_cons, List.flatMap_nil, none, List.nil_append,
        List.append_nil, List.mem_append]
      rintro identifier (in_left | in_right)
      · simp [left_ih identifier in_left]
      · simp [right_ih identifier in_right]

end Lexeme

namespace Statement

/-- The identifiers of the operands of a statement. -/
def identifiers (statement : Statement) : List Lexeme :=
  statement.args.flatMap Lexeme.identifiers

/-- The identifiers of a statement are among the lexemes that it is read from. -/
theorem ReadFrom.identifiers_mem {statement : Statement} {lexemes : List Lexeme}
    (readFrom : statement.ReadFrom lexemes) :
    ∀ identifier ∈ statement.identifiers, identifier ∈ lexemes := by
  intro identifier used
  obtain ⟨arg, member, within⟩ := List.mem_flatMap.mp used
  obtain ⟨part, inside, derives⟩ := readFrom.args arg member
  exact inside (derives.identifiers_mem identifier within)

end Statement
end TableAssembler
