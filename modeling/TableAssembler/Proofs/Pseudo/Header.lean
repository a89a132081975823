import Mathlib.Data.List.DropRight
import TableAssembler.Proofs.Lexeme.Name
import TableAssembler.Proofs.Lexeme.Spelling
import TableAssembler.Proofs.Pseudo.Expansion
import TableAssembler.Proofs.Text.Span

/-!
# Headers of pseudo-instructions

A header is read twice: its first word names the pseudo-instruction, and its trimmed characters up
to a space name the file that its body is read in.  Both are the same word, in different letter
case, when a space or nothing stands behind the word.
-/

namespace TableAssembler

/-! ## The first word of a text -/

/-- What is trimmed off a text is white space. -/
theorem Text.exists_trim (text : List Char) :
    ∃ front tail, text = front ++ (trim text ++ tail) ∧
      (∀ c ∈ front, isWhiteSpace c = true) ∧ ∀ c ∈ tail, isWhiteSpace c = true := by
  refine ⟨text.takeWhile isWhiteSpace, (text.dropWhile isWhiteSpace).rtakeWhile isWhiteSpace,
    ?_, fun c member => List.mem_takeWhile_imp member, fun c member => ?_⟩
  · have tail_split : trim text ++ (text.dropWhile isWhiteSpace).rtakeWhile isWhiteSpace =
        text.dropWhile isWhiteSpace := by
      rw [trim, List.rtakeWhile, ← List.reverse_append, List.takeWhile_append_dropWhile,
        List.reverse_reverse]
    rw [tail_split, List.takeWhile_append_dropWhile]
  · exact List.mem_takeWhile_imp (List.mem_reverse.mp member)

/-- White space in front of a text is scanned into ends of lines. -/
theorem Scan.exists_newlines {front : List Char}
    (white : ∀ c ∈ front, Text.isWhiteSpace c = true) (location : Location) (text : List Char) :
    ∃ newlines next, (∀ lexeme ∈ newlines, lexeme.kind = .newline) ∧
      startingAt location (front ++ text) = (startingAt next text).behind newlines := by
  induction front generalizing location with
  | nil => exact ⟨[], location, by simp, rfl⟩
  | cons c front induction =>
      obtain ⟨first_white, others_white⟩ := List.forall_mem_cons.mp white
      obtain ⟨newlines, next, kinds, scanned⟩ := induction others_white (location.step c)
      by_cases newline : c = '\n'
      · subst newline
        refine ⟨(Reading.verbatim .newline '\n' []).place location :: newlines, next,
          List.forall_mem_cons.mpr ⟨rfl, kinds⟩, ?_⟩
        rw [List.cons_append, startingAt_newline, scanned]
        rfl
      · have blank : Text.isBlank c = true := by simp [Text.isBlank, first_white, newline]
        refine ⟨newlines, next, kinds, ?_⟩
        rw [List.cons_append, startingAt_cons_of_isBlank blank, scanned]

/-- A text that starts with a word is scanned into a lexeme first, and into the word if that is an
identifier. -/
theorem Scan.exists_first_lexeme {location : Location} {word back : List Char}
    (word_ne : word ≠ []) (characters : ∀ c ∈ word, isWordCharacter c = true)
    (stops : ∀ c ∈ back.head?, isWordCharacter c = false)
    (complete : (startingAt location (word ++ back)).fault? = none) :
    ∃ lexeme others, (startingAt location (word ++ back)).lexemes = lexeme :: others ∧
      lexeme.kind ≠ .newline ∧ (lexeme.kind = .identifier → lexeme.value.toList = word) := by
  obtain ⟨first, further, rfl⟩ := List.exists_cons_of_ne_nil word_ne
  obtain ⟨first_word, further_word⟩ := List.forall_mem_cons.mp characters
  have no_gap : gap (first :: (further ++ back)) = 0 := gap_of_isWordCharacter first_word _
  have ahead : (first :: (further ++ back)).drop (gap (first :: (further ++ back))) =
      first :: (further ++ back) := by
    rw [no_gap, List.drop_zero]
  have taken := Text.takeWhile_append_eq further_word stops
  rw [List.cons_append, startingAt_of_drop_eq_cons location ahead] at complete ⊢
  cases read : Reading.ofText first (further ++ back) with
  | error misreading => simp [read] at complete
  | ok reading =>
      refine ⟨_, _, rfl, ?_, fun identifier => ?_⟩
      · cases Reading.isRead_of_ofText read with
        | newline newline =>
            subst newline
            exact absurd first_word (by decide)
        | punctuation => simp [Reading.place, Reading.verbatim]
        | operator => simp [Reading.place, Reading.verbatim]
        | text read => simp [Reading.place, Reading.kind_of_readString read]
        | word read =>
            rcases Reading.kind_of_readWord read with kind | kind <;> simp [Reading.place, kind]
      · cases Reading.isRead_of_ofText read with
        | newline | punctuation | operator => contradiction
        | text read => simp [Reading.place, Reading.kind_of_readString read] at identifier
        | word read =>
            rw [← Lexeme.source_of_identifier identifier, Reading.source_place_of_readWord read,
              taken]

/-! ## The two names -/

namespace Pseudo

/-- The trimmed header is a word, or starts with a word and a space. -/
structure Heads (word header : String) : Prop where
  word_ne : word ≠ ""
  characters : ∀ c ∈ word.toList, Scan.isWordCharacter c = true
  back : ∃ back, Text.trim header.toList = word.toList ++ back ∧ ∀ c ∈ back.head?, c = ' '

variable {word header body : String} {pseudo : Pseudo}

/-- The file of a header is named for its word. -/
theorem Heads.fileOf_eq (heads : Heads word header) :
    fileOf header = "PSEUDO_" ++ Text.upper word := by
  obtain ⟨back, trimmed, space⟩ := heads.back
  have no_space : ∀ c ∈ word.toList, (c != ' ') = true := by
    intro c member
    rw [bne_iff_ne]
    rintro rfl
    exact absurd (heads.characters ' ' member) (by decide)
  have back_space : ∀ c ∈ back.head?, (c != ' ') = false := by
    intro c ahead
    simp [space c ahead]
  rw [fileOf, trimmed, Text.takeWhile_append_eq no_space back_space, String.ofList_toList]

theorem Heads.exists_split (heads : Heads word header) :
    ∃ front behind, header.toList = front ++ (word.toList ++ behind) ∧
      (∀ c ∈ front, Text.isWhiteSpace c = true) ∧
      ∀ c ∈ behind.head?, Scan.isWordCharacter c = false := by
  obtain ⟨back, trimmed, space⟩ := heads.back
  obtain ⟨front, tail, header_eq, front_white, tail_white⟩ := Text.exists_trim header.toList
  refine ⟨front, back ++ tail, ?_, front_white, fun c ahead => ?_⟩
  · rw [trimmed, List.append_assoc] at header_eq
    exact header_eq
  · have white : Text.isWhiteSpace c = true := by
      cases back with
      | nil => exact tail_white c (List.mem_of_mem_head? ahead)
      | cons first back =>
          rw [space c ahead]
          decide
    by_contra word
    rw [Bool.not_eq_false] at word
    simp [Scan.isWhiteSpace_eq_false_of_isWordCharacter word] at white

/-- A pseudo-instruction is named for the word of its header. -/
theorem Heads.name_eq (heads : Heads word header) (compiled : compile header body = .ok pseudo) :
    pseudo.name = Text.lower word := by
  simp only [compile, Success.bind_eq_ok, Success.pure_eq_ok] at compiled
  obtain ⟨statement, headed, -, -, -, -, rfl⟩ := compiled
  obtain ⟨program, parsed, headed⟩ := Success.bind_eq_ok.mp headed
  obtain ⟨lexemes, scanned, grouped⟩ := Success.bind_eq_ok.mp parsed
  obtain rfl : program = [statement] := by
    unfold head at headed
    split at headed
    · rw [Except.ok.inj headed]
    · contradiction
  obtain ⟨complete, rfl⟩ := Scan.result_eq_ok_iff.mp scanned
  have derives := Statement.group_eq_ok_iff.mp grouped
  obtain ⟨front, behind, header_eq, white, stops⟩ := heads.exists_split
  obtain ⟨newlines, next, kinds, front_scanned⟩ :=
    Scan.exists_newlines white (.start (fileOf header)) (word.toList ++ behind)
  rw [Scan.ofText, header_eq, front_scanned] at complete derives
  obtain ⟨lexeme, others, lexemes_eq, no_newline, value⟩ :=
    Scan.exists_first_lexeme (by simpa using heads.word_ne) heads.characters stops complete
  have inner := derives.of_newlines kinds
  rw [lexemes_eq] at inner
  rcases inner.newline_or_name with ⟨newline, -⟩ | ⟨identifier, named⟩
  · exact absurd newline no_newline
  · obtain rfl : statement.name = lexeme := Option.some.inj named
    rw [Statement.mnemonic, String.toList_inj.mp (value identifier)]

end Pseudo
end TableAssembler
