import TableAssembler.Proofs.Lexeme.Scanned
import TableAssembler.Proofs.Statement.Grammar

/-!
# Lexemes written out

The text of a lexeme is the characters it was read from, unless it is a string or the end of a
line.  Such texts are put together, with blanks between them, into a text that is scanned into the
same lexemes: in front of a stop, every part of it yields its lexemes.
-/

namespace TableAssembler

/-! ## The text of a lexeme -/

namespace Reading

/-- How the radix of a form of number is written. -/
def markOf : NumberForm → String
  | .hexadecimal => "0x"
  | .binary => "0b"
  | .decimal => ""

private theorem source_place_of_readNumber {form : NumberForm} {mark : Nat} {digits : List Char}
    {reading : Reading} (read : Scan.readNumber form mark digits = .ok reading)
    (location : Location) :
    (reading.place location).source.toList = (markOf form).toList ++ digits := by
  unfold Scan.readNumber at read
  split at read
  · contradiction
  · split at read
    · contradiction
    · obtain rfl := Except.ok.inj read
      cases form <;> simp [place, Lexeme.source, Scan.radixOf, markOf]

theorem source_place_of_readWord {first : Char} {rest : List Char} {reading : Reading}
    (read : Scan.readWord first rest = .ok reading) (location : Location) :
    (reading.place location).source.toList = first :: rest.takeWhile Scan.isWordCharacter := by
  unfold Scan.readWord at read
  dsimp only at read
  split at read
  · next further =>
      rw [source_place_of_readNumber read, further]
      rfl
  · next further =>
      rw [source_place_of_readNumber read, further]
      rfl
  · split_ifs at read
    · rw [source_place_of_readNumber read]
      rfl
    · obtain rfl := Except.ok.inj read
      simp [place, verbatim, Lexeme.source]

end Reading

namespace Lexeme

variable {lexeme : Lexeme} {characters : List Char}

/-- A lexeme is written with its characters. -/
theorem Spelled.source_eq (spelled : lexeme.Spelled characters) (no_text : lexeme.kind ≠ .text)
    (no_newline : lexeme.kind ≠ .newline) : lexeme.source.toList = characters := by
  obtain ⟨location, -, read, width⟩ := spelled
  cases Reading.isRead_of_ofText read with
  | newline => exact absurd rfl no_newline
  | punctuation =>
      obtain rfl := List.eq_nil_of_length_eq_zero (Nat.succ.inj width).symm
      simp [Reading.place, Reading.verbatim, source]
  | operator found =>
      obtain ⟨behind, rfl, -⟩ := Scan.exists_of_operatorTail? found
      have nothing : behind = [] := by
        simpa [Reading.verbatim] using width
      simp [Reading.place, Reading.verbatim, source, nothing]
  | text read => exact absurd (Reading.kind_of_readString read) no_text
  | word read =>
      rw [Scan.width_of_readWord read, Nat.add_right_cancel_iff] at width
      rw [Reading.source_place_of_readWord read,
        (List.takeWhile_prefix Scan.isWordCharacter).eq_of_length width]

theorem source_of_identifier (identifier : lexeme.kind = .identifier) :
    lexeme.source = lexeme.value := by
  obtain ⟨value, kind, radix, args, span, location⟩ := lexeme
  obtain rfl : kind = .identifier := identifier
  simp [source]

/-- An identifier is its characters. -/
theorem Spelled.value_eq (spelled : lexeme.Spelled characters)
    (identifier : lexeme.kind = .identifier) : lexeme.value.toList = characters := by
  rw [← source_of_identifier identifier]
  exact spelled.source_eq (by simp [identifier]) (by simp [identifier])

/-- A punctuation mark is one character. -/
theorem Spelled.exists_of_punctuation (spelled : lexeme.Spelled characters)
    (kind : lexeme.kind = .punctuation) :
    ∃ c ∈ Scan.punctuation, ∃ location,
      lexeme = (Reading.verbatim .punctuation c []).place location := by
  obtain ⟨location, -, read, -⟩ := spelled
  cases Reading.isRead_of_ofText read with
  | newline => contradiction
  | punctuation mark => exact ⟨_, mark, location, rfl⟩
  | operator => contradiction
  | text read =>
      have text := Reading.kind_of_readString read
      simp [Reading.place, text] at kind
  | word read =>
      rcases Reading.kind_of_readWord read with word | word <;>
        simp [Reading.place, word] at kind

end Lexeme

/-! ## Texts put together -/

namespace Scan

variable {text further back : List Char} {lexemes others : List Lexeme}

/-- In front of a stop the text is scanned into such lexemes, whatever their places are. -/
def Yields (text : List Char) (lexemes : List Lexeme) : Prop :=
  ∀ location back, Stops back → ∃ others next,
    List.Forall₂ (Lexeme.Displaced .anywhere) lexemes others ∧
      startingAt location (text ++ back) = (startingAt next back).behind others

theorem Stops.append (stops : Stops text) (back_stops : Stops back) : Stops (text ++ back) := by
  cases text with
  | nil => exact back_stops
  | cons c text => exact stops

theorem Yields.nil : Yields [] [] :=
  fun location _ _ => ⟨[], location, .nil, rfl⟩

/-- A text yields its lexemes in front of a text that stops them. -/
theorem Yields.append (first : Yields text lexemes) (second : Yields further others)
    (stops : Stops further) : Yields (text ++ further) (lexemes ++ others) := by
  intro location back back_stops
  obtain ⟨front, between, front_same, front_scanned⟩ :=
    first location (further ++ back) (stops.append back_stops)
  obtain ⟨later, next, later_same, later_scanned⟩ := second between back back_stops
  refine ⟨front ++ later, next, List.rel_append front_same later_same, ?_⟩
  rw [List.append_assoc, front_scanned, later_scanned, behind, behind, behind,
    List.append_assoc]

/-- A blank in front of a text is skipped. -/
theorem startingAt_cons_of_isBlank {c : Char} (blank : Text.isBlank c = true)
    (location : Location) (text : List Char) :
    startingAt location (c :: text) = startingAt (location.step c) text := by
  have gap_eq : gap (c :: text) = gap text + 1 := by
    have all_blank : ∀ other ∈ [c], Text.isBlank other = true := by simpa using blank
    have gap_append := gap_blanks_append all_blank text
    rw [List.singleton_append, List.length_singleton] at gap_append
    omega
  have left : (c :: text).drop (gap (c :: text)) = text.drop (gap text) := by
    rw [gap_eq, List.drop_succ_cons]
  cases ahead : text.drop (gap text) with
  | nil =>
      rw [startingAt_of_drop_eq_nil _ ahead, startingAt_of_drop_eq_nil _ (left.trans ahead)]
  | cons first rest =>
      rw [startingAt_of_drop_eq_cons _ ahead, startingAt_of_drop_eq_cons _ (left.trans ahead),
        gap_eq, List.take_succ_cons, Location.advance_cons]

theorem Yields.space (yields : Yields text lexemes) : Yields (' ' :: text) lexemes := by
  intro location back stops
  obtain ⟨others, next, same, scanned⟩ := yields (location.step ' ') back stops
  refine ⟨others, next, same, ?_⟩
  rw [List.cons_append, startingAt_cons_of_isBlank rfl, scanned]

/-- Texts with a space between them yield their lexemes one after another. -/
theorem Yields.append_space (first : Yields text lexemes) (second : Yields further others) :
    Yields (text ++ ' ' :: further) (lexemes ++ others) :=
  first.append second.space (stops_cons (by decide) further)

private theorem gap_append_of_stops {first : Char} (no_gap : gap (first :: further) = 0)
    (stops : Stops back) : gap (first :: (further ++ back)) = 0 := by
  rw [gap_cons_eq_zero_iff] at no_gap ⊢
  refine ⟨no_gap.1, ?_⟩
  rintro ⟨rfl, second⟩
  cases further with
  | nil => exact absurd (stops '/' second).2 (by decide)
  | cons c further => exact no_gap.2 ⟨rfl, second⟩

/-- The characters of a lexeme yield it. -/
theorem Yields.of_spelled {lexeme : Lexeme} (spelled : lexeme.Spelled text) :
    Yields text [lexeme] := by
  obtain ⟨place, no_gap, read, width⟩ := spelled
  intro location back stops
  exact ⟨_, _, .cons (Reading.displaced_place _ place location) .nil,
    startingAt_of_ofText location (gap_append_of_stops no_gap stops)
      (ofText_append_of_stops read stops) width⟩

/-- A lexeme of one character that is read whatever stands behind it. -/
theorem Yields.cons {c : Char} {reading : Reading}
    (read : ∀ rest, Reading.ofText c rest = .ok reading) (width : reading.width = 1)
    (no_gap : ∀ rest, gap (c :: rest) = 0) (place : Location) (yields : Yields text lexemes) :
    Yields (c :: text) (reading.place place :: lexemes) := by
  intro location back stops
  obtain ⟨others, next, same, scanned⟩ := yields (location.step c) back stops
  refine ⟨_, next, .cons (reading.displaced_place place location) same, ?_⟩
  have first := startingAt_of_ofText location (no_gap ([] ++ (text ++ back))) (read _) width
  rw [List.cons_append, ← List.nil_append (text ++ back), first, Location.advance_cons,
    Location.advance_nil, scanned, cons_behind]

/-- A punctuation mark is read whatever stands behind it. -/
theorem Yields.punctuation {mark : Lexeme} {value : String} {characters : List Char}
    (spelled : mark.Spelled characters) (same : mark.is .punctuation value = true)
    (yields : Yields text lexemes) : Yields (value.toList ++ text) (mark :: lexemes) := by
  obtain ⟨c, listed, place, rfl⟩ := spelled.exists_of_punctuation (Lexeme.kind_of_is same)
  have value_eq : [c] = value.toList := by
    rw [Lexeme.is, Bool.and_eq_true, beq_iff_eq] at same
    rw [← same.2]
    exact String.toList_ofList.symm
  have others : (Scan.punctuation.all fun c =>
      !Text.isBlank c && c != '/' && c != '\n') = true := by
    decide
  obtain ⟨⟨blank, slash⟩, newline⟩ : (Text.isBlank c = false ∧ c ≠ '/') ∧ c ≠ '\n' := by
    simpa using List.all_eq_true.mp others c listed
  rw [← value_eq]
  refine .cons (fun rest => ?_) rfl (fun rest => ?_) place yields
  · rw [Reading.ofText, if_neg newline, if_pos listed]
  · exact gap_cons_eq_zero_iff.mpr ⟨blank, fun comment => slash comment.1⟩

/-- The end of a line is read whatever stands behind it. -/
theorem Yields.newline (place : Location) (yields : Yields text lexemes) :
    Yields ('\n' :: text) ((Reading.verbatim .newline '\n' []).place place :: lexemes) :=
  .cons (fun _ => rfl) rfl (fun _ => gap_cons_eq_zero_iff.mpr ⟨rfl, by simp⟩) place yields

/-- A whole text is scanned into the lexemes that it yields. -/
theorem Yields.scan {written : String} (yields : Yields written.toList lexemes) (file : String) :
    ∃ others, Lexeme.scan file written = .ok others ∧
      List.Forall₂ (Lexeme.Displaced .anywhere) lexemes others := by
  obtain ⟨others, next, same, scanned⟩ := yields (.start file) [] (by simp [Stops])
  refine ⟨others, ?_, same⟩
  rw [List.append_nil, startingAt_of_drop_eq_nil next rfl] at scanned
  rw [Lexeme.scan, ofText, scanned, result_behind]
  exact congrArg Except.ok (List.append_nil others)

end Scan
end TableAssembler
