import TableAssembler.Proofs.Lexeme.Reading
import TableAssembler.Proofs.Location
import TableAssembler.Proofs.Success

/-!
# Lexemes tile their text

The lexemes of a text stand one behind another, each where its location says.  Between them there
are blanks and comments only.  Every lexeme is the one that its characters give on their own.
-/

namespace TableAssembler
namespace Scan

/-- A lexeme with the number of characters in front of it. -/
structure Tile where
  start : Nat
  lexeme : Lexeme

namespace Tile

/-- The character at an index belongs to the lexeme. -/
def Covers (tile : Tile) (index : Nat) : Prop :=
  tile.start ≤ index ∧ (index : Int) < tile.start + tile.lexeme.span

/-- The characters of the lexeme in a text. -/
def characters (tile : Tile) (text : List Char) : List Char :=
  (text.drop tile.start).take tile.lexeme.span.toNat

/-- The lexeme stands at its place in the text of a file. -/
structure Fits (tile : Tile) (file : String) (text : List Char) : Prop where
  span_pos : 1 ≤ tile.lexeme.span
  inside : tile.start + tile.lexeme.span ≤ text.length
  file : tile.lexeme.location.file = file
  /-- Rows count the line feeds in front of the lexeme. -/
  row : tile.lexeme.location.row = 1 + (text.take tile.start).count '\n'
  /-- Columns count the characters between the last line feed and the lexeme. -/
  col : tile.lexeme.location.col = 1 + (Location.lastLine (text.take tile.start)).length
  /-- On their own the characters give the lexeme, and nothing else. -/
  alone : ∀ other, Lexeme.scan other (String.ofList (tile.characters text)) =
    .ok [{ tile.lexeme with location := .start other }]

end Tile

/-- A comment takes the characters from one index up to another, where its line or the text
ends. -/
def IsComment (text : List Char) (first last : Nat) : Prop :=
  ∃ before comment after, text = before ++ ('/' :: '/' :: comment) ++ after ∧ '\n' ∉ comment ∧
    (∀ c ∈ after.head?, c = '\n') ∧ first = before.length ∧
    last = before.length + (comment.length + 2)

/-- The character at an index is white space inside a line. -/
def IsBlankAt (text : List Char) (index : Nat) : Prop :=
  ∃ c, text[index]? = some c ∧ Text.isBlank c = true

/-- Lexemes tile the text of a file from an index on. -/
structure Tiles (file : String) (text : List Char) (start : Nat) (tiles : List Tile) : Prop where
  fits : ∀ tile ∈ tiles, tile.Fits file text
  behind : ∀ tile ∈ tiles, start ≤ tile.start
  /-- No lexeme starts before the end of one in front of it. -/
  ordered : tiles.Pairwise fun tile later => (tile.start : Int) + tile.lexeme.span ≤ later.start
  /-- Outside the lexemes there are blanks, and comments that no lexeme reaches into. -/
  outside : ∀ index, start ≤ index → index < text.length →
    (∀ tile ∈ tiles, ¬ tile.Covers index) →
    IsBlankAt text index ∨
      ∃ first last, IsComment text first last ∧ start ≤ first ∧ first ≤ index ∧ index < last ∧
        ∀ inner, first ≤ inner → inner < last → ∀ tile ∈ tiles, ¬ tile.Covers inner

/-! ## Gaps -/

private theorem isBlankAt_append {blanks : List Char} (blank : ∀ c ∈ blanks, Text.isBlank c = true)
    (front rest : List Char) {index : Nat} (behind : front.length ≤ index)
    (inside : index < front.length + blanks.length) :
    IsBlankAt (front ++ (blanks ++ rest)) index := by
  have bound : index - front.length < blanks.length := by omega
  refine ⟨blanks.get ⟨index - front.length, bound⟩, ?_, blank _ (List.get_mem _ _)⟩
  rw [List.getElem?_append_right behind, List.getElem?_append_left bound]
  exact List.getElem?_eq_getElem bound

/-- Between two indices there are blanks and whole comments only. -/
def IsFree (text : List Char) (start stop : Nat) : Prop :=
  ∀ index, start ≤ index → index < stop →
    IsBlankAt text index ∨
      ∃ first last, IsComment text first last ∧ start ≤ first ∧ first ≤ index ∧ index < last ∧
        last ≤ stop

theorem IsGap.isFree {gap rest : List Char} (isGap : IsGap gap rest) (front : List Char) :
    IsFree (front ++ (gap ++ rest)) front.length (front.length + gap.length) := by
  intro index behind inside
  cases isGap with
  | blanks blank => exact .inl (isBlankAt_append blank front rest behind inside)
  | @comment blanks comment _ blank no_newline ends =>
      by_cases early : index < front.length + blanks.length
      · left
        rw [List.append_assoc]
        exact isBlankAt_append blank front _ behind early
      · right
        refine ⟨(front ++ blanks).length, (front ++ blanks).length + (comment.length + 2),
          ⟨front ++ blanks, comment, rest, by simp, no_newline, ends, rfl, rfl⟩, ?_, ?_, ?_, ?_⟩
        all_goals simp only [List.length_append, List.length_cons] at inside ⊢
        all_goals omega

variable {file : String} {text : List Char} {start stop : Nat} {tiles : List Tile}

theorem Tiles.nil (free : IsFree text start text.length) : Tiles file text start [] where
  fits := by simp
  behind := by simp
  ordered := .nil
  outside := by
    intro index behind inside _
    rcases free index behind inside with blank | ⟨first, last, comment, early, le, lt, _⟩
    · exact .inl blank
    · exact .inr ⟨first, last, comment, early, le, lt, by simp⟩

/-- One more lexeme in front of others, with a free part in front of it. -/
theorem Tiles.cons {tile : Tile} (fits : tile.Fits file text) (early : start ≤ tile.start)
    (free : IsFree text start tile.start) (stop_eq : (stop : Int) = tile.start + tile.lexeme.span)
    (later : Tiles file text stop tiles) : Tiles file text start (tile :: tiles) where
  fits := List.forall_mem_cons.mpr ⟨fits, later.fits⟩
  behind := by
    have positive := fits.span_pos
    refine List.forall_mem_cons.mpr ⟨early, fun other member => ?_⟩
    have behind := later.behind other member
    omega
  ordered := by
    refine List.pairwise_cons.mpr ⟨fun other member => ?_, later.ordered⟩
    have behind := later.behind other member
    omega
  outside := by
    have positive := fits.span_pos
    intro index behind inside uncovered
    obtain ⟨not_first, not_later⟩ := List.forall_mem_cons.mp uncovered
    by_cases front : index < tile.start
    · rcases free index behind front with blank | ⟨first, last, comment, after, le, lt, before⟩
      · exact .inl blank
      · refine .inr ⟨first, last, comment, after, le, lt, fun inner _ inner_lt => ?_⟩
        refine List.forall_mem_cons.mpr ⟨fun covers => ?_, fun other member covers => ?_⟩
        · have reached := covers.1
          omega
        · have reached := covers.1
          have beyond := later.behind other member
          omega
    · have beyond : stop ≤ index := by
        by_contra within
        exact not_first ⟨by omega, by omega⟩
      rcases later.outside index beyond inside not_later with
        blank | ⟨first, last, comment, after, le, lt, apart⟩
      · exact .inl blank
      · refine .inr ⟨first, last, comment, by omega, le, lt, fun inner inner_le inner_lt => ?_⟩
        refine List.forall_mem_cons.mpr ⟨fun covers => ?_, apart inner inner_le inner_lt⟩
        have reached := covers.2
        omega

/-! ## Lexemes at their places -/

private theorem fits_place (file : String) (front behind : List Char) {first : Char}
    {further : List Char} {reading : Reading} (no_gap : gap (first :: further) = 0)
    (read : Reading.ofText first further = .ok reading)
    (width : reading.width = further.length + 1) :
    Tile.Fits ⟨front.length, reading.place ((Location.start file).advance front)⟩ file
      (front ++ (first :: further ++ behind)) := by
  have span : (reading.place ((Location.start file).advance front)).span =
      (first :: further).length := by
    rw [Reading.span_place, width, List.length_cons]
  refine ⟨?_, ?_, ?_, ?_, ?_, ?_⟩
  · rw [span, List.length_cons]
    omega
  · rw [span, List.length_append, List.length_append]
    push_cast
    omega
  · exact Location.file_advance _ _
  · rw [List.take_left]
    exact Location.row_advance _ _
  · rw [List.take_left]
    exact Location.col_advance_start _ _
  · intro other
    have characters : Tile.characters
        ⟨front.length, reading.place ((Location.start file).advance front)⟩
        (front ++ (first :: further ++ behind)) = first :: further := by
      rw [Tile.characters, span, Int.toNat_natCast, List.drop_left, List.take_left]
    rw [characters, scan_alone no_gap read width]
    rfl

/-! ## The whole text -/

/-- What is scanned behind a part of a text tiles the rest of it. -/
theorem exists_tiles_behind (file : String) (front rest : List Char)
    (complete : (startingAt ((Location.start file).advance front) rest).fault? = none) :
    ∃ tiles, tiles.map Tile.lexeme =
        (startingAt ((Location.start file).advance front) rest).lexemes ∧
      Tiles file (front ++ rest) front.length tiles := by
  -- The induction is on what is left; the location is that of the part in front of it.
  induction length_eq : rest.length using Nat.strong_induction_on generalizing front rest with
  | h length induction =>
      cases startingAt_step ((Location.start file).advance front) rest with
      | fault found => exact absurd complete found
      | done isGap scanned =>
          have free := isGap.isFree front
          rw [List.append_nil, ← List.length_append] at free
          exact ⟨[], by rw [scanned]; rfl, .nil free⟩
      | @lexeme space further behind first reading text_eq isGap no_gap read width scanned =>
          have shorter : behind.length < length := by
            rw [← length_eq, text_eq]
            simp only [List.length_append, List.length_cons]
            omega
          have whole : front ++ (space ++ first :: further) ++ behind = front ++ rest := by
            rw [text_eq]
            simp only [List.append_assoc]
          have free := isGap.isFree front
          have fits := fits_place file (front ++ space) behind no_gap read width
          rw [List.append_assoc, ← text_eq] at fits
          rw [← text_eq, ← List.length_append] at free
          simp only [← Location.advance_append] at scanned
          rw [scanned] at complete ⊢
          obtain ⟨tiles, lexemes_eq, later⟩ :=
            induction behind.length shorter (front ++ (space ++ first :: further)) behind complete
              rfl
          rw [whole] at later
          refine ⟨⟨(front ++ space).length, _⟩ :: tiles, ?_, .cons fits ?_ free ?_ later⟩
          · rw [List.map_cons, lexemes_eq]
            rfl
          · simp
          · rw [Reading.span_place, width]
            simp only [List.length_append, List.length_cons]
            push_cast
            omega

/-- The lexemes of a file tile its text. -/
theorem exists_tiles_of_scan {file text : String} {lexemes : List Lexeme}
    (scanned : Lexeme.scan file text = .ok lexemes) :
    ∃ tiles, tiles.map Tile.lexeme = lexemes ∧ Tiles file text.toList 0 tiles := by
  unfold Lexeme.scan result at scanned
  split at scanned
  · simp at scanned
  · rename_i complete
    obtain rfl := Except.ok.inj scanned
    exact exists_tiles_behind file [] text.toList complete

/-- A label with a comment, a line feed inside of a string, and a number. -/
def commentedData : String := "a: // x\n\tdb 'p\nq', 0x1F"

theorem exists_tiles_of_scan_commentedData :
    ∃ lexemes, Lexeme.scan "s" commentedData = .ok lexemes ∧
      lexemes.map (fun lexeme => (lexeme.location.render, lexeme.span)) =
        [("s:1:1", 1), ("s:1:2", 1), ("s:1:8", 1), ("s:2:2", 2), ("s:2:5", 5), ("s:3:3", 1),
          ("s:3:5", 4)] ∧
      ∃ tiles, tiles.map Tile.lexeme = lexemes ∧ Tiles "s" commentedData.toList 0 tiles := by
  have evaluated : (Lexeme.scan "s" commentedData).map
      (fun lexemes => lexemes.map fun lexeme => (lexeme.location.render, lexeme.span)) =
      .ok [("s:1:1", 1), ("s:1:2", 1), ("s:1:8", 1), ("s:2:2", 2), ("s:2:5", 5), ("s:3:3", 1),
        ("s:3:5", 4)] := by
    decide +kernel
  obtain ⟨lexemes, scanned, places⟩ := Success.map_eq_ok.mp evaluated
  exact ⟨lexemes, scanned, places, exists_tiles_of_scan scanned⟩

end Scan
end TableAssembler
