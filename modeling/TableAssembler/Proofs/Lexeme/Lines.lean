import TableAssembler.Proofs.Lexeme.Displacement
import TableAssembler.Proofs.Lexeme.Reading
import TableAssembler.Proofs.Location

/-!
# Scanning line by line

A lexeme ends in front of a character that it cannot go on with.  A line feed ends the gap or the
lexeme in front of it, unless it stands inside of a string that is still open.  What stands behind
a text that was scanned to its end, and a line feed, is therefore scanned as if it were alone; only
the rows are counted on.
-/

namespace TableAssembler
namespace Scan

/-! ## The gap in front of a line feed -/

theorem takeWhile_append_of_stop {keep : Char → Bool} {stop : Char} (stops : keep stop = false)
    (front back : List Char) : (front ++ stop :: back).takeWhile keep = front.takeWhile keep := by
  induction front with
  | nil => simp [stops]
  | cons c front induction =>
      rw [List.cons_append, List.takeWhile_cons, List.takeWhile_cons, induction]

theorem gap_append_newline (front back : List Char) : gap (front ++ '\n' :: back) = gap front := by
  obtain ⟨blanks, tail, rfl, blank, stops⟩ := exists_of_blanks front
  rw [List.append_assoc, gap_blanks_append blank, gap_blanks_append blank]
  congr 1
  match tail with
  | [] => exact gap_cons_eq_zero_iff.mpr ⟨rfl, by simp⟩
  | [c] =>
      have no_gap : gap [c] = 0 := gap_cons_eq_zero_iff.mpr ⟨stops c rfl, by simp⟩
      rw [no_gap, List.singleton_append, gap_cons_eq_zero_iff]
      exact ⟨stops c rfl, by simp⟩
  | first :: second :: rest =>
      by_cases comment : first = '/' ∧ second = '/'
      · obtain ⟨rfl, rfl⟩ := comment
        have blank : Text.isBlank '/' = false := rfl
        simp only [gap, List.cons_append, List.takeWhile_cons, List.dropWhile_cons, blank,
          Bool.false_eq_true, if_false]
        rw [takeWhile_append_of_stop (by decide)]
      · have no_gap (rest : List Char) : gap (first :: second :: rest) = 0 :=
          gap_cons_eq_zero_iff.mpr ⟨stops first rfl, by simpa using comment⟩
        rw [no_gap, List.cons_append, List.cons_append, no_gap]

theorem gap_le_length (text : List Char) : gap text ≤ text.length := by
  have parts := congrArg List.length
    (List.takeWhile_append_dropWhile (p := Text.isBlank) (l := text))
  rw [List.length_append] at parts
  dsimp only [gap]
  split
  · rename_i comment ahead
    have inside := (List.takeWhile_prefix (l := comment) (· != '\n')).length_le
    rw [ahead, List.length_cons, List.length_cons] at parts
    omega
  · omega

theorem take_gap_append_newline (front back : List Char) :
    (front ++ '\n' :: back).take (gap (front ++ '\n' :: back)) = front.take (gap front) := by
  rw [gap_append_newline, List.take_append_of_le_length (gap_le_length front)]

theorem drop_gap_append_newline (front back : List Char) :
    (front ++ '\n' :: back).drop (gap (front ++ '\n' :: back)) =
      front.drop (gap front) ++ '\n' :: back := by
  rw [gap_append_newline, List.drop_append_of_le_length (gap_le_length front)]

/-! ## The lexeme in front of a stop -/

/-- The text ends the lexeme in front of it: no word and no operator goes on with it, and no
comment. -/
def Stops (back : List Char) : Prop :=
  ∀ c ∈ back.head?, isWordCharacter c = false ∧ c ∉ ['<', '>', '/']

theorem stops_cons {c : Char} (stop : isWordCharacter c = false ∧ c ∉ ['<', '>', '/'])
    (back : List Char) : Stops (c :: back) := by
  rintro _ ⟨⟩
  exact stop

private theorem operatorTail?_append_of_stops {back : List Char} (stops : Stops back) (first : Char)
    (rest : List Char) : operatorTail? first (rest ++ back) = operatorTail? first rest := by
  cases found : operatorTail? first rest with
  | some tail => exact operatorTail?_append found _
  | none =>
      unfold operatorTail? at found ⊢
      split
      · rename_i ahead
        cases rest with
        | nil =>
            subst ahead
            exact absurd (stops '<' rfl).2 (by decide)
        | cons second rest =>
            obtain ⟨rfl, -⟩ := List.cons.inj ahead
            simp at found
      · rename_i ahead
        cases rest with
        | nil =>
            subst ahead
            exact absurd (stops '>' rfl).2 (by decide)
        | cons second rest =>
            obtain ⟨rfl, -⟩ := List.cons.inj ahead
            simp at found
      · split at found
        · simp at found
        · simp at found
        · exact found

/-- A string that is closed stays as it is, whatever stands behind it. -/
theorem stringBody_append {quote : Char} {rest value : List Char} {width : Nat}
    (closed : stringBody quote rest = .closed value width) (back : List Char) :
    stringBody quote (rest ++ back) = .closed value width := by
  fun_induction stringBody quote rest generalizing value width with
  | case1 => simp at closed
  | case2 => simp at closed
  | case3 c rest unescaped found induction =>
      obtain ⟨further, inner, read, rfl, rfl⟩ := StringBody.cons_eq_closed_iff.mp closed
      simp [stringBody, found, induction read, StringBody.cons]
  | case4 => simp at closed
  | case5 rest single escape =>
      rwa [List.cons_append, stringBody_cons_of_ne (ne_backslash single escape), if_pos rfl]
  | case6 c rest single escape other induction =>
      obtain ⟨further, inner, read, rfl, rfl⟩ := StringBody.cons_eq_closed_iff.mp closed
      rw [List.cons_append, stringBody_cons_of_ne (ne_backslash single escape), if_neg other,
        induction read]
      rfl

private theorem readWord_append_of_stops {back : List Char} (stops : Stops back) (first : Char)
    (rest : List Char) : readWord first (rest ++ back) = readWord first rest := by
  cases back with
  | nil => rw [List.append_nil]
  | cons stop back =>
      unfold readWord
      rw [takeWhile_append_of_stop (stops stop rfl).1]

/-- A stop behind a lexeme does not change it. -/
theorem ofText_append_of_stops {first : Char} {rest back : List Char} {reading : Reading}
    (read : Reading.ofText first rest = .ok reading) (stops : Stops back) :
    Reading.ofText first (rest ++ back) = .ok reading := by
  unfold Reading.ofText at read ⊢
  rw [operatorTail?_append_of_stops stops, readWord_append_of_stops stops]
  generalize operatorTail? first rest = found at read ⊢
  cases found with
  | some tail => exact read
  | none =>
      dsimp only at read ⊢
      split_ifs at read ⊢ with newline mark quote
      · exact read
      · exact read
      · unfold readString at read ⊢
        split at read
        · rename_i value width closed
          rwa [stringBody_append closed]
        · simp at read
        · simp at read
      · exact read

private theorem width_le_length {first : Char} {rest : List Char} {reading : Reading}
    (read : Reading.ofText first rest = .ok reading) :
    reading.width ≤ (first :: rest).length := by
  obtain ⟨further, behind, rfl, width, -⟩ := takesOnly_ofText read
  rw [width, List.length_cons, List.length_append]
  omega

/-! ## The lines behind a text -/

/-- The scan with more lexemes before it. -/
def behind (lexemes : List Lexeme) (scan : Scan) : Scan :=
  { scan with lexemes := lexemes ++ scan.lexemes }

@[simp]
theorem behind_nil (scan : Scan) : scan.behind [] = scan := rfl

@[simp]
theorem cons_behind (lexeme : Lexeme) (lexemes : List Lexeme) (scan : Scan) :
    cons lexeme (scan.behind lexemes) = scan.behind (lexeme :: lexemes) := rfl

/-- A text that is scanned to its end is scanned in the same way in front of a line feed. -/
theorem startingAt_append_newline {location : Location} {front : List Char}
    (complete : (startingAt location front).fault? = none) (back : List Char) :
    startingAt location (front ++ '\n' :: back) =
      (startingAt (location.advance front) ('\n' :: back)).behind
        (startingAt location front).lexemes := by
  induction front using text_induction generalizing location with
  | done front ahead =>
      have whole : front.take (gap front) = front :=
        List.take_of_length_le (List.drop_eq_nil_iff.mp ahead)
      have no_gap : gap ('\n' :: back) = 0 := gap_cons_eq_zero_iff.mpr ⟨rfl, by simp⟩
      have here : ('\n' :: back).drop (gap ('\n' :: back)) = '\n' :: back := by
        rw [no_gap, List.drop_zero]
      have ahead_both := drop_gap_append_newline front back
      rw [ahead, List.nil_append] at ahead_both
      rw [startingAt_of_drop_eq_nil location ahead, behind_nil,
        startingAt_of_drop_eq_cons location ahead_both, startingAt_of_drop_eq_cons _ here,
        take_gap_append_newline, whole, no_gap, List.take_zero, Location.advance_nil]
  | misread front first rest misreading ahead read =>
      rw [startingAt_of_drop_eq_cons location ahead, read] at complete
      simp at complete
  | lexeme front first rest reading ahead read induction =>
      have scanned := startingAt_of_drop_eq_cons location ahead
      simp only [read] at scanned
      rw [scanned] at complete ⊢
      have fits := width_le_length read
      have taken : (first :: (rest ++ '\n' :: back)).take reading.width =
          (first :: rest).take reading.width := by
        rw [← List.cons_append, List.take_append_of_le_length fits]
      have left : (first :: (rest ++ '\n' :: back)).drop reading.width =
          (first :: rest).drop reading.width ++ '\n' :: back := by
        rw [← List.cons_append, List.drop_append_of_le_length fits]
      have total : location.advance front =
          ((location.advance (front.take (gap front))).advance
            ((first :: rest).take reading.width)).advance
            ((first :: rest).drop reading.width) := by
        rw [← Location.advance_append, List.take_append_drop, ← ahead,
          ← Location.advance_append, List.take_append_drop]
      have ahead_both := drop_gap_append_newline front back
      rw [ahead, List.cons_append] at ahead_both
      rw [startingAt_of_drop_eq_cons location ahead_both,
        ofText_append_of_stops read (stops_cons (by decide) back)]
      simp only [take_gap_append_newline, taken, left]
      rw [induction complete, cons_behind, total]
      rfl

/-! ## Rows counted on -/

private theorem down_step (rows : Int) (location : Location) (c : Char) :
    (location.step c).down rows = (location.down rows).step c := by
  unfold Location.step
  split
  · simp only [Location.down, Location.mk.injEq, true_and, and_true]
    omega
  · rfl

private theorem down_advance (rows : Int) (location : Location) (text : List Char) :
    (location.advance text).down rows = (location.down rows).advance text := by
  induction text generalizing location with
  | nil => rfl
  | cons c text induction =>
      rw [Location.advance_cons, Location.advance_cons, induction, down_step]

/-- The scan some rows further down. -/
def down (rows : Int) (scan : Scan) : Scan where
  lexemes := scan.lexemes.map (Lexeme.down rows)
  fault? := scan.fault?.map (Fault.down rows)

private theorem down_place (rows : Int) (reading : Reading) (location : Location) :
    (reading.place location).down rows = reading.place (location.down rows) := by
  rw [Lexeme.down]
  rfl

theorem startingAt_down (rows : Int) (location : Location) (text : List Char) :
    startingAt (location.down rows) text = (startingAt location text).down rows := by
  induction text using text_induction generalizing location with
  | done text ahead =>
      rw [startingAt_of_drop_eq_nil _ ahead, startingAt_of_drop_eq_nil _ ahead]
      rfl
  | misread text first rest misreading ahead read =>
      rw [startingAt_of_drop_eq_cons _ ahead, startingAt_of_drop_eq_cons _ ahead]
      simp only [read, down, List.map_nil, Option.map_some, Fault.down, down_advance]
  | lexeme text first rest reading ahead read induction =>
      rw [startingAt_of_drop_eq_cons _ ahead, startingAt_of_drop_eq_cons _ ahead]
      simp only [read]
      rw [← down_advance, ← down_advance, induction, ← down_place]
      rfl

private theorem result_down (rows : Int) (scan : Scan) :
    (scan.down rows).result =
      match scan.result with
      | .ok lexemes => .ok (lexemes.map (Lexeme.down rows))
      | .error fault => .error (fault.down rows) := by
  obtain ⟨lexemes, fault⟩ := scan
  cases fault <;> rfl

theorem result_behind (lexemes : List Lexeme) (scan : Scan) :
    (scan.behind lexemes).result = scan.result.map (lexemes ++ ·) := by
  obtain ⟨others, fault⟩ := scan
  cases fault <;> rfl

theorem result_eq_ok_iff {scan : Scan} {lexemes : List Lexeme} :
    scan.result = .ok lexemes ↔ scan.fault? = none ∧ scan.lexemes = lexemes := by
  obtain ⟨others, fault⟩ := scan
  cases fault <;> simp [result]

theorem startingAt_newline (location : Location) (back : List Char) :
    startingAt location ('\n' :: back) =
      (startingAt (location.step '\n') back).behind
        [(Reading.verbatim .newline '\n' []).place location] := by
  have no_gap : gap ('\n' :: back) = 0 := gap_cons_eq_zero_iff.mpr ⟨rfl, by simp⟩
  rw [← List.nil_append back] at no_gap ⊢
  exact startingAt_of_ofText location no_gap rfl rfl

end Scan

/-- The number of rows that a text takes together with a line feed behind it. -/
def Text.rows (text : String) : Int := 1 + text.toList.count '\n'

theorem Location.step_advance_start (file text : String) :
    ((start file).advance text.toList).step '\n' = (start file).down (Text.rows text) := by
  have row : ((start file).advance text.toList).row + 1 = (start file).row + Text.rows text := by
    rw [row_advance, Text.rows]
    omega
  simp only [step, if_true, down, file_advance, row]
  rfl

/-- Two texts with a line feed between them are scanned one after another. -/
theorem Lexeme.scan_append_newline {file first : String} {lexemes : List Lexeme}
    (scanned : scan file first = .ok lexemes) (second : String) :
    ∃ newline : Lexeme, newline.kind = .newline ∧
      scan file (first ++ "\n" ++ second) =
        match scan file second with
        | .ok others => .ok (lexemes ++ newline :: others.map (down (Text.rows first)))
        | .error fault => .error (fault.down (Text.rows first)) := by
  obtain ⟨complete, rfl⟩ := Scan.result_eq_ok_iff.mp scanned
  have characters : (first ++ "\n" ++ second).toList = first.toList ++ '\n' :: second.toList := by
    simp
  refine ⟨(Reading.verbatim .newline '\n' []).place ((Location.start file).advance first.toList),
    rfl, ?_⟩
  rw [scan, Scan.ofText, characters, Scan.startingAt_append_newline complete,
    Scan.startingAt_newline, Location.step_advance_start, Scan.startingAt_down,
    Scan.result_behind, Scan.result_behind, Scan.result_down, scan, Scan.ofText]
  cases (Scan.startingAt (Location.start file) second.toList).result <;> rfl

end TableAssembler
