import TableAssembler.Proofs.Lexeme.Name
import TableAssembler.Proofs.Lexeme.Quotation
import TableAssembler.Proofs.Lexeme.Spelling
import TableAssembler.Proofs.Statement.Place

/-!
# Statements that end early

Grouping takes lexemes until one is refused in its place or a statement ends early.  An early end is
reported behind the last lexeme taken, on the row where that lexeme starts.  This is the position
behind its characters unless one of them is a line feed, which only a string can hold.
-/

namespace TableAssembler

/-! ## The position behind a lexeme -/

namespace Lexeme

variable {lexeme : Lexeme} {characters : List Char}

/-- Only strings and the ends of lines are written with white space. -/
theorem Spelled.isWhiteSpace_eq_false (spelled : lexeme.Spelled characters)
    (no_text : lexeme.kind ≠ .text) (no_newline : lexeme.kind ≠ .newline) :
    ∀ c ∈ characters, Text.isWhiteSpace c = false := by
  obtain @⟨first, further, reading, location, no_gap, read, width⟩ := spelled
  have inside : first ≠ '\n' := by
    rintro rfl
    obtain rfl := Except.ok.inj read
    exact no_newline rfl
  have clear : Text.isWhiteSpace first = false := by
    have visible := (Scan.gap_cons_eq_zero_iff.mp no_gap).1
    simpa [Text.isBlank, inside] using visible
  refine List.forall_mem_cons.mpr ⟨clear, ?_⟩
  cases Reading.isRead_of_ofText read with
  | newline newline => exact absurd newline inside
  | punctuation =>
      obtain rfl := List.eq_nil_of_length_eq_zero (Nat.succ.inj width).symm
      simp
  | @operator tail found =>
      obtain ⟨behind, rfl, -⟩ := Scan.exists_of_operatorTail? found
      have nothing : behind = [] := by simpa [Reading.verbatim] using width
      have known : (Scan.operators.flatMap String.toList).any Text.isWhiteSpace = false := by
        decide
      rw [nothing, List.append_nil]
      intro c member
      exact Reading.eq_false_of_mem_operator found known (List.mem_cons_of_mem first member)
  | text read => exact absurd (Reading.kind_of_readString read) no_text
  | word read =>
      rw [Scan.width_of_readWord read, Nat.add_right_cancel_iff] at width
      rw [← (List.takeWhile_prefix Scan.isWordCharacter).eq_of_length width]
      intro c member
      exact Scan.isWhiteSpace_eq_false_of_isWordCharacter (List.mem_takeWhile_imp member)

/-- No lexeme is written as the end of a file is named. -/
theorem Spelled.source_ne_endOfFile (spelled : lexeme.Spelled characters) :
    lexeme.source ≠ "end of file" := by
  intro named
  by_cases text : lexeme.kind = .text
  · rw [source_of_text text] at named
    have quoted := toList_quotedText lexeme.value
    rw [named] at quoted
    exact absurd (List.cons.inj quoted).1 (by decide)
  by_cases newline : lexeme.kind = .newline
  · obtain ⟨value, kind, radix, args, span, location⟩ := lexeme
    obtain rfl : kind = .newline := newline
    simp [source] at named
  · have blank : ' ' ∈ characters := by
      rw [← spelled.source_eq text newline, named]
      decide
    exact absurd (spelled.isWhiteSpace_eq_false text newline ' ' blank) (by decide)

end Lexeme

namespace Scan.Tile

variable {file : String} {text : List Char} {tile : Tile}

/-- The number of characters up to the end of the lexeme. -/
def stop (tile : Tile) : Nat := tile.start + tile.lexeme.span.toNat

private theorem take_stop (tile : Tile) (text : List Char) :
    text.take tile.stop = text.take tile.start ++ tile.characters text :=
  List.take_add ..

theorem Fits.length_characters (fits : tile.Fits file text) :
    ((tile.characters text).length : Int) = tile.lexeme.span := by
  have span_pos := fits.span_pos
  have inside := fits.inside
  rw [characters, List.length_take, List.length_drop]
  omega

/-- The characters of a lexeme in a text are those it is spelled with. -/
theorem Fits.spelled (fits : tile.Fits file text) :
    tile.lexeme.Spelled (tile.characters text) := by
  have length := fits.length_characters
  obtain ⟨complete, lexemes_eq⟩ := result_eq_ok_iff.mp (fits.alone "")
  rw [ofText, String.toList_ofList] at complete lexemes_eq
  cases startingAt_step (Location.start "") (tile.characters text) with
  | done _ scanned => simp [scanned] at lexemes_eq
  | fault found => exact absurd complete found
  | @lexeme space further behind first reading text_eq _ no_gap read width scanned =>
      rw [scanned] at lexemes_eq
      obtain ⟨same, -⟩ := List.cons.inj lexemes_eq
      have placed : reading.place tile.lexeme.location = tile.lexeme := by
        generalize tile.lexeme = lexeme at same ⊢
        cases lexeme with
        | mk value kind radix args span location =>
            exact congrArg (fun other : Lexeme => { other with location }) same
      have whole : tile.characters text = first :: further := by
        rw [← placed, Reading.span_place, width, text_eq, List.length_append, List.length_append,
          List.length_cons] at length
        have no_space : space = [] := List.eq_nil_of_length_eq_zero (by omega)
        have nothing : behind = [] := List.eq_nil_of_length_eq_zero (by omega)
        rw [text_eq, no_space, nothing, List.nil_append, List.append_nil]
      rw [whole, ← placed]
      exact .intro _ no_gap read width

/-- The position given behind a lexeme is the right one exactly when its characters hold no line
feed and the column is a signed 64-bit number. -/
theorem Fits.after_eq_iff (fits : tile.Fits file text) :
    tile.lexeme.after = Location.ofIndex file text tile.stop ↔
      '\n' ∉ tile.characters text ∧ (Location.ofIndex file text tile.stop).col < 2 ^ 63 := by
  have span_pos := fits.span_pos
  have length := fits.length_characters
  have after_eq : tile.lexeme.after = ⟨file, 1 + (text.take tile.start).count '\n',
      Numeral.wrap (1 + (Location.lastLine (text.take tile.start)).length + tile.lexeme.span)⟩ := by
    rw [Lexeme.after, if_neg (by omega), Location.right, fits.file, fits.row, fits.col]
  rw [after_eq, Location.ofIndex, take_stop, Location.mk.injEq, List.count_append]
  by_cases feed : '\n' ∈ tile.characters text
  · -- The position given is on the row where the lexeme starts.
    have below : 0 < (tile.characters text).count '\n' := List.count_pos_iff.mpr feed
    refine iff_of_false (fun same => ?_) fun right => right.1 feed
    have row := same.2.1
    omega
  · obtain ⟨column, column_eq⟩ := Int.eq_ofNat_of_zero_le
      (show 0 ≤ 1 + ((Location.lastLine (text.take tile.start)).length : Int) +
        tile.lexeme.span by omega)
    have counted : 1 + ((Location.lastLine (text.take tile.start) ++
        tile.characters text).length : Int) = column := by
      rw [List.length_append]
      push_cast
      omega
    rw [Location.lastLine_append_of_no_newline _ feed, List.count_eq_zero.mpr feed, counted,
      column_eq, Numeral.wrap_natCast_eq_iff]
    simp only [feed, not_false_eq_true, true_and, add_zero]
    omega

end Scan.Tile

/-- Every lexeme of a file stands at its place in the text. -/
theorem Scan.exists_fits_of_mem {file text : String} {lexemes : List Lexeme} {lexeme : Lexeme}
    (scanned : Lexeme.scan file text = .ok lexemes) (member : lexeme ∈ lexemes) :
    ∃ tile : Tile, tile.lexeme = lexeme ∧ tile.Fits file text.toList := by
  obtain ⟨complete, rfl⟩ := result_eq_ok_iff.mp scanned
  obtain ⟨tiles, lexemes_eq, tiled⟩ := exists_tiles_behind file [] text.toList complete
  change tiles.map Tile.lexeme = (ofText file text).lexemes at lexemes_eq
  rw [← lexemes_eq] at member
  obtain ⟨tile, tile_member, rfl⟩ := List.mem_map.mp member
  exact ⟨tile, rfl, tiled.fits tile tile_member⟩

/-! ## The lexemes that are taken -/

namespace Statement

/-- The lexemes behind some progress that are read before one of them is refused. -/
def takenFrom : Option Progress → List Lexeme → List Lexeme
  | _, [] => []
  | state, lexeme :: rest =>
      match groupStep state lexeme with
      | .ok (_, next) => lexeme :: takenFrom next rest
      | .error _ => []

/-- The lexemes that are read before one of them is refused. -/
def taken (lexemes : List Lexeme) : List Lexeme := takenFrom none lexemes

theorem isPrefix_takenFrom (state : Option Progress) (lexemes : List Lexeme) :
    takenFrom state lexemes <+: lexemes := by
  induction lexemes generalizing state with
  | nil => exact List.nil_prefix
  | cons lexeme rest induction =>
      unfold takenFrom
      split
      · exact (List.prefix_cons_inj lexeme).mpr (induction _)
      · exact List.nil_prefix

/-- The statement cannot go on with the lexeme. -/
inductive Refuses (lexeme : Lexeme) : Cause → Prop
  | unexpectedSource : Refuses lexeme (.unexpectedSource lexeme.source)
  | operatorExpected : Refuses lexeme (.operatorExpected lexeme.kind)
  | closureUnclosed : Refuses lexeme (.closureUnclosed lexeme.source)

/-- How grouping fails between the lexemes taken and the next one. -/
inductive Fails (taken : List Lexeme) (next : Option Lexeme) : Fault → Prop
  /-- The next lexeme is refused in its place. -/
  | refused {lexeme : Lexeme} {cause : Cause} :
      next = some lexeme → Refuses lexeme cause →
        Fails taken next (.located lexeme.location cause)
  /-- The statement ends early, behind the last lexeme taken. -/
  | ended {last : Lexeme} {cause : Cause} :
      taken.getLast? = some last → last.kind ≠ .newline →
        (cause = .operandMissing → last.kind ≠ .text) →
        Fails taken next (.located last.after cause)

namespace Progress

/-- What is known of some progress behind the lexemes taken. -/
structure Behind (taken : List Lexeme) (progress : Progress) : Prop where
  last : taken.getLast? = some progress.last
  inside : progress.last.kind ≠ .newline
  operand : ∀ pending, progress.need = .operand pending → progress.last.kind ≠ .text

variable {progress : Progress} {front : List Lexeme} {lexeme : Lexeme}

/-- Behind an operand no other one must follow. -/
theorem behind_accept (inside : lexeme.kind ≠ .newline) (operand : Lexeme)
    (pending : List Pending) :
    (progress.accept lexeme operand pending).Behind (front ++ [lexeme]) := by
  refine ⟨?_, ?_, ?_⟩
  · rw [last_accept, List.getLast?_concat]
  · rwa [last_accept]
  · rcases pending with _ | ⟨_ | _, _⟩ <;> simp [accept, await]

theorem behind_await {need : Need} (inside : lexeme.kind ≠ .newline)
    (no_text : lexeme.kind ≠ .text) :
    (progress.await lexeme need).Behind (front ++ [lexeme]) :=
  ⟨List.getLast?_concat .., inside, fun _ _ => no_text⟩

/-- What one step gives, and how it fails. -/
abbrev Advances (front : List Lexeme) (lexeme : Lexeme) :
    Except Fault (Option Statement × Option Progress) → Prop :=
  Outcome.Lands (Fails front (some lexeme))
    (fun step => ∀ next ∈ step.2, next.Behind (front ++ [lexeme]))

private theorem advances_operand (progress : Progress) (pending : List Pending) :
    Advances front lexeme
      ((progress.operand pending lexeme).map fun next => (none, some next)) := by
  unfold operand
  split
  · next kind => exact .ok (by simpa using behind_accept (by simp [kind]) lexeme pending)
  · next kind => exact .ok (by simpa using behind_accept (by simp [kind]) lexeme pending)
  · next kind => exact .ok (by simpa using behind_accept (by simp [kind]) lexeme pending)
  · split_ifs with opens
    · have kind := Lexeme.kind_of_is opens
      exact .ok (by simpa using behind_await (by simp [kind]) (by simp [kind]))
    · exact .error (.refused rfl .unexpectedSource)

theorem Behind.advances_step (behind : progress.Behind front) :
    Advances front lexeme (progress.step lexeme) := by
  unfold step
  split
  · split_ifs
    · exact .ok (by simp)
    · exact .ok (by simp)
    · exact progress.advances_operand []
  · next need =>
      split_ifs
      · exact .error (.ended behind.last behind.inside fun _ => behind.operand [] need)
      · exact progress.advances_operand []
  · exact progress.advances_operand _
  · split_ifs with kind
    · exact .ok (by simpa using behind_await (by simp [kind]) (by simp [kind]))
    · exact .error (.refused rfl .operatorExpected)
  · split_ifs with closes
    · have kind := Lexeme.kind_of_is closes
      exact .ok (by simpa using behind_accept (by simp [kind]) _ _)
    · exact .error (.refused rfl .closureUnclosed)
  · split_ifs with newline comma
    · exact .ok (by simp)
    · have kind := Lexeme.kind_of_is comma
      exact .ok (by simpa using behind_await (by simp [kind]) (by simp [kind]))
    · exact .error (.refused rfl .unexpectedSource)

theorem Behind.lands_finish (behind : progress.Behind front) :
    Outcome.Lands (Fails front none) (fun _ => True) progress.finish := by
  unfold finish
  split
  · exact .ok trivial
  · exact .ok trivial
  · next need => exact .error (.ended behind.last behind.inside fun _ => behind.operand _ need)
  · exact .error (.ended behind.last behind.inside (by simp))
  · exact .error (.ended behind.last behind.inside (by simp))

end Progress

private theorem advances_groupStep {state : Option Progress} {front : List Lexeme}
    (behind : ∀ progress ∈ state, progress.Behind front) (lexeme : Lexeme) :
    Progress.Advances front lexeme (groupStep state lexeme) := by
  cases state with
  | some progress => exact (behind progress rfl).advances_step
  | none =>
      dsimp only [groupStep]
      split_ifs with newline kind
      · exact .ok (by simp)
      · refine .ok fun next found => ?_
        obtain rfl := Option.some.inj found
        exact ⟨List.getLast?_concat .., newline, by simp [Progress.ofName]⟩
      · exact .error (.refused rfl .unexpectedSource)

private theorem lands_groupFrom {state : Option Progress} {front lexemes : List Lexeme}
    (behind : ∀ progress ∈ state, progress.Behind front) :
    Outcome.Lands
      (Fails (front ++ takenFrom state lexemes) (lexemes[(takenFrom state lexemes).length]?))
      (fun _ => True) (groupFrom state lexemes) := by
  -- The induction is on what is left; `front` are the lexemes taken so far.
  induction lexemes generalizing state front with
  | nil =>
      rw [takenFrom, List.append_nil]
      cases state with
      | none => exact .ok trivial
      | some progress => exact (behind progress rfl).lands_finish.map fun _ _ => trivial
  | cons lexeme rest induction =>
      have advances := advances_groupStep behind lexeme
      rw [groupFrom_cons, takenFrom]
      cases read : groupStep state lexeme with
      | error fault =>
          rw [read] at advances
          cases advances with
          | error fails =>
              rw [List.append_nil]
              exact .error fails
      | ok step =>
          rw [read] at advances
          cases advances with
          | ok next_behind =>
              have later := induction next_behind
              rw [List.append_assoc, List.singleton_append] at later
              exact later.bind fun _ _ => .ok trivial

/-! ## Early ends -/

/-- A statement of the lexemes ends too early: an operand is missing, or an operator or a closing
parenthesis where all lexemes are taken. -/
inductive EndsEarly (lexemes : List Lexeme) : Cause → Prop
  | operandMissing : EndsEarly lexemes .operandMissing
  | operatorExpected {kind : Lexeme.Kind} :
      taken lexemes = lexemes → EndsEarly lexemes (.operatorExpected kind)
  | closureUnclosed : EndsEarly lexemes (.closureUnclosed "end of file")

private theorem exists_last_of_endsEarly {lexemes : List Lexeme} {location : Location}
    {cause : Cause} (spelled : ∀ lexeme ∈ lexemes, ∃ characters, lexeme.Spelled characters)
    (fails : group lexemes = .error (.located location cause)) (early : EndsEarly lexemes cause) :
    ∃ last ∈ lexemes, (taken lexemes).getLast? = some last ∧ location = last.after ∧
      last.kind ≠ .newline ∧ (cause = .operandMissing → last.kind ≠ .text) := by
  have unread : ∀ progress ∈ (none : Option Progress), progress.Behind [] := by simp
  have lands : Outcome.Lands (Fails (taken lexemes) (lexemes[(taken lexemes).length]?))
      (fun _ => True) (group lexemes) :=
    lands_groupFrom unread
  rw [fails] at lands
  cases lands with
  | error failed =>
      cases failed with
      | @ended last _ is_last inside no_text =>
          have member := (isPrefix_takenFrom none lexemes).subset (List.mem_of_getLast? is_last)
          exact ⟨last, member, is_last, rfl, inside, no_text⟩
      | @refused lexeme _ next refuses =>
          cases refuses with
          | unexpectedSource => cases early
          | operatorExpected =>
              cases early with
              | operatorExpected all => simp [all] at next
          | closureUnclosed =>
              obtain ⟨characters, spelled⟩ := spelled lexeme (List.mem_of_getElem? next)
              generalize source : lexeme.source = written at early
              cases early
              exact absurd source spelled.source_ne_endOfFile

/-- How an early end is reported behind a lexeme of a text. -/
structure ReportedBehind (file : String) (text : List Char) (tile : Scan.Tile) (cause : Cause)
    (location : Location) : Prop where
  fits : tile.Fits file text
  /-- The row is the one where the lexeme starts, and columns are counted on from there. -/
  place : location = tile.lexeme.location.right tile.lexeme.span
  /-- This is the position behind the lexeme exactly when it holds no line feed and the column is a
  signed 64-bit number. -/
  right_iff : location = Location.ofIndex file text tile.stop ↔
    '\n' ∉ tile.characters text ∧ (Location.ofIndex file text tile.stop).col < 2 ^ 63
  /-- Only a string holds a line feed, and no operand is missing behind one. -/
  string : '\n' ∈ tile.characters text → tile.lexeme.kind = .text ∧ cause ≠ .operandMissing

/-- Every early end in a file is reported behind the last lexeme taken. -/
theorem reportedBehind_of_endsEarly {file text : String} {lexemes : List Lexeme}
    {location : Location} {cause : Cause} (scanned : Lexeme.scan file text = .ok lexemes)
    (fails : group lexemes = .error (.located location cause))
    (early : EndsEarly lexemes cause) :
    ∃ tile : Scan.Tile, (taken lexemes).getLast? = some tile.lexeme ∧
      ReportedBehind file text.toList tile cause location := by
  obtain ⟨last, member, is_last, rfl, inside, no_text⟩ :=
    exists_last_of_endsEarly (Lexeme.spelled_of_scan scanned) fails early
  obtain ⟨tile, rfl, fits⟩ := Scan.exists_fits_of_mem scanned member
  have span_pos := fits.span_pos
  refine ⟨tile, is_last, fits, ?_, fits.after_eq_iff, fun feed => ?_⟩
  · rw [Lexeme.after, if_neg (by omega)]
  · have string : tile.lexeme.kind = .text := by
      by_contra other
      have clear := fits.spelled.isWhiteSpace_eq_false other inside '\n' feed
      exact absurd clear (by decide)
    exact ⟨string, fun missing => no_text missing string⟩

/-- A closure that is open at the end of the second row. -/
def openClosure : String := "nop\n\tdb 'a\\n', (\"b\" << 0x2F"

theorem reportedBehind_of_endsEarly_openClosure :
    ∃ lexemes, Lexeme.scan "a.s" openClosure = .ok lexemes ∧
      group lexemes = .error (.located ⟨"a.s", 2, 24⟩ (.closureUnclosed "end of file")) ∧
      EndsEarly lexemes (.closureUnclosed "end of file") ∧
      ∃ tile : Scan.Tile, (taken lexemes).getLast? = some tile.lexeme ∧
        ReportedBehind "a.s" openClosure.toList tile (.closureUnclosed "end of file")
          ⟨"a.s", 2, 24⟩ := by
  have evaluated : (Lexeme.scan "a.s" openClosure).map
      (fun lexemes => (group lexemes).map fun _ => ()) =
      .ok (.error (.located ⟨"a.s", 2, 24⟩ (.closureUnclosed "end of file"))) := by
    decide +kernel
  obtain ⟨lexemes, scanned, refused⟩ := Success.map_eq_ok.mp evaluated
  have fails := Success.map_eq_error.mp refused
  exact ⟨lexemes, scanned, fails, .closureUnclosed,
    reportedBehind_of_endsEarly scanned fails .closureUnclosed⟩

/-- A string over two rows in an open closure. -/
def openString : String := "db (\"a\nb\""

/-- The end of the second row is reported as one of the first. -/
theorem early_end_on_first_row :
    ∃ lexemes, Lexeme.scan "a.s" openString = .ok lexemes ∧ taken lexemes = lexemes ∧
      group lexemes = .error (.located ⟨"a.s", 1, 10⟩ (.operatorExpected .newline)) ∧
      ∃ tile : Scan.Tile, lexemes.getLast? = some tile.lexeme ∧
        tile.Fits "a.s" openString.toList ∧
        Location.ofIndex "a.s" openString.toList tile.stop = ⟨"a.s", 2, 3⟩ := by
  have evaluated : (Lexeme.scan "a.s" openString).map
      (fun lexemes => ((group lexemes).map fun _ => (), (taken lexemes).length, lexemes.length,
        lexemes.getLast?.map fun last => (last.location, last.span))) =
      .ok (.error (.located ⟨"a.s", 1, 10⟩ (.operatorExpected .newline)), 3, 3,
        some (⟨"a.s", 1, 5⟩, 5)) := by
    decide +kernel
  obtain ⟨lexemes, scanned, observed⟩ := Success.map_eq_ok.mp evaluated
  obtain ⟨refused, taken_length, length, last⟩ := by simpa only [Prod.mk.injEq] using observed
  obtain ⟨last, is_last, placed⟩ := Option.map_eq_some_iff.mp last
  obtain ⟨tile, rfl, fits⟩ := Scan.exists_fits_of_mem scanned (List.mem_of_getLast? is_last)
  have all : taken lexemes = lexemes :=
    (isPrefix_takenFrom none lexemes).eq_of_length (taken_length.trans length.symm)
  have stop : tile.stop = 9 := by
    have only : ∀ start ≤ 9, (openString.toList.take start).count '\n' = 0 →
        (Location.lastLine (openString.toList.take start)).length = 4 → start = 4 := by
      decide
    obtain ⟨location, span⟩ := Prod.mk.inj placed
    have row : (1 : Int) = 1 + _ := location ▸ fits.row
    have col : (5 : Int) = 1 + _ := location ▸ fits.col
    have inside := fits.inside
    have size : openString.toList.length = 9 := by decide
    have start := only tile.start (by omega) (by omega) (by omega)
    rw [Scan.Tile.stop, start, span]
    rfl
  refine ⟨lexemes, scanned, all, Success.map_eq_error.mp refused, tile, is_last, fits, ?_⟩
  rw [stop]
  decide

end Statement
end TableAssembler
