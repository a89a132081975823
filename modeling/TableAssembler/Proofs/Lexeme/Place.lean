import TableAssembler.Proofs.Lexeme.Tiling
import TableAssembler.Proofs.Lexeme.WellFormed
import TableAssembler.Proofs.Text.Numeral

/-!
# The places of lexemes and of faults

A computation whose faults are found at some places gives no fault without a place, and does not
break down.  What goes wrong with the value of a well-formed operand is found at the place of a
lexeme in it, and what cannot be scanned is found in the text.
-/

namespace TableAssembler

/-- The fault is a cause that was found at one of some places. -/
def Fault.LiesIn (places : Location → Prop) (fault : Fault) : Prop :=
  ∃ location cause, fault = .located location cause ∧ places location

/-- The computation gives one of some results, or a fault that is found at one of some places. -/
abbrev Fault.FoundAt {α : Type} (places : Location → Prop) (results : α → Prop) :
    Except Fault α → Prop :=
  Outcome.Lands (Fault.LiesIn places) results

variable {places : Location → Prop}

theorem Fault.foundAt_located {α : Type} {results : α → Prop} {location : Location}
    {cause : Cause} (here : places location) :
    FoundAt places results (.error (.located location cause)) :=
  .error ⟨location, cause, rfl, here⟩

theorem Fault.foundAt_mapError {α : Type} {location : Location} (here : places location)
    (result : Except Cause α) :
    FoundAt places (fun _ => True) (result.mapError (.located location)) := by
  cases result with
  | ok value => exact .ok trivial
  | error cause => exact foundAt_located here

/-! ## Operands -/

namespace Lexeme

/-- The lexeme stands at one of some places, and so does everything in it. -/
inductive LiesIn (places : Location → Prop) : Lexeme → Prop
  | intro {lexeme : Lexeme} :
      places lexeme.location → (∀ arg ∈ lexeme.args, LiesIn places arg) → LiesIn places lexeme

variable {lexeme : Lexeme}

theorem LiesIn.location (lies : lexeme.LiesIn places) : places lexeme.location := by
  cases lies
  assumption

theorem LiesIn.args (lies : lexeme.LiesIn places) : ∀ arg ∈ lexeme.args, arg.LiesIn places := by
  cases lies
  assumption

theorem LiesIn.imp {further : Location → Prop} (lies : lexeme.LiesIn places)
    (weaker : ∀ location, places location → further location) : lexeme.LiesIn further := by
  induction lies with
  | intro here _ induction => exact .intro (weaker _ here) induction

theorem Scanned.liesIn (scanned : lexeme.Scanned) (here : places lexeme.location) :
    lexeme.LiesIn places :=
  .intro here (by simp [scanned.args])

theorem liesIn_ofWord (value : UInt64) {location : Location} (here : places location) :
    (ofWord value location).LiesIn places :=
  .intro here (by simp [ofWord])

/-- Names are replaced by what lies at such places. -/
theorem LiesIn.mapIdentifiers {change : Lexeme → Lexeme} (lies : lexeme.LiesIn places)
    (changes : ∀ identifier : Lexeme, identifier.LiesIn places →
      (change identifier).LiesIn places) :
    (lexeme.mapIdentifiers change).LiesIn places := by
  induction lies with
  | @intro lexeme here args induction =>
      by_cases identifier : lexeme.kind = .identifier
      · rw [mapIdentifiers_of_identifier identifier]
        exact changes lexeme (.intro here args)
      · by_cases closure : lexeme.kind = .closure
        · rw [mapIdentifiers_of_closure closure]
          exact .intro here (List.forall_mem_map.mpr induction)
        · rw [mapIdentifiers_of_other identifier closure]
          exact .intro here args

/-! ## Values -/

theorem foundAt_word (here : places lexeme.location) :
    Fault.FoundAt places (fun _ => True) lexeme.word := by
  unfold word
  split_ifs
  · split
    · exact .ok trivial
    · exact Fault.foundAt_located here
  · exact Fault.foundAt_located here

private theorem foundAt_compute {operator : Lexeme} (here : places operator.location)
    (left right : UInt64) :
    Fault.FoundAt places (fun _ => True) (Operation.compute operator left right) := by
  unfold Operation.compute
  split_ifs
  · split
    · split
      · exact .ok trivial
      · exact Fault.foundAt_located here
    · exact Fault.foundAt_located here
  · exact Fault.foundAt_located here

theorem LiesIn.foundAt_evaluate (lies : lexeme.LiesIn places) (wellFormed : lexeme.WellFormed) :
    Fault.FoundAt places (fun _ => True) lexeme.evaluate := by
  induction wellFormed with
  | @word lexeme word =>
      by_cases identifier : lexeme.kind = .identifier
      · have here := lies.location
        obtain ⟨value, kind, radix, args, span, location⟩ := lexeme
        obtain rfl : kind = .identifier := identifier
        exact Fault.foundAt_located here
      · rw [evaluate_eq_word identifier word.kind_ne_closure]
        exact foundAt_word lies.location
  | @closure lexeme left operator right closure args _ _ _ _ left_ih right_ih =>
      have operands := lies.args
      rw [args] at operands
      obtain ⟨value, _, radix, _, span, location⟩ := lexeme
      dsimp only at closure args
      subst closure args
      simp only [evaluate]
      refine (left_ih (operands left (by simp))).bind fun leftValue _ => ?_
      refine (right_ih (operands right (by simp))).bind fun rightValue _ => ?_
      exact foundAt_compute (operands operator (by simp)).location leftValue rightValue

/-- A closure is folded in its place. -/
theorem LiesIn.foundAt_fold (lies : lexeme.LiesIn places) (wellFormed : lexeme.WellFormed) :
    Fault.FoundAt places (LiesIn places) lexeme.fold := by
  unfold fold
  split_ifs
  · exact (lies.foundAt_evaluate wellFormed).map fun value _ =>
      liesIn_ofWord value lies.location
  · exact .ok lies

end Lexeme

/-! ## Text -/

/-- The place is on a row of the text of a file. -/
structure Location.OnRow (file : String) (text : List Char) (location : Location) : Prop where
  file : location.file = file
  row_pos : 1 ≤ location.row
  row_le : location.row ≤ 1 + text.count '\n'

/-- The place is in the text of a file, or just behind its end. -/
structure Location.InText (file : String) (text : List Char) (location : Location) : Prop
    extends location.OnRow file text where
  col_pos : 1 ≤ location.col

theorem Location.inText_advance (file : String) {front text : List Char}
    (is_front : front <+: text) : ((start file).advance front).InText file text := by
  have row_eq : ((start file).advance front).row = 1 + (front.count '\n' : Nat) :=
    row_advance _ _
  have count_le : front.count '\n' ≤ text.count '\n' := is_front.sublist.count_le _
  refine ⟨⟨file_advance _ _, ?_, ?_⟩, ?_⟩
  · omega
  · omega
  · rw [col_advance_start]
    omega

namespace Scan

/-- A scan fails at a place of its text. -/
theorem exists_prefix_of_fault {location : Location} {text : List Char} {fault : Fault}
    (found : (startingAt location text).fault? = some fault) :
    ∃ front cause, front <+: text ∧ fault = .located (location.advance front) cause := by
  induction text using text_induction generalizing location with
  | done text ahead => simp [startingAt_of_drop_eq_nil location ahead] at found
  | misread text first rest misreading ahead read =>
      rw [startingAt_of_drop_eq_cons location ahead, read] at found
      obtain rfl := Option.some.inj found
      refine ⟨text.take (gap text) ++ (first :: rest).take misreading.offset, misreading.cause,
        ?_, ?_⟩
      · conv_rhs => rw [← List.take_append_drop (gap text) text, ahead]
        exact (List.prefix_append_right_inj _).mpr (List.take_prefix _ _)
      · rw [Location.advance_append]
  | lexeme text first rest reading ahead read induction =>
      rw [startingAt_of_drop_eq_cons location ahead, read] at found
      obtain ⟨front, cause, is_front, rfl⟩ := induction found
      refine ⟨text.take (gap text) ++ ((first :: rest).take reading.width ++ front), cause, ?_, ?_⟩
      · conv_rhs => rw [← List.take_append_drop (gap text) text, ahead,
          ← List.take_append_drop reading.width (first :: rest)]
        exact (List.prefix_append_right_inj _).mpr ((List.prefix_append_right_inj _).mpr
          is_front)
      · rw [Location.advance_append, Location.advance_append]

variable {file : String} {text : List Char} {tile : Tile}

theorem Tile.Fits.inText (fits : tile.Fits file text) :
    tile.lexeme.location.InText file text := by
  have count_le : (text.take tile.start).count '\n' ≤ text.count '\n' :=
    (List.take_sublist _ _).count_le _
  have row := fits.row
  have col := fits.col
  exact ⟨⟨fits.file, by omega, by omega⟩, by omega⟩

/-- Just behind a lexeme there is a place on its row; only the columns of a text without end could
wrap around. -/
theorem Tile.Fits.after (fits : tile.Fits file text) :
    tile.lexeme.after.OnRow file text ∧
      (text.length + 1 < 2 ^ 63 → 1 ≤ tile.lexeme.after.col) := by
  have here := fits.inText
  refine ⟨⟨here.file, here.row_pos, here.row_le⟩, fun short => ?_⟩
  have span_pos := fits.span_pos
  have inside := fits.inside
  have col := fits.col
  have line_le : (Location.lastLine (text.take tile.start)).length ≤ tile.start :=
    (List.rtakeWhile_suffix _ _).length_le.trans (List.length_take_le _ _)
  have after_col : tile.lexeme.after.col =
      Numeral.wrap (tile.lexeme.location.col + tile.lexeme.span) := by
    rw [Lexeme.after, if_neg (by omega)]
    rfl
  rw [after_col, Numeral.wrap_eq_self (by omega) (by omega)]
  omega

end Scan

/-- The lexeme stands in a text, and has a place behind it. -/
structure Lexeme.InText (file : String) (text : List Char) (lexeme : Lexeme) : Prop where
  scanned : lexeme.Scanned
  location : lexeme.location.InText file text
  after : lexeme.after.OnRow file text
  after_col : text.length + 1 < 2 ^ 63 → 1 ≤ lexeme.after.col

/-- A text is scanned into lexemes that stand in it, or something is wrong in it. -/
theorem Lexeme.foundAt_scan (file text : String) :
    Fault.FoundAt (Location.InText file text.toList)
      (fun lexemes => ∀ lexeme ∈ lexemes, lexeme.InText file text.toList)
      (scan file text) := by
  cases result : scan file text with
  | ok lexemes =>
      have scanned := scanned_of_scan result
      obtain ⟨complete, rfl⟩ := Scan.result_eq_ok_iff.mp result
      obtain ⟨tiles, lexemes_eq, tiled⟩ := Scan.exists_tiles_behind file [] text.toList complete
      change tiles.map Scan.Tile.lexeme = (Scan.ofText file text).lexemes at lexemes_eq
      rw [← lexemes_eq] at scanned ⊢
      refine .ok fun lexeme member => ?_
      obtain ⟨tile, tile_member, rfl⟩ := List.mem_map.mp member
      have fits := tiled.fits tile tile_member
      exact ⟨scanned _ member, fits.inText, fits.after.1, fits.after.2⟩
  | error fault =>
      have found : (Scan.ofText file text).fault? = some fault := by
        unfold scan Scan.result at result
        split at result
        · next other found => rw [found, Except.error.inj result]
        · contradiction
      obtain ⟨front, cause, is_front, rfl⟩ := Scan.exists_prefix_of_fault found
      exact Fault.foundAt_located (Location.inText_advance file is_front)

end TableAssembler
