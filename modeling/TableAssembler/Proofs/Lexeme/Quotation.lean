import TableAssembler.Proofs.Lexeme.Lines
import TableAssembler.Proofs.Success

/-!
# Quoted strings read again

A string is written between double quotes, with an escape for every character that has no visible
form.  Strings know fewer escapes than are written: of the characters without a visible form only
the line feed is read back, and the first other one is where the scan of the written string fails.
-/

namespace TableAssembler

namespace Location

/-- Characters of one row are counted by the column. -/
theorem advance_start_of_no_newline (file : String) {text : List Char} (row : '\n' ∉ text) :
    (start file).advance text = ⟨file, 1, 1 + text.length⟩ := by
  have no_feed : text.count '\n' = 0 := List.count_eq_zero.mpr row
  have whole : lastLine text = text := by
    rw [lastLine, List.rtakeWhile_eq_self_iff]
    intro c member
    rw [bne_iff_ne]
    rintro rfl
    exact row member
  have advanced_row := row_advance (start file) text
  have advanced_col := col_advance_start file text
  rw [no_feed] at advanced_row
  rw [whole] at advanced_col
  have advanced_file := file_advance (start file) text
  generalize (start file).advance text = location at *
  obtain ⟨_, _, _⟩ := location
  simp_all [start]

end Location

/-! ## Written characters -/

namespace Quoted

/-- The character is read back from the way it is written in a string. -/
def isLegible (c : Char) : Bool := Text.isGraphic c || c == '\n'

/-- How a legible character is written. -/
inductive Shows : Char → List Char → Prop
  | mark {c : Char} : c = '"' ∨ c = '\\' → Shows c ['\\', c]
  | feed : Shows '\n' ['\\', 'n']
  /-- Any other character stands for itself. -/
  | plain {c : Char} : c ≠ '"' → c ≠ '\\' → c ≠ '\n' → Shows c [c]

theorem shows_escape {c : Char} (legible : isLegible c = true) : Shows c (escape '"' c) := by
  unfold escape
  split_ifs with marked graphic
  · exact .mark marked
  · obtain ⟨no_quote, no_backslash⟩ := not_or.mp marked
    refine .plain no_quote no_backslash ?_
    rintro rfl
    exact absurd graphic (by decide)
  · obtain rfl : c = '\n' := by simpa [isLegible, graphic] using legible
    exact .feed

/-- What is not legible is written with a backslash and a character that has no escape. -/
theorem exists_escape_of_not_isLegible {c : Char} (illegible : isLegible c = false) :
    ∃ letter digits, escape '"' c = '\\' :: letter :: digits ∧ Scan.unescape? letter = none := by
  obtain ⟨invisible, no_feed⟩ : Text.isGraphic c = false ∧ c ≠ '\n' := by
    simpa [isLegible] using illegible
  unfold escape
  split_ifs with marked graphic
  · rcases marked with rfl | rfl <;> exact absurd invisible (by decide)
  · simp [invisible] at graphic
  cases control : controlLetter? c with
  | some letter =>
      refine ⟨letter, [], rfl, ?_⟩
      unfold controlLetter? at control
      split at control
      case h_4 feed => exact absurd (Char.toNat_inj.mp feed) no_feed
      case h_8 => contradiction
      all_goals
        obtain rfl := Option.some.inj control
        rfl
  | none =>
      dsimp only [codePoint]
      split_ifs
      · exact ⟨'x', _, rfl, rfl⟩
      · exact ⟨'u', _, rfl, rfl⟩
      · exact ⟨'U', _, rfl, rfl⟩

/-- The written form of legible characters stands on one row. -/
theorem newline_not_mem_flatMap_escape {front : List Char}
    (legible : ∀ c ∈ front, isLegible c = true) : '\n' ∉ front.flatMap (escape '"') := by
  intro member
  obtain ⟨c, inside, feed⟩ := List.mem_flatMap.mp member
  have shows := shows_escape (legible c inside)
  generalize escape '"' c = written at shows feed
  cases shows with
  | mark marked => rcases marked with rfl | rfl <;> exact absurd feed (by decide)
  | feed => exact absurd feed (by decide)
  | plain _ _ no_feed => exact no_feed (List.mem_singleton.mp feed).symm

end Quoted

/-! ## Written strings -/

namespace Scan

/-- A body with more values before it, read from `width` characters. -/
def StringBody.behind (values : List Char) (width : Nat) : StringBody → StringBody
  | .closed further inner => .closed (values ++ further) (width + inner)
  | .unterminated => .unterminated
  | .unknownEscape offset c => .unknownEscape (width + offset) c

theorem StringBody.behind_nil (body : StringBody) : body.behind [] 0 = body := by
  cases body <;> simp [behind]

theorem StringBody.cons_behind (body : StringBody) (value : Char) (values : List Char)
    (width further : Nat) :
    (body.behind values further).cons value width =
      body.behind (value :: values) (width + further) := by
  cases body <;> simp [behind, cons, Nat.add_assoc]

private theorem stringBody_escape_append {c : Char} (legible : Quoted.isLegible c = true)
    (rest : List Char) :
    stringBody '"' (Quoted.escape '"' c ++ rest) =
      (stringBody '"' rest).cons c (Quoted.escape '"' c).length := by
  have shows := Quoted.shows_escape legible
  generalize Quoted.escape '"' c = written at shows ⊢
  cases shows with
  | mark marked => rcases marked with rfl | rfl <;> rfl
  | feed => rfl
  | plain no_quote no_backslash =>
      rw [List.singleton_append, stringBody_cons_of_ne no_backslash, if_neg no_quote]
      rfl

/-- Legible characters are read back one by one. -/
theorem stringBody_flatMap_escape_append {front : List Char}
    (legible : ∀ c ∈ front, Quoted.isLegible c = true) (rest : List Char) :
    stringBody '"' (front.flatMap (Quoted.escape '"') ++ rest) =
      (stringBody '"' rest).behind front (front.flatMap (Quoted.escape '"')).length := by
  induction front with
  | nil => exact (StringBody.behind_nil _).symm
  | cons c front induction =>
      obtain ⟨first, others⟩ := List.forall_mem_cons.mp legible
      rw [List.flatMap_cons, List.append_assoc, stringBody_escape_append first, induction others,
        StringBody.cons_behind, List.length_append]

/-- A double quote starts a string. -/
theorem ofText_quote (rest : List Char) : Reading.ofText '"' rest = readString '"' rest := by
  simp [Reading.ofText, punctuation, operatorTail?, shortOperators]

private theorem readString_of_closed {quote : Char} {rest value : List Char} {width : Nat}
    (closed : stringBody quote rest = .closed value width) :
    readString quote rest =
      .ok { kind := .text, value, width := width + 1, width_pos := Nat.succ_pos width } := by
  simp only [readString, closed]

theorem gap_quote (rest : List Char) : gap ('"' :: rest) = 0 :=
  gap_cons_eq_zero_iff.mpr ⟨rfl, by simp⟩

private theorem drop_gap_quote (rest : List Char) :
    ('"' :: rest).drop (gap ('"' :: rest)) = '"' :: rest := by
  rw [gap_quote, List.drop_zero]

end Scan

namespace Lexeme

variable {value : String}

theorem toList_quotedText (value : String) :
    (Quoted.text value).toList = '"' :: (value.toList.flatMap (Quoted.escape '"') ++ ['"']) := by
  simp [Quoted.text]

theorem scan_quotedText (legible : ∀ c ∈ value.toList, Quoted.isLegible c = true)
    (file : String) :
    scan file (Quoted.text value) =
      .ok [{ value, kind := .text, span := (Quoted.text value).length, location := .start file }]
      := by
  have body : Scan.stringBody '"' (value.toList.flatMap (Quoted.escape '"') ++ ['"']) =
      .closed value.toList ((value.toList.flatMap (Quoted.escape '"')).length + 1) := by
    rw [Scan.stringBody_flatMap_escape_append legible]
    simp [Scan.stringBody, Scan.StringBody.behind]
  have read := (Scan.ofText_quote _).trans (Scan.readString_of_closed body)
  have length : (Quoted.text value).length =
      (value.toList.flatMap (Quoted.escape '"')).length + 1 + 1 := by
    rw [← String.length_toList, toList_quotedText, List.length_cons, List.length_append,
      List.length_singleton]
  rw [scan, Scan.ofText, toList_quotedText,
    Scan.startingAt_alone _ (Scan.gap_quote _) read (by rw [List.length_append]; rfl), length]
  simp [Scan.result, Reading.place]

private theorem scan_quotedText_eq_error {front back : List Char} {c : Char}
    (split : value.toList = front ++ c :: back)
    (legible : ∀ c ∈ front, Quoted.isLegible c = true) (illegible : Quoted.isLegible c = false)
    (file : String) :
    ∃ letter, scan file (Quoted.text value) =
      .error (.located ⟨file, 1, 2 + (front.flatMap (Quoted.escape '"')).length⟩
        (.unknownEscape letter)) := by
  obtain ⟨letter, digits, written, unknown⟩ := Quoted.exists_escape_of_not_isLegible illegible
  refine ⟨letter, ?_⟩
  have ahead : (Quoted.text value).toList = '"' :: (front.flatMap (Quoted.escape '"') ++
      '\\' :: letter :: (digits ++ (back.flatMap (Quoted.escape '"') ++ ['"']))) := by
    rw [toList_quotedText, split, List.flatMap_append, List.flatMap_cons, written]
    simp
  generalize digits ++ (back.flatMap (Quoted.escape '"') ++ ['"']) = rest at ahead
  have read : Reading.ofText '"'
      (front.flatMap (Quoted.escape '"') ++ '\\' :: letter :: rest) =
      .error ⟨(front.flatMap (Quoted.escape '"')).length + 1, .unknownEscape letter⟩ := by
    rw [Scan.ofText_quote, Scan.readString, Scan.stringBody_flatMap_escape_append legible,
      Scan.stringBody, unknown]
    rfl
  have no_feed : '\n' ∉ '"' :: front.flatMap (Quoted.escape '"') := by
    simpa using Quoted.newline_not_mem_flatMap_escape legible
  have place := Location.advance_start_of_no_newline file no_feed
  rw [scan, Scan.ofText, ahead, Scan.startingAt_of_drop_eq_cons _ (Scan.drop_gap_quote _)]
  simp only [read, Scan.gap_quote, List.take_zero, Location.advance_nil, List.take_succ_cons,
    List.take_left, Scan.result]
  have column : (1 : Int) + (('"' :: front.flatMap (Quoted.escape '"')).length : Nat) =
      2 + (front.flatMap (Quoted.escape '"')).length := by
    rw [List.length_cons]
    omega
  rw [place, column]

theorem source_of_text {lexeme : Lexeme} (string : lexeme.kind = .text) :
    lexeme.source = Quoted.text lexeme.value := by
  obtain ⟨value, kind, radix, args, span, location⟩ := lexeme
  obtain rfl : kind = .text := string
  simp [source]

/-- A string reads back from its source exactly when all its characters are legible; otherwise the
first one that is not legible is refused where it is written. -/
theorem source_reads_back_iff {lexeme : Lexeme} (string : lexeme.kind = .text) (file : String) :
    ((∃ again, scan file lexeme.source = .ok [again] ∧ again.kind = .text ∧
          again.value = lexeme.value) ↔
        ∀ c ∈ lexeme.value.toList, Quoted.isLegible c = true) ∧
      ∀ front c back, lexeme.value.toList = front ++ c :: back →
        (∀ c ∈ front, Quoted.isLegible c = true) → Quoted.isLegible c = false →
        ∃ letter, scan file lexeme.source =
          .error (.located ⟨file, 1, 2 + (front.flatMap (Quoted.escape '"')).length⟩
            (.unknownEscape letter)) := by
  rw [source_of_text string]
  refine ⟨⟨?_, fun legible => ⟨_, scan_quotedText legible file, rfl, rfl⟩⟩, ?_⟩
  · rintro ⟨again, read, -, -⟩
    by_contra some_illegible
    push Not at some_illegible
    obtain ⟨c, found⟩ : ∃ c, lexeme.value.toList.find? (fun c => !Quoted.isLegible c) = some c := by
      rw [← Option.isSome_iff_exists, List.find?_isSome]
      simpa using some_illegible
    obtain ⟨illegible, front, back, split, legible⟩ := List.find?_eq_some_iff_append.mp found
    obtain ⟨letter, failed⟩ :=
      scan_quotedText_eq_error split (by simpa using legible) (by simpa using illegible) file
    rw [failed] at read
    contradiction
  · intro front c back split legible illegible
    exact scan_quotedText_eq_error split legible illegible file

/-- Both quotes, a backslash, a line feed and a letter outside ASCII, between single quotes. -/
def mixedString : String := "'\"\\\\\\n\\'é'"

theorem source_reads_back_iff_mixedString :
    ∃ lexeme, scan "s" mixedString = .ok [lexeme] ∧ lexeme.kind = .text ∧
      lexeme.value = "\"\\\n'é" ∧ lexeme.source = "\"\\\"\\\\\\n'é\"" ∧
      ∃ again, scan "t" lexeme.source = .ok [again] ∧ again.kind = .text ∧
        again.value = lexeme.value := by
  have evaluated : (scan "s" mixedString).map
      (fun lexemes => lexemes.map fun lexeme => (lexeme.kind, lexeme.value, lexeme.source)) =
      .ok [(.text, "\"\\\n'é", "\"\\\"\\\\\\n'é\"")] := by
    decide +kernel
  obtain ⟨lexemes, scanned, observed⟩ := Success.map_eq_ok.mp evaluated
  obtain ⟨lexeme, rfl, same⟩ := List.map_eq_singleton_iff.mp observed
  obtain ⟨kind, value, source⟩ : lexeme.kind = .text ∧ _ ∧ _ := by simpa using same
  refine ⟨lexeme, scanned, kind, value, source, ?_⟩
  have legible : lexeme.value.toList.all Quoted.isLegible = true := by
    rw [value]
    rfl
  exact (source_reads_back_iff kind "t").1.mpr (List.all_eq_true.mp legible)

/-- A string has an escape for the null character, which is not the one that is written. -/
theorem null_does_not_read_back :
    ∃ lexeme, scan "s" "\"\\0\"" = .ok [lexeme] ∧ lexeme.kind = .text ∧
      lexeme.source = "\"\\x00\"" ∧
      scan "t" lexeme.source = .error (.located ⟨"t", 1, 2⟩ (.unknownEscape 'x')) := by
  have evaluated : (scan "s" "\"\\0\"").map
      (fun lexemes => lexemes.map fun lexeme => (lexeme.kind, lexeme.source,
        (scan "t" lexeme.source).map fun _ => ())) =
      .ok [(.text, "\"\\x00\"", .error (.located ⟨"t", 1, 2⟩ (.unknownEscape 'x')))] := by
    decide +kernel
  obtain ⟨lexemes, scanned, observed⟩ := Success.map_eq_ok.mp evaluated
  obtain ⟨lexeme, rfl, same⟩ := List.map_eq_singleton_iff.mp observed
  obtain ⟨kind, source, failed⟩ : lexeme.kind = .text ∧ _ ∧ _ := by simpa using same
  exact ⟨lexeme, scanned, kind, source, Success.map_eq_error.mp failed⟩

end Lexeme
end TableAssembler
