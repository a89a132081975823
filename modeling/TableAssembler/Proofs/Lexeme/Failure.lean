import TableAssembler.Proofs.Lexeme.Culprit
import TableAssembler.Proofs.Lexeme.Tiling

/-!
# Where a scan fails

A scan fails at one lexeme, and its fault stands at the character that keeps the lexeme from being
read.  What stands in front of the lexeme is scanned on its own into the lexemes that the scan has
kept, and the lexeme does not start in the middle of a word.
-/

namespace TableAssembler
namespace Scan

variable {first : Char} {text rest space front further behind middle ahead : List Char}
  {reading : Reading}

/-! ## Less text behind a lexeme -/

theorem taken_of_readWord (read : readWord first (further ++ behind) = .ok reading)
    (width : reading.width = further.length + 1) :
    (further ++ behind).takeWhile isWordCharacter = further := by
  have length := width_of_readWord read
  have shorter : (further ++ behind).takeWhile isWordCharacter <+: further :=
    List.prefix_of_prefix_length_le (List.takeWhile_prefix _) (List.prefix_append _ _) (by omega)
  exact shorter.eq_of_length (by omega)

private theorem readWord_of_isPrefix (read : readWord first (further ++ behind) = .ok reading)
    (width : reading.width = further.length + 1) (is_front : middle <+: behind) :
    readWord first (further ++ middle) = .ok reading := by
  have taken := taken_of_readWord read width
  obtain ⟨kept, stops⟩ := Text.keeps_of_takeWhile_eq taken
  have taken_again : (further ++ middle).takeWhile isWordCharacter = further := by
    refine Text.takeWhile_append_eq kept fun c head => ?_
    obtain ⟨back, rfl⟩ := is_front
    exact stops c (by rw [List.head?_append, Option.mem_def.mp head]; rfl)
  unfold readWord at read ⊢
  rw [taken] at read
  rwa [taken_again]

theorem readString_of_isPrefix {quote : Char}
    (read : readString quote (further ++ behind) = .ok reading)
    (width : reading.width = further.length + 1) (middle : List Char) :
    readString quote (further ++ middle) = .ok reading := by
  obtain ⟨taken, others, split, taken_width, again⟩ := takesOnly_readString read
  obtain ⟨rfl, -⟩ := List.append_inj split (by omega)
  unfold readString at again ⊢
  split at again
  · next closed => rwa [stringBody_append closed]
  · contradiction
  · contradiction

/-- A lexeme stays as it is when the text behind it is cut off somewhere. -/
theorem ofText_of_isPrefix (read : Reading.ofText first (further ++ behind) = .ok reading)
    (width : reading.width = further.length + 1) (is_front : middle <+: behind) :
    Reading.ofText first (further ++ middle) = .ok reading := by
  unfold Reading.ofText at read ⊢
  split at read
  · next newline => rwa [if_pos newline]
  next newline =>
  rw [if_neg newline]
  split at read
  · next mark => rwa [if_pos mark]
  next mark =>
  rw [if_neg mark]
  split at read
  · next found =>
      obtain ⟨others, split, again⟩ := exists_of_operatorTail? found
      obtain rfl := Except.ok.inj read
      obtain ⟨rfl, -⟩ := List.append_inj split (Nat.succ.inj width).symm
      rw [operatorTail?_append again]
  · next absent =>
      have absent_again : operatorTail? first (further ++ middle) = none := by
        obtain ⟨back, rfl⟩ := is_front
        rw [← List.append_assoc] at absent
        exact operatorTail?_eq_none_of_append absent
      rw [absent_again]
      dsimp only
      split_ifs at read ⊢
      · exact readString_of_isPrefix read width middle
      · exact readWord_of_isPrefix read width is_front

/-- A gap ends where no gap is left. -/
theorem IsGap.gap_append (isGap : IsGap space rest) (no_gap : gap rest = 0) :
    gap (space ++ rest) = space.length := by
  cases isGap with
  | blanks blank => rw [gap_blanks_append blank, no_gap, Nat.add_zero]
  | @comment blanks comment _ blank no_newline ends =>
      have line : (comment ++ rest).takeWhile (· != '\n') = comment :=
        Text.takeWhile_append_eq
          (by simpa using fun c member => ne_of_mem_of_not_mem member no_newline)
          (by simpa using ends)
      have slash : Text.isBlank '/' = false := rfl
      rw [List.append_assoc, gap_blanks_append blank, List.length_append]
      simp only [gap, List.cons_append, List.takeWhile_cons, List.dropWhile_cons, slash,
        Bool.false_eq_true, if_false, line, List.length_nil, List.length_cons]
      omega

/-- Of the text behind a gap only the first character matters. -/
theorem IsGap.of_head (isGap : IsGap space rest) (others : List Char)
    (same : ∀ c ∈ others.head?, c ∈ rest.head?) : IsGap space others := by
  cases isGap with
  | blanks blank => exact .blanks blank
  | comment blank no_newline ends =>
      exact .comment blank no_newline fun c head => ends c (same c head)

/-- A gap has no lexemes. -/
theorem IsGap.startingAt_eq (isGap : IsGap space rest) (location : Location) :
    startingAt location space = { lexemes := [] } := by
  have whole := (isGap.of_head [] (by simp)).gap_append rfl
  rw [List.append_nil] at whole
  exact startingAt_of_drop_eq_nil location (by rw [whole, List.drop_length])

/-- A lexeme behind a gap is scanned first. -/
theorem IsGap.startingAt_append (isGap : IsGap space (first :: (further ++ behind)))
    (location : Location) (no_gap : gap (first :: (further ++ behind)) = 0)
    (read : Reading.ofText first (further ++ behind) = .ok reading)
    (width : reading.width = further.length + 1) :
    startingAt location (space ++ first :: (further ++ behind)) =
      cons (reading.place (location.advance space))
        (startingAt (location.advance (space ++ first :: further)) behind) := by
  have width_eq := isGap.gap_append no_gap
  have ahead : (space ++ first :: (further ++ behind)).drop
      (gap (space ++ first :: (further ++ behind))) = first :: (further ++ behind) := by
    rw [width_eq, List.drop_left]
  have taken : (first :: (further ++ behind)).take reading.width = first :: further := by
    rw [width, List.take_succ_cons, List.take_left]
  have left : (first :: (further ++ behind)).drop reading.width = behind := by
    rw [width, List.drop_succ_cons, List.drop_left]
  rw [startingAt_of_drop_eq_cons location ahead, read]
  dsimp only
  rw [width_eq, List.take_left, taken, left, Location.advance_append]

/-! ## Words that end -/

/-- No word goes on from one text to the next. -/
def Apart (front back : List Char) : Prop :=
  ∀ c ∈ front.getLast?, isWordCharacter c = true → ∀ d ∈ back.head?, isWordCharacter d = false

theorem Apart.append (apart : Apart middle behind) (nonempty : middle ≠ []) (front : List Char) :
    Apart (front ++ middle) behind := by
  rw [Apart, List.getLast?_append_of_ne_nil front nonempty]
  exact apart

theorem IsGap.apart (isGap : IsGap space rest) (nonempty : space ≠ []) : Apart space rest := by
  intro c last word d head
  cases isGap with
  | blanks blank =>
      have no_word := isBlank_eq_false_of_isWordCharacter word
      rw [blank c (List.mem_of_getLast? last)] at no_word
      contradiction
  | comment _ _ ends =>
      rw [ends d head]
      decide

theorem IsGap.apart_append (isGap : IsGap space rest) (apart : Apart front (space ++ rest)) :
    Apart (front ++ space) rest := by
  cases space with
  | nil => simpa using apart
  | cons c space => exact (isGap.apart (by simp)).append (by simp) front

private theorem getLast?_of_stringBody {quote : Char} {value : List Char} {width : Nat}
    (closed : stringBody quote rest = .closed value width) (whole : width = rest.length) :
    rest.getLast? = some quote := by
  fun_induction stringBody quote rest generalizing value width with
  | case1 => contradiction
  | case2 => contradiction
  | case3 c rest unescaped found induction =>
      obtain ⟨further, inner, read, rfl, rfl⟩ := StringBody.cons_eq_closed_iff.mp closed
      rw [List.length_cons, List.length_cons] at whole
      have last := induction read (by omega)
      cases rest with
      | nil => contradiction
      | cons next rest => rwa [List.getLast?_cons_cons, List.getLast?_cons_cons]
  | case4 => contradiction
  | case5 rest =>
      obtain ⟨rfl, rfl⟩ := StringBody.closed.inj closed
      obtain rfl : rest = [] := by simpa using whole
      rfl
  | case6 c rest single escape other induction =>
      obtain ⟨further, inner, read, rfl, rfl⟩ := StringBody.cons_eq_closed_iff.mp closed
      rw [List.length_cons] at whole
      have last := induction read (by omega)
      cases rest with
      | nil => contradiction
      | cons next rest => rwa [List.getLast?_cons_cons]

private theorem getLast?_of_readString {quote : Char}
    (read : readString quote (further ++ behind) = .ok reading)
    (width : reading.width = further.length + 1) :
    (quote :: further).getLast? = some quote := by
  have alone := readString_of_isPrefix read width []
  rw [List.append_nil] at alone
  unfold readString at alone
  split at alone
  · next closed =>
      obtain rfl := Except.ok.inj alone
      have last := getLast?_of_stringBody closed (Nat.succ.inj width)
      cases further with
      | nil => rfl
      | cons next further => rwa [List.getLast?_cons_cons]
  · contradiction
  · contradiction

/-- Behind a lexeme no word goes on. -/
theorem apart_of_ofText (read : Reading.ofText first (further ++ behind) = .ok reading)
    (width : reading.width = further.length + 1) : Apart (first :: further) behind := by
  intro c last word
  have plain := not_mem_of_isWordCharacter word
  unfold Reading.ofText at read
  split at read
  · next newline =>
      obtain rfl := Except.ok.inj read
      obtain rfl := List.eq_nil_of_length_eq_zero (Nat.succ.inj width).symm
      obtain rfl : first = c := by simpa using last
      simp [newline] at plain
  split at read
  · next mark =>
      obtain rfl := Except.ok.inj read
      obtain rfl := List.eq_nil_of_length_eq_zero (Nat.succ.inj width).symm
      obtain rfl : first = c := by simpa using last
      simp [mark] at plain
  split at read
  · next found =>
      obtain ⟨others, split, -⟩ := exists_of_operatorTail? found
      obtain rfl := Except.ok.inj read
      obtain ⟨rfl, -⟩ := List.append_inj split (Nat.succ.inj width).symm
      have ends : (operators.flatMap String.toList).any isWordCharacter = false := by decide
      have no_word := Reading.eq_false_of_mem_operator found ends (List.mem_of_getLast? last)
      rw [no_word] at word
      contradiction
  · split_ifs at read with quote
    · have closes := getLast?_of_readString read width
      rw [closes] at last
      obtain rfl := Option.some.inj last
      rcases quote with rfl | rfl <;> simp at plain
    · exact (Text.keeps_of_takeWhile_eq (taken_of_readWord read width)).2

/-! ## The failing lexeme -/

/-- A scan stops behind the front of a text, at a character of the lexeme ahead that cannot be
read. -/
structure StopsAt (location : Location) (text : List Char) (fault : Fault)
    (front ahead : List Char) (offset : Nat) (cause : Cause) : Prop where
  text_eq : text = front ++ ahead
  fault_eq : fault = .located (location.advance (front ++ ahead.take offset)) cause
  culprit : Culprit ahead offset cause
  /-- The front alone has the lexemes of the scan, and no fault. -/
  alone : startingAt location front = { lexemes := (startingAt location text).lexemes }

/-- A scan with a fault stops in front of a lexeme that cannot be read. -/
theorem exists_stopsAt (location : Location) (consumed : List Char) {text : List Char}
    {fault : Fault} (apart : Apart consumed text)
    (failed : (startingAt location text).fault? = some fault) :
    ∃ front ahead offset cause,
      StopsAt location text fault front ahead offset cause ∧ Apart (consumed ++ front) ahead := by
  -- What was consumed only matters for the word that could go on behind it.
  induction text using text_induction generalizing location consumed with
  | done text ahead =>
      rw [startingAt_of_drop_eq_nil location ahead] at failed
      contradiction
  | misread text first rest misreading ahead read =>
      obtain ⟨isGap, no_gap⟩ := isGap_gap text
      have scanned := startingAt_of_drop_eq_cons location ahead
      have split := List.take_append_drop (gap text) text
      rw [ahead] at split isGap
      simp only [read] at scanned
      rw [scanned] at failed
      have fault_eq := (Option.some.inj failed).symm
      rw [← split] at apart
      refine ⟨_, _, misreading.offset, misreading.cause,
        ⟨split.symm, ?_, culprit_of_ofText (no_gap _ _ ahead) read, ?_⟩, isGap.apart_append apart⟩
      · rw [fault_eq, Location.advance_append]
      · rw [scanned, isGap.startingAt_eq location]
  | lexeme text first rest reading ahead read induction =>
      obtain ⟨isGap, no_gap⟩ := isGap_gap text
      have no_gap_ahead := no_gap _ _ ahead
      have split := List.take_append_drop (gap text) text
      obtain ⟨further, behind, rfl, width, -⟩ := takesOnly_ofText read
      rw [ahead] at split isGap
      generalize text.take (gap text) = space at split isGap
      subst split
      have scanned := isGap.startingAt_append location no_gap_ahead read width
      have left : (first :: (further ++ behind)).drop reading.width = behind := by
        rw [width, List.drop_succ_cons, List.drop_left]
      rw [left] at induction
      rw [scanned] at failed
      have behind_apart : Apart (consumed ++ (space ++ first :: further)) behind := by
        rw [← List.append_assoc]
        exact (apart_of_ofText read width).append (by simp) _
      obtain ⟨front, culprits, offset, cause, stops, later_apart⟩ :=
        induction _ _ behind_apart failed
      obtain ⟨rfl, fault_eq, culprit, alone⟩ := stops
      refine ⟨space ++ first :: (further ++ front), culprits, offset, cause,
        ⟨?_, ?_, culprit, ?_⟩, ?_⟩
      · simp only [List.append_assoc, List.cons_append]
      · rw [fault_eq, ← Location.advance_append]
        simp only [List.append_assoc, List.cons_append]
      · rw [scanned, (isGap.of_head _ (by simp)).startingAt_append location
          (gap_cons_eq_zero_of_append (by rwa [List.append_assoc]))
          (ofText_of_isPrefix read width (List.prefix_append _ _)) width, alone]
        rfl
      · simpa only [List.append_assoc, List.cons_append] using later_apart

/-- How the scan of a text fails: the lexeme ahead of the front of the text cannot be read. -/
structure FailsAt (file text : String) (fault : Fault) (front ahead : List Char) (offset : Nat)
    (location : Location) (cause : Cause) : Prop where
  fault_eq : fault = .located location cause
  text_eq : text.toList = front ++ ahead
  /-- The fault stands at the character with this offset, and at no other. -/
  location : ∀ index ≤ text.toList.length,
    location = Location.ofIndex file text.toList index ↔ index = front.length + offset
  culprit : Culprit ahead offset cause
  /-- Nothing else is wrong with the lexeme. -/
  only : ∀ other_offset other, Culprit ahead other_offset other →
    other_offset = offset ∧ other = cause
  /-- The lexeme does not start in the middle of a word. -/
  apart : Apart front ahead
  /-- The front is scanned on its own into the lexemes before the fault. -/
  alone : Lexeme.scan file (String.ofList front) = .ok (ofText file text).lexemes

/-- Every scan that fails fails at the culprit. -/
theorem exists_failsAt_of_scan {file text : String} {fault : Fault}
    (failed : Lexeme.scan file text = .error fault) :
    ∃ front ahead offset location cause,
      FailsAt file text fault front ahead offset location cause := by
  have found : (ofText file text).fault? = some fault := by
    unfold Lexeme.scan result at failed
    split at failed
    · next found => rw [found, Except.error.inj failed]
    · contradiction
  have nothing_consumed : Apart [] text.toList := by simp [Apart]
  obtain ⟨front, ahead, offset, cause, stops, apart⟩ :=
    exists_stopsAt (.start file) [] nothing_consumed found
  have inside := stops.culprit.lt_length
  have parts := congrArg List.length stops.text_eq
  rw [List.length_append] at parts
  have place : (Location.start file).advance (front ++ ahead.take offset) =
      Location.ofIndex file text.toList (front.length + offset) := by
    have cut : text.toList = (front ++ ahead.take offset) ++ ahead.drop offset := by
      rw [List.append_assoc, List.take_append_drop, stops.text_eq]
    rw [cut, Location.advance_start_eq_ofIndex file _ (ahead.drop offset), List.length_append,
      List.length_take_of_le (Nat.le_of_lt inside)]
  refine ⟨front, ahead, offset, _, cause, stops.fault_eq, stops.text_eq, ?_, stops.culprit,
    fun _ _ => stops.culprit.unique, apart, ?_⟩
  · intro index index_le
    rw [place, Location.ofIndex_inj (by omega) index_le, eq_comm]
  · rw [Lexeme.scan, ofText, String.toList_ofList, stops.alone]
    rfl

/-- A comment, a string over two lines, and a binary number with a digit too many. -/
def wrongDigit : String := "a: // x\n\tdb 'p\nq', 0b102, 'r"

theorem exists_failsAt_of_scan_wrongDigit :
    ∃ front ahead offset,
      Lexeme.scan "s" wrongDigit =
        .error (.located ⟨"s", 3, 9⟩ (.digitExpected .binary '2')) ∧
      front ++ ahead = wrongDigit.toList ∧ front.length + offset = 23 ∧
      Culprit ahead offset (.digitExpected .binary '2') ∧
      ∃ lexemes, Lexeme.scan "s" (String.ofList front) = .ok lexemes := by
  have evaluated : (Lexeme.scan "s" wrongDigit).map (fun _ => ()) =
      .error (.located ⟨"s", 3, 9⟩ (.digitExpected .binary '2')) := by
    decide +kernel
  have failed := Success.map_eq_error.mp evaluated
  obtain ⟨front, ahead, offset, location, cause, fails⟩ := exists_failsAt_of_scan failed
  obtain ⟨rfl, rfl⟩ : ⟨"s", 3, 9⟩ = location ∧ _ = cause := by
    simpa [Fault.located] using fails.fault_eq
  have place := (fails.location 23 (by decide)).mp rfl
  exact ⟨front, ahead, offset, failed, fails.text_eq.symm, place.symm, fails.culprit, _,
    fails.alone⟩

end Scan
end TableAssembler
