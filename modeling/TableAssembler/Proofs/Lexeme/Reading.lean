import TableAssembler.Lexeme.Scanner
import TableAssembler.Proofs.Text.Span

/-!
# What one lexeme takes

A lexeme is read from the characters that it takes, and the characters behind it do not matter.
In front of it there are blanks, or blanks and a comment that reaches to the end of the line.
-/

namespace TableAssembler

theorem Reading.span_place (reading : Reading) (location : Location) :
    (reading.place location).span = reading.width := rfl

namespace Scan

/-! ## Gaps -/

/-- A gap in front of the rest of a text. -/
inductive IsGap : List Char → List Char → Prop
  | blanks {blanks rest : List Char} :
      (∀ c ∈ blanks, Text.isBlank c = true) → IsGap blanks rest
  /-- Behind a comment there is the end of the line, or of the text. -/
  | comment {blanks comment rest : List Char} :
      (∀ c ∈ blanks, Text.isBlank c = true) → '\n' ∉ comment →
        (∀ c ∈ rest.head?, c = '\n') → IsGap (blanks ++ '/' :: '/' :: comment) rest

theorem gap_cons_eq_zero_iff {first : Char} {rest : List Char} :
    gap (first :: rest) = 0 ↔
      Text.isBlank first = false ∧ ¬ (first = '/' ∧ rest.head? = some '/') := by
  cases blank : Text.isBlank first with
  | true =>
      unfold gap
      rw [List.takeWhile_cons_of_pos blank]
      simp only [List.length_cons, Bool.true_eq_false, false_and, iff_false]
      split <;> omega
  | false =>
      unfold gap
      rw [List.takeWhile_cons_of_neg (by simp [blank]),
        List.dropWhile_cons_of_neg (by simp [blank])]
      split
      · rename_i ahead
        obtain ⟨rfl, rfl⟩ := List.cons.inj ahead
        simp
      · rename_i no_comment
        simp only [List.length_nil, true_and, true_iff, not_and]
        rintro rfl second
        obtain ⟨comment, rfl⟩ := List.head?_eq_some_iff.mp second
        exact no_comment comment rfl

/-- Fewer characters behind the first one make no gap. -/
theorem gap_cons_eq_zero_of_append {first : Char} {front back : List Char}
    (none_ahead : gap (first :: (front ++ back)) = 0) : gap (first :: front) = 0 := by
  rw [gap_cons_eq_zero_iff] at none_ahead ⊢
  refine ⟨none_ahead.1, fun comment => none_ahead.2 ⟨comment.1, ?_⟩⟩
  obtain ⟨further, rfl⟩ := List.head?_eq_some_iff.mp comment.2
  rfl

theorem gap_blanks_append {blanks : List Char} (blank : ∀ c ∈ blanks, Text.isBlank c = true)
    (rest : List Char) : gap (blanks ++ rest) = blanks.length + gap rest := by
  unfold gap
  rw [List.takeWhile_append_of_pos blank, List.dropWhile_append_of_pos blank]
  simp only [List.length_append]
  split <;> omega

private theorem exists_of_comment (comment : List Char) :
    ∃ body behind, comment = body ++ behind ∧ '\n' ∉ body ∧ (∀ c ∈ behind.head?, c = '\n') ∧
      gap ('/' :: '/' :: comment) = ('/' :: '/' :: body).length := by
  refine ⟨comment.takeWhile (· != '\n'), comment.dropWhile (· != '\n'),
    List.takeWhile_append_dropWhile.symm, ?_, ?_, ?_⟩
  · intro member
    simpa using List.mem_takeWhile_imp member
  · intro c ahead
    simpa using Text.eq_false_of_mem_head?_dropWhile ahead
  · have blank : Text.isBlank '/' = false := rfl
    simp only [gap, blank, List.takeWhile_cons, List.dropWhile_cons, List.length_cons]
    simp only [Bool.false_eq_true, if_false, List.length_nil]
    omega

theorem exists_of_blanks (text : List Char) :
    ∃ blanks tail, text = blanks ++ tail ∧ (∀ c ∈ blanks, Text.isBlank c = true) ∧
      ∀ c ∈ tail.head?, Text.isBlank c = false := by
  refine ⟨text.takeWhile Text.isBlank, text.dropWhile Text.isBlank,
    List.takeWhile_append_dropWhile.symm, fun c member => List.mem_takeWhile_imp member, ?_⟩
  exact fun c ahead => Text.eq_false_of_mem_head?_dropWhile ahead

/-- What stands in front of a lexeme is a gap, and no gap is left behind it. -/
theorem isGap_gap (text : List Char) :
    IsGap (text.take (gap text)) (text.drop (gap text)) ∧
      ∀ first rest, text.drop (gap text) = first :: rest → gap (first :: rest) = 0 := by
  obtain ⟨blanks, tail, rfl, blank, stops⟩ := exists_of_blanks text
  rw [gap_blanks_append blank, List.take_length_add_append, List.drop_length_add_append]
  by_cases slashes : ∃ comment, tail = '/' :: '/' :: comment
  · obtain ⟨comment, rfl⟩ := slashes
    obtain ⟨body, behind, rfl, no_newline, ends, width⟩ := exists_of_comment comment
    rw [width, ← List.cons_append, ← List.cons_append, List.take_left, List.drop_left]
    refine ⟨.comment blank no_newline ends, fun first rest ahead => ?_⟩
    subst ahead
    obtain rfl := ends first rfl
    rw [gap_cons_eq_zero_iff]
    exact ⟨rfl, by simp⟩
  · have no_gap : gap tail = 0 := by
      cases tail with
      | nil => rfl
      | cons first rest =>
          rw [gap_cons_eq_zero_iff]
          refine ⟨stops first rfl, fun ⟨slash, second⟩ => slashes ?_⟩
          obtain ⟨comment, rfl⟩ := List.head?_eq_some_iff.mp second
          exact ⟨comment, by rw [slash]⟩
    rw [no_gap, List.take_zero, List.append_nil, List.drop_zero]
    exact ⟨.blanks blank, fun first rest ahead => by rwa [← ahead]⟩

/-! ## Strings -/

theorem StringBody.cons_eq_closed_iff {body : StringBody} {value : Char} {width total : Nat}
    {values : List Char} :
    body.cons value width = .closed values total ↔
      ∃ further inner, body = .closed further inner ∧ value :: further = values ∧
        width + inner = total := by
  cases body with
  | closed further inner =>
      simp only [cons, closed.injEq]
      constructor
      · rintro ⟨rfl, rfl⟩
        exact ⟨further, inner, ⟨rfl, rfl⟩, rfl, rfl⟩
      · rintro ⟨_, _, ⟨rfl, rfl⟩, rfl, rfl⟩
        exact ⟨rfl, rfl⟩
  | unterminated => simp [cons]
  | unknownEscape => simp [cons]

theorem stringBody_cons_of_ne {c : Char} (plain : c ≠ '\\') (quote : Char) (rest : List Char) :
    stringBody quote (c :: rest) =
      if c = quote then .closed [] 1 else (stringBody quote rest).cons c 1 := by
  rw [stringBody]
  · exact fun backslash _ => plain backslash
  · exact fun _ _ backslash _ => plain backslash

/-- A character that starts no escape is no backslash. -/
theorem ne_backslash {c : Char} {rest : List Char} (single : c = '\\' → rest = [] → False)
    (escape : ∀ next others, c = '\\' → rest = next :: others → False) : c ≠ '\\' := by
  intro backslash
  cases rest with
  | nil => exact single backslash rfl
  | cons next others => exact escape next others backslash rfl

private theorem exists_of_stringBody {quote : Char} {rest value : List Char} {width : Nat}
    (closed : stringBody quote rest = .closed value width) :
    ∃ body behind, rest = body ++ behind ∧ width = body.length ∧
      stringBody quote body = .closed value width := by
  fun_induction stringBody quote rest generalizing value width with
  | case1 => simp at closed
  | case2 => simp at closed
  | case3 c rest unescaped found induction =>
      obtain ⟨further, inner, read, rfl, rfl⟩ := StringBody.cons_eq_closed_iff.mp closed
      obtain ⟨body, behind, rfl, rfl, again⟩ := induction read
      refine ⟨'\\' :: c :: body, behind, rfl, ?_, ?_⟩
      · rw [List.length_cons, List.length_cons]
        omega
      · simp [stringBody, found, again, StringBody.cons]
  | case4 => simp at closed
  | case5 rest single escape =>
      obtain ⟨rfl, rfl⟩ := StringBody.closed.inj closed
      refine ⟨[quote], rest, rfl, rfl, ?_⟩
      rw [stringBody_cons_of_ne (ne_backslash single escape), if_pos rfl]
  | case6 c rest single escape other induction =>
      obtain ⟨further, inner, read, rfl, rfl⟩ := StringBody.cons_eq_closed_iff.mp closed
      obtain ⟨body, behind, rfl, rfl, again⟩ := induction read
      refine ⟨c :: body, behind, rfl, ?_, ?_⟩
      · rw [List.length_cons, Nat.add_comm]
      · rw [stringBody_cons_of_ne (ne_backslash single escape), if_neg other, again]
        rfl

/-- The reading of a text that starts with `first` takes the characters up to a place, and is the
reading of these characters alone. -/
def TakesOnly (read : List Char → Except Misreading Reading) (rest : List Char)
    (reading : Reading) : Prop :=
  ∃ further behind, rest = further ++ behind ∧ reading.width = further.length + 1 ∧
    read further = .ok reading

theorem takesOnly_readString {quote : Char} {rest : List Char} {reading : Reading}
    (read : readString quote rest = .ok reading) :
    TakesOnly (readString quote) rest reading := by
  unfold readString at read
  split at read
  · rename_i value width closed
    obtain ⟨body, behind, rfl, rfl, again⟩ := exists_of_stringBody closed
    obtain rfl := Except.ok.inj read
    exact ⟨body, behind, rfl, rfl, by simp only [readString, again]⟩
  · simp at read
  · simp at read

/-! ## Words -/

private theorem width_of_readNumber {form : NumberForm} {mark : Nat} {digits : List Char}
    {reading : Reading} (read : readNumber form mark digits = .ok reading) :
    reading.width = mark + digits.length := by
  unfold readNumber at read
  split at read
  · simp at read
  · split at read
    · simp at read
    · obtain rfl := Except.ok.inj read
      rfl

theorem width_of_readWord {first : Char} {rest : List Char} {reading : Reading}
    (read : readWord first rest = .ok reading) :
    reading.width = (rest.takeWhile isWordCharacter).length + 1 := by
  dsimp only [readWord] at read
  split at read
  · rename_i digits further
    rw [width_of_readNumber read, further, List.length_cons]
    omega
  · rename_i digits further
    rw [width_of_readNumber read, further, List.length_cons]
    omega
  · split_ifs at read
    · rw [width_of_readNumber read, List.length_cons]
      omega
    · obtain rfl := Except.ok.inj read
      rfl

theorem takesOnly_readWord {first : Char} {rest : List Char} {reading : Reading}
    (read : readWord first rest = .ok reading) : TakesOnly (readWord first) rest reading := by
  refine ⟨rest.takeWhile isWordCharacter, rest.dropWhile isWordCharacter,
    List.takeWhile_append_dropWhile.symm, width_of_readWord read, ?_⟩
  unfold readWord at read ⊢
  rwa [List.takeWhile_idem]

/-! ## Operators -/

theorem exists_of_operatorTail? {first : Char} {rest tail : List Char}
    (found : operatorTail? first rest = some tail) :
    ∃ behind, rest = tail ++ behind ∧ operatorTail? first tail = some tail := by
  unfold operatorTail? at found
  split at found
  · obtain rfl := Option.some.inj found
    exact ⟨_, rfl, rfl⟩
  · obtain rfl := Option.some.inj found
    exact ⟨_, rfl, rfl⟩
  · split_ifs at found with short
    obtain rfl := Option.some.inj found
    exact ⟨rest, rfl, by simp [operatorTail?, short]⟩

/-- An operator is found whatever stands behind it. -/
theorem operatorTail?_append {first : Char} {front tail : List Char}
    (found : operatorTail? first front = some tail) (back : List Char) :
    operatorTail? first (front ++ back) = some tail := by
  unfold operatorTail? at found
  split at found
  · exact found
  · exact found
  · split_ifs at found with short
    simp only [shortOperators, List.mem_cons, List.not_mem_nil, or_false] at short
    rcases short with rfl | rfl | rfl | rfl | rfl | rfl | rfl <;> exact found

theorem operatorTail?_eq_none_of_append {first : Char} {front back : List Char}
    (absent : operatorTail? first (front ++ back) = none) : operatorTail? first front = none := by
  cases found : operatorTail? first front with
  | none => rfl
  | some tail =>
      rw [operatorTail?_append found back] at absent
      contradiction

/-! ## All lexemes -/

/-- A lexeme is the one that its characters give on their own. -/
theorem takesOnly_ofText {first : Char} {rest : List Char} {reading : Reading}
    (read : Reading.ofText first rest = .ok reading) :
    TakesOnly (Reading.ofText first) rest reading := by
  unfold Reading.ofText at read
  split at read
  · rename_i newline
    obtain rfl := Except.ok.inj read
    exact ⟨[], rest, rfl, rfl, by simp [Reading.ofText, newline]⟩
  split at read
  · rename_i newline mark
    obtain rfl := Except.ok.inj read
    exact ⟨[], rest, rfl, rfl, by simp [Reading.ofText, newline, mark]⟩
  rename_i newline mark
  split at read
  · rename_i tail found
    obtain ⟨behind, rfl, again⟩ := exists_of_operatorTail? found
    obtain rfl := Except.ok.inj read
    exact ⟨tail, behind, rfl, rfl, by simp [Reading.ofText, newline, mark, again]⟩
  · rename_i absent
    split_ifs at read with quote word
    · obtain ⟨further, behind, rfl, width, again⟩ := takesOnly_readString read
      refine ⟨further, behind, rfl, width, ?_⟩
      simp [Reading.ofText, newline, mark, operatorTail?_eq_none_of_append absent, quote, again]
    · obtain ⟨further, behind, rfl, width, again⟩ := takesOnly_readWord read
      refine ⟨further, behind, rfl, width, ?_⟩
      simp [Reading.ofText, newline, mark, operatorTail?_eq_none_of_append absent, quote, word,
        again]

/-! ## One step of a scan -/

/-- How a scan goes on at a location in front of a text. -/
inductive Step (location : Location) (text : List Char) : Prop
  /-- Only a gap is left. -/
  | done (isGap : IsGap text []) (scanned : startingAt location text = { lexemes := [] })
  /-- Behind a gap there is a lexeme, which takes `first` and the characters `further`. -/
  | lexeme {space further behind : List Char} {first : Char} {reading : Reading}
      (text_eq : text = space ++ (first :: further ++ behind))
      (isGap : IsGap space (first :: further ++ behind))
      (no_gap : gap (first :: further) = 0)
      (read : Reading.ofText first further = .ok reading)
      (width : reading.width = further.length + 1)
      (scanned : startingAt location text =
        cons (reading.place (location.advance space))
          (startingAt (location.advance (space ++ first :: further)) behind))
  /-- Behind a gap there is no lexeme. -/
  | fault (found : (startingAt location text).fault? ≠ none)

/-- Induction over a text, lexeme by lexeme. -/
theorem text_induction {motive : List Char → Prop}
    (done : ∀ text, text.drop (gap text) = [] → motive text)
    (misread : ∀ text first rest misreading, text.drop (gap text) = first :: rest →
      Reading.ofText first rest = .error misreading → motive text)
    (lexeme : ∀ text first rest reading, text.drop (gap text) = first :: rest →
      Reading.ofText first rest = .ok reading → motive ((first :: rest).drop reading.width) →
      motive text)
    (text : List Char) : motive text := by
  induction length_eq : text.length using Nat.strong_induction_on generalizing text with
  | h length induction =>
      cases ahead : text.drop (gap text) with
      | nil => exact done text ahead
      | cons first rest =>
          cases read : Reading.ofText first rest with
          | error misreading => exact misread text first rest misreading ahead read
          | ok reading =>
              have positive := reading.width_pos
              have shorter : ((first :: rest).drop reading.width).length < length := by
                have split := congrArg List.length ahead
                rw [List.length_drop, List.length_cons] at split
                rw [List.length_drop, List.length_cons]
                omega
              exact lexeme text first rest reading ahead read (induction _ shorter _ rfl)

theorem startingAt_of_drop_eq_nil {text : List Char} (location : Location)
    (ahead : text.drop (gap text) = []) : startingAt location text = { lexemes := [] } := by
  rw [startingAt]
  split
  · rfl
  · rename_i other
    rw [ahead] at other
    contradiction

theorem startingAt_of_drop_eq_cons {text : List Char} {first : Char} {rest : List Char}
    (location : Location) (ahead : text.drop (gap text) = first :: rest) :
    startingAt location text =
      match Reading.ofText first rest with
      | .error misreading =>
          { lexemes := []
            fault? := some (.located
              ((location.advance (text.take (gap text))).advance
                ((first :: rest).take misreading.offset)) misreading.cause) }
      | .ok reading =>
          cons (reading.place (location.advance (text.take (gap text))))
            (startingAt
              ((location.advance (text.take (gap text))).advance
                ((first :: rest).take reading.width))
              ((first :: rest).drop reading.width)) := by
  rw [startingAt]
  split
  · rename_i other
    rw [ahead] at other
    contradiction
  · rename_i other_first other_rest other
    rw [ahead] at other
    obtain ⟨rfl, rfl⟩ := List.cons.inj other
    rfl

/-- A scan goes on with a lexeme, or ends. -/
theorem startingAt_step (location : Location) (text : List Char) : Step location text := by
  obtain ⟨isGap, no_gap⟩ := isGap_gap text
  have parts : text = text.take (gap text) ++ text.drop (gap text) :=
    (List.take_append_drop _ _).symm
  cases ahead : text.drop (gap text) with
  | nil =>
      rw [ahead, List.append_nil] at parts
      rw [ahead, ← parts] at isGap
      exact .done isGap (startingAt_of_drop_eq_nil location ahead)
  | cons first rest =>
      have scanned := startingAt_of_drop_eq_cons location ahead
      cases read : Reading.ofText first rest with
      | error misreading => exact .fault (by simp [scanned, read])
      | ok reading =>
          obtain ⟨further, behind, rfl, width, alone⟩ := takesOnly_ofText read
          have taken : (first :: (further ++ behind)).take reading.width = first :: further := by
            rw [width, List.take_succ_cons, List.take_left]
          have left : (first :: (further ++ behind)).drop reading.width = behind := by
            rw [width, List.drop_succ_cons, List.drop_left]
          simp only [read, taken, left, ← Location.advance_append] at scanned
          rw [ahead] at parts isGap
          exact .lexeme parts isGap (gap_cons_eq_zero_of_append (no_gap _ _ ahead)) alone width
            scanned

/-- A lexeme in front of a text is scanned first. -/
theorem startingAt_of_ofText {first : Char} {further back : List Char} {reading : Reading}
    (location : Location) (no_gap : gap (first :: (further ++ back)) = 0)
    (read : Reading.ofText first (further ++ back) = .ok reading)
    (width : reading.width = further.length + 1) :
    startingAt location (first :: (further ++ back)) =
      cons (reading.place location)
        (startingAt (location.advance (first :: further)) back) := by
  have ahead : (first :: (further ++ back)).drop (gap (first :: (further ++ back))) =
      first :: (further ++ back) := by
    rw [no_gap, List.drop_zero]
  have taken : (first :: (further ++ back)).take reading.width = first :: further := by
    rw [width, List.take_succ_cons, List.take_left]
  have left : (first :: (further ++ back)).drop reading.width = back := by
    rw [width, List.drop_succ_cons, List.drop_left]
  rw [startingAt_of_drop_eq_cons location ahead, read]
  dsimp only
  rw [taken, left, no_gap, List.take_zero, Location.advance_nil]

/-- A lexeme is scanned from its characters alone. -/
theorem startingAt_alone {first : Char} {further : List Char} {reading : Reading}
    (location : Location) (no_gap : gap (first :: further) = 0)
    (read : Reading.ofText first further = .ok reading)
    (width : reading.width = further.length + 1) :
    startingAt location (first :: further) = { lexemes := [reading.place location] } := by
  have nothing (next : Location) : startingAt next [] = { lexemes := [] } :=
    startingAt_of_drop_eq_nil next rfl
  rw [← List.append_nil further] at no_gap read ⊢
  rw [startingAt_of_ofText location no_gap read width, nothing]
  rfl

/-- A file with the characters of a lexeme has this lexeme and no other. -/
theorem scan_alone {first : Char} {further : List Char} {reading : Reading}
    (no_gap : gap (first :: further) = 0) (read : Reading.ofText first further = .ok reading)
    (width : reading.width = further.length + 1) (file : String) :
    Lexeme.scan file (String.ofList (first :: further)) = .ok [reading.place (.start file)] := by
  rw [Lexeme.scan, ofText, String.toList_ofList, startingAt_alone _ no_gap read width]
  rfl

end Scan
end TableAssembler
