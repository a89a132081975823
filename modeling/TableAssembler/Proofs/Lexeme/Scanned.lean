import TableAssembler.Proofs.Lexeme.Lines
import TableAssembler.Proofs.Lexeme.Reading

/-!
# What lexemes a text can have

Every lexeme of a text is read from its characters.  No such lexeme has operands, none is a
closure, and nine texts are operators.
-/

namespace TableAssembler

/-- The texts that are read as operators. -/
def Scan.operators : List String := ["+", "-", "*", "/", "&", "|", "^", "<<", ">>"]

namespace Reading

theorem verbatim_mem_operators {first : Char} {rest tail : List Char}
    (found : Scan.operatorTail? first rest = some tail) :
    String.ofList (first :: tail) ∈ Scan.operators := by
  unfold Scan.operatorTail? at found
  split at found
  · obtain rfl := Option.some.inj found
    decide
  · obtain rfl := Option.some.inj found
    decide
  · split_ifs at found with short
    obtain rfl := Option.some.inj found
    have listed : ∀ c ∈ Scan.shortOperators, String.ofList [c] ∈ Scan.operators := by
      simp [Scan.shortOperators, Scan.operators]
    exact listed first short

/-- A test that all characters of operators fail is failed by those of an operator that is read. -/
theorem eq_false_of_mem_operator {first c : Char} {rest tail : List Char} {test : Char → Bool}
    (found : Scan.operatorTail? first rest = some tail)
    (fails : (Scan.operators.flatMap String.toList).any test = false)
    (member : c ∈ first :: tail) : test c = false := by
  have written : c ∈ (String.ofList (first :: tail)).toList := by rwa [String.toList_ofList]
  have operator := verbatim_mem_operators found
  exact Bool.eq_false_iff.mpr
    (List.any_eq_false.mp fails c (List.mem_flatMap.mpr ⟨_, operator, written⟩))

theorem kind_of_readString {quote : Char} {rest : List Char} {reading : Reading}
    (read : Scan.readString quote rest = .ok reading) : reading.kind = .text := by
  unfold Scan.readString at read
  split at read
  · obtain rfl := Except.ok.inj read
    rfl
  · contradiction
  · contradiction

private theorem kind_of_readNumber {form : NumberForm} {mark : Nat} {digits : List Char}
    {reading : Reading} (read : Scan.readNumber form mark digits = .ok reading) :
    reading.kind = .number := by
  unfold Scan.readNumber at read
  split at read
  · contradiction
  · split at read
    · contradiction
    · obtain rfl := Except.ok.inj read
      rfl

theorem kind_of_readWord {first : Char} {rest : List Char} {reading : Reading}
    (read : Scan.readWord first rest = .ok reading) :
    reading.kind = .identifier ∨ reading.kind = .number := by
  unfold Scan.readWord at read
  dsimp only at read
  split at read
  · exact .inr (kind_of_readNumber read)
  · exact .inr (kind_of_readNumber read)
  · split_ifs at read
    · exact .inr (kind_of_readNumber read)
    · obtain rfl := Except.ok.inj read
      exact .inl rfl

/-- How the lexeme that starts with `first` is read. -/
inductive IsRead (first : Char) (rest : List Char) : Reading → Prop
  | newline : first = '\n' → IsRead first rest (verbatim .newline first [])
  | punctuation : first ∈ Scan.punctuation → IsRead first rest (verbatim .punctuation first [])
  | operator {tail : List Char} :
      Scan.operatorTail? first rest = some tail → IsRead first rest (verbatim .operator first tail)
  | text {reading : Reading} :
      Scan.readString first rest = .ok reading → IsRead first rest reading
  | word {reading : Reading} :
      Scan.readWord first rest = .ok reading → IsRead first rest reading

theorem isRead_of_ofText {first : Char} {rest : List Char} {reading : Reading}
    (read : ofText first rest = .ok reading) : IsRead first rest reading := by
  unfold ofText at read
  split at read
  · next newline =>
      obtain rfl := Except.ok.inj read
      exact .newline newline
  split at read
  · next mark =>
      obtain rfl := Except.ok.inj read
      exact .punctuation mark
  split at read
  · next found =>
      obtain rfl := Except.ok.inj read
      exact .operator found
  · split_ifs at read
    · exact .text read
    · exact .word read

private theorem kind_of_ofText {first : Char} {rest : List Char} {reading : Reading}
    (read : ofText first rest = .ok reading) :
    reading.kind ≠ .closure ∧
      (reading.kind = .operator → String.ofList reading.value ∈ Scan.operators) := by
  cases isRead_of_ofText read with
  | newline => simp [verbatim]
  | punctuation => simp [verbatim]
  | operator found => exact ⟨by simp [verbatim], fun _ => verbatim_mem_operators found⟩
  | text read => simp [kind_of_readString read]
  | word read => rcases kind_of_readWord read with kind | kind <;> simp [kind]

/-- A reading is the same lexeme wherever it is placed. -/
theorem displaced_place (reading : Reading) (location other : Location) :
    (reading.place location).Displaced .anywhere (reading.place other) :=
  .intro rfl rfl rfl .nil trivial trivial

end Reading

namespace Lexeme

/-- What holds of a lexeme that is read from text. -/
structure Scanned (lexeme : Lexeme) : Prop where
  args : lexeme.args = []
  kind : lexeme.kind ≠ .closure
  operator : lexeme.kind = .operator → lexeme.value ∈ Scan.operators

/-- The characters are those of the lexeme: alone they are read as it, wherever it stands. -/
inductive Spelled : List Char → Lexeme → Prop
  | intro {first : Char} {further : List Char} {reading : Reading} (location : Location) :
      Scan.gap (first :: further) = 0 → Reading.ofText first further = .ok reading →
        reading.width = further.length + 1 → Spelled (first :: further) (reading.place location)

theorem Spelled.scanned {characters : List Char} {lexeme : Lexeme}
    (spelled : Spelled characters lexeme) : lexeme.Scanned := by
  obtain ⟨_, -, read, -⟩ := spelled
  exact ⟨rfl, (Reading.kind_of_ofText read).1, (Reading.kind_of_ofText read).2⟩

end Lexeme

theorem Scan.spelled_of_startingAt {location : Location} {text : List Char}
    (complete : (startingAt location text).fault? = none) :
    ∀ lexeme ∈ (startingAt location text).lexemes, ∃ characters, lexeme.Spelled characters := by
  induction text using text_induction generalizing location with
  | done text ahead => simp [startingAt_of_drop_eq_nil location ahead]
  | misread text first rest misreading ahead read =>
      simp [startingAt_of_drop_eq_cons location ahead, read] at complete
  | lexeme text first rest reading ahead read induction =>
      have scanned := startingAt_of_drop_eq_cons location ahead
      simp only [read] at scanned
      rw [scanned] at complete ⊢
      have no_gap := (isGap_gap text).2 first rest ahead
      obtain ⟨further, behind, rfl, width, alone⟩ := takesOnly_ofText read
      have spelled := Lexeme.Spelled.intro (location.advance (text.take (gap text)))
        (gap_cons_eq_zero_of_append no_gap) alone width
      exact List.forall_mem_cons.mpr ⟨⟨_, spelled⟩, induction complete⟩

namespace Lexeme

/-- The lexemes of a file are read from their characters. -/
theorem spelled_of_scan {file text : String} {lexemes : List Lexeme}
    (scanned : scan file text = .ok lexemes) :
    ∀ lexeme ∈ lexemes, ∃ characters, lexeme.Spelled characters := by
  obtain ⟨complete, rfl⟩ := Scan.result_eq_ok_iff.mp scanned
  exact Scan.spelled_of_startingAt complete

theorem scanned_of_scan {file text : String} {lexemes : List Lexeme}
    (scanned : scan file text = .ok lexemes) : ∀ lexeme ∈ lexemes, lexeme.Scanned := by
  intro lexeme member
  obtain ⟨characters, spelled⟩ := spelled_of_scan scanned lexeme member
  exact spelled.scanned

end Lexeme
end TableAssembler
