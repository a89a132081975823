import TableAssembler.Proofs.Lexeme.Lines
import TableAssembler.Proofs.Statement.Displacement

/-!
# Parsing line by line

A text that can be parsed on its own ends its last statement with any line feed behind it.  The
text behind the line feed is then parsed as if it were alone, and only its rows are counted on:
nothing is left open over the end of a line.
-/

namespace TableAssembler
namespace Statement

/-! ## Lexemes behind the end of a line -/

theorem Progress.step_newline_of_finish {progress : Progress} {statement : Statement}
    (finished : progress.finish = .ok statement) {newline : Lexeme}
    (kind : newline.kind = .newline) : progress.step newline = .ok (some statement, none) := by
  unfold finish at finished
  unfold step
  cases need : progress.need with
  | afterName =>
      obtain rfl : progress.instruction = statement := by simpa [need] using finished
      simp [Lexeme.is, kind]
  | separator =>
      obtain rfl : progress.instruction = statement := by simpa [need] using finished
      simp [kind]
  | operand | operator | closing => simp [need] at finished

/-- Lexemes that are a program end it with any line; what follows is grouped on its own. -/
theorem groupFrom_append_newline {state : Option Progress} {lexemes : List Lexeme}
    {statements : List Statement} (grouped : groupFrom state lexemes = .ok statements)
    {newline : Lexeme} (kind : newline.kind = .newline) (rest : List Lexeme) :
    groupFrom state (lexemes ++ newline :: rest) = (group rest).map (statements ++ ·) := by
  induction lexemes generalizing state statements with
  | nil =>
      rw [List.nil_append, groupFrom_cons]
      cases state with
      | none =>
          obtain rfl : [] = statements := by simpa [groupFrom] using grouped
          have skipped : groupStep none newline = .ok (none, none) := by simp [groupStep, kind]
          rw [skipped]
          rfl
      | some progress =>
          obtain ⟨statement, finished, rfl⟩ := Success.map_eq_ok.mp grouped
          have ended : groupStep (some progress) newline = .ok (some statement, none) :=
            progress.step_newline_of_finish finished kind
          rw [ended]
          rfl
  | cons lexeme lexemes induction =>
      rw [groupFrom_cons] at grouped
      simp only [Success.bind_eq_ok, Success.pure_eq_ok] at grouped
      obtain ⟨⟨complete, next⟩, step, others, later, rfl⟩ := grouped
      rw [List.cons_append, groupFrom_cons, step]
      change groupFrom next (lexemes ++ newline :: rest) >>= _ = _
      rw [induction later]
      cases group rest with
      | error fault => rfl
      | ok further =>
          change Except.ok (complete.toList ++ (others ++ further)) = _
          rw [← List.append_assoc]
          rfl

private theorem group_map_down (rows : Int) (lexemes : List Lexeme) :
    group (lexemes.map (Lexeme.down rows)) =
      match group lexemes with
      | .ok statements => .ok (statements.map (down rows))
      | .error fault => .error (fault.down rows) := by
  have displaced := displaced_group (Lexeme.forall₂_displaced_down rows lexemes)
  generalize group lexemes = first at displaced ⊢
  generalize group (lexemes.map (Lexeme.down rows)) = second at displaced ⊢
  cases displaced with
  | ok statements => rw [eq_map_down_of_forall₂ statements]
  | error fault => rw [fault.eq_down]

/-! ## Texts behind the end of a line -/

/-- A text behind a text that can be parsed and a line feed is parsed as it is alone, further
down. -/
theorem parse_append_newline {file first : String} {statements : List Statement}
    (parsed : parse file first = .ok statements) (second : String) :
    parse file (first ++ "\n" ++ second) =
      match parse file second with
      | .ok others => .ok (statements ++ others.map (down (Text.rows first)))
      | .error fault => .error (fault.down (Text.rows first)) := by
  obtain ⟨lexemes, scanned, grouped⟩ := Success.bind_eq_ok.mp parsed
  obtain ⟨newline, kind, both⟩ := Lexeme.scan_append_newline scanned second
  rw [parse, parse, both]
  cases Lexeme.scan file second with
  | error fault => rfl
  | ok others =>
      dsimp only [bind, Except.bind]
      rw [group, groupFrom_append_newline grouped kind, group_map_down]
      cases group others <;> rfl

/-- A comment, and a string that goes over the end of a line. -/
def stringOverLines : String := "a: // x\n\tdb 'p\nq'"

theorem parse_append_newline_stringOverLines :
    ∃ statements others, parse "s" stringOverLines = .ok statements ∧
      parse "s" "nop (1 + b)" = .ok others ∧
      parse "s" (stringOverLines ++ "\n" ++ "nop (1 + b)") =
        .ok (statements ++ others.map (down 3)) ∧
      parse "s" (stringOverLines ++ "\n" ++ "nop 1 2") =
        .error (.located ⟨"s", 4, 7⟩ (.unexpectedSource "2")) := by
  have front : (parse "s" stringOverLines).map (fun _ => ()) = .ok () := by decide +kernel
  have back : (parse "s" "nop (1 + b)").map (fun _ => ()) = .ok () := by decide +kernel
  have refused : (parse "s" "nop 1 2").map (fun _ => ()) =
      .error (.located ⟨"s", 1, 7⟩ (.unexpectedSource "2")) := by
    decide +kernel
  obtain ⟨statements, parsed, -⟩ := Success.map_eq_ok.mp front
  obtain ⟨others, others_parsed, -⟩ := Success.map_eq_ok.mp back
  have accepted := parse_append_newline parsed "nop (1 + b)"
  have rejected := parse_append_newline parsed "nop 1 2"
  refine ⟨statements, others, parsed, others_parsed, ?_, ?_⟩
  · rw [others_parsed] at accepted
    exact accepted
  · cases fault : parse "s" "nop 1 2" with
    | ok others => simp [fault, Except.map] at refused
    | error fault_at =>
        rw [fault, Except.map, Except.error.injEq] at refused
        rw [fault, refused] at rejected
        exact rejected

end Statement
end TableAssembler
