import TableAssembler.Proofs.Statement.Grammar
import TableAssembler.Proofs.Success
import TableAssembler.Statement.Grouping

/-!
# Grouping reads the grammar

Lexemes are read one at a time, with the open parentheses on a stack.  An operand is read to the
place where it is complete, whatever is open around it, so every program is accepted.  What some
progress still demands of the lexemes is a part of a program, so nothing else is.
-/

namespace TableAssembler
namespace Statement

/-! ## Programs are accepted -/

namespace Progress

@[simp]
theorem need_await (progress : Progress) (last : Lexeme) (need : Need) :
    (progress.await last need).need = need := rfl

@[simp]
theorem await_await (progress : Progress) (last later : Lexeme) (first second : Need) :
    (progress.await last first).await later second = progress.await later second := rfl

@[simp]
theorem accept_await (progress : Progress) (last later operand : Lexeme) (need : Need)
    (pending : List Pending) :
    (progress.await last need).accept later operand pending =
      progress.accept later operand pending := by
  match pending with
  | [] => rfl
  | .left _ :: _ => rfl
  | .right .. :: _ => rfl

@[simp]
theorem operand_await (progress : Progress) (last lexeme : Lexeme) (need : Need)
    (pending : List Pending) :
    (progress.await last need).operand pending lexeme = progress.operand pending lexeme := by
  simp [operand]

theorem operand_of_word {lexeme : Lexeme}
    (word : lexeme.kind = .identifier ∨ lexeme.kind = .number ∨ lexeme.kind = .text)
    (progress : Progress) (pending : List Pending) :
    progress.operand pending lexeme = .ok (progress.accept lexeme lexeme pending) := by
  rcases word with kind | kind | kind <;> simp [operand, kind]

theorem operand_of_opening {opening : Lexeme} (parenthesis : opening.is .punctuation "(" = true)
    (progress : Progress) (pending : List Pending) :
    progress.operand pending opening =
      .ok (progress.await opening (.operand (.left opening :: pending))) := by
  simp [operand, Lexeme.kind_of_is parenthesis, parenthesis]

/-- A lexeme that does not end the line is read as the start of an operand. -/
theorem step_of_operand {progress : Progress} {pending : List Pending}
    (need : progress.need = .operand pending) {lexeme : Lexeme}
    (inside : lexeme.kind ≠ .newline) :
    progress.step lexeme =
      (progress.operand pending lexeme).map fun next => (none, some next) := by
  cases pending <;> simp [step, need, inside]

theorem step_word {progress : Progress} {pending : List Pending}
    (need : progress.need = .operand pending) {lexeme : Lexeme}
    (word : lexeme.kind = .identifier ∨ lexeme.kind = .number ∨ lexeme.kind = .text) :
    progress.step lexeme = .ok (none, some (progress.accept lexeme lexeme pending)) := by
  have inside : lexeme.kind ≠ .newline := by
    rcases word with kind | kind | kind <;> simp [kind]
  rw [step_of_operand need inside, operand_of_word word]
  rfl

theorem step_opening {progress : Progress} {pending : List Pending}
    (need : progress.need = .operand pending) {opening : Lexeme}
    (opens : opening.is .punctuation "(" = true) :
    progress.step opening =
      .ok (none, some (progress.await opening (.operand (.left opening :: pending)))) := by
  rw [step_of_operand need (by simp [Lexeme.kind_of_is opens]), operand_of_opening opens]
  rfl

theorem step_operator {progress : Progress} {opening left operator : Lexeme}
    {pending : List Pending} (need : progress.need = .operator opening left pending)
    (kind : operator.kind = .operator) :
    progress.step operator =
      .ok (none,
        some (progress.await operator (.operand (.right opening left operator :: pending)))) := by
  simp [step, need, kind]

theorem step_closing {progress : Progress} {opening left operator right closing : Lexeme}
    {pending : List Pending} (need : progress.need = .closing opening left operator right pending)
    (closes : closing.is .punctuation ")" = true) :
    progress.step closing =
      .ok (none, some (progress.accept closing
        (.ofOperation left operator right opening.location) pending)) := by
  simp [step, need, closes]

theorem step_comma {progress : Progress} {comma : Lexeme} (need : progress.need = .separator)
    (is_comma : comma.is .punctuation "," = true) :
    progress.step comma = .ok (none, some (progress.await comma (.operand []))) := by
  simp [step, need, is_comma, Lexeme.kind_of_is is_comma]

end Progress

theorem groupFrom_cons (state : Option Progress) (lexeme : Lexeme) (rest : List Lexeme) :
    groupFrom state (lexeme :: rest) =
      groupStep state lexeme >>= fun step =>
        groupFrom step.2 rest >>= fun statements => pure (step.1.toList ++ statements) := by
  cases state <;> rfl

theorem groupFrom_cons_eq_ok {state : Option Progress} {lexeme : Lexeme} {rest : List Lexeme}
    {statements : List Statement} :
    groupFrom state (lexeme :: rest) = .ok statements ↔
      ∃ complete next others, groupStep state lexeme = .ok (complete, next) ∧
        groupFrom next rest = .ok others ∧ complete.toList ++ others = statements := by
  cases state <;>
    simp only [groupFrom, Success.bind_eq_ok, Success.pure_eq_ok, Prod.exists, exists_and_left]

theorem groupFrom_of_step {progress next : Progress} {lexeme : Lexeme}
    (step : progress.step lexeme = .ok (none, some next)) (rest : List Lexeme) :
    groupFrom (some progress) (lexeme :: rest) = groupFrom (some next) rest := by
  cases later : groupFrom (some next) rest <;>
    simp [groupFrom, groupStep, step, later, bind, Except.bind, pure, Except.pure]

private theorem groupFrom_of_isOperand {part : List Lexeme} {operand : Lexeme}
    (derives : Lexeme.IsOperand part operand) (progress : Progress) (pending : List Pending)
    (need : progress.need = .operand pending) :
    ∃ last, ∀ rest, groupFrom (some progress) (part ++ rest) =
      groupFrom (some (progress.accept last operand pending)) rest := by
  induction derives generalizing progress pending with
  | word word => exact ⟨_, groupFrom_of_step (Progress.step_word need word)⟩
  | @closure opening operator closing left right leftPart rightPart opens _ kind _ closes
      left_ih right_ih =>
      let opened := progress.await opening (.operand (.left opening :: pending))
      obtain ⟨leftLast, left_read⟩ := left_ih opened _ rfl
      let between := opened.await leftLast (.operator opening left pending)
      let beyond := between.await operator (.operand (.right opening left operator :: pending))
      obtain ⟨rightLast, right_read⟩ := right_ih beyond _ rfl
      let behind := beyond.await rightLast (.closing opening left operator right pending)
      refine ⟨closing, fun rest => ?_⟩
      calc
        groupFrom (some progress)
            ((opening :: leftPart ++ operator :: rightPart ++ [closing]) ++ rest) =
            groupFrom (some opened) (leftPart ++ (operator :: (rightPart ++ closing :: rest))) := by
          rw [← groupFrom_of_step (Progress.step_opening need opens)]
          simp
        _ = groupFrom (some between) (operator :: (rightPart ++ closing :: rest)) := left_read _
        _ = groupFrom (some beyond) (rightPart ++ closing :: rest) :=
          groupFrom_of_step (Progress.step_operator rfl kind) _
        _ = groupFrom (some behind) (closing :: rest) := right_read _
        _ = groupFrom (some (behind.accept closing
              (.ofOperation left operator right opening.location) pending)) rest :=
          groupFrom_of_step (Progress.step_closing rfl closes) _
        _ = groupFrom (some (progress.accept closing
              (.ofOperation left operator right opening.location) pending)) rest := by
          simp [behind, beyond, between, opened]

/-- The statement may end here. -/
def Progress.Complete (progress : Progress) : Prop :=
  progress.need = .afterName ∨ progress.need = .separator

private theorem groupFrom_of_areOperands {part operands : List Lexeme}
    (derives : AreOperands part operands) (progress : Progress)
    (need : progress.need = .operand []) :
    ∃ next : Progress, next.need = .separator ∧
      next.instruction = .instruction progress.name (progress.args ++ operands) ∧
      ∀ rest, groupFrom (some progress) (part ++ rest) = groupFrom (some next) rest := by
  induction derives generalizing progress with
  | @single part operand derives =>
      obtain ⟨last, read⟩ := groupFrom_of_isOperand derives progress [] need
      exact ⟨_, rfl, rfl, read⟩
  | @cons part further operand comma operands derives is_comma _ induction =>
      obtain ⟨last, read⟩ := groupFrom_of_isOperand derives progress [] need
      obtain ⟨next, next_need, instruction_eq, further_read⟩ :=
        induction ((progress.accept last operand []).await comma (.operand [])) rfl
      refine ⟨next, next_need, ?_, fun rest => ?_⟩
      · rw [instruction_eq]
        simp [Progress.await, Progress.accept]
      · calc
          groupFrom (some progress) ((part ++ comma :: further) ++ rest) =
              groupFrom (some (progress.accept last operand [])) (comma :: (further ++ rest)) := by
            rw [← read]
            simp
          _ = groupFrom (some ((progress.accept last operand []).await comma (.operand [])))
                (further ++ rest) :=
            groupFrom_of_step (Progress.step_comma rfl is_comma) _
          _ = groupFrom (some next) rest := further_read rest

private theorem groupFrom_ofName {part operands : List Lexeme} (derives : AreOperands part operands)
    (name : Lexeme) (rest : List Lexeme) :
    groupFrom (some (.ofName name)) (part ++ rest) =
      groupFrom (some ((Progress.ofName name).await name (.operand []))) (part ++ rest) := by
  obtain ⟨first, further, rfl⟩ := List.exists_cons_of_ne_nil derives.ne_nil
  obtain ⟨inside, no_colon⟩ := derives.isInner first List.mem_cons_self
  have same : (Progress.ofName name).step first =
      ((Progress.ofName name).await name (.operand [])).step first := by
    have behind : ((Progress.ofName name).await name (.operand [])).step first =
        (((Progress.ofName name).await name (.operand [])).operand [] first).map
          fun next => (none, some next) :=
      Progress.step_of_operand rfl inside
    rw [behind, Progress.operand_await]
    simp [Progress.step, Progress.ofName, inside, no_colon]
  simp only [List.cons_append, groupFrom, groupStep, same]

private theorem groupFrom_name {name : Lexeme} (kind : name.kind = .identifier)
    (rest : List Lexeme) :
    groupFrom none (name :: rest) = groupFrom (some (.ofName name)) rest := by
  cases later : groupFrom (some (.ofName name)) rest <;>
    simp [groupFrom, groupStep, kind, later, bind, Except.bind, pure, Except.pure]

private theorem groupFrom_of_isInstruction {part : List Lexeme} {statement : Statement}
    (derives : IsInstruction part statement) :
    ∃ progress : Progress, progress.Complete ∧ progress.instruction = statement ∧
      ∀ rest, groupFrom none (part ++ rest) = groupFrom (some progress) rest := by
  cases derives with
  | bare kind => exact ⟨_, .inl rfl, rfl, groupFrom_name kind⟩
  | @operands name part args kind derives =>
      obtain ⟨next, need, instruction_eq, read⟩ :=
        groupFrom_of_areOperands derives ((Progress.ofName name).await name (.operand [])) rfl
      refine ⟨next, .inr need, instruction_eq, fun rest => ?_⟩
      rw [List.cons_append, groupFrom_name kind, groupFrom_ofName derives, read]

private theorem groupFrom_nil_of_complete {progress : Progress} (complete : progress.Complete) :
    groupFrom (some progress) [] = .ok [progress.instruction] := by
  rcases complete with need | need <;> simp [groupFrom, Progress.finish, need, Except.map]

private theorem groupFrom_newline_of_complete {progress : Progress} (complete : progress.Complete)
    {newline : Lexeme} (kind : newline.kind = .newline) {rest : List Lexeme}
    {statements : List Statement} (later : groupFrom none rest = .ok statements) :
    groupFrom (some progress) (newline :: rest) = .ok (progress.instruction :: statements) := by
  have step : progress.step newline = .ok (some progress.instruction, none) := by
    rcases complete with need | need <;> simp [Progress.step, need, kind, Lexeme.is]
  exact groupFrom_cons_eq_ok.mpr ⟨_, _, _, step, later, rfl⟩

/-- Programs of the grammar are accepted. -/
theorem group_of_isProgram {lexemes : List Lexeme} {statements : List Statement}
    (derives : IsProgram lexemes statements) : group lexemes = .ok statements := by
  unfold group
  induction derives with
  | nil => rfl
  | newline kind _ induction =>
      refine groupFrom_cons_eq_ok.mpr ⟨none, none, _, ?_, induction, rfl⟩
      simp [groupStep, kind]
  | @label name colon rest statements kind is_colon _ induction =>
      have colon_step : (Progress.ofName name).step colon = .ok (some (.label name), none) := by
        simp [Progress.step, Progress.ofName, is_colon]
      refine groupFrom_cons_eq_ok.mpr ⟨none, some (.ofName name), _, ?_, ?_, rfl⟩
      · simp [groupStep, kind]
      · exact groupFrom_cons_eq_ok.mpr ⟨_, _, _, colon_step, induction, rfl⟩
  | last derives =>
      obtain ⟨progress, complete, rfl, read⟩ := groupFrom_of_isInstruction derives
      rw [← groupFrom_nil_of_complete complete, ← read, List.append_nil]
  | instruction derives kind _ induction =>
      obtain ⟨progress, complete, rfl, read⟩ := groupFrom_of_isInstruction derives
      rw [read, groupFrom_newline_of_complete complete kind induction]

/-! ## Only programs are accepted -/

/-- The lexemes close the parentheses that are open around an operand, and complete another. -/
inductive Closes : List Pending → Lexeme → List Lexeme → Lexeme → Prop
  | nil {operand : Lexeme} : Closes [] operand [] operand
  /-- Behind a left operand the operator and the right operand follow first. -/
  | left {opening left operator right closing whole : Lexeme} {pending : List Pending}
      {rightPart rest : List Lexeme} :
      operator.kind = .operator → Lexeme.IsOperand rightPart right →
        closing.is .punctuation ")" = true →
        Closes pending (.ofOperation left operator right opening.location) rest whole →
        Closes (.left opening :: pending) left (operator :: rightPart ++ closing :: rest) whole
  | right {opening left operator right closing whole : Lexeme} {pending : List Pending}
      {rest : List Lexeme} :
      closing.is .punctuation ")" = true →
        Closes pending (.ofOperation left operator right opening.location) rest whole →
        Closes (.right opening left operator :: pending) right (closing :: rest) whole

/-- The lexemes behind a complete instruction. -/
inductive Ends (statement : Statement) : List Lexeme → List Statement → Prop
  | last : Ends statement [] [statement]
  | newline {newline : Lexeme} {rest : List Lexeme} {statements : List Statement} :
      newline.kind = .newline → IsProgram rest statements →
        Ends statement (newline :: rest) (statement :: statements)

/-- The lexemes behind some operands of an instruction. -/
inductive Continues (name : Lexeme) (args : List Lexeme) : List Lexeme → List Statement → Prop
  | ends {rest : List Lexeme} {statements : List Statement} :
      Ends (.instruction name args) rest statements → Continues name args rest statements
  | comma {comma : Lexeme} {part rest operands : List Lexeme} {statements : List Statement} :
      comma.is .punctuation "," = true → AreOperands part operands →
        Ends (.instruction name (args ++ operands)) rest statements →
        Continues name args (comma :: part ++ rest) statements

namespace Progress

/-- The lexemes close what is open around an operand, and go on with the instruction. -/
def Finishes (progress : Progress) (pending : List Pending) (operand : Lexeme)
    (rest : List Lexeme) (statements : List Statement) : Prop :=
  ∃ closing whole further, rest = closing ++ further ∧ Closes pending operand closing whole ∧
    Continues progress.name (progress.args ++ [whole]) further statements

/-- What the lexemes behind some progress must be. -/
def Demands (progress : Progress) (rest : List Lexeme) (statements : List Statement) : Prop :=
  match progress.need with
  | .afterName =>
      (∃ colon further others, rest = colon :: further ∧ colon.is .punctuation ":" = true ∧
        IsProgram further others ∧ statements = .label progress.name :: others) ∨
      Ends progress.instruction rest statements ∨
      ∃ part operands further, rest = part ++ further ∧ AreOperands part operands ∧
        Ends (.instruction progress.name (progress.args ++ operands)) further statements
  | .operand pending =>
      ∃ part operand further, rest = part ++ further ∧ Lexeme.IsOperand part operand ∧
        progress.Finishes pending operand further statements
  | .operator opening left pending =>
      progress.Finishes (.left opening :: pending) left rest statements
  | .closing opening left operator right pending =>
      progress.Finishes (.right opening left operator :: pending) right rest statements
  | .separator => Continues progress.name progress.args rest statements

/-- An operand that has been accepted is closed by what is demanded then. -/
theorem finishes_of_accept {progress : Progress} {last operand : Lexeme} {pending : List Pending}
    {rest : List Lexeme} {statements : List Statement}
    (demands : (progress.accept last operand pending).Demands rest statements) :
    progress.Finishes pending operand rest statements := by
  match pending with
  | [] => exact ⟨[], operand, rest, rfl, .nil, demands⟩
  | .left _ :: _ => exact demands
  | .right .. :: _ => exact demands

theorem demands_of_operand {progress next : Progress} {pending : List Pending} {lexeme : Lexeme}
    {rest : List Lexeme} {statements : List Statement}
    (read : progress.operand pending lexeme = .ok next) (demands : next.Demands rest statements) :
    ∃ part operand further, lexeme :: rest = part ++ further ∧ Lexeme.IsOperand part operand ∧
      progress.Finishes pending operand further statements := by
  by_cases word : lexeme.kind = .identifier ∨ lexeme.kind = .number ∨ lexeme.kind = .text
  · rw [operand_of_word word, Except.ok.injEq] at read
    subst read
    exact ⟨[lexeme], lexeme, rest, rfl, .word word, finishes_of_accept demands⟩
  · have opens : lexeme.is .punctuation "(" = true := by
      by_contra other
      unfold operand at read
      split at read
      all_goals simp_all
    rw [operand_of_opening opens, Except.ok.injEq] at read
    subst read
    obtain ⟨leftPart, left, further, rfl, derives, closing, whole, behind, rfl, closes,
      continues⟩ := demands
    cases closes with
    | @left _ _ operator right close _ _ rightPart later kind right_derives is_close closes =>
        refine ⟨lexeme :: leftPart ++ operator :: rightPart ++ [close], _, later ++ behind, ?_,
          .closure opens derives kind right_derives is_close, later, whole, behind, rfl, closes,
          continues⟩
        simp

private theorem areOperands_of_finishes {progress : Progress} {part further : List Lexeme}
    {operand : Lexeme} {statements : List Statement} (derives : Lexeme.IsOperand part operand)
    (finishes : progress.Finishes [] operand further statements) :
    ∃ whole operands behind, part ++ further = whole ++ behind ∧ AreOperands whole operands ∧
      Ends (.instruction progress.name (progress.args ++ operands)) behind statements := by
  obtain ⟨closing, whole, behind, rfl, closes, continues⟩ := finishes
  cases closes
  cases continues with
  | ends ends => exact ⟨part, [operand], behind, rfl, .single derives, ends⟩
  | @comma comma others later operands _ is_comma others_derive ends =>
      refine ⟨part ++ comma :: others, operand :: operands, later, by simp,
        .cons derives is_comma others_derive, ?_⟩
      rwa [List.append_assoc] at ends

private theorem operand_eq_ok_of_step {progress : Progress} {pending : List Pending}
    {lexeme : Lexeme} {complete : Option Statement} {next : Option Progress}
    (need : progress.need = .operand pending)
    (read : progress.step lexeme = .ok (complete, next)) :
    ∃ later, progress.operand pending lexeme = .ok later ∧ complete = none ∧ next = some later := by
  have mapped : (progress.operand pending lexeme).map (fun next => (none, some next)) =
      .ok (complete, next) := by
    unfold step at read
    cases pending with
    | nil =>
        simp only [need] at read
        split_ifs at read
        exact read
    | cons =>
        simp only [need] at read
        exact read
  obtain ⟨later, operand_read, same⟩ := Success.map_eq_ok.mp mapped
  cases same
  exact ⟨later, operand_read, rfl, rfl⟩

/-- What one step preserves: what is demanded behind a lexeme, with the lexeme in front. -/
theorem demands_of_step {progress : Progress} {lexeme : Lexeme} {complete : Option Statement}
    {next : Option Progress} {rest : List Lexeme} {statements : List Statement}
    (read : progress.step lexeme = .ok (complete, next))
    (demands : next.elim (IsProgram rest statements) fun next => next.Demands rest statements) :
    progress.Demands (lexeme :: rest) (complete.toList ++ statements) := by
  unfold Demands
  cases need : progress.need with
  | afterName =>
      simp only [step, need] at read ⊢
      split_ifs at read with is_colon kind
      · cases read
        exact .inl ⟨lexeme, rest, statements, rfl, is_colon, demands, rfl⟩
      · cases read
        exact .inr (.inl (.newline kind demands))
      · obtain ⟨later, operand_read, same⟩ := Success.map_eq_ok.mp read
        cases same
        obtain ⟨part, operand, further, split, derives, finishes⟩ :=
          demands_of_operand operand_read demands
        rw [split]
        exact .inr (.inr (areOperands_of_finishes derives finishes))
  | operand pending =>
      obtain ⟨later, operand_read, rfl, rfl⟩ := operand_eq_ok_of_step need read
      exact demands_of_operand operand_read demands
  | operator opening left pending =>
      simp only [step, need] at read ⊢
      split_ifs at read with kind
      cases read
      obtain ⟨part, right, further, rfl, derives, closing, whole, behind, rfl, closes,
        continues⟩ := demands
      cases closes with
      | @right _ _ _ _ close _ _ later is_close closes =>
          refine ⟨_, whole, behind, ?_, .left kind derives is_close closes, continues⟩
          simp
  | closing opening left operator right pending =>
      simp only [step, need] at read ⊢
      split_ifs at read with is_close
      cases read
      obtain ⟨closing, whole, further, rfl, closes, continues⟩ := finishes_of_accept demands
      exact ⟨lexeme :: closing, whole, further, rfl, .right is_close closes, continues⟩
  | separator =>
      simp only [step, need] at read ⊢
      split_ifs at read with kind is_comma
      · cases read
        exact .ends (.newline kind demands)
      · cases read
        obtain ⟨part, operand, further, rfl, derives, finishes⟩ := demands
        obtain ⟨whole, operands, behind, split, whole_derives, ends⟩ :=
          areOperands_of_finishes derives finishes
        rw [split]
        exact .comma is_comma whole_derives ends

private theorem demands_of_finish {progress : Progress} {statement : Statement}
    (finished : progress.finish = .ok statement) : progress.Demands [] [statement] := by
  unfold finish at finished
  unfold Demands
  cases need : progress.need with
  | afterName =>
      simp only [need, Except.ok.injEq] at finished ⊢
      subst finished
      exact .inr (.inl .last)
  | separator =>
      simp only [need, Except.ok.injEq] at finished ⊢
      subst finished
      exact .ends .last
  | operand | operator | closing => simp [need] at finished

end Progress

private theorem isProgram_of_ends {part rest : List Lexeme} {statement : Statement}
    {statements : List Statement} (derives : IsInstruction part statement)
    (ends : Ends statement rest statements) : IsProgram (part ++ rest) statements := by
  cases ends with
  | last =>
      rw [List.append_nil]
      exact .last derives
  | newline kind program => exact .instruction derives kind program

private theorem isProgram_of_demands {name : Lexeme} {rest : List Lexeme}
    {statements : List Statement}
    (kind : name.kind = .identifier) (demands : (Progress.ofName name).Demands rest statements) :
    IsProgram (name :: rest) statements := by
  rcases demands with ⟨colon, further, others, rfl, is_colon, program, rfl⟩ | ends |
    ⟨part, operands, further, rfl, derives, ends⟩
  · exact .label kind is_colon program
  · exact isProgram_of_ends (.bare kind) ends
  · exact isProgram_of_ends (.operands kind derives) ends

private theorem demands_of_groupFrom {state : Option Progress} {lexemes : List Lexeme}
    {statements : List Statement} (grouped : groupFrom state lexemes = .ok statements) :
    state.elim (IsProgram lexemes statements) fun progress =>
      progress.Demands lexemes statements := by
  induction lexemes generalizing state statements with
  | nil =>
      cases state with
      | none =>
          cases grouped
          exact .nil
      | some progress =>
          obtain ⟨statement, finished, rfl⟩ := Success.map_eq_ok.mp grouped
          exact Progress.demands_of_finish finished
  | cons lexeme rest induction =>
      obtain ⟨complete, next, others, step, later, rfl⟩ := groupFrom_cons_eq_ok.mp grouped
      cases state with
      | some progress => exact Progress.demands_of_step step (induction later)
      | none =>
          simp only [groupStep] at step
          split_ifs at step with newline kind
          · cases step
            exact .newline newline (induction later)
          · cases step
            exact isProgram_of_demands kind (induction later)

/-- Grouping reads exactly the programs of the grammar. -/
theorem group_eq_ok_iff {lexemes : List Lexeme} {statements : List Statement} :
    group lexemes = .ok statements ↔ IsProgram lexemes statements :=
  ⟨demands_of_groupFrom, group_of_isProgram⟩

end Statement
end TableAssembler
