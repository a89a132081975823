import TableAssembler.Label.Placement
import TableAssembler.Label.Scope
import TableAssembler.Proofs.Label.Scope
import TableAssembler.Proofs.Lexeme.Place
import TableAssembler.Proofs.Pseudo.Expansion
import TableAssembler.Proofs.Statement.Grouping
import TableAssembler.Statement.Folding

/-!
# The places of statements

Statements lie where the lexemes are that they are read from, and where they call for others: an
expanded statement is put at the place of its call, with operands from the call and from the body.
Whatever cannot be read, expanded or folded is found at one of these places, or, when something is
missing at the end of a line, just behind a lexeme.
-/

namespace TableAssembler

variable {places : Location → Prop}

theorem Lexeme.IsOperand.liesIn {part : List Lexeme} {operand : Lexeme}
    (derives : Lexeme.IsOperand part operand) (lie : ∀ lexeme ∈ part, lexeme.LiesIn places) :
    operand.LiesIn places := by
  induction derives with
  | word => exact lie _ List.mem_cons_self
  | @closure _ operator _ left right _ _ _ _ _ _ _ left_ih right_ih =>
      simp only [List.cons_append, List.append_assoc, List.forall_mem_cons,
        List.forall_mem_append] at lie
      obtain ⟨opening, left_lies, operator_lies, right_lies, -⟩ := lie
      refine .intro opening.location ?_
      simp only [Lexeme.ofOperation, List.forall_mem_cons]
      exact ⟨left_ih left_lies, operator_lies, right_ih right_lies, by simp⟩

namespace Statement

/-- The statement stands at one of some places, and so do its operands. -/
structure LiesIn (places : Location → Prop) (statement : Statement) : Prop where
  location : places statement.location
  args : ∀ arg ∈ statement.args, arg.LiesIn places

/-- All statements lie at some places. -/
abbrev AllLieIn (places : Location → Prop) (statements : List Statement) : Prop :=
  ∀ statement ∈ statements, statement.LiesIn places

theorem LiesIn.imp {further : Location → Prop} {statement : Statement}
    (lies : statement.LiesIn places) (weaker : ∀ location, places location → further location) :
    statement.LiesIn further :=
  ⟨weaker _ lies.location, fun arg member => (lies.args arg member).imp weaker⟩

/-! ## Reading -/

theorem ReadFrom.liesIn {statement : Statement} {lexemes : List Lexeme}
    (readFrom : statement.ReadFrom lexemes) (lie : ∀ lexeme ∈ lexemes, lexeme.LiesIn places) :
    statement.LiesIn places := by
  refine ⟨(lie _ readFrom.name).location, fun arg member => ?_⟩
  obtain ⟨part, inside, derives⟩ := readFrom.args arg member
  exact derives.liesIn fun lexeme used => lie lexeme (inside used)

namespace Progress

variable {progress : Progress} {lexeme : Lexeme}

theorem last_accept (progress : Progress) (last operand : Lexeme) (pending : List Pending) :
    (progress.accept last operand pending).last = last := by
  rcases pending with _ | ⟨_ | _, _⟩ <;> rfl

private theorem foundAt_operand (progress : Progress) (pending : List Pending)
    (here : places lexeme.location) :
    Fault.FoundAt places (fun next => next.last = lexeme) (progress.operand pending lexeme) := by
  unfold operand
  split
  · exact .ok (last_accept ..)
  · exact .ok (last_accept ..)
  · exact .ok (last_accept ..)
  · split_ifs
    · exact .ok rfl
    · exact Fault.foundAt_located here

private theorem foundAt_mapOperand (progress : Progress) (pending : List Pending)
    (here : places lexeme.location) :
    Fault.FoundAt places (fun step => ∀ next ∈ step.2, next.last = lexeme)
      ((progress.operand pending lexeme).map fun next =>
        ((none, some next) : Option Statement × Option Progress)) :=
  (progress.foundAt_operand pending here).map fun next last => by simpa using last

private theorem foundAt_step (behind : places progress.last.after) (here : places lexeme.location) :
    Fault.FoundAt places (fun step => ∀ next ∈ step.2, next.last = lexeme)
      (progress.step lexeme) := by
  unfold step
  split
  · split_ifs
    · exact .ok (by simp)
    · exact .ok (by simp)
    · exact progress.foundAt_mapOperand [] here
  · split_ifs
    · exact Fault.foundAt_located behind
    · exact progress.foundAt_mapOperand [] here
  · exact progress.foundAt_mapOperand _ here
  · split_ifs
    · exact .ok (by simp [await])
    · exact Fault.foundAt_located here
  · split_ifs
    · exact .ok (by simp [last_accept])
    · exact Fault.foundAt_located here
  · split_ifs
    · exact .ok (by simp)
    · exact .ok (by simp [await])
    · exact Fault.foundAt_located here

private theorem foundAt_finish (behind : places progress.last.after) :
    Fault.FoundAt places (fun _ => True) progress.finish := by
  unfold finish
  split
  · exact .ok trivial
  · exact .ok trivial
  all_goals exact Fault.foundAt_located behind

end Progress

private theorem foundAt_groupStep {state : Option Progress} {lexeme : Lexeme}
    (behind : ∀ progress ∈ state, places progress.last.after) (here : places lexeme.location) :
    Fault.FoundAt places (fun step => ∀ next ∈ step.2, next.last = lexeme)
      (groupStep state lexeme) := by
  cases state with
  | some progress => exact Progress.foundAt_step (behind progress rfl) here
  | none =>
      dsimp only [groupStep]
      split_ifs
      · exact .ok (by simp)
      · exact .ok (by simp [Progress.ofName])
      · exact Fault.foundAt_located here

private theorem foundAt_groupFrom {state : Option Progress} {lexemes : List Lexeme}
    (behind : ∀ progress ∈ state, places progress.last.after)
    (around : ∀ lexeme ∈ lexemes, places lexeme.location ∧ places lexeme.after) :
    Fault.FoundAt places (fun _ => True) (groupFrom state lexemes) := by
  induction lexemes generalizing state with
  | nil =>
      cases state with
      | none => exact .ok trivial
      | some progress =>
          exact (Progress.foundAt_finish (behind progress rfl)).map fun _ _ => trivial
  | cons lexeme lexemes induction =>
      obtain ⟨first, others⟩ := List.forall_mem_cons.mp around
      rw [groupFrom_cons]
      refine (foundAt_groupStep behind first.1).bind fun step last => ?_
      have step_behind : ∀ progress ∈ step.2, places progress.last.after :=
        fun progress found => last progress found ▸ first.2
      exact (induction step_behind others).bind fun _ _ => .ok trivial

private theorem foundAt_group {lexemes : List Lexeme}
    (lie : ∀ lexeme ∈ lexemes, lexeme.LiesIn places)
    (behind : ∀ lexeme ∈ lexemes, places lexeme.after) :
    Fault.FoundAt places (AllLieIn places) (group lexemes) := by
  have grouped : Fault.FoundAt places (fun _ => True) (group lexemes) :=
    foundAt_groupFrom (by simp) fun lexeme member =>
      ⟨(lie lexeme member).location, behind lexeme member⟩
  refine grouped.of_ok fun statements result _ statement member => ?_
  exact ((group_eq_ok_iff.mp result).readFrom statement member).liesIn lie

/-- A file is parsed into statements that lie in it.  What is wrong is found in it too, or just
behind a lexeme, where only the columns of a text without end could wrap around. -/
theorem foundAt_parse {file text : String}
    (reached : ∀ location : Location, location.OnRow file text.toList →
      (text.length + 1 < 2 ^ 63 → 1 ≤ location.col) → places location) :
    Fault.FoundAt places (AllLieIn places) (parse file text) := by
  have inside : ∀ location : Location, location.InText file text.toList → places location :=
    fun location inText => reached location inText.toOnRow fun _ => inText.col_pos
  have scanned : Fault.FoundAt places
      (fun lexemes => ∀ lexeme ∈ lexemes, lexeme.InText file text.toList)
      (Lexeme.scan file text) := by
    refine (Lexeme.foundAt_scan file text).imp ?_ fun _ inText => inText
    rintro fault ⟨location, cause, found, inText⟩
    exact ⟨location, cause, found, inside location inText⟩
  refine scanned.bind fun lexemes inText => foundAt_group ?_ ?_
  · intro lexeme member
    have here := inText lexeme member
    exact here.scanned.liesIn (inside _ here.location)
  · intro lexeme member
    have here := inText lexeme member
    exact reached _ here.after here.after_col

/-! ## Operands changed -/

theorem LiesIn.mapArgs {statement : Statement} {change : Lexeme → Lexeme}
    (lies : statement.LiesIn places)
    (changes : ∀ arg : Lexeme, arg.LiesIn places → (change arg).LiesIn places) :
    (statement.mapArgs change).LiesIn places := by
  refine ⟨?_, fun arg member => ?_⟩
  · rw [Statement.location, name_mapArgs]
    exact lies.location
  · unfold Statement.mapArgs at member
    split_ifs at member
    · obtain ⟨before, before_member, rfl⟩ := List.mem_map.mp member
      exact changes before (lies.args before before_member)
    · exact lies.args arg member

theorem LiesIn.foundAt_fold {statement : Statement} (lies : statement.LiesIn places)
    (wellFormed : ∀ arg ∈ statement.args, arg.WellFormed) :
    Fault.FoundAt places (LiesIn places) statement.fold := by
  unfold fold
  split_ifs
  · refine Outcome.Lands.bind (.mapM fun arg member =>
      (lies.args arg member).foundAt_fold (wellFormed arg member)) ?_
    exact fun args folded => .ok ⟨lies.location, folded⟩
  · exact .ok lies

end Statement

/-! ## Calls -/

/-- The body of a pseudo-instruction lies in its text. -/
theorem Pseudo.liesIn_of_compile {header body : String} {pseudo : Pseudo}
    (compiled : compile header body = .ok pseudo) :
    Statement.AllLieIn (Location.InText (fileOf header ++ "_BODY") body.toList) pseudo.body := by
  obtain ⟨lexemes, scanned, grouped⟩ := Success.bind_eq_ok.mp (parse_of_compile compiled)
  have found := Lexeme.foundAt_scan (fileOf header ++ "_BODY") body
  rw [scanned] at found
  obtain ⟨inText⟩ := found
  have derives := Statement.group_eq_ok_iff.mp grouped
  intro statement member
  refine (derives.readFrom statement member).liesIn fun lexeme used => ?_
  exact (inText lexeme used).scanned.liesIn (inText lexeme used).location

theorem Pseudo.foundAt_bind {pseudo : Pseudo} {call : Statement}
    (body : Statement.AllLieIn places pseudo.body) (lies : call.LiesIn places) :
    Fault.FoundAt places (Statement.AllLieIn places) (pseudo.bind call) := by
  unfold bind
  split_ifs
  · exact Fault.foundAt_located lies.location
  · refine .ok (List.forall_mem_map.mpr fun statement member => ⟨lies.location, ?_⟩)
    refine List.forall_mem_map.mpr fun arg arg_member => ?_
    refine ((body statement member).args arg arg_member).mapIdentifiers fun identifier here => ?_
    unfold bindIdentifier
    cases found : Dictionary.find? (pseudo.binding call.args) identifier.value with
    | none => exact here
    | some actual => exact lies.args actual (mem_of_find?_binding found)

namespace Library

/-- The bodies of all pseudo-instructions lie at some places. -/
def LiesIn (places : Location → Prop) (library : Library) : Prop :=
  ∀ pseudo ∈ library.pseudos, Statement.AllLieIn places pseudo.body

variable {library : Library}

theorem LiesIn.foundAt_inline (bodies : library.LiesIn places) (depth : Nat)
    {statement : Statement} (lies : statement.LiesIn places) :
    Fault.FoundAt places (Statement.AllLieIn places) (library.inline depth statement) := by
  induction depth using Nat.strongRecOn generalizing statement with
  | ind depth induction =>
      unfold inline
      split_ifs
      · exact Fault.foundAt_located lies.location
      · cases found : library.find? statement.mnemonic with
        | none => exact .ok (List.forall_mem_singleton.mpr lies)
        | some pseudo =>
            cases depth with
            | zero => exact Fault.foundAt_located lies.location
            | succ room =>
                have body := bodies pseudo (List.mem_of_find?_eq_some found)
                refine (Pseudo.foundAt_bind body lies).bind fun out out_lies => ?_
                refine Outcome.Lands.bind (.mapM fun inner member =>
                  induction room (Nat.lt_succ_self room) (out_lies inner member)) ?_
                exact fun parts parts_lie => .ok (List.forall_mem_flatten.mpr parts_lie)

/-- A program is expanded into statements that lie where it does, and where bodies do if it calls
some. -/
theorem foundAt_expand {program : List Statement} (lie : Statement.AllLieIn places program)
    (bodies : ∀ call ∈ program, call.kind ≠ .label → (library.find? call.mnemonic).isSome →
      library.LiesIn places) :
    Fault.FoundAt places (Statement.AllLieIn places) (library.expand program) := by
  have replaced : ∀ statement ∈ program,
      Fault.FoundAt places (Statement.AllLieIn places) (library.expandStatement statement) := by
    intro statement member
    have alone := List.forall_mem_singleton.mpr (lie statement member)
    unfold expandStatement
    split_ifs with label
    · exact .ok alone
    · cases found : library.find? statement.mnemonic with
      | none =>
          unfold inline
          rw [if_neg label, found]
          exact .ok alone
      | some pseudo =>
          have called := bodies statement member label (by simp [found])
          exact called.foundAt_inline depthLimit (lie statement member)
  refine (Outcome.Lands.mapM replaced).bind fun parts parts_lie => ?_
  exact .ok (List.forall_mem_flatten.mpr parts_lie)

end Library

/-! ## Names and addresses -/

namespace Scope

private theorem liesIn_qualifyStatement (scope : String) {statement : Statement}
    (lies : statement.LiesIn places) : (qualifyStatement scope statement).LiesIn places := by
  have named : places (qualifyLexeme scope statement.name).location := by
    rw [location_qualifyLexeme]
    exact lies.location
  unfold qualifyStatement
  split_ifs
  · exact ⟨named, lies.args⟩
  · refine lies.mapArgs fun arg arg_lies => arg_lies.mapIdentifiers fun identifier here => ?_
    constructor
    · rw [location_qualifyLexeme]
      exact here.location
    · rw [args_qualifyLexeme]
      exact here.args

theorem liesIn_qualifyFrom (scope : String) {statements : List Statement}
    (lie : Statement.AllLieIn places statements) :
    Statement.AllLieIn places (qualifyFrom scope statements) := by
  induction statements generalizing scope with
  | nil => exact lie
  | cons statement statements induction =>
      obtain ⟨first, others⟩ := List.forall_mem_cons.mp lie
      exact List.forall_mem_cons.mpr
        ⟨liesIn_qualifyStatement scope first, induction (after scope statement) others⟩

end Scope

theorem Labels.liesIn_substitute (labels : Labels) {code : List Statement}
    (lie : Statement.AllLieIn places code) :
    Statement.AllLieIn places (labels.substitute code) := by
  refine List.forall_mem_map.mpr fun statement member => ?_
  refine (lie statement member).mapArgs fun arg arg_lies => ?_
  refine arg_lies.mapIdentifiers fun identifier here => ?_
  unfold substituteIdentifier
  split
  · exact Lexeme.liesIn_ofWord _ here.location
  · exact here

end TableAssembler
