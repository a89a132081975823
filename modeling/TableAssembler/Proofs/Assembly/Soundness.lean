import TableAssembler.Proofs.Assembly.Resolution
import TableAssembler.Proofs.Encoding.Instruction
import TableAssembler.Proofs.Statement.WellFormed

/-!
# Programs of text never break an invariant

Some causes guard against programs that no text can write: closures without an operator between
two operands, and statements that an earlier pass should have taken out.  A program that is read
from text is well-formed in every pass, so once its lexemes are grouped it fails for none of them.
-/

namespace TableAssembler

/-! ## The passes of a program -/

namespace Target

/-- The programs that lexemes pass through. -/
inductive Passes (target : Target) (lexemes : List Lexeme) : List Statement → Prop
  | grouped {program : List Statement} :
      Statement.group lexemes = .ok program → Passes target lexemes program
  /-- The statements that stand for a call, which is expanded in its turn. -/
  | body {program body : List Statement} {call : Statement} {pseudo : Pseudo} :
      Passes target lexemes program → call ∈ program →
        target.library.find? call.mnemonic = some pseudo → pseudo.bind call = .ok body →
        Passes target lexemes body
  | expanded {program out : List Statement} :
      Statement.group lexemes = .ok program → target.library.expand program = .ok out →
        Passes target lexemes out
  | qualified {program out : List Statement} :
      Statement.group lexemes = .ok program → target.library.expand program = .ok out →
        Passes target lexemes (Scope.qualify out)
  | placed {program out : List Statement} {placement : Placement} :
      Statement.group lexemes = .ok program → target.library.expand program = .ok out →
        target.place out = .ok placement → Passes target lexemes placement.code
  | substituted {program out : List Statement} {placement : Placement} :
      Statement.group lexemes = .ok program → target.library.expand program = .ok out →
        target.place out = .ok placement →
        Passes target lexemes (placement.labels.substitute placement.code)
  | folded {resolution : Resolution} :
      target.resolve lexemes = .ok resolution → Passes target lexemes resolution.statements

variable {target : Target} {lexemes : List Lexeme} {program : List Statement}

theorem wellFormed_of_place {placement : Placement}
    (wellFormed : Statement.AllWellFormed program)
    (placed : target.place program = .ok placement) :
    Statement.AllWellFormed placement.code := by
  obtain ⟨code_eq, -⟩ := Placement.describes_of_place placed
  intro statement member
  rw [code_eq] at member
  exact Scope.wellFormed_qualifyFrom wellFormed "" statement (List.mem_of_mem_filter member)

private theorem wellFormed_of_finish {placement : Placement} {resolution : Resolution}
    (wellFormed : Statement.AllWellFormed placement.code)
    (finished : finish placement = .ok resolution) :
    Statement.AllWellFormed resolution.statements := by
  simp only [finish, Statement.foldAll, Success.bind_eq_ok, Success.pure_eq_ok,
    Success.mapM_eq_ok] at finished
  obtain ⟨statements, folded, rfl⟩ := finished
  intro statement member
  obtain ⟨before, before_member, folded⟩ := Success.exists_input_of_forall₂ folded member
  exact (placement.labels.wellFormed_substitute wellFormed before before_member).fold folded

/-- Lexemes of text pass through well-formed programs only. -/
theorem Passes.wellFormed (passes : Passes target lexemes program)
    (parsed : target.library.Parsed) (scanned : ∀ lexeme ∈ lexemes, lexeme.Scanned) :
    Statement.AllWellFormed program := by
  have expansion {program out : List Statement} (grouped : Statement.group lexemes = .ok program)
      (expanded : target.library.expand program = .ok out) : Statement.AllWellFormed out :=
    parsed.wellFormed_of_expand expanded (Statement.wellFormed_of_group scanned grouped)
  induction passes with
  | grouped grouped => exact Statement.wellFormed_of_group scanned grouped
  | @body _ _ call _ _ member found bound induction =>
      exact parsed.wellFormed_of_call (induction call member) found bound
  | expanded grouped expanded => exact expansion grouped expanded
  | qualified grouped expanded => exact Scope.wellFormed_qualifyFrom (expansion grouped expanded) ""
  | placed grouped expanded placed => exact wellFormed_of_place (expansion grouped expanded) placed
  | substituted grouped expanded placed =>
      exact Labels.wellFormed_substitute _ (wellFormed_of_place (expansion grouped expanded) placed)
  | folded resolved =>
      simp only [resolve, Success.bind_eq_ok] at resolved
      obtain ⟨_, grouped, _, expanded, placement, placed, finished⟩ := resolved
      exact wellFormed_of_finish (wellFormed_of_place (expansion grouped expanded) placed) finished

end Target

/-! ## Placement -/

namespace Layout

private theorem sound_dataSize (layout : Layout) (data : Directive.Data) {args : List Lexeme}
    (wellFormed : ∀ arg ∈ args, arg.WellFormed) : Fault.Sound (layout.dataSize data args) := by
  refine Outcome.Confined.bind (.mapM fun arg member => ?_) fun _ _ => .ok _
  unfold argumentSize
  cases wellFormed arg member with
  | word word => rcases word.kind with kind | kind | kind <;> simp only [kind] <;> exact .ok _
  | closure kind =>
      simp only [kind]
      exact .ok _

private theorem sound_instructionSize (layout : Layout) (set : InstructionSet)
    (statement : Statement) :
    Fault.Sound (layout.instructionSize (some set.encodedSize) statement) := by
  have sized : ∀ cause, set.encodedSize statement.mnemonic = .error cause → ¬ cause.IsInternal := by
    intro cause failed
    unfold InstructionSet.encodedSize at failed
    split at failed
    · obtain rfl := Except.error.inj failed
      simp [Cause.IsInternal]
    · split_ifs at failed
      obtain rfl := Except.error.inj failed
      simp [Cause.IsInternal]
  unfold instructionSize
  split
  · exact .ok _
  · exact .ok _
  · next found =>
      obtain rfl := Option.some.inj found
      split
      · exact .ok _
      · next failed => exact Fault.sound_located (sized _ failed)

private theorem sound_statementSize (layout : Layout) (set : InstructionSet) {statement : Statement}
    (wellFormed : statement.WellFormed) :
    Fault.Sound (layout.statementSize (some set.encodedSize) statement) := by
  unfold statementSize
  split
  · exact layout.sound_instructionSize set statement
  · split_ifs
    · exact layout.sound_instructionSize set statement
    · exact layout.sound_dataSize _ wellFormed.args

end Layout

namespace Placement

private theorem sound_originAddress (statement : Statement) :
    Fault.Sound (originAddress statement) := by
  unfold originAddress
  split
  · split_ifs
    · exact Lexeme.sound_word _
    · exact Fault.sound_located (by simp [Cause.IsInternal])
  · exact Fault.sound_located (by simp [Cause.IsInternal])

theorem sound_placeFrom (layout : Layout) (set : InstructionSet) {statements : List Statement}
    (wellFormed : Statement.AllWellFormed statements) (address : UInt64) (labels : Labels) :
    Fault.Sound (placeFrom layout (some set.encodedSize) address labels statements) := by
  induction statements generalizing address labels with
  | nil => exact .ok _
  | cons statement statements induction =>
      obtain ⟨first, others⟩ := List.forall_mem_cons.mp wellFormed
      dsimp only [placeFrom]
      split_ifs
      · exact Fault.sound_located (by simp [Cause.IsInternal])
      · exact induction others _ _
      · exact (sound_originAddress statement).bind fun origin _ => induction others origin labels
      · refine (layout.sound_statementSize set first).bind fun size _ => ?_
        exact (induction others (address + size) labels).bind fun _ _ => .ok _

end Placement

/-! ## What is left to encode -/

/-- What holds of a statement that is left to encode. -/
structure Target.IsResolved (target : Target) (labels : Labels) (statement : Statement) :
    Prop where
  kind : statement.kind = .instruction
  no_origin : statement.mnemonic ≠ Directive.origin
  no_call : target.library.find? statement.mnemonic = none
  args : ∀ arg ∈ statement.args,
    arg.kind = .identifier ∨ arg.kind = .number ∨ arg.kind = .text
  no_label : ∀ arg ∈ statement.args, arg.kind = .identifier → arg.value ∉ Dictionary.names labels

theorem Lexeme.Means.isWord {labels : Labels} {scope : String} {operand result : Lexeme}
    (means : operand.Means (Dictionary.find? labels) scope result)
    (wellFormed : operand.WellFormed) :
    (result.kind = .identifier ∨ result.kind = .number ∨ result.kind = .text) ∧
      (result.kind = .identifier → result.value ∉ Dictionary.names labels) := by
  unfold Means at means
  split at means
  · next identifier =>
      subst means
      cases found : Dictionary.find? labels (Scope.fullName scope operand) with
      | some address => simp [located_of_some found, ofWord]
      | none =>
          rw [located_of_none found]
          exact ⟨.inl identifier, fun _ => Dictionary.find?_eq_none_iff.mp found⟩
  · obtain ⟨value, -, rfl⟩ := means
    simp [ofWord]
  · next no_identifier no_closure =>
      subst means
      cases wellFormed with
      | word word => exact ⟨word.kind, fun identifier => absurd identifier no_identifier⟩
      | closure closure => exact absurd closure no_closure

namespace Target

variable {target : Target}

/-- The statements of a placed program are resolved when addresses are put in and closures
folded. -/
private theorem isResolved_of_finish {program : List Statement} {placement : Placement}
    {resolution : Resolution} (wellFormed : Statement.AllWellFormed program)
    (no_calls : ∀ statement ∈ program,
      statement.kind = .label ∨ target.library.find? statement.mnemonic = none)
    (placed : target.place program = .ok placement)
    (finished : finish placement = .ok resolution) :
    ∀ statement ∈ resolution.statements, target.IsResolved resolution.labels statement := by
  intro result member
  obtain ⟨front, statement, back, rfl, code, means⟩ :=
    exists_means_of_finish placed finished result member
  have statement_member : statement ∈ front ++ statement :: back :=
    List.mem_append_right _ List.mem_cons_self
  obtain ⟨no_label, no_origin⟩ :
      statement.kind ≠ .label ∧ statement.mnemonic ≠ Directive.origin := by
    simpa [Statement.isCode] using code
  have instruction := (wellFormed statement statement_member).kind.resolve_left no_label
  have mnemonic : result.mnemonic = statement.mnemonic := by
    rw [Statement.mnemonic, Statement.mnemonic, means.name]
  have operand : ∀ arg ∈ result.args,
      (arg.kind = .identifier ∨ arg.kind = .number ∨ arg.kind = .text) ∧
        (arg.kind = .identifier → arg.value ∉ Dictionary.names resolution.labels) := by
    intro arg arg_member
    obtain ⟨before, before_member, arg_means⟩ :=
      Success.exists_input_of_forall₂ (means.args instruction) arg_member
    exact arg_means.isWord ((wellFormed statement statement_member).args before before_member)
  refine ⟨means.kind.trans instruction, mnemonic ▸ no_origin, ?_, ?_, ?_⟩
  · rw [mnemonic]
    exact (no_calls statement statement_member).resolve_left no_label
  · exact fun arg arg_member => (operand arg arg_member).1
  · exact fun arg arg_member => (operand arg arg_member).2

theorem isResolved_of_resolve {lexemes : List Lexeme} {resolution : Resolution}
    (parsed : target.library.Parsed) (scanned : ∀ lexeme ∈ lexemes, lexeme.Scanned)
    (resolved : target.resolve lexemes = .ok resolution) :
    ∀ statement ∈ resolution.statements, target.IsResolved resolution.labels statement := by
  simp only [resolve, Success.bind_eq_ok] at resolved
  obtain ⟨program, grouped, out, expanded, placement, placed, finished⟩ := resolved
  have wellFormed := (Passes.expanded grouped expanded).wellFormed parsed scanned
  obtain ⟨inlining, -⟩ := Library.expand_eq_ok_iff.mp expanded
  exact isResolved_of_finish wellFormed inlining.no_calls placed finished

end Target

namespace Encoding

theorem sound_number {arg : Lexeme}
    (kind : arg.kind = .identifier ∨ arg.kind = .number ∨ arg.kind = .text) :
    Fault.Sound (number arg) := by
  unfold number
  rcases kind with kind | kind | kind
  · rw [kind]
    exact Fault.sound_located (by simp [Cause.IsInternal])
  · rw [kind]
    exact arg.sound_word
  · rw [kind]
    exact Fault.sound_located (by simp [Cause.IsInternal])

private theorem sound_fit (location : Location) (width : Int) (value : UInt64) :
    Fault.Sound (fit location width value) := by
  unfold fit
  split_ifs
  · exact .ok _
  · exact Fault.sound_located (by simp [Cause.IsInternal])

private theorem sound_symbolValue (tables : Tables) (tag : String) (arg : Lexeme) :
    Fault.Sound (symbolValue tables tag arg) := by
  have looked_up : Outcome.Confined (fun cause : Cause => ¬ cause.IsInternal)
      (tables.value tag arg.value) := by
    unfold Tables.value
    split
    · exact .error (by simp [Cause.IsInternal])
    · split
      · exact .error (by simp [Cause.IsInternal])
      · exact .ok _
  unfold symbolValue
  split_ifs
  · exact looked_up.mapError fun _ admitted => admitted
  · exact Fault.sound_located (by simp [Cause.IsInternal])

/-- Operands that can be left to encode. -/
abbrev AllWords (args : List Lexeme) : Prop :=
  ∀ arg ∈ args, arg.kind = .identifier ∨ arg.kind = .number ∨ arg.kind = .text

private theorem sound_encodeField (tables : Tables) (location : Location) (field : Field)
    {args : List Lexeme} (words : AllWords args) :
    Fault.Sound (encodeField tables location field args) := by
  have numeric (width : Int) {arg : Lexeme} {rest : List Lexeme} (words : AllWords (arg :: rest)) :
      Fault.Sound (do
        let value ← number arg
        let piece ← fit arg.location width value
        return (piece, rest)) := by
    refine (sound_number (words arg List.mem_cons_self)).bind fun value _ => ?_
    exact (sound_fit arg.location width value).bind fun _ _ => .ok _
  cases field with
  | constant bits => exact .ok _
  | symbol tag width =>
      cases args with
      | nil => exact Fault.sound_located (by simp [Cause.IsInternal])
      | cons arg rest =>
          refine (sound_symbolValue tables tag arg).bind fun value _ => ?_
          exact (sound_fit arg.location width value).bind fun _ _ => .ok _
  | immediate width =>
      cases args with
      | nil => exact Fault.sound_located (by simp [Cause.IsInternal])
      | cons arg rest => exact numeric width words
  | optional width =>
      cases args with
      | nil =>
          dsimp only [encodeField]
          split_ifs
          · exact .ok _
          · exact .error (by simp [Fault.IsInternal])
      | cons arg rest => exact numeric width words

private theorem sound_encodeFields (tables : Tables) (location : Location) (fields : List Field)
    {args : List Lexeme} (words : AllWords args) :
    Fault.Sound (encodeFields tables location fields args) := by
  induction fields generalizing args with
  | nil => exact .ok _
  | cons field fields induction =>
      refine (sound_encodeField tables location field words).bind ?_
      rintro ⟨piece, left⟩ encoded
      have left_words : AllWords left := by
        rw [rest_of_encodeField encoded]
        split_ifs
        · exact fun arg member => words arg (List.mem_of_mem_tail member)
        · exact words
      exact (induction left_words).bind fun _ _ => .ok _

private theorem sound_pack (pieces : List Piece) :
    Outcome.Confined (fun cause : Cause => ¬ cause.IsInternal) (pack pieces) := by
  dsimp only [pack]
  split_ifs
  · exact .ok _
  · exact .error (by simp [Cause.IsInternal])
  · exact .error (by simp [Cause.IsInternal])
  · split
    · exact .ok _
    · exact .error (by simp [Cause.IsInternal])

private theorem sound_encodeInstruction (set : InstructionSet) (instruction : Instruction)
    {statement : Statement} (words : AllWords statement.args) :
    Fault.Sound (encodeInstruction set instruction statement) := by
  refine (sound_encodeFields set.tables statement.location instruction.fields words).bind ?_
  rintro ⟨pieces, left⟩ -
  exact (sound_pack pieces).mapError fun _ admitted => admitted

private theorem sound_encodeData (data : Directive.Data) {statement : Statement}
    (words : AllWords statement.args) : Fault.Sound (encodeData data statement) := by
  unfold encodeData
  split_ifs
  · exact Fault.sound_located (by simp [Cause.IsInternal])
  · refine Outcome.Confined.bind (.mapM fun arg member => ?_) fun _ _ => .ok _
    unfold argumentUnits
    split_ifs
    · exact .ok _
    · exact (sound_number (words arg member)).map _

private theorem sound_encode {target : Target} {labels : Labels} (set : InstructionSet)
    {statement : Statement} (resolved : target.IsResolved labels statement) :
    Fault.Sound (encode set statement) := by
  dsimp only [encode]
  rw [if_neg (not_not.mpr resolved.kind), if_neg resolved.no_origin]
  split
  · exact sound_encodeData _ resolved.args
  · split
    · exact sound_encodeInstruction set _ resolved.args
    · exact Fault.sound_located (by simp [Cause.IsInternal])

end Encoding

theorem Image.sound_generateFrom {target : Target} {labels : Labels} (set : InstructionSet)
    {statements : List Statement}
    (resolved : ∀ statement ∈ statements, target.IsResolved labels statement) (offset : Nat) :
    Fault.Sound (generateFrom set offset statements) := by
  induction statements generalizing offset with
  | nil => exact .ok _
  | cons statement statements induction =>
      obtain ⟨first, others⟩ := List.forall_mem_cons.mp resolved
      refine (Encoding.sound_encode set first).bind fun code _ => ?_
      exact (induction others (offset + code.length)).bind fun _ _ => .ok _

/-! ## Whole programs -/

namespace Assembler

/-- The assembler keeps its invariants on lexemes, whatever comes of them. -/
structure Keeps (assembler : Assembler) (layout : Layout) (lexemes : List Lexeme) : Prop where
  /-- No lexeme is a closure yet. -/
  words : ∀ lexeme ∈ lexemes, lexeme.kind ≠ .closure
  /-- Every closure, at any depth, holds an operator of text between two operands. -/
  closures : ∀ program, (assembler.target layout).Passes lexemes program →
    ∀ statement ∈ program, ∀ outer ∈ statement.name :: statement.args,
      ∀ lexeme : Lexeme, lexeme.Within outer → lexeme.kind = .closure → lexeme.HoldsOperation
  /-- Closures have all the parts that their evaluation looks at. -/
  evaluate : ∀ program, (assembler.target layout).Passes lexemes program →
    ∀ statement ∈ program, ∀ arg ∈ statement.args, ∀ fault,
      arg.evaluate = .error fault → ¬ fault.IsInternal
  /-- All arguments of data can be measured. -/
  place : ∀ program out fault, Statement.group lexemes = .ok program →
    assembler.library.expand program = .ok out →
    (assembler.target layout).place out = .error fault → ¬ fault.IsInternal
  /-- What is left has no labels, origins, calls and closures. -/
  resolve : ∀ resolution, (assembler.target layout).resolve lexemes = .ok resolution →
    ∀ statement ∈ resolution.statements,
      (assembler.target layout).IsResolved resolution.labels statement
  /-- So it can be encoded, as far as its form goes. -/
  generate : ∀ resolution fault, (assembler.target layout).resolve lexemes = .ok resolution →
    Image.generate assembler.set resolution.statements = .error fault →
    ¬ fault.IsInternal

/-- On the lexemes of a text no invariant of a pass is ever broken. -/
theorem keeps_of_scan {file text : String} {lexemes : List Lexeme} {sources : Dictionary String}
    {library : Library} (scanned : Lexeme.scan file text = .ok lexemes)
    (compiled : Library.compile sources = .ok library) (set : InstructionSet) (layout : Layout) :
    Keeps { set, library } layout lexemes := by
  have words := Lexeme.scanned_of_scan scanned
  have parsed : ((Assembler.mk set library).target layout).library.Parsed :=
    Library.parsed_of_compile compiled
  constructor
  · exact fun lexeme member => (words lexeme member).kind
  · intro program passes statement member outer outer_member lexeme within closure
    have wellFormed := passes.wellFormed parsed words statement member
    exact wellFormed.holdsOperation outer_member within closure
  · intro program passes statement member arg arg_member fault failed
    have wellFormed := passes.wellFormed parsed words statement member
    exact (wellFormed.args arg arg_member).sound_evaluate fault failed
  · intro program out fault grouped expanded failed
    have wellFormed := (Target.Passes.qualified grouped expanded).wellFormed parsed words
    exact Placement.sound_placeFrom layout set wellFormed 0 [] fault failed
  · exact fun resolution resolved => Target.isResolved_of_resolve parsed words resolved
  · intro resolution fault resolved failed
    have statements := Target.isResolved_of_resolve parsed words resolved
    exact Image.sound_generateFrom set statements 0 fault failed

/-- A closure is handed to a parameter that stands in a closure. -/
def nestedClosure : String := "org 16\na: double (a + 1)"

theorem keeps_of_scan_nestedClosure :
    ∃ lexemes library program out,
      Lexeme.scan "s" nestedClosure = .ok lexemes ∧
      Library.compile [("double x", "dw (x * 2)")] = .ok library ∧
      Statement.group lexemes = .ok program ∧ library.expand program = .ok out ∧
      out.map Statement.render = ["org 16", "a:", "dw ((a + 1) * 2)"] ∧
      Keeps ⟨⟨[], [], []⟩, library⟩ .bytes lexemes := by
  have evaluated :
      (Lexeme.scan "s" nestedClosure >>= fun lexemes =>
        Library.compile [("double x", "dw (x * 2)")] >>= fun library =>
          Statement.group lexemes >>= fun program =>
            (library.expand program).map fun out => out.map Statement.render) =
        .ok ["org 16", "a:", "dw ((a + 1) * 2)"] := by
    decide +kernel
  obtain ⟨lexemes, scanned, evaluated⟩ := Success.bind_eq_ok.mp evaluated
  obtain ⟨library, compiled, evaluated⟩ := Success.bind_eq_ok.mp evaluated
  obtain ⟨program, grouped, evaluated⟩ := Success.bind_eq_ok.mp evaluated
  obtain ⟨out, expanded, rendered⟩ := Success.map_eq_ok.mp evaluated
  exact ⟨lexemes, library, program, out, scanned, compiled, grouped, expanded, rendered,
    keeps_of_scan scanned compiled ⟨[], [], []⟩ .bytes⟩

end Assembler
end TableAssembler
