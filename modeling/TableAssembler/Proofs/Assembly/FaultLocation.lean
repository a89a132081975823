import TableAssembler.Proofs.Assembly.Soundness
import TableAssembler.Proofs.Pseudo.Header
import TableAssembler.Proofs.Statement.Place

/-!
# Every fault has a place

Whatever goes wrong with a file is found somewhere: in the text of the file, or, when the file
calls pseudo-instructions, in the text of a body.  Each pass finds its faults where the statements
lie that it is given, and leaves statements that lie there too.  There is one exception.  A set can
hold an optional field whose width became negative, and the assembler breaks down, without any
place, on a statement that leaves such a field out.
-/

namespace TableAssembler

variable {places : Location → Prop}

/-! ## Placement -/

namespace Layout

private theorem foundAt_argumentSize (layout : Layout) (data : Directive.Data) {arg : Lexeme}
    (here : places arg.location) :
    Fault.FoundAt places (fun _ => True) (layout.argumentSize data arg) := by
  unfold argumentSize
  split
  · exact .ok trivial
  · exact .ok trivial
  · exact .ok trivial
  · exact .ok trivial
  · exact Fault.foundAt_located here

private theorem foundAt_instructionSize (layout : Layout) (sizer? : Option Sizer)
    {statement : Statement} (here : places statement.location) :
    Fault.FoundAt places (fun _ => True) (layout.instructionSize sizer? statement) := by
  unfold instructionSize
  split
  · exact .ok trivial
  · exact .ok trivial
  · split
    · exact .ok trivial
    · exact Fault.foundAt_located here

private theorem foundAt_statementSize (layout : Layout) (sizer? : Option Sizer)
    {statement : Statement} (lies : statement.LiesIn places) :
    Fault.FoundAt places (fun _ => True) (layout.statementSize sizer? statement) := by
  have instruction := layout.foundAt_instructionSize sizer? lies.location
  have args (data : Directive.Data) : ∀ arg ∈ statement.args,
      Fault.FoundAt places (fun _ => True) (layout.argumentSize data arg) :=
    fun arg member => layout.foundAt_argumentSize data (lies.args arg member).location
  unfold statementSize
  split
  · exact instruction
  · split_ifs
    · exact instruction
    · exact (Outcome.Lands.mapM (args _)).bind fun _ _ => .ok trivial

end Layout

namespace Placement

private theorem foundAt_originAddress {statement : Statement} (lies : statement.LiesIn places) :
    Fault.FoundAt places (fun _ => True) (originAddress statement) := by
  have args := lies.args
  unfold originAddress
  split
  · next arg args_eq =>
      have here := (args arg (by simp [args_eq])).location
      split_ifs
      · exact Lexeme.foundAt_word here
      · exact Fault.foundAt_located here
  · exact Fault.foundAt_located lies.location

/-- What placing one statement preserves, said of all that follows. -/
theorem foundAt_placeFrom (layout : Layout) (sizer? : Option Sizer) {statements : List Statement}
    (lie : Statement.AllLieIn places statements) (address : UInt64) (labels : Labels) :
    Fault.FoundAt places (fun placement => Statement.AllLieIn places placement.code)
      (placeFrom layout sizer? address labels statements) := by
  induction statements generalizing address labels with
  | nil => exact .ok lie
  | cons statement statements induction =>
      obtain ⟨first, others⟩ := List.forall_mem_cons.mp lie
      dsimp only [placeFrom]
      split_ifs
      · exact Fault.foundAt_located first.location
      · exact induction others _ _
      · exact (foundAt_originAddress first).bind fun origin _ => induction others origin labels
      · refine (layout.foundAt_statementSize sizer? first).bind fun size _ => ?_
        refine (induction others (address + size) labels).bind fun placement code => .ok ?_
        exact List.forall_mem_cons.mpr ⟨first, code⟩

end Placement

/-! ## Encoding -/

/-- An instruction of the set has an optional field whose width became negative. -/
def InstructionSet.HasNegativeWidth (set : InstructionSet) : Prop :=
  ∃ instruction ∈ set.instructions, ∃ width < 0, Field.optional width ∈ instruction.fields

namespace Encoding

/-- All operands stand at some places. -/
abbrev AllAt (places : Location → Prop) (args : List Lexeme) : Prop :=
  ∀ arg ∈ args, places arg.location

theorem foundAt_number {arg : Lexeme} (here : places arg.location) :
    Fault.FoundAt places (fun _ => True) (number arg) := by
  unfold number
  split
  · exact Lexeme.foundAt_word here
  · exact Fault.foundAt_located here
  · exact Fault.foundAt_located here

private theorem foundAt_symbolValue (tables : Tables) (tag : String) {arg : Lexeme}
    (here : places arg.location) :
    Fault.FoundAt places (fun _ => True) (symbolValue tables tag arg) := by
  unfold symbolValue
  split_ifs
  · exact Fault.foundAt_mapError here _
  · exact Fault.foundAt_located here

private theorem foundAt_fit_read {read : Except Fault UInt64} {arg : Lexeme} {rest : List Lexeme}
    (width : Int) (found : Fault.FoundAt places (fun _ => True) read)
    (args : AllAt places (arg :: rest)) :
    Fault.FoundAt places (fun result => AllAt places result.2)
      (do let value ← read; let piece ← fit arg.location width value; return (piece, rest)) := by
  obtain ⟨here, rest_at⟩ := List.forall_mem_cons.mp args
  refine found.bind fun value _ => ?_
  unfold fit
  split_ifs
  · exact .ok rest_at
  · exact Fault.foundAt_located here

/-- The fault is found at one of some places, or it is the breakdown on a negative width, where
there is one. -/
def FaultIn (places : Location → Prop) (negative : Prop) (fault : Fault) : Prop :=
  fault.LiesIn places ∨ fault = .panicked .negativeRepeat ∧ negative

/-- The computation gives one of some results, or such a fault. -/
abbrev EndsIn {α : Type} (places : Location → Prop) (negative : Prop) (results : α → Prop) :
    Except Fault α → Prop :=
  Outcome.Lands (FaultIn places negative) results

section EndsIn

variable {α : Type} {negative : Prop} {results : α → Prop} {computation : Except Fault α}

theorem endsIn_of_foundAt (found : Fault.FoundAt places results computation) :
    EndsIn places negative results computation :=
  found.imp (fun _ => .inl) fun _ holds => holds

theorem EndsIn.imp {further : Prop} (ends : EndsIn places negative results computation)
    (weaker : negative → further) : EndsIn places further results computation :=
  Outcome.Lands.imp ends (fun _ => Or.imp_right (And.imp_right weaker)) fun _ holds => holds

end EndsIn

private theorem endsIn_encodeField (tables : Tables) {location : Location} (field : Field)
    {args : List Lexeme} (here : places location) (args_at : AllAt places args) :
    EndsIn places (∃ width < 0, field = .optional width) (fun result => AllAt places result.2)
      (encodeField tables location field args) := by
  cases field with
  | constant bits => exact .ok args_at
  | symbol tag width =>
      refine endsIn_of_foundAt ?_
      cases args with
      | nil => exact Fault.foundAt_located here
      | cons arg rest =>
          have read := foundAt_symbolValue tables tag (args_at arg List.mem_cons_self)
          exact foundAt_fit_read width read args_at
  | immediate width =>
      refine endsIn_of_foundAt ?_
      cases args with
      | nil => exact Fault.foundAt_located here
      | cons arg rest =>
          have read := foundAt_number (args_at arg List.mem_cons_self)
          exact foundAt_fit_read width read args_at
  | optional width =>
      cases args with
      | nil =>
          dsimp only [encodeField]
          split_ifs with zeros
          · exact .ok args_at
          · exact .error (.inr ⟨rfl, width, not_le.mp zeros, rfl⟩)
      | cons arg rest =>
          have read := foundAt_number (args_at arg List.mem_cons_self)
          exact endsIn_of_foundAt (foundAt_fit_read width read args_at)

private theorem endsIn_encodeFields (tables : Tables) {location : Location} (fields : List Field)
    {args : List Lexeme} (here : places location) (args_at : AllAt places args) :
    EndsIn places (∃ width < 0, Field.optional width ∈ fields) (fun _ => True)
      (encodeFields tables location fields args) := by
  induction fields generalizing args with
  | nil => exact .ok trivial
  | cons field fields induction =>
      have first : EndsIn places (∃ width < 0, Field.optional width ∈ field :: fields) _ _ :=
        (endsIn_encodeField tables field here args_at).imp <| by
          rintro ⟨width, negative, rfl⟩
          exact ⟨width, negative, List.mem_cons_self⟩
      refine first.bind fun result rest_at => ?_
      refine ((induction rest_at).imp ?_).bind fun _ _ => .ok trivial
      rintro ⟨width, negative, member⟩
      exact ⟨width, negative, List.mem_cons_of_mem field member⟩

variable {statement : Statement}

private theorem endsIn_encodeInstruction (set : InstructionSet) (instruction : Instruction)
    (here : places statement.location) (args_at : AllAt places statement.args) :
    EndsIn places (∃ width < 0, Field.optional width ∈ instruction.fields) (fun _ => True)
      (encodeInstruction set instruction statement) := by
  refine (endsIn_encodeFields set.tables instruction.fields here args_at).bind fun fields _ => ?_
  exact endsIn_of_foundAt (Fault.foundAt_mapError here (pack fields.1))

private theorem foundAt_encodeData (data : Directive.Data) (here : places statement.location)
    (args_at : AllAt places statement.args) :
    Fault.FoundAt places (fun _ => True) (encodeData data statement) := by
  have units : ∀ arg ∈ statement.args,
      Fault.FoundAt places (fun _ => True) (argumentUnits data arg) := by
    intro arg member
    unfold argumentUnits
    split_ifs
    · exact .ok trivial
    · exact (foundAt_number (args_at arg member)).map fun _ _ => trivial
  unfold encodeData
  split_ifs
  · exact Fault.foundAt_located here
  · exact (Outcome.Lands.mapM units).bind fun _ _ => .ok trivial

private theorem endsIn_encode (set : InstructionSet) (lies : statement.LiesIn places) :
    EndsIn places set.HasNegativeWidth (fun _ => True) (encode set statement) := by
  have here := lies.location
  have args_at : AllAt places statement.args := fun arg member => (lies.args arg member).location
  dsimp only [encode]
  by_cases instruction : statement.kind = .instruction
  · rw [if_neg (not_not.mpr instruction)]
    cases Directive.data? statement.mnemonic with
    | some data => exact endsIn_of_foundAt (foundAt_encodeData data here args_at)
    | none =>
        dsimp only
        split_ifs
        · exact endsIn_of_foundAt (Fault.foundAt_located here)
        · cases found : set.instruction? statement.mnemonic with
          | some instruction =>
              refine (endsIn_encodeInstruction set instruction here args_at).imp fun negative => ?_
              exact ⟨instruction, List.mem_of_find?_eq_some found, negative⟩
          | none => exact endsIn_of_foundAt (Fault.foundAt_located here)
  · rw [if_pos instruction]
    exact endsIn_of_foundAt (Fault.foundAt_located here)

end Encoding

theorem Image.endsIn_generateFrom (set : InstructionSet) {statements : List Statement}
    (lie : Statement.AllLieIn places statements) (offset : Nat) :
    Encoding.EndsIn places set.HasNegativeWidth (fun _ => True)
      (generateFrom set offset statements) := by
  induction statements generalizing offset with
  | nil => exact .ok trivial
  | cons statement statements induction =>
      obtain ⟨first, others⟩ := List.forall_mem_cons.mp lie
      refine (Encoding.endsIn_encode set first).bind fun code _ => ?_
      exact (induction others (offset + code.length)).bind fun _ _ => .ok trivial

/-! ## Programs -/

namespace Target

private theorem foundAt_finish {placement : Placement}
    (lie : Statement.AllLieIn places placement.code)
    (wellFormed : Statement.AllWellFormed placement.code) :
    Fault.FoundAt places (fun resolution => Statement.AllLieIn places resolution.statements)
      (finish placement) := by
  have substituted := placement.labels.wellFormed_substitute wellFormed
  have folds : ∀ statement ∈ placement.labels.substitute placement.code,
      Fault.FoundAt places (Statement.LiesIn places) statement.fold := fun statement member =>
    (placement.labels.liesIn_substitute lie statement member).foundAt_fold
      (substituted statement member).args
  exact (Outcome.Lands.mapM folds).bind fun statements folded => .ok folded

/-- What is wrong with a program of text is found where it lies, or where bodies do if it calls
some. -/
theorem endsIn_assembleStatements (target : Target) (set : InstructionSet)
    {program : List Statement} (lie : Statement.AllLieIn places program)
    (wellFormed : Statement.AllWellFormed program) (parsed : target.library.Parsed)
    (bodies : ∀ call ∈ program, call.kind ≠ .label →
      (target.library.find? call.mnemonic).isSome → target.library.LiesIn places) :
    Encoding.EndsIn places set.HasNegativeWidth (fun _ => True)
      (target.assembleStatements set program) := by
  have expansion := (Library.foundAt_expand lie bodies).of_ok fun _ expanded expanded_lie =>
    And.intro expanded_lie (parsed.wellFormed_of_expand expanded wellFormed)
  refine (Encoding.endsIn_of_foundAt expansion).bind fun expanded ⟨expanded_lie, expanded_wf⟩ => ?_
  have qualified := Scope.liesIn_qualifyFrom "" expanded_lie
  have placed := (Placement.foundAt_placeFrom target.layout target.sizer? qualified 0 []).of_ok
    fun _ placed code => And.intro code (wellFormed_of_place expanded_wf placed)
  refine (Encoding.endsIn_of_foundAt placed).bind fun placement ⟨code, code_wf⟩ => ?_
  refine (Encoding.endsIn_of_foundAt (foundAt_finish code code_wf)).bind
    fun resolution statements => ?_
  exact (Image.endsIn_generateFrom set statements 0).bind fun _ _ => .ok trivial

end Target

/-! ## Files -/

/-- A statement of the file calls a pseudo-instruction of the library. -/
def Library.IsCalled (library : Library) (file text : String) : Prop :=
  ∃ program, Statement.parse file text = .ok program ∧ ∃ call ∈ program,
    call.kind ≠ .label ∧ (library.find? call.mnemonic).isSome

/-- What holds of the place of a fault in a file that is assembled with a library. -/
structure Library.IsPlace (library : Library) (sources : Dictionary String) (file text : String)
    (location : Location) : Prop where
  row_pos : 1 ≤ location.row
  /-- Columns are counted by 64-bit integers, and a text without end could wrap them around. -/
  col_pos : text.length + 1 < 2 ^ 63 → 1 ≤ location.col
  /-- The place is in the file, or in a body, whose file is named for the word that its header
  starts with. -/
  named : location.file = file ∨
    ∃ pseudo ∈ library.pseudos, ∃ header body, (header, body) ∈ sources ∧
      Pseudo.compile header body = .ok pseudo ∧
      location.file = Pseudo.fileOf header ++ "_BODY" ∧
      ∀ word, Pseudo.Heads word header → pseudo.name = Text.lower word ∧
        location.file = "PSEUDO_" ++ Text.upper word ++ "_BODY"
  /-- Without a call the place is on a row of the file. -/
  uncalled : ¬ library.IsCalled file text →
    location.file = file ∧ location.row ≤ 1 + text.toList.count '\n'

namespace Library

variable {library : Library} {sources : Dictionary String} {file text : String}
  {location : Location}

private theorem isPlace_of_onRow (onRow : location.OnRow file text.toList)
    (col_pos : text.length + 1 < 2 ^ 63 → 1 ≤ location.col) :
    library.IsPlace sources file text location :=
  ⟨onRow.row_pos, col_pos, .inl onRow.file, fun _ => ⟨onRow.file, onRow.row_le⟩⟩

private theorem liesIn_isPlace (compiled : compile sources = .ok library)
    (called : library.IsCalled file text) :
    library.LiesIn (library.IsPlace sources file text) := by
  intro pseudo member statement inside
  obtain ⟨header, body, source, source_compiled⟩ :=
    compiledFrom_of_compile compiled pseudo member
  refine (Pseudo.liesIn_of_compile source_compiled statement inside).imp fun location inText => ?_
  refine ⟨inText.row_pos, fun _ => inText.col_pos, .inr ?_, fun uncalled => absurd called uncalled⟩
  refine ⟨pseudo, member, header, body, source, source_compiled, inText.file, fun word heads => ?_⟩
  rw [inText.file, heads.fileOf_eq]
  exact ⟨heads.name_eq source_compiled, rfl⟩

end Library

namespace Assembler

private theorem endsIn_assemble {sources : Dictionary String} {assembler : Assembler}
    (compiled : Library.compile sources = .ok assembler.library) (layout : Layout)
    (file text : String) :
    Encoding.EndsIn (assembler.library.IsPlace sources file text) assembler.set.HasNegativeWidth
      (fun _ => True) (assembler.assemble layout file text) := by
  have found : Fault.FoundAt (assembler.library.IsPlace sources file text)
      (Statement.AllLieIn (assembler.library.IsPlace sources file text))
      (Statement.parse file text) :=
    Statement.foundAt_parse fun _ onRow col_pos => Library.isPlace_of_onRow onRow col_pos
  rw [assemble_eq_assembleStatements]
  cases parsed : Statement.parse file text with
  | error fault =>
      rw [parsed] at found
      cases found with
      | error place => exact .error (.inl place)
  | ok program =>
      rw [parsed] at found
      obtain ⟨lie⟩ := found
      obtain ⟨lexemes, scanned, grouped⟩ := Success.bind_eq_ok.mp parsed
      have wellFormed := Statement.wellFormed_of_group (Lexeme.scanned_of_scan scanned) grouped
      refine (assembler.target layout).endsIn_assembleStatements assembler.set lie wellFormed
        (Library.parsed_of_compile compiled) ?_
      intro call member no_label defined
      exact Library.liesIn_isPlace compiled ⟨program, parsed, call, member, no_label, defined⟩

/-- A statement leaves out a field whose width no signed 64-bit number can hold. -/
example :
    ((InstructionSet.compile
          { instructions := [("x", "\x7bE9223372036854775808\x7d")] }).mapError Fault.nowhere >>=
        ofSet >>= fun assembler => (assembler.assemble .units "a.s" "x").map fun _ => ()) =
      .error (.panicked .negativeRepeat) := by
  decide +kernel

/-- A pseudo-instruction with some header, whose body uses a name that nothing declares. -/
def undeclaring (header : String) : InstructionSet :=
  { tables := [], instructions := [], pseudo := [(header, "db y")] }

end Assembler
end TableAssembler
