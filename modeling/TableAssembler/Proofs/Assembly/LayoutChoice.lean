import TableAssembler.Proofs.Assembly.Agreement
import TableAssembler.Proofs.Image.Lookup
import TableAssembler.Proofs.Lexeme.Name

/-!
# The choice of a layout

The layout of a program decides the addresses of its labels and nothing else.  Whatever the
addresses are, a statement is encoded into the same number of bytes, so two assemblies of one file
have their records at the same offsets; and a statement that names no label has the same bytes.
-/

namespace TableAssembler

/-! ## Statements that name no label -/

namespace Labels

private theorem substituteIdentifier_of_unused {labels : Labels} {identifier : Lexeme}
    (unused : identifier.value ∉ Dictionary.names labels) :
    labels.substituteIdentifier identifier = identifier := by
  rw [substituteIdentifier, Dictionary.find?_eq_none_iff.mpr unused]

/-- Labels that a statement does not name change nothing in it. -/
theorem mapArgs_substituteOperand_of_unused {labels : Labels} {statement : Statement}
    (unused : ∀ identifier ∈ statement.identifiers,
      identifier.value ∉ Dictionary.names labels) :
    statement.mapArgs labels.substituteOperand = statement := by
  have args_eq : ∀ arg ∈ statement.args, labels.substituteOperand arg = arg := by
    intro arg member
    apply Lexeme.mapIdentifiers_eq_self
    intro identifier used
    exact substituteIdentifier_of_unused
      (unused identifier (List.mem_flatMap.mpr ⟨arg, member, used⟩))
  unfold Statement.mapArgs
  rw [List.map_congr_left args_eq, List.map_id', ite_self]

end Labels

/-! ## Records at the same offsets -/

namespace Image

variable {set : InstructionSet}

private theorem aligned_ofCode {statement first second : Statement} {start : Nat}
    {first_code second_code : List UInt8} (first_keeps : statement.KeepsText first)
    (second_keeps : statement.KeepsText second)
    (length_eq : first_code.length = second_code.length) :
    Record.Aligned (Record.ofCode first start first_code)
      (Record.ofCode second start second_code) := by
  have name_eq : first.name = second.name := by rw [first_keeps.name, second_keeps.name]
  have mnemonic_eq : first.mnemonic = second.mnemonic := by
    rw [Statement.mnemonic, name_eq, Statement.mnemonic]
  constructor
  · exact congrArg Lexeme.location name_eq
  · exact mnemonic_eq
  · rfl
  · exact length_eq

/-- A program that is resolved in two ways has images with aligned records. -/
theorem aligned_of_generateFrom {program firsts seconds : List Statement} {start : Nat}
    {first second : Image} (wellFormed : set.WellFormed)
    (first_keeps : List.Forall₂ Statement.KeepsText program firsts)
    (second_keeps : List.Forall₂ Statement.KeepsText program seconds)
    (first_generated : generateFrom set start firsts = .ok first)
    (second_generated : generateFrom set start seconds = .ok second) :
    first.bytes.length = second.bytes.length ∧
      List.Forall₂ Record.Aligned first.records second.records := by
  induction first_keeps generalizing seconds start first second with
  | nil =>
      cases second_keeps
      cases first_generated
      cases second_generated
      exact ⟨rfl, .nil⟩
  | cons first_keeps _ induction =>
      cases second_keeps with
      | cons second_keeps seconds_keep =>
          obtain ⟨first_code, first_rest, first_encoded, firsts_generated, first_bytes,
            first_records⟩ := generateFrom_cons_eq_ok first_generated
          obtain ⟨second_code, second_rest, second_encoded, seconds_generated, second_bytes,
            second_records⟩ := generateFrom_cons_eq_ok second_generated
          have length_eq : first_code.length = second_code.length := by
            rw [Encoding.length_encode wellFormed first_keeps first_encoded,
              Encoding.length_encode wellFormed second_keeps second_encoded]
          -- The rest starts at one offset because the codes in front have one length.
          rw [← length_eq] at seconds_generated
          obtain ⟨rest_length, rest_aligned⟩ :=
            induction seconds_keep firsts_generated seconds_generated
          rw [first_bytes, second_bytes, first_records, second_records, List.length_append,
            List.length_append, length_eq, rest_length]
          exact ⟨rfl, .cons (aligned_ofCode first_keeps second_keeps length_eq) rest_aligned⟩

end Image

/-! ## Assemblies -/

namespace Assembly

/-- Two assemblies of one program that differ in the addresses of labels, and in what is encoded
from them. -/
structure Aligned (program : List Statement) (first second : Assembly) : Prop where
  /-- The labels have the same names. -/
  names : Dictionary.names first.labels = Dictionary.names second.labels
  length : first.image.bytes.length = second.image.bytes.length
  /-- The records are those of the statements that emit code. -/
  statements : List.Forall₂
    (fun statement record => record.location = statement.location ∧
      record.mnemonic = statement.mnemonic)
    (program.filter Statement.isCode) first.image.records
  records : List.Forall₂ Record.Aligned first.image.records second.image.records
  /-- A statement that names no label has the same bytes. -/
  bytes : ∀ (index : Nat) statement record other,
    (program.filter Statement.isCode)[index]? = some statement →
    first.image.records[index]? = some record → second.image.records[index]? = some other →
    (∀ identifier ∈ statement.identifiers,
      identifier.value ∉ Dictionary.names first.labels) →
    first.image.slice record = second.image.slice other

variable {set : InstructionSet} {program : List Statement}

private theorem forall₂_slice_of_fold {labels : Labels} {resolved : List Statement} {image : Image}
    (folded : List.Forall₂
      (fun statement result => (statement.mapArgs labels.substituteOperand).fold = .ok result)
      program resolved)
    (generated : Image.generate set resolved = .ok image) :
    List.Forall₂
      (fun statement record => ∃ result,
        (statement.mapArgs labels.substituteOperand).fold = .ok result ∧
          Encoding.encode set result = .ok (image.slice record))
      program image.records :=
  Success.forall₂_comp folded (Image.forall₂_slice_of_generate generated).1
    fun _ result _ folded encoded => ⟨result, folded, encoded⟩

theorem aligned_of_generate {first_layout second_layout : Layout} {sizer? : Option Sizer}
    {first_placement second_placement : Placement} {first second : Resolution}
    {first_image second_image : Image} (wellFormed : set.WellFormed)
    (first_placed : Placement.place first_layout sizer? program = .ok first_placement)
    (second_placed : Placement.place second_layout sizer? program = .ok second_placement)
    (first_finished : Target.finish first_placement = .ok first)
    (second_finished : Target.finish second_placement = .ok second)
    (first_generated : Image.generate set first.statements = .ok first_image)
    (second_generated : Image.generate set second.statements = .ok second_image) :
    Aligned program { image := first_image, labels := first.labels }
      { image := second_image, labels := second.labels } := by
  obtain ⟨first_code, first_describes⟩ := Placement.describes_of_place first_placed
  obtain ⟨second_code, second_describes⟩ := Placement.describes_of_place second_placed
  obtain ⟨first_labels, first_folded⟩ := Target.finish_eq_ok first_finished
  obtain ⟨second_labels, second_folded⟩ := Target.finish_eq_ok second_finished
  rw [first_code, ← first_labels] at first_folded
  rw [second_code, ← second_labels] at second_folded
  rw [← first_labels] at first_describes
  rw [← second_labels] at second_describes
  have names_eq : Dictionary.names first.labels = Dictionary.names second.labels := by
    rw [first_describes.names, second_describes.names]
  have aligned :=
    Image.aligned_of_generateFrom wellFormed
      (first_folded.imp fun _ _ => Labels.statement_keepsText_of_fold)
      (second_folded.imp fun _ _ => Labels.statement_keepsText_of_fold)
      first_generated second_generated
  refine ⟨names_eq, aligned.1, ?_, aligned.2, ?_⟩
  · exact Success.forall₂_comp first_folded
      (Image.forall₂_records_of_generateFrom first_generated) fun _ _ _ => record_of_fold
  · intro index statement record other found at_first at_second unused
    obtain ⟨_, same_record, result, folded, encoded⟩ :=
      Success.getElem?_of_forall₂ (forall₂_slice_of_fold first_folded first_generated) found
    obtain ⟨_, same_other, second_result, second_fold, second_encoded⟩ :=
      Success.getElem?_of_forall₂ (forall₂_slice_of_fold second_folded second_generated) found
    obtain rfl := Option.some.inj (at_first.symm.trans same_record)
    obtain rfl := Option.some.inj (at_second.symm.trans same_other)
    rw [Labels.mapArgs_substituteOperand_of_unused unused] at folded
    rw [Labels.mapArgs_substituteOperand_of_unused (names_eq ▸ unused)] at second_fold
    -- Both folds start from the statement itself, and so do both codes.
    obtain rfl := Except.ok.inj (folded.symm.trans second_fold)
    exact Except.ok.inj (encoded.symm.trans second_encoded)

/-- Two layouts under which a file can be assembled give aligned assemblies of one program. -/
theorem aligned_of_assemble_layouts {config : Config} {assembler : Assembler}
    {file text : String} {in_units in_bytes : Assembly}
    (compiled : InstructionSet.compile config = .ok assembler.set)
    (units_assembled : assembler.assemble .units file text = .ok in_units)
    (bytes_assembled : assembler.assemble .bytes file text = .ok in_bytes) :
    ∃ lexemes grouped expanded, Lexeme.scan file text = .ok lexemes ∧
      Statement.group lexemes = .ok grouped ∧
      assembler.library.expand grouped = .ok expanded ∧
      Aligned (Scope.qualify expanded) in_units in_bytes := by
  simp only [Assembler.assemble, Target.resolve, Success.bind_eq_ok,
    Success.pure_eq_ok] at units_assembled bytes_assembled
  obtain ⟨lexemes, scanned, resolution, ⟨grouped, grouped_eq, expanded, expanded_eq, placement,
    placed, finished⟩, image, generated, rfl⟩ := units_assembled
  obtain ⟨_, other_scanned, other_resolution, ⟨_, other_grouped, _, other_expanded,
    other_placement, other_placed, other_finished⟩, other_image, other_generated, rfl⟩ :=
    bytes_assembled
  obtain rfl := Except.ok.inj (scanned.symm.trans other_scanned)
  obtain rfl := Except.ok.inj (grouped_eq.symm.trans other_grouped)
  obtain rfl := Except.ok.inj (expanded_eq.symm.trans other_expanded)
  exact ⟨lexemes, grouped, expanded, scanned, grouped_eq, expanded_eq,
    aligned_of_generate (InstructionSet.wellFormed_of_compile compiled) placed other_placed
      finished other_finished generated other_generated⟩

theorem aligned_of_assemble_layouts_twoLabels :
    ∃ in_units in_bytes,
      Assembler.assemble { set := twoInstructions, library := ⟨[]⟩ } .units "two" twoLabels =
        .ok in_units ∧
      Assembler.assemble { set := twoInstructions, library := ⟨[]⟩ } .bytes "two" twoLabels =
        .ok in_bytes ∧
      in_units.labels = [("start", 0), ("end", 17)] ∧
      in_bytes.labels = [("start", 0), ("end", 18)] ∧
      in_units.image.bytes = [0x61, 0x62, 0x11, 0x10, 0, 0] ∧
      in_bytes.image.bytes = [0x61, 0x62, 0x12, 0x10, 0, 0] ∧
      ∃ lexemes grouped expanded, Lexeme.scan "two" twoLabels = .ok lexemes ∧
        Statement.group lexemes = .ok grouped ∧
        Library.expand ⟨[]⟩ grouped = .ok expanded ∧
        Aligned (Scope.qualify expanded) in_units in_bytes := by
  have compiled : InstructionSet.compile
      { tables := []
        instructions := [("nop", "00000000"), ("ldi", "0001\x7bIMM12\x7d")] } =
      .ok twoInstructions := by
    decide +kernel
  have units_evaluated :
      (Assembler.assemble { set := twoInstructions, library := ⟨[]⟩ } .units "two" twoLabels).map
          (fun assembly => (assembly.labels, assembly.image.bytes)) =
        .ok ([("start", 0), ("end", 17)], [0x61, 0x62, 0x11, 0x10, 0, 0]) := by
    decide +kernel
  have bytes_evaluated :
      (Assembler.assemble { set := twoInstructions, library := ⟨[]⟩ } .bytes "two" twoLabels).map
          (fun assembly => (assembly.labels, assembly.image.bytes)) =
        .ok ([("start", 0), ("end", 18)], [0x61, 0x62, 0x12, 0x10, 0, 0]) := by
    decide +kernel
  obtain ⟨in_units, units_assembled, units_outcome⟩ := Success.map_eq_ok.mp units_evaluated
  obtain ⟨in_bytes, bytes_assembled, bytes_outcome⟩ := Success.map_eq_ok.mp bytes_evaluated
  obtain ⟨units_labels, units_bytes⟩ := Prod.mk.inj units_outcome
  obtain ⟨bytes_labels, bytes_bytes⟩ := Prod.mk.inj bytes_outcome
  exact ⟨in_units, in_bytes, units_assembled, bytes_assembled, units_labels, bytes_labels,
    units_bytes, bytes_bytes,
    aligned_of_assemble_layouts compiled units_assembled bytes_assembled⟩

end Assembly
end TableAssembler
