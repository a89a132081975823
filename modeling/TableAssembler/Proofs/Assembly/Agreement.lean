import TableAssembler.Assembly.Basic
import TableAssembler.Proofs.Assembly.Resolution
import TableAssembler.Proofs.Encoding.Size
import TableAssembler.Proofs.Image.Records

/-!
# Labels agree with the image

Addresses are counted before anything is encoded.  In bytes they agree with what is encoded: from
the last origin to a label, the records add up to the distance of their addresses.
-/

namespace TableAssembler

/-- The records of the statements between the last origin in front of a place and the place. -/
def Image.recordsSinceOrigin (image : Image) (front : List Statement) : List Record :=
  (image.records.drop ((Placement.throughOrigin front).countP Statement.isCode)).take
    ((Placement.sinceOrigin front).countP Statement.isCode)

namespace Assembly

/-- The labels of a program have the addresses of its bytes. -/
structure Agrees (assembly : Assembly) (program : List Statement) : Prop where
  /-- The records are those of the statements that are neither labels nor origins. -/
  records : List.Forall₂
    (fun statement record => record.location = statement.location ∧
      record.mnemonic = statement.mnemonic)
    (program.filter Statement.isCode) assembly.image.records
  /-- The address of a label is that of the last origin, and the sizes of the records since. -/
  address : ∀ front label back, program = front ++ label :: back → label.isLabel = true →
    ∃ start, Placement.base front = .ok start ∧
      Dictionary.find? assembly.labels label.name.value =
        some (start + UInt64.ofNat (Image.covered (assembly.image.recordsSinceOrigin front)))
  /-- Without an origin it is the offset of the first byte behind the label. -/
  offset : ∀ front label back, program = front ++ label :: back → label.isLabel = true →
    (∀ statement ∈ front, statement.isOrigin = false) →
    ∀ empty record rest,
      assembly.image.records.drop (front.countP Statement.isCode) = empty ++ record :: rest →
      (∀ record ∈ empty, record.size = 0) →
      Dictionary.find? assembly.labels label.name.value = some (UInt64.ofNat record.offset)

/-! ## Sizes and records -/

variable {set : InstructionSet}

/-- The record of a statement has the size that the statement was given. -/
def Measures (set : InstructionSet) (statement : Statement) (record : Record) : Prop :=
  ∀ size, Layout.bytes.statementSize (some set.encodedSize) statement = .ok size →
    size = UInt64.ofNat record.size

theorem sum_eq_covered {statements : List Statement} {records : List Record}
    {sizes : List UInt64} (measures : List.Forall₂ (Measures set) statements records)
    (sized : List.Forall₂
      (fun statement size =>
        Layout.bytes.statementSize (some set.encodedSize) statement = .ok size)
      statements sizes) :
    sizes.sum = UInt64.ofNat (Image.covered records) := by
  induction measures generalizing sizes with
  | nil =>
      cases sized
      rfl
  | cons measure _ induction =>
      cases sized with
      | cons first_sized sized =>
          rw [List.sum_cons, Image.covered, UInt64.ofNat_add, measure _ first_sized,
            induction sized]

/-- Statements in the middle of a program have the records in the middle of the image. -/
theorem measures_recordsSinceOrigin {image : Image} {front back : List Statement}
    (measures : List.Forall₂ (Measures set) ((front ++ back).filter Statement.isCode)
      image.records) :
    List.Forall₂ (Measures set) ((Placement.sinceOrigin front).filter Statement.isCode)
      (image.recordsSinceOrigin front) := by
  rw [← Placement.throughOrigin_append_sinceOrigin front, List.append_assoc, List.filter_append,
    List.filter_append] at measures
  have since := List.forall₂_take ((Placement.sinceOrigin front).filter Statement.isCode).length
    (List.forall₂_drop ((Placement.throughOrigin front).filter Statement.isCode).length measures)
  rw [List.drop_left, List.take_left] at since
  simpa only [Image.recordsSinceOrigin, List.countP_eq_length_filter] using since

theorem throughOrigin_eq_nil {front : List Statement}
    (no_origin : ∀ statement ∈ front, statement.isOrigin = false) :
    Placement.throughOrigin front = [] := by
  rw [Placement.throughOrigin, List.rdropWhile_eq_nil_iff]
  simpa using no_origin

private theorem sinceOrigin_eq_self {front : List Statement}
    (no_origin : ∀ statement ∈ front, statement.isOrigin = false) :
    Placement.sinceOrigin front = front := by
  have split := Placement.throughOrigin_append_sinceOrigin front
  rwa [throughOrigin_eq_nil no_origin, List.nil_append] at split

theorem recordsSinceOrigin_eq_take {front : List Statement} (image : Image)
    (no_origin : ∀ statement ∈ front, statement.isOrigin = false) :
    image.recordsSinceOrigin front = image.records.take (front.countP Statement.isCode) := by
  rw [Image.recordsSinceOrigin, throughOrigin_eq_nil no_origin, sinceOrigin_eq_self no_origin]
  rfl

private theorem base_eq_zero {front : List Statement}
    (no_origin : ∀ statement ∈ front, statement.isOrigin = false) :
    Placement.base front = .ok 0 := by
  rw [Placement.base, throughOrigin_eq_nil no_origin]
  rfl

/-! ## Assemblies -/

theorem record_of_fold {labels : Labels} {statement result : Statement} {record : Record}
    (folded : (statement.mapArgs labels.substituteOperand).fold = .ok result)
    (recorded : Image.HasRecord set result record) :
    record.location = statement.location ∧ record.mnemonic = statement.mnemonic := by
  obtain ⟨code, -, same⟩ := recorded
  have keeps := Labels.statement_keepsText_of_fold folded
  rw [same, Statement.location, Statement.mnemonic, ← keeps.name]
  exact ⟨rfl, rfl⟩

private theorem measures_of_fold {labels : Labels} {statement result : Statement} {record : Record}
    (wellFormed : set.WellFormed)
    (folded : (statement.mapArgs labels.substituteOperand).fold = .ok result)
    (recorded : Image.HasRecord set result record) :
    Measures set statement record := by
  obtain ⟨code, encoded, same⟩ := recorded
  intro size sized
  have length_eq :=
    Encoding.length_encode wellFormed (Labels.statement_keepsText_of_fold folded) encoded
  rw [same, Encoding.statementSize_eq_codeLength sized, ← length_eq]
  rfl

private theorem agrees_of_generate {program : List Statement} {placement : Placement}
    {resolution : Resolution} {image : Image} (wellFormed : set.WellFormed)
    (placed : Placement.place .bytes (some set.encodedSize) program = .ok placement)
    (finished : Target.finish placement = .ok resolution)
    (generated : Image.generate set resolution.statements = .ok image) :
    Agrees { image, labels := resolution.labels } program := by
  obtain ⟨code_eq, describes⟩ := Placement.describes_of_place placed
  obtain ⟨labels_eq, folded⟩ := Target.finish_eq_ok finished
  rw [code_eq] at folded
  rw [← labels_eq] at describes
  have recorded := Image.forall₂_records_of_generateFrom generated
  have measures : List.Forall₂ (Measures set) (program.filter Statement.isCode) image.records :=
    Success.forall₂_comp folded recorded fun _ _ _ => measures_of_fold wellFormed
  have address : ∀ front label back, program = front ++ label :: back → label.isLabel = true →
      ∃ start, Placement.base front = .ok start ∧
        Dictionary.find? resolution.labels label.name.value =
          some (start + UInt64.ofNat (Image.covered (image.recordsSinceOrigin front))) := by
    rintro front label back rfl is_label
    obtain ⟨address, behind, found⟩ := describes.find? front label back rfl is_label
    obtain ⟨start, sizes, base_eq, sized, rfl⟩ := behind.eq_base_add_sum
    refine ⟨start, base_eq, ?_⟩
    rw [found, sum_eq_covered (measures_recordsSinceOrigin measures) sized]
  refine ⟨?_, address, ?_⟩
  · exact Success.forall₂_comp folded recorded fun _ _ _ => record_of_fold
  · intro front label back split is_label no_origin empty record rest ahead all_empty
    obtain ⟨start, base_eq, found⟩ := address front label back split is_label
    have parts : image.records =
        (image.records.take (front.countP Statement.isCode) ++ empty) ++ record :: rest := by
      rw [List.append_assoc, ← ahead, List.take_append_drop]
    obtain rfl : 0 = start := by
      rw [base_eq_zero no_origin] at base_eq
      exact Except.ok.inj base_eq
    rw [found, recordsSinceOrigin_eq_take image no_origin,
      Image.offset_of_generateFrom generated parts, Image.covered_append,
      Image.covered_eq_zero all_empty, zero_add, Nat.zero_add, Nat.add_zero]

/-- An assembled file has the labels of its bytes. -/
theorem agrees_of_assemble {config : Config} {assembler : Assembler} {file text : String}
    {assembly : Assembly} (compiled : InstructionSet.compile config = .ok set)
    (built : Assembler.ofSet set = .ok assembler)
    (assembled : assembler.assemble .bytes file text = .ok assembly) :
    ∃ lexemes grouped expanded, Lexeme.scan file text = .ok lexemes ∧
      Statement.group lexemes = .ok grouped ∧
      assembler.library.expand grouped = .ok expanded ∧
      assembly.Agrees (Scope.qualify expanded) := by
  obtain ⟨library, -, rfl⟩ := Success.map_eq_ok.mp built
  simp only [Assembler.assemble, Target.resolve, Success.bind_eq_ok,
    Success.pure_eq_ok] at assembled
  obtain ⟨lexemes, scanned, resolution, ⟨grouped, grouped_eq, expanded, expanded_eq, placement,
    placed, finished⟩, image, generated, rfl⟩ := assembled
  exact ⟨lexemes, grouped, expanded, scanned, grouped_eq, expanded_eq,
    agrees_of_generate (InstructionSet.wellFormed_of_compile compiled) placed finished generated⟩

/-- A set without tables and pseudo-instructions. -/
def twoInstructions : InstructionSet where
  tables := []
  instructions :=
    [{ name := "ldi", template := "0001\x7bIMM12\x7d"
       fields := [.constant ['0', '0', '0', '1'], .immediate 12] },
      { name := "nop", template := "00000000"
        fields := [.constant (List.replicate 8 '0')] }]
  pseudo := []

/-- A label in front of an origin, and one behind it. -/
def twoLabels : String := "start: db \"ab\", end\norg 0x10\nldi start\nend: nop\n"

theorem agrees_of_assemble_twoLabels :
    InstructionSet.compile
        { tables := []
          instructions := [("nop", "00000000"), ("ldi", "0001\x7bIMM12\x7d")] } =
        .ok twoInstructions ∧
      Assembler.ofSet twoInstructions = .ok { set := twoInstructions, library := ⟨[]⟩ } ∧
      ∃ assembly,
        Assembler.assemble { set := twoInstructions, library := ⟨[]⟩ } .bytes "two" twoLabels =
          .ok assembly ∧
        assembly.image.bytes = [0x61, 0x62, 0x12, 0x10, 0, 0] ∧
        assembly.labels = [("start", 0), ("end", 18)] ∧
        ∃ lexemes grouped expanded, Lexeme.scan "two" twoLabels = .ok lexemes ∧
          Statement.group lexemes = .ok grouped ∧
          Library.expand ⟨[]⟩ grouped = .ok expanded ∧
          assembly.Agrees (Scope.qualify expanded) := by
  have compiled : InstructionSet.compile
      { tables := []
        instructions := [("nop", "00000000"), ("ldi", "0001\x7bIMM12\x7d")] } =
      .ok twoInstructions := by
    decide +kernel
  have built : Assembler.ofSet twoInstructions =
      .ok { set := twoInstructions, library := ⟨[]⟩ } := rfl
  have evaluated :
      (Assembler.assemble { set := twoInstructions, library := ⟨[]⟩ } .bytes "two" twoLabels).map
          (fun assembly => (assembly.image.bytes, assembly.labels)) =
        .ok ([0x61, 0x62, 0x12, 0x10, 0, 0], [("start", 0), ("end", 18)]) := by
    decide +kernel
  obtain ⟨assembly, assembled, outcome⟩ := Success.map_eq_ok.mp evaluated
  obtain ⟨bytes, labels⟩ := Prod.mk.inj outcome
  exact ⟨compiled, built, assembly, assembled, bytes, labels,
    agrees_of_assemble compiled built assembled⟩

end Assembly
end TableAssembler
