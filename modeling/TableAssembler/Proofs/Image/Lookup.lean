import TableAssembler.Proofs.Image.Records

/-!
# Every byte has its record

The records of an image stand one behind another, from the first byte to the last.  So each byte
belongs to one record, and the bytes of a record are those of its statement.
-/

namespace TableAssembler

theorem Record.covers_iff {record : Record} {offset : Int} :
    record.covers offset = true ↔
      (record.offset : Int) ≤ offset ∧ offset < record.offset + record.size := by
  rw [Record.covers, Bool.and_eq_true, decide_eq_true_iff, decide_eq_true_iff]

namespace Image

variable {set : InstructionSet} {start : Nat} {statements : List Statement} {image : Image}
  {records : List Record}

/-- An image starts with the bytes of its first statement. -/
theorem generateFrom_cons_eq_ok {statement : Statement}
    (generated : generateFrom set start (statement :: statements) = .ok image) :
    ∃ code rest, Encoding.encode set statement = .ok code ∧
      generateFrom set (start + code.length) statements = .ok rest ∧
      image.bytes = code ++ rest.bytes ∧
      image.records = Record.ofCode statement start code :: rest.records := by
  simp only [generateFrom, Success.bind_eq_ok, Except.ok.injEq] at generated
  obtain ⟨code, encoded, rest, others, rfl⟩ := generated
  exact ⟨code, rest, encoded, others, rfl, rfl⟩

/-! ## Records one behind another -/

/-- Each record starts where the one before it ends, the first at a given offset. -/
def Consecutive : Nat → List Record → Prop
  | _, [] => True
  | start, record :: records =>
      record.offset = start ∧ Consecutive (start + record.size) records

theorem consecutive_of_generateFrom (generated : generateFrom set start statements = .ok image) :
    Consecutive start image.records := by
  induction statements generalizing start image with
  | nil =>
      cases generated
      exact trivial
  | cons statement statements induction =>
      obtain ⟨code, rest, -, others, -, records_eq⟩ := generateFrom_cons_eq_ok generated
      rw [records_eq]
      exact ⟨rfl, induction others⟩

theorem Consecutive.bounds (consecutive : Consecutive start records) {record : Record}
    (member : record ∈ records) :
    start ≤ record.offset ∧ record.offset + record.size ≤ start + covered records := by
  induction records generalizing start with
  | nil => simp at member
  | cons first records induction =>
      obtain ⟨first_offset, later⟩ := consecutive
      rw [covered]
      rcases List.mem_cons.mp member with rfl | behind
      · omega
      · have bounds := induction later behind
        omega

theorem Consecutive.exists_covers (consecutive : Consecutive start records) {offset : Int}
    (behind : start ≤ offset) (before : offset < start + covered records) :
    ∃ record ∈ records, record.covers offset = true := by
  induction records generalizing start with
  | nil =>
      rw [covered] at before
      omega
  | cons first records induction =>
      obtain ⟨first_offset, later⟩ := consecutive
      rw [covered] at before
      by_cases inside : offset < start + first.size
      · refine ⟨first, List.mem_cons_self, Record.covers_iff.mpr ?_⟩
        omega
      · obtain ⟨record, member, covers⟩ := induction later (by omega) (by push_cast at *; omega)
        exact ⟨record, List.mem_cons_of_mem _ member, covers⟩

/-- No two records cover one byte. -/
theorem Consecutive.unique (consecutive : Consecutive start records) {offset : Int}
    {position other : Nat} {record another : Record}
    (found : records[position]? = some record) (covers : record.covers offset = true)
    (found_other : records[other]? = some another) (covers_other : another.covers offset = true) :
    other = position := by
  induction records generalizing start position other with
  | nil => simp at found
  | cons first records induction =>
      obtain ⟨first_offset, later⟩ := consecutive
      have apart : ∀ (index : Nat) (record : Record), records[index]? = some record →
          record.covers offset = true → first.covers offset = true → False := by
        intro index record at_index covers covers_first
        have bounds := later.bounds (List.mem_of_getElem? at_index)
        rw [Record.covers_iff] at covers covers_first
        omega
      cases position with
      | zero =>
          obtain rfl : first = record := by simpa using found
          cases other with
          | zero => rfl
          | succ other =>
              exact (apart other another (by simpa using found_other) covers_other covers).elim
      | succ position =>
          cases other with
          | zero =>
              obtain rfl : first = another := by simpa using found_other
              exact (apart position record (by simpa using found) covers covers_other).elim
          | succ other =>
              have same : other = position :=
                induction later (by simpa using found) (by simpa using found_other)
              rw [same]

/-! ## The bytes of a record -/

private theorem exists_codes_of_generateFrom
    (generated : generateFrom set start statements = .ok image)
    {whole front : List UInt8} (whole_eq : whole = front ++ image.bytes)
    (length_eq : front.length = start) :
    ∃ codes, List.Forall₂ (fun statement code => Encoding.encode set statement = .ok code)
        statements codes ∧
      codes.flatten = image.bytes ∧
      (image.records.map fun record => (whole.drop record.offset).take record.size) = codes := by
  induction statements generalizing start image front with
  | nil =>
      cases generated
      exact ⟨[], .nil, rfl, rfl⟩
  | cons statement statements induction =>
      obtain ⟨code, rest, encoded, others, bytes_eq, records_eq⟩ :=
        generateFrom_cons_eq_ok generated
      rw [bytes_eq] at whole_eq ⊢
      have split : whole = (front ++ code) ++ rest.bytes := by
        rw [whole_eq, List.append_assoc]
      have longer : (front ++ code).length = start + code.length := by
        rw [List.length_append, length_eq]
      obtain ⟨codes, each, flat, slices⟩ := induction others split longer
      refine ⟨code :: codes, .cons encoded each, ?_, ?_⟩
      · rw [List.flatten_cons, flat]
      · have slice : (whole.drop start).take code.length = code := by
          rw [whole_eq, ← length_eq, List.drop_left, List.take_left]
        rw [records_eq, List.map_cons, slices]
        exact congrArg (· :: codes) slice

theorem forall₂_slice_of_generate (generated : generate set statements = .ok image) :
    List.Forall₂ (fun statement record => Encoding.encode set statement = .ok (image.slice record))
      statements image.records ∧
      (image.records.map image.slice).flatten = image.bytes := by
  obtain ⟨codes, encoded, flat, slices⟩ :=
    exists_codes_of_generateFrom generated (List.nil_append image.bytes).symm rfl
  have slices_eq : image.records.map image.slice = codes := slices
  rw [← slices_eq] at encoded flat
  rw [List.forall₂_map_right_iff] at encoded
  exact ⟨encoded, flat⟩

theorem length_of_generateFrom (generated : generateFrom set start statements = .ok image) :
    image.bytes.length = covered image.records := by
  induction statements generalizing start image with
  | nil =>
      cases generated
      rfl
  | cons statement statements induction =>
      obtain ⟨code, rest, -, others, bytes_eq, records_eq⟩ := generateFrom_cons_eq_ok generated
      rw [bytes_eq, records_eq, List.length_append, induction others, covered]
      rfl

/-! ## Questions -/

/-- A record tells of the statement that emitted the byte at an offset, and no other record covers
that byte.  The index is that of the byte among those of the statement. -/
def Tells (image : Image) (set : InstructionSet) (statements : List Statement) (offset : Int)
    (record : Record) (index : Int) : Prop :=
  ∃ position statement code, image.records[position]? = some record ∧
    statements[position]? = some statement ∧ Encoding.encode set statement = .ok code ∧
    0 < record.size ∧ 0 ≤ index ∧ index = offset - record.offset ∧
    (∃ byte, image.bytes[offset.toNat]? = some byte ∧ code[index.toNat]? = some byte) ∧
    ∀ (other : Nat) (another : Record), image.records[other]? = some another →
      another.covers offset = true → other = position

/-- The records of an image tile its bytes, and tell of the statements. -/
structure Tiled (image : Image) (set : InstructionSet) (statements : List Statement) : Prop where
  /-- Each statement has one record, that of its bytes. -/
  records : List.Forall₂ (HasRecord set) statements image.records
  /-- A record starts behind the bytes of the records before it. -/
  offset : ∀ front record back, image.records = front ++ record :: back →
    record.offset = covered front
  length : image.bytes.length = covered image.records
  inside : ∀ record ∈ image.records, record.offset + record.size ≤ image.bytes.length
  /-- The records come with the bytes of their statements. -/
  code : List.Forall₂ (fun statement entry => Encoding.encode set statement = .ok entry.2)
    statements image.code
  code_records : image.code.map Prod.fst = image.records
  flatten : (image.code.map Prod.snd).flatten = image.bytes
  /-- A record is found for the bytes of the image, and for no other offset. -/
  isSome : ∀ offset, (image.find? offset).isSome ↔ 0 ≤ offset ∧ offset < image.bytes.length
  found : ∀ offset record index, image.find? offset = some (record, index) →
    image.Tells set statements offset record index

private theorem find?_eq_some_iff {offset index : Int} {record : Record} :
    image.find? offset = some (record, index) ↔
      image.records.find? (·.covers offset) = some record ∧ index = offset - record.offset := by
  rw [find?, Option.map_eq_some_iff]
  constructor
  · rintro ⟨record, found, same⟩
    obtain ⟨rfl, rfl⟩ := Prod.mk.inj same
    exact ⟨found, rfl⟩
  · rintro ⟨found, rfl⟩
    exact ⟨record, found, rfl⟩

theorem isSome_find?_iff (generated : generate set statements = .ok image) (offset : Int) :
    (image.find? offset).isSome ↔ 0 ≤ offset ∧ offset < image.bytes.length := by
  have consecutive := consecutive_of_generateFrom generated
  rw [find?, Option.isSome_map, List.find?_isSome, length_of_generateFrom generated]
  constructor
  · rintro ⟨record, member, covers⟩
    have bounds := consecutive.bounds member
    rw [Record.covers_iff] at covers
    omega
  · rintro ⟨nonnegative, before⟩
    exact consecutive.exists_covers (by simpa using nonnegative) (by simpa using before)

private theorem tells_of_find? (generated : generate set statements = .ok image)
    {offset index : Int} {record : Record} (found : image.find? offset = some (record, index)) :
    image.Tells set statements offset record index := by
  have consecutive := consecutive_of_generateFrom generated
  obtain ⟨first, rfl⟩ := find?_eq_some_iff.mp found
  have covers := List.find?_some first
  obtain ⟨behind, before⟩ := Record.covers_iff.mp covers
  obtain ⟨position, at_position⟩ := List.mem_iff_getElem?.mp (List.mem_of_find?_eq_some first)
  have statement_of := (forall₂_slice_of_generate generated).1.flip
  obtain ⟨statement, at_statement, encoded⟩ :=
    Success.getElem?_of_forall₂ statement_of at_position
  have inside := ((isSome_find?_iff generated offset).mp (by rw [found]; rfl)).2
  refine ⟨position, statement, image.slice record, at_position, at_statement, encoded, by omega,
    by omega, rfl, ?_, fun other another at_other covers_other => ?_⟩
  · have bound : offset.toNat < image.bytes.length := by omega
    refine ⟨image.bytes.get ⟨offset.toNat, bound⟩, List.getElem?_eq_getElem bound, ?_⟩
    have index_lt : (offset - record.offset).toNat < record.size := by omega
    have index_eq : record.offset + (offset - record.offset).toNat = offset.toNat := by omega
    rw [slice, List.getElem?_take_of_lt index_lt, List.getElem?_drop, index_eq]
    exact List.getElem?_eq_getElem bound
  · exact consecutive.unique at_position covers at_other covers_other

/-- The records of a generated image tile its bytes. -/
theorem tiled_of_generate (generated : generate set statements = .ok image) :
    image.Tiled set statements where
  records := forall₂_records_of_generateFrom generated
  offset := by
    intro front record back split
    rw [offset_of_generateFrom generated split, Nat.zero_add]
  length := length_of_generateFrom generated
  inside := by
    intro record member
    have bounds := (consecutive_of_generateFrom generated).bounds member
    rw [length_of_generateFrom generated]
    omega
  code := by
    rw [code, List.forall₂_map_right_iff]
    exact (forall₂_slice_of_generate generated).1
  code_records := by
    rw [code, List.map_map]
    exact List.map_id _
  flatten := by
    rw [code, List.map_map]
    exact (forall₂_slice_of_generate generated).2
  isSome := isSome_find?_iff generated
  found := fun _ _ _ => tells_of_find? generated

/-- Two statements with bytes, and an empty string between them. -/
def sparseData : List Statement :=
  [.instruction { value := "db" } [{ value := "7", kind := .number, radix := 10 }],
    .instruction { value := "db" } [{ value := "", kind := .text }],
    .instruction { value := "DW" } [{ value := "102", kind := .number, radix := 16 }]]

theorem tiled_of_generate_sparseData :
    ∃ image, generate { tables := [], instructions := [], pseudo := [] } sparseData = .ok image ∧
      image.bytes = [7, 1, 2] ∧
      image.records.map (fun record => (record.text, record.offset, record.size)) =
        [("db 7", 0, 1), ("db \"\"", 1, 0), ("DW 0x102", 1, 2)] ∧
      (image.find? 1).map (fun found => found.1.text) = some "DW 0x102" ∧
      image.Tiled { tables := [], instructions := [], pseudo := [] } sparseData := by
  have evaluated : (generate { tables := [], instructions := [], pseudo := [] } sparseData).map
      (fun image => (image.bytes,
        image.records.map (fun record => (record.text, record.offset, record.size)),
        (image.find? 1).map (fun found => found.1.text))) =
      .ok ([7, 1, 2], [("db 7", 0, 1), ("db \"\"", 1, 0), ("DW 0x102", 1, 2)],
        some "DW 0x102") := rfl
  obtain ⟨image, generated, outcome⟩ := Success.map_eq_ok.mp evaluated
  obtain ⟨bytes, others⟩ := Prod.mk.inj outcome
  obtain ⟨records, found⟩ := Prod.mk.inj others
  exact ⟨image, generated, bytes, records, found, tiled_of_generate generated⟩

end Image
end TableAssembler
