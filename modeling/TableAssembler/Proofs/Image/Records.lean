import TableAssembler.Image.Basic
import TableAssembler.Proofs.Success

/-!
# The records of an image

An image has one record for each statement, which tells the number of its bytes and starts where
the bytes of the statements before it end.  Records of one statement in two images are aligned when
they agree in all but the text.
-/

namespace TableAssembler

/-- The records tell of the same bytes of the same statement; their texts may differ. -/
structure Record.Aligned (first second : Record) : Prop where
  location : first.location = second.location
  mnemonic : first.mnemonic = second.mnemonic
  offset : first.offset = second.offset
  size : first.size = second.size

namespace Image

/-- The number of bytes that records cover: the sum of their sizes. -/
def covered : List Record → Nat
  | [] => 0
  | record :: records => record.size + covered records

@[simp]
theorem covered_append (front back : List Record) :
    covered (front ++ back) = covered front + covered back := by
  induction front with
  | nil => simp [covered]
  | cons record front induction => simp [covered, induction, Nat.add_assoc]

theorem covered_eq_zero {records : List Record}
    (empty : ∀ record ∈ records, record.size = 0) : covered records = 0 := by
  induction records with
  | nil => rfl
  | cons record records induction =>
      rw [covered, empty record List.mem_cons_self, Nat.zero_add]
      exact induction fun later member => empty later (List.mem_cons_of_mem _ member)

/-- The record is that of the bytes of the statement. -/
def HasRecord (set : InstructionSet) (statement : Statement) (record : Record) : Prop :=
  ∃ code, Encoding.encode set statement = .ok code ∧
    record = Record.ofCode statement record.offset code

variable {set : InstructionSet} {start : Nat} {statements : List Statement} {image : Image}

/-- Each statement has the record of its bytes. -/
theorem forall₂_records_of_generateFrom
    (generated : generateFrom set start statements = .ok image) :
    List.Forall₂ (HasRecord set) statements image.records := by
  induction statements generalizing start image with
  | nil =>
      cases generated
      exact .nil
  | cons statement statements induction =>
      simp only [generateFrom, Success.bind_eq_ok, Except.ok.injEq] at generated
      obtain ⟨code, encoded, rest, others, rfl⟩ := generated
      exact .cons ⟨code, encoded, rfl⟩ (induction others)

/-- A record starts behind the bytes of the records before it. -/
theorem offset_of_generateFrom (generated : generateFrom set start statements = .ok image)
    {front back : List Record} {record : Record} (split : image.records = front ++ record :: back) :
    record.offset = start + covered front := by
  induction statements generalizing start image front with
  | nil =>
      cases generated
      simp at split
  | cons statement statements induction =>
      simp only [generateFrom, Success.bind_eq_ok, Except.ok.injEq] at generated
      obtain ⟨code, encoded, rest, others, rfl⟩ := generated
      cases front with
      | nil =>
          obtain ⟨rfl, -⟩ := List.cons.inj split
          rfl
      | cons first front =>
          obtain ⟨rfl, later⟩ := List.cons.inj split
          rw [induction others later, covered, Nat.add_assoc]
          rfl

end Image
end TableAssembler
