import Mathlib.Data.List.DropRight
import Mathlib.Data.UInt
import TableAssembler.Label.Placement
import TableAssembler.Proofs.Dictionary
import TableAssembler.Proofs.Success

/-!
# Addresses

The address behind the start of a program is defined statement by statement: labels leave it, an
origin sets it, and every other statement adds its size.  It is the operand of the last origin
plus the sizes of the statements since.  Placement gives every label the address behind what
stands before it.
-/

namespace TableAssembler

namespace Statement

/-- The statement sets the origin. -/
def isOrigin (statement : Statement) : Bool :=
  decide (statement.kind ≠ .label) && decide (statement.mnemonic = Directive.origin)

/-- The statement is neither a label nor an origin. -/
def isCode (statement : Statement) : Bool :=
  decide (statement.kind ≠ .label) && decide (statement.mnemonic ≠ Directive.origin)

/-- The statement is a label. -/
def isLabel (statement : Statement) : Bool := decide (statement.kind = .label)

theorem isOrigin_of_isLabel {statement : Statement} (label : statement.isLabel = true) :
    statement.isOrigin = false := by
  simp_all [isLabel, isOrigin]

theorem isCode_of_isLabel {statement : Statement} (label : statement.isLabel = true) :
    statement.isCode = false := by
  simp_all [isLabel, isCode]

theorem isOrigin_of_isCode {statement : Statement} (code : statement.isCode = true) :
    statement.isOrigin = false := by
  simp_all [isCode, isOrigin]

theorem isLabel_of_isCode {statement : Statement} (code : statement.isCode = true) :
    statement.isLabel = false := by
  simp_all [isCode, isLabel]

theorem isCode_of_isOrigin {statement : Statement} (origin : statement.isOrigin = true) :
    statement.isCode = false := by
  simp_all [isCode, isOrigin]

theorem isLabel_of_isOrigin {statement : Statement} (origin : statement.isOrigin = true) :
    statement.isLabel = false := by
  simp_all [isOrigin, isLabel]

end Statement

namespace Placement

variable {layout : Layout} {sizer? : Option Sizer}

/-! ## The address behind the start of a program -/

/-- The address behind the start of a program. -/
inductive AddressBehind (layout : Layout) (sizer? : Option Sizer) :
    List Statement → UInt64 → Prop
  /-- A program starts at zero. -/
  | start : AddressBehind layout sizer? [] 0
  /-- A label takes no room. -/
  | label {front : List Statement} {statement : Statement} {address : UInt64} :
      AddressBehind layout sizer? front address → statement.isLabel = true →
        AddressBehind layout sizer? (front ++ [statement]) address
  /-- An origin sets the address. -/
  | origin {front : List Statement} {statement : Statement} {address target : UInt64} :
      AddressBehind layout sizer? front address → statement.isOrigin = true →
        originAddress statement = .ok target →
        AddressBehind layout sizer? (front ++ [statement]) target
  /-- Every other statement takes the room of its size. -/
  | code {front : List Statement} {statement : Statement} {address size : UInt64} :
      AddressBehind layout sizer? front address → statement.isCode = true →
        layout.statementSize sizer? statement = .ok size →
        AddressBehind layout sizer? (front ++ [statement]) (address + size)

/-- The statements up to the last origin, the origin included. -/
def throughOrigin (front : List Statement) : List Statement :=
  front.rdropWhile fun statement => !statement.isOrigin

/-- The statements behind the last origin. -/
def sinceOrigin (front : List Statement) : List Statement :=
  front.rtakeWhile fun statement => !statement.isOrigin

theorem throughOrigin_append_sinceOrigin (front : List Statement) :
    throughOrigin front ++ sinceOrigin front = front :=
  List.rdropWhile_append_rtakeWhile

/-- The address that the last origin sets, zero when there is none. -/
def base (front : List Statement) : Except Fault UInt64 :=
  match (throughOrigin front).getLast? with
  | none => .ok 0
  | some statement => originAddress statement

private theorem base_append_singleton (front : List Statement) (statement : Statement) :
    base (front ++ [statement]) =
      if statement.isOrigin then originAddress statement else base front := by
  unfold base throughOrigin
  rw [List.rdropWhile_concat]
  by_cases origin : statement.isOrigin
  · simp [origin]
  · simp [origin]

private theorem sinceOrigin_append_singleton (front : List Statement) (statement : Statement) :
    sinceOrigin (front ++ [statement]) =
      if statement.isOrigin then [] else sinceOrigin front ++ [statement] := by
  unfold sinceOrigin
  rw [List.rtakeWhile_concat]
  by_cases origin : statement.isOrigin
  · simp [origin]
  · simp [origin]

/-- An address is what the last origin sets, and the sizes of the statements since. -/
theorem AddressBehind.eq_base_add_sum {front : List Statement} {address : UInt64}
    (behind : AddressBehind layout sizer? front address) :
    ∃ start sizes, base front = .ok start ∧
      List.Forall₂ (fun statement size => layout.statementSize sizer? statement = .ok size)
        ((sinceOrigin front).filter Statement.isCode) sizes ∧
      address = start + sizes.sum := by
  induction behind with
  | start => exact ⟨0, [], rfl, .nil, rfl⟩
  | @label front statement address _ label induction =>
      obtain ⟨start, sizes, base_eq, sized, rfl⟩ := induction
      rw [base_append_singleton, sinceOrigin_append_singleton,
        Statement.isOrigin_of_isLabel label]
      refine ⟨start, sizes, base_eq, ?_, rfl⟩
      simpa [List.filter_append, Statement.isCode_of_isLabel label] using sized
  | @origin front statement address target _ origin target_eq =>
      rw [base_append_singleton, sinceOrigin_append_singleton, origin]
      exact ⟨target, [], target_eq, .nil, by simp⟩
  | @code front statement address size _ code size_eq induction =>
      obtain ⟨start, sizes, base_eq, sized, rfl⟩ := induction
      rw [base_append_singleton, sinceOrigin_append_singleton,
        Statement.isOrigin_of_isCode code]
      refine ⟨start, sizes ++ [size], base_eq, ?_, ?_⟩
      · have last : List.Forall₂
            (fun statement size => layout.statementSize sizer? statement = .ok size)
            [statement] [size] := .cons size_eq .nil
        simpa [List.filter_append, code] using List.rel_append sized last
      · rw [List.sum_append, List.sum_singleton, add_assoc]

/-! ## Placed labels -/

/-- Labels and addresses of a program. -/
structure Describes (layout : Layout) (sizer? : Option Sizer) (program : List Statement)
    (labels : Labels) : Prop where
  /-- The names are those of the labels of the program, in order. -/
  names : Dictionary.names labels =
    (program.filter Statement.isLabel).map fun label => label.name.value
  /-- No name stands twice. -/
  nodup : (Dictionary.names labels).Nodup
  /-- A label has the address behind what stands before it. -/
  find? : ∀ front label back, program = front ++ label :: back → label.isLabel = true →
    ∃ address, AddressBehind layout sizer? front address ∧
      Dictionary.find? labels label.name.value = some address

theorem Describes.nil : Describes layout sizer? [] [] where
  names := rfl
  nodup := .nil
  find? front label back split := by simp at split

theorem Describes.append_other {program : List Statement} {labels : Labels}
    {statement : Statement} (describes : Describes layout sizer? program labels)
    (other : statement.isLabel = false) :
    Describes layout sizer? (program ++ [statement]) labels where
  names := by simp [describes.names, other]
  nodup := describes.nodup
  find? := by
    intro front label back split is_label
    rcases List.eq_nil_or_concat back with rfl | ⟨middle, last, rfl⟩
    · obtain ⟨-, same⟩ := List.append_inj' split rfl
      obtain rfl := List.singleton_inj.mp same
      simp [other] at is_label
    · rw [List.concat_eq_append, ← List.cons_append, ← List.append_assoc] at split
      exact describes.find? front label middle (List.append_inj' split rfl).1 is_label

theorem Describes.append_label {program : List Statement} {labels : Labels}
    {statement : Statement} {address : UInt64}
    (describes : Describes layout sizer? program labels) (label : statement.isLabel = true)
    (behind : AddressBehind layout sizer? program address)
    (unused : Dictionary.find? labels statement.name.value = none) :
    Describes layout sizer? (program ++ [statement])
      (labels ++ [(statement.name.value, address)]) where
  names := by simp [Dictionary.names, ← describes.names, label]
  nodup := by
    rw [Dictionary.names_append]
    refine describes.nodup.append (List.nodup_singleton _) ?_
    exact List.disjoint_singleton.mpr (Dictionary.find?_eq_none_iff.mp unused)
  find? := by
    intro front later back split is_label
    rw [Dictionary.find?_append]
    rcases List.eq_nil_or_concat back with rfl | ⟨middle, last, rfl⟩
    · obtain ⟨rfl, same⟩ := List.append_inj' split rfl
      obtain rfl := List.singleton_inj.mp same
      exact ⟨address, behind, by simp [unused]⟩
    · rw [List.concat_eq_append, ← List.cons_append, ← List.append_assoc] at split
      obtain ⟨early, early_behind, found⟩ :=
        describes.find? front later middle (List.append_inj' split rfl).1 is_label
      exact ⟨early, early_behind, by simp [found]⟩

private theorem describes_of_placeFrom {seen rest : List Statement} {address : UInt64}
    {labels : Labels} {placement : Placement} (behind : AddressBehind layout sizer? seen address)
    (describes : Describes layout sizer? seen labels)
    (placed : placeFrom layout sizer? address labels rest = .ok placement) :
    placement.code = rest.filter Statement.isCode ∧
      Describes layout sizer? (seen ++ rest) placement.labels := by
  induction rest generalizing seen address labels placement with
  | nil =>
      cases placed
      exact ⟨rfl, by simpa using describes⟩
  | cons statement rest induction =>
      rw [List.append_cons]
      unfold placeFrom at placed
      split_ifs at placed with label origin
      · simp only at placed
        split_ifs at placed with used
        have is_label : statement.isLabel = true := by simpa [Statement.isLabel] using label
        have unused := Option.not_isSome_iff_eq_none.mp used
        obtain ⟨code_eq, later⟩ :=
          induction (behind.label is_label) (describes.append_label is_label behind unused) placed
        exact ⟨by simpa [Statement.isCode_of_isLabel is_label] using code_eq, later⟩
      · have is_origin : statement.isOrigin = true := by simp [Statement.isOrigin, label, origin]
        obtain ⟨target, target_eq, placed⟩ := Success.bind_eq_ok.mp placed
        obtain ⟨code_eq, later⟩ :=
          induction (behind.origin is_origin target_eq)
            (describes.append_other (Statement.isLabel_of_isOrigin is_origin)) placed
        exact ⟨by simpa [Statement.isCode_of_isOrigin is_origin] using code_eq, later⟩
      · have is_code : statement.isCode = true := by simp [Statement.isCode, label, origin]
        simp only [Success.bind_eq_ok, Success.pure_eq_ok] at placed
        obtain ⟨size, size_eq, inner, placed, rfl⟩ := placed
        obtain ⟨code_eq, later⟩ :=
          induction (behind.code is_code size_eq)
            (describes.append_other (Statement.isLabel_of_isCode is_code)) placed
        exact ⟨by simp [is_code, Placement.cons, code_eq], later⟩

/-- Placement keeps the code of a program, and describes its labels. -/
theorem describes_of_place {program : List Statement} {placement : Placement}
    (placed : place layout sizer? program = .ok placement) :
    placement.code = program.filter Statement.isCode ∧
      Describes layout sizer? program placement.labels :=
  describes_of_placeFrom .start .nil placed

end Placement
end TableAssembler
