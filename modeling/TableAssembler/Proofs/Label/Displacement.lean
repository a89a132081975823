import TableAssembler.Assembly.Resolution
import TableAssembler.Proofs.Statement.Displacement

/-!
# Addresses do not depend on places

Displaced programs have the same scopes, sizes and addresses.  Their labels are the same, and what
is left of them when labels are placed, put in and folded is displaced.
-/

namespace TableAssembler

variable {displacement : Displacement} {statement other : Statement}

/-! ## Scopes -/

namespace Scope

private theorem displaced_qualifyLexeme (scope : String) {first second : Lexeme}
    (displaced : first.Displaced displacement second) :
    (qualifyLexeme scope first).Displaced displacement (qualifyLexeme scope second) := by
  unfold qualifyLexeme
  rw [displaced.isLocal_eq, displaced.value]
  split_ifs
  · exact .intro displaced.kind rfl displaced.radix displaced.args displaced.span
      displaced.location
  · exact displaced

private theorem displaced_qualifyStatement (scope : String)
    (displaced : statement.Displaced displacement other) :
    (qualifyStatement scope statement).Displaced displacement (qualifyStatement scope other) := by
  unfold qualifyStatement
  rw [displaced.kind]
  split_ifs
  · exact ⟨rfl, displaced_qualifyLexeme scope displaced.name, displaced.args⟩
  · exact displaced.mapArgs fun operand =>
      operand.mapIdentifiers fun _ => displaced_qualifyLexeme scope

private theorem after_eq_of_displaced (scope : String)
    (displaced : statement.Displaced displacement other) :
    after scope statement = after scope other := by
  rw [after, after, displaced.kind, displaced.name.isLocal_eq, displaced.name.value]

theorem displaced_qualifyFrom {program others : List Statement}
    (displaced : List.Forall₂ (Statement.Displaced displacement) program others)
    (scope : String) :
    List.Forall₂ (Statement.Displaced displacement) (qualifyFrom scope program)
      (qualifyFrom scope others) := by
  induction displaced generalizing scope with
  | nil => exact .nil
  | cons first _ induction =>
      unfold qualifyFrom
      rw [after_eq_of_displaced scope first]
      exact .cons (displaced_qualifyStatement scope first) (induction _)

end Scope

/-! ## Sizes -/

namespace Layout

private theorem displaced_argumentSize (layout : Layout) (data : Directive.Data)
    {first second : Lexeme} (displaced : first.Displaced displacement second) :
    displacement.Ends Eq (layout.argumentSize data first) (layout.argumentSize data second) := by
  dsimp only [argumentSize]
  rw [displaced.kind, displaced.value]
  cases second.kind with
  | identifier | number | closure | text => exact .ok rfl
  | _ => exact .error (Fault.Displaced.located _ displaced.location)

private theorem displaced_dataSize (layout : Layout) (data : Directive.Data)
    {args others : List Lexeme}
    (displaced : List.Forall₂ (Lexeme.Displaced displacement) args others) :
    displacement.Ends Eq (layout.dataSize data args) (layout.dataSize data others) := by
  refine (Outcome.Alike.mapM displaced fun _ _ => layout.displaced_argumentSize data).bind ?_
  intro sizes sizes' same
  obtain rfl := List.forall₂_eq_eq_eq ▸ same
  exact .ok rfl

private theorem displaced_instructionSize (layout : Layout) (sizer? : Option Sizer)
    (displaced : statement.Displaced displacement other) :
    displacement.Ends Eq (layout.instructionSize sizer? statement)
      (layout.instructionSize sizer? other) := by
  unfold instructionSize
  rw [displaced.mnemonic_eq]
  cases layout with
  | units => exact .ok rfl
  | _ =>
      cases sizer? with
      | none => exact .ok rfl
      | some sizer =>
          dsimp only
          cases sizer other.mnemonic with
          | ok size => exact .ok rfl
          | error cause => exact .error (Fault.Displaced.located cause displaced.location)

private theorem displaced_statementSize (layout : Layout) (sizer? : Option Sizer)
    (displaced : statement.Displaced displacement other) :
    displacement.Ends Eq (layout.statementSize sizer? statement)
      (layout.statementSize sizer? other) := by
  unfold statementSize
  rw [displaced.mnemonic_eq]
  cases Directive.data? other.mnemonic with
  | none => exact layout.displaced_instructionSize sizer? displaced
  | some data =>
      dsimp only
      split_ifs
      · exact layout.displaced_instructionSize sizer? displaced
      · exact layout.displaced_dataSize data displaced.args

end Layout

/-! ## Placement -/

namespace Placement

/-- The placements have the same labels, and their code is the same apart from places. -/
structure Displaced (displacement : Displacement) (first second : Placement) : Prop where
  code : List.Forall₂ (Statement.Displaced displacement) first.code second.code
  labels : first.labels = second.labels

private theorem displaced_originAddress (displaced : statement.Displaced displacement other) :
    displacement.Ends Eq (originAddress statement) (originAddress other) := by
  have refused := Fault.Displaced.located .originArgument displaced.location
  have args := displaced.args
  unfold originAddress
  generalize statement.args = operands at args
  generalize other.args = operands' at args
  rcases args with _ | ⟨arg, _ | _⟩
  · exact .error refused
  · dsimp only
    rw [arg.kind]
    split_ifs
    · exact arg.word
    · exact .error (Fault.Displaced.located _ arg.location)
  · exact .error refused

theorem displaced_placeFrom (layout : Layout) (sizer? : Option Sizer)
    {program others : List Statement}
    (displaced : List.Forall₂ (Statement.Displaced displacement) program others)
    (address : UInt64) (labels : Labels) :
    displacement.Ends (Displaced displacement) (placeFrom layout sizer? address labels program)
      (placeFrom layout sizer? address labels others) := by
  induction displaced generalizing address labels with
  | nil => exact .ok ⟨.nil, rfl⟩
  | cons first _ induction =>
      dsimp only [placeFrom]
      rw [first.kind, first.name.value, first.mnemonic_eq]
      split_ifs
      · exact .error (Fault.Displaced.located _ first.location)
      · exact induction _ _
      · refine (displaced_originAddress first).bind ?_
        rintro origin _ rfl
        exact induction origin labels
      · refine (layout.displaced_statementSize sizer? first).bind ?_
        rintro size _ rfl
        refine (induction (address + size) labels).bind fun placement placement' later => .ok ?_
        exact ⟨.cons first later.code, later.labels⟩

end Placement

/-! ## Addresses put in -/

namespace Labels

private theorem displaced_substituteIdentifier (labels : Labels) {first second : Lexeme}
    (displaced : first.Displaced displacement second) :
    (labels.substituteIdentifier first).Displaced displacement
      (labels.substituteIdentifier second) := by
  unfold substituteIdentifier
  rw [displaced.value]
  cases Dictionary.find? labels second.value with
  | some address => exact Lexeme.displaced_ofWord address displaced.location
  | none => exact displaced

private theorem displaced_substitute (labels : Labels) {code others : List Statement}
    (displaced : List.Forall₂ (Statement.Displaced displacement) code others) :
    List.Forall₂ (Statement.Displaced displacement) (labels.substitute code)
      (labels.substitute others) := by
  unfold substitute
  rw [List.forall₂_map_left_iff, List.forall₂_map_right_iff]
  refine displaced.imp fun _ _ statement => statement.mapArgs fun operand => ?_
  exact operand.mapIdentifiers fun _ => labels.displaced_substituteIdentifier

end Labels

/-! ## Resolution -/

/-- The resolutions have the same labels, and their statements are the same apart from places. -/
structure Resolution.Displaced (displacement : Displacement) (first second : Resolution) :
    Prop where
  statements : List.Forall₂ (Statement.Displaced displacement) first.statements second.statements
  labels : first.labels = second.labels

namespace Target

theorem displaced_place (target : Target) {program others : List Statement}
    (displaced : List.Forall₂ (Statement.Displaced displacement) program others) :
    displacement.Ends (Placement.Displaced displacement) (target.place program)
      (target.place others) :=
  Placement.displaced_placeFrom _ _ (Scope.displaced_qualifyFrom displaced "") 0 []

theorem displaced_finish {first second : Placement}
    (displaced : first.Displaced displacement second) :
    displacement.Ends (Resolution.Displaced displacement) (finish first) (finish second) := by
  unfold finish
  rw [displaced.labels]
  have substituted := Labels.displaced_substitute second.labels displaced.code
  refine (Outcome.Alike.mapM substituted fun _ _ statement => statement.fold).bind ?_
  exact fun _ _ folded => .ok ⟨folded, rfl⟩

end Target
end TableAssembler
