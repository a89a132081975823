import TableAssembler.Proofs.Lexeme.Displacement
import TableAssembler.Proofs.Statement.Grouping
import TableAssembler.Statement.Folding

/-!
# Grouping does not look at places

Displaced lexemes are grouped into displaced statements, and where one list cannot be grouped the
other fails for the same reason, at the corresponding place.  One lexeme leaves displaced progress
behind, and so does a whole list.
-/

namespace TableAssembler

variable {displacement : Displacement}

namespace Statement

/-! ## Displaced statements -/

/-- The statements are the same apart from places. -/
structure Displaced (displacement : Displacement) (first second : Statement) : Prop where
  kind : first.kind = second.kind
  name : first.name.Displaced displacement second.name
  args : List.Forall₂ (Lexeme.Displaced displacement) first.args second.args

theorem displaced_refl (statement : Statement) : Displaced .anywhere statement statement :=
  ⟨rfl, statement.name.displaced_refl, List.forall₂_same.mpr fun arg _ => arg.displaced_refl⟩

instance (first second : Statement) : Decidable (Displaced .anywhere first second) :=
  decidable_of_iff
    (first.kind = second.kind ∧ first.name.Displaced .anywhere second.name ∧
      List.Forall₂ (Lexeme.Displaced .anywhere) first.args second.args)
    ⟨fun ⟨kind, name, args⟩ => ⟨kind, name, args⟩, fun ⟨kind, name, args⟩ => ⟨kind, name, args⟩⟩

theorem Displaced.location {first second : Statement}
    (displaced : Displaced displacement first second) :
    displacement.Locations first.location second.location :=
  displaced.name.location

theorem Displaced.mnemonic_eq {first second : Statement}
    (displaced : Displaced displacement first second) : first.mnemonic = second.mnemonic := by
  rw [mnemonic, mnemonic, displaced.name.value]

theorem Displaced.isEmpty_args_eq {first second : Statement}
    (displaced : Displaced displacement first second) :
    first.args.isEmpty = second.args.isEmpty := by
  rw [Bool.eq_iff_iff, List.isEmpty_iff_length_eq_zero, List.isEmpty_iff_length_eq_zero,
    displaced.args.length_eq]

/-- Displaced statements have one text. -/
theorem Displaced.render_eq {first second : Statement}
    (displaced : Displaced displacement first second) : first.render = second.render := by
  have sources : first.args.map Lexeme.source = second.args.map Lexeme.source :=
    Success.map_eq_map_of_forall₂ (displaced.args.imp fun _ _ moved => moved.source_eq)
  rw [render, render, displaced.kind, displaced.name.value, sources, displaced.isEmpty_args_eq]

theorem Displaced.mapArgs {first second : Statement} {change change' : Lexeme → Lexeme}
    (displaced : Displaced displacement first second)
    (changes : ∀ {lexeme other : Lexeme}, lexeme.Displaced displacement other →
      (change lexeme).Displaced displacement (change' other)) :
    Displaced displacement (first.mapArgs change) (second.mapArgs change') := by
  unfold Statement.mapArgs
  rw [displaced.kind]
  split
  · refine ⟨rfl, displaced.name, ?_⟩
    rw [List.forall₂_map_left_iff, List.forall₂_map_right_iff]
    exact displaced.args.imp fun _ _ moved => changes moved
  · exact displaced

theorem Displaced.fold {first second : Statement}
    (displaced : Displaced displacement first second) :
    displacement.Ends (Displaced displacement) first.fold second.fold := by
  unfold Statement.fold
  rw [displaced.kind]
  split
  · refine (Outcome.Alike.mapM displaced.args fun _ _ moved => moved.fold).bind ?_
    exact fun _ _ args => .ok ⟨rfl, displaced.name, args⟩
  · exact .ok displaced

theorem displaced_label {first second : Lexeme} (name : first.Displaced displacement second) :
    Displaced displacement (.label first) (.label second) :=
  ⟨rfl, name, .nil⟩

theorem displaced_instruction {first second : Lexeme} {args others : List Lexeme}
    (name : first.Displaced displacement second)
    (args_displaced : List.Forall₂ (Lexeme.Displaced displacement) args others) :
    Displaced displacement (.instruction first args) (.instruction second others) :=
  ⟨rfl, name, args_displaced⟩

/-- The statement some rows further down. -/
def down (rows : Int) (statement : Statement) : Statement :=
  { statement with
    name := statement.name.down rows
    args := statement.args.map (Lexeme.down rows) }

theorem Displaced.eq_down {rows : Int} {first second : Statement}
    (displaced : Displaced (.down rows) first second) : second = first.down rows := by
  obtain ⟨kind, name, args⟩ := first
  obtain ⟨kind', name', args'⟩ := second
  obtain ⟨same, name_displaced, args_displaced⟩ := displaced
  obtain rfl : kind = kind' := same
  rw [down, ← name_displaced.eq_down, ← Lexeme.eq_map_down_of_forall₂ args_displaced]

theorem eq_map_down_of_forall₂ {rows : Int} {statements others : List Statement}
    (displaced : List.Forall₂ (Displaced (.down rows)) statements others) :
    others = statements.map (down rows) :=
  Success.eq_map_of_forall₂ (displaced.imp fun _ _ moved => moved.eq_down)

/-! ## Displaced progress -/

/-- The open parentheses are the same apart from places. -/
inductive Pending.Displaced (displacement : Displacement) : Pending → Pending → Prop
  | left {opening opening' : Lexeme} :
      opening.Displaced displacement opening' →
        Displaced displacement (.left opening) (.left opening')
  | right {opening opening' left left' operator operator' : Lexeme} :
      opening.Displaced displacement opening' → left.Displaced displacement left' →
        operator.Displaced displacement operator' →
        Displaced displacement (.right opening left operator) (.right opening' left' operator')

/-- What must come next is the same apart from places. -/
inductive Need.Displaced (displacement : Displacement) : Need → Need → Prop
  | afterName : Displaced displacement .afterName .afterName
  | operand {pending pending' : List Pending} :
      List.Forall₂ (Pending.Displaced displacement) pending pending' →
        Displaced displacement (.operand pending) (.operand pending')
  | operator {opening opening' left left' : Lexeme} {pending pending' : List Pending} :
      opening.Displaced displacement opening' → left.Displaced displacement left' →
        List.Forall₂ (Pending.Displaced displacement) pending pending' →
        Displaced displacement (.operator opening left pending) (.operator opening' left' pending')
  | closing {opening opening' left left' operator operator' right right' : Lexeme}
      {pending pending' : List Pending} :
      opening.Displaced displacement opening' → left.Displaced displacement left' →
        operator.Displaced displacement operator' → right.Displaced displacement right' →
        List.Forall₂ (Pending.Displaced displacement) pending pending' →
        Displaced displacement (.closing opening left operator right pending)
          (.closing opening' left' operator' right' pending')
  | separator : Displaced displacement .separator .separator

/-- The statements that are being read are the same apart from places. -/
structure Progress.Displaced (displacement : Displacement) (first second : Progress) : Prop where
  name : first.name.Displaced displacement second.name
  args : List.Forall₂ (Lexeme.Displaced displacement) first.args second.args
  last : first.last.Displaced displacement second.last
  need : first.need.Displaced displacement second.need

/-- What a step gives back is the same apart from places. -/
def StepsDisplaced (displacement : Displacement)
    (first second : Option Statement × Option Progress) : Prop :=
  Option.Rel (Displaced displacement) first.1 second.1 ∧
    Option.Rel (Progress.Displaced displacement) first.2 second.2

namespace Progress

variable {first second : Progress} {lexeme other : Lexeme} {pending pending' : List Pending}

theorem displaced_ofName (name : lexeme.Displaced displacement other) :
    Displaced displacement (.ofName lexeme) (.ofName other) :=
  ⟨name, .nil, name, .afterName⟩

theorem Displaced.instruction (displaced : Displaced displacement first second) :
    Statement.Displaced displacement first.instruction second.instruction :=
  displaced_instruction displaced.name displaced.args

theorem Displaced.await {need need' : Need} (displaced : Displaced displacement first second)
    (last : lexeme.Displaced displacement other) (next : need.Displaced displacement need') :
    Displaced displacement (first.await lexeme need) (second.await other need') :=
  ⟨displaced.name, displaced.args, last, next⟩

theorem Displaced.accept {operand operand' : Lexeme}
    (displaced : Displaced displacement first second)
    (last : lexeme.Displaced displacement other)
    (complete : operand.Displaced displacement operand')
    (open_around : List.Forall₂ (Pending.Displaced displacement) pending pending') :
    Displaced displacement (first.accept lexeme operand pending)
      (second.accept other operand' pending') := by
  cases open_around with
  | nil =>
      exact ⟨displaced.name, List.rel_append displaced.args (.cons complete .nil), last, .separator⟩
  | cons innermost around =>
      cases innermost with
      | left opening => exact displaced.await last (.operator opening complete around)
      | right opening left operator =>
          exact displaced.await last (.closing opening left operator complete around)

/-! ## One lexeme -/

theorem Displaced.operand (displaced : Displaced displacement first second)
    (read : lexeme.Displaced displacement other)
    (open_around : List.Forall₂ (Pending.Displaced displacement) pending pending') :
    displacement.Ends (Displaced displacement) (first.operand pending lexeme)
      (second.operand pending' other) := by
  have accepted := displaced.accept read read open_around
  have opened := displaced.await read (.operand (.cons (.left read) open_around))
  have refused := Fault.Displaced.located (.unexpectedSource other.source) read.location
  unfold Progress.operand
  rw [read.kind, read.is_eq, read.source_eq]
  split
  · exact .ok accepted
  · exact .ok accepted
  · exact .ok accepted
  · split
    · exact .ok opened
    · exact .error refused

theorem Displaced.mapOperand (displaced : Displaced displacement first second)
    (read : lexeme.Displaced displacement other)
    (open_around : List.Forall₂ (Pending.Displaced displacement) pending pending') :
    displacement.Ends (StepsDisplaced displacement)
      ((first.operand pending lexeme).map fun next => (none, some next))
      ((second.operand pending' other).map fun next => (none, some next)) :=
  (displaced.operand read open_around).map fun _ _ next => ⟨.none, .some next⟩

theorem Displaced.step (displaced : Displaced displacement first second)
    (read : lexeme.Displaced displacement other) :
    displacement.Ends (StepsDisplaced displacement) (first.step lexeme) (second.step other) := by
  unfold Progress.step
  rw [read.kind, read.is_eq, read.is_eq, read.is_eq, read.source_eq]
  have need := displaced.need
  generalize first.need = awaited at need
  generalize second.need = awaited' at need
  cases need with
  | afterName =>
      dsimp only
      split_ifs
      · exact .ok ⟨.some (displaced_label displaced.name), .none⟩
      · exact .ok ⟨.some displaced.instruction, .none⟩
      · exact displaced.mapOperand read .nil
  | operand open_around =>
      cases open_around with
      | nil =>
          dsimp only
          split_ifs
          · exact .error (Fault.Displaced.located _ displaced.last.after)
          · exact displaced.mapOperand read .nil
      | cons innermost around => exact displaced.mapOperand read (.cons innermost around)
  | operator opening left around =>
      dsimp only
      split_ifs
      · exact .ok ⟨.none,
          .some (displaced.await read (.operand (.cons (.right opening left read) around)))⟩
      · exact .error (Fault.Displaced.located _ read.location)
  | closing opening left operator right around =>
      dsimp only
      split_ifs
      · have closure := Lexeme.Displaced.ofOperation left operator right opening.location
        exact .ok ⟨.none, .some (displaced.accept read closure around)⟩
      · exact .error (Fault.Displaced.located _ read.location)
  | separator =>
      dsimp only
      split_ifs
      · exact .ok ⟨.some displaced.instruction, .none⟩
      · exact .ok ⟨.none, .some (displaced.await read (.operand .nil))⟩
      · exact .error (Fault.Displaced.located _ read.location)

theorem Displaced.finish (displaced : Displaced displacement first second) :
    displacement.Ends (Statement.Displaced displacement) first.finish second.finish := by
  unfold Progress.finish
  have need := displaced.need
  generalize first.need = awaited at need
  generalize second.need = awaited' at need
  cases need with
  | afterName => exact .ok displaced.instruction
  | operand => exact .error (Fault.Displaced.located _ displaced.last.after)
  | operator => exact .error (Fault.Displaced.located _ displaced.last.after)
  | closing => exact .error (Fault.Displaced.located _ displaced.last.after)
  | separator => exact .ok displaced.instruction

end Progress

/-! ## All lexemes -/

private theorem displaced_groupStep {state state' : Option Progress} {lexeme other : Lexeme}
    (states : Option.Rel (Progress.Displaced displacement) state state')
    (read : lexeme.Displaced displacement other) :
    displacement.Ends (StepsDisplaced displacement) (groupStep state lexeme)
      (groupStep state' other) := by
  cases states with
  | some displaced => exact displaced.step read
  | none =>
      dsimp only [groupStep]
      rw [read.kind, read.source_eq]
      split_ifs
      · exact .ok ⟨.none, .none⟩
      · exact .ok ⟨.none, .some (Progress.displaced_ofName read)⟩
      · exact .error (Fault.Displaced.located _ read.location)

private theorem displaced_groupFrom {state state' : Option Progress} {lexemes others : List Lexeme}
    (states : Option.Rel (Progress.Displaced displacement) state state')
    (read : List.Forall₂ (Lexeme.Displaced displacement) lexemes others) :
    displacement.Ends (List.Forall₂ (Displaced displacement)) (groupFrom state lexemes)
      (groupFrom state' others) := by
  induction read generalizing state state' with
  | nil =>
      cases states with
      | none => exact .ok .nil
      | some displaced => exact displaced.finish.map fun _ _ complete => .cons complete .nil
  | cons first _ induction =>
      rw [groupFrom_cons, groupFrom_cons]
      refine (displaced_groupStep states first).bind ?_
      rintro ⟨complete, next⟩ ⟨complete', next'⟩ ⟨completed, awaits⟩
      refine (induction awaits).bind fun statements statements' later => .ok ?_
      dsimp only at completed
      cases completed with
      | none => exact later
      | some statement => exact .cons statement later

/-- Displaced lexemes are grouped into displaced statements. -/
theorem displaced_group {lexemes others : List Lexeme}
    (read : List.Forall₂ (Lexeme.Displaced displacement) lexemes others) :
    displacement.Ends (List.Forall₂ (Displaced displacement)) (group lexemes) (group others) :=
  displaced_groupFrom .none read

end Statement
end TableAssembler
