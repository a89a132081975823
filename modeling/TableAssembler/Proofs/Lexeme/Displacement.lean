import TableAssembler.Proofs.Lexeme.Value
import TableAssembler.Proofs.Outcome

/-!
# Lexemes at other places

The same lexemes can stand at different places of different texts.  A displacement says which
places correspond; lexemes are displaced when they are the same apart from their places, at every
depth of their closures.  Two displacements are used: all rows are moved down by one amount, and
places correspond whatever they are.
-/

namespace TableAssembler

/-! ## Displacements -/

/-- Which places of two texts correspond. -/
structure Displacement where
  /-- Locations that correspond. -/
  Locations : Location → Location → Prop
  /-- Spans that correspond. -/
  Spans : Int → Int → Prop
  /-- No span corresponds to no span. -/
  spans_zero : Spans 0 0
  /-- The places just past corresponding lexemes correspond; a lexeme without a span has the width
  of its text. -/
  locations_right : ∀ {first second : Location} {span other : Int} (width : Int),
    Locations first second → Spans span other →
    Locations (first.right (if span = 0 then width else span))
      (second.right (if other = 0 then width else other))

/-- The location some rows further down. -/
def Location.down (rows : Int) (location : Location) : Location :=
  { location with row := location.row + rows }

namespace Displacement

/-- All rows are moved down by one amount. -/
def down (rows : Int) : Displacement where
  Locations first second := second = first.down rows
  Spans := Eq
  spans_zero := rfl
  locations_right := by
    rintro first _ span _ width rfl rfl
    rfl

/-- All places correspond. -/
def anywhere : Displacement where
  Locations _ _ := True
  Spans _ _ := True
  spans_zero := trivial
  locations_right _ _ _ := trivial

end Displacement

/-- The lexemes are the same apart from their places. -/
inductive Lexeme.Displaced (displacement : Displacement) : Lexeme → Lexeme → Prop
  | intro {first second : Lexeme} :
      first.kind = second.kind → first.value = second.value → first.radix = second.radix →
        List.Forall₂ (Displaced displacement) first.args second.args →
        displacement.Spans first.span second.span →
        displacement.Locations first.location second.location → Displaced displacement first second

/-- The faults are the same apart from their places, and these correspond. -/
inductive Fault.Displaced (displacement : Displacement) : Fault → Fault → Prop
  | located {first second : Location} (cause : Cause) :
      displacement.Locations first second →
        Displaced displacement (.located first cause) (.located second cause)
  | nowhere (cause : Cause) : Displaced displacement (.nowhere cause) (.nowhere cause)
  | panicked (panic : Panic) : Displaced displacement (.panicked panic) (.panicked panic)

/-- Two computations that end alike apart from places. -/
abbrev Displacement.Ends {α β : Type} (displacement : Displacement) (results : α → β → Prop) :
    Except Fault α → Except Fault β → Prop :=
  Outcome.Alike (Fault.Displaced displacement) results

variable {displacement : Displacement}

namespace Lexeme

variable {first second : Lexeme}

/-! ## What displaced lexemes share -/

namespace Displaced

theorem kind (displaced : Displaced displacement first second) : first.kind = second.kind := by
  cases displaced
  assumption

theorem value (displaced : Displaced displacement first second) : first.value = second.value := by
  cases displaced
  assumption

theorem radix (displaced : Displaced displacement first second) : first.radix = second.radix := by
  cases displaced
  assumption

theorem args (displaced : Displaced displacement first second) :
    List.Forall₂ (Displaced displacement) first.args second.args := by
  cases displaced
  assumption

theorem span (displaced : Displaced displacement first second) :
    displacement.Spans first.span second.span := by
  cases displaced
  assumption

theorem location (displaced : Displaced displacement first second) :
    displacement.Locations first.location second.location := by
  cases displaced
  assumption

theorem is_eq (displaced : Displaced displacement first second) (kind : Kind) (value : String) :
    first.is kind value = second.is kind value := by
  rw [is, is, displaced.kind, displaced.value]

theorem isLocal_eq (displaced : Displaced displacement first second) :
    first.isLocal = second.isLocal := by
  rw [isLocal, isLocal, displaced.kind, displaced.value]

/-- Displaced lexemes have one text. -/
theorem source_eq (displaced : Displaced displacement first second) :
    first.source = second.source := by
  induction first using Lexeme.induction generalizing second with
  | node first induction =>
      obtain ⟨value, kind, radix, args, span, location⟩ := first
      obtain ⟨value', kind', radix', args', span', location'⟩ := second
      obtain ⟨rfl, rfl, rfl, args_displaced, -, -⟩ := displaced
      cases kind with
      | closure =>
          -- Only a closure of three lexemes shows its operands.
          rcases args_displaced with _ | ⟨left, _ | ⟨operator, _ | ⟨right, _ | _⟩⟩⟩
          case closure.cons.cons.cons.nil =>
            simp only [source]
            rw [induction _ (by simp) left, induction _ (by simp) operator,
              induction _ (by simp) right]
          all_goals simp [source]
      | _ => simp [source]

/-- The places just past displaced lexemes correspond. -/
theorem after (displaced : Displaced displacement first second) :
    displacement.Locations first.after second.after := by
  rw [Lexeme.after, Lexeme.after, displaced.source_eq]
  exact displacement.locations_right _ displaced.location displaced.span

theorem ofOperation {left left' operator operator' right right' : Lexeme}
    {location location' : Location} (left_displaced : Displaced displacement left left')
    (operator_displaced : Displaced displacement operator operator')
    (right_displaced : Displaced displacement right right')
    (moved : displacement.Locations location location') :
    Displaced displacement (.ofOperation left operator right location)
      (.ofOperation left' operator' right' location') :=
  .intro rfl rfl rfl (.cons left_displaced (.cons operator_displaced (.cons right_displaced .nil)))
    displacement.spans_zero moved

end Displaced

/-! ## Rows moved down -/

/-- The lexeme some rows further down, with everything in it. -/
def down (rows : Int) (lexeme : Lexeme) : Lexeme :=
  { lexeme with
    args := lexeme.args.map (down rows)
    location := lexeme.location.down rows }
termination_by sizeOf lexeme
decreasing_by
  rename_i arg mem
  have := List.sizeOf_lt_of_mem mem
  cases lexeme
  simp_all
  omega

theorem displaced_down (rows : Int) (lexeme : Lexeme) :
    Displaced (.down rows) lexeme (lexeme.down rows) := by
  induction lexeme using Lexeme.induction with
  | node lexeme induction =>
      rw [down]
      refine .intro rfl rfl rfl ?_ rfl rfl
      rw [List.forall₂_map_right_iff, List.forall₂_same]
      exact induction

/-- A lexeme is displaced downwards to one lexeme only. -/
theorem Displaced.eq_down {rows : Int} (displaced : Displaced (.down rows) first second) :
    second = first.down rows := by
  induction first using Lexeme.induction generalizing second with
  | node first induction =>
      have args : second.args = first.args.map (down rows) := by
        have each := (List.forall₂_and_left _ _).mpr ⟨induction, displaced.args⟩
        exact Success.eq_map_of_forall₂ (each.imp fun _ _ ⟨unique, moved⟩ => unique moved)
      rw [down, ← args]
      obtain ⟨value, kind, radix, args, span, location⟩ := second
      obtain ⟨rfl, rfl, rfl, -, rfl, rfl⟩ := displaced
      rfl

theorem forall₂_displaced_down (rows : Int) (lexemes : List Lexeme) :
    List.Forall₂ (Displaced (.down rows)) lexemes (lexemes.map (down rows)) := by
  rw [List.forall₂_map_right_iff, List.forall₂_same]
  exact fun lexeme _ => displaced_down rows lexeme

theorem eq_map_down_of_forall₂ {rows : Int} {lexemes others : List Lexeme}
    (displaced : List.Forall₂ (Displaced (.down rows)) lexemes others) :
    others = lexemes.map (down rows) :=
  Success.eq_map_of_forall₂ (displaced.imp fun _ _ moved => moved.eq_down)

/-! ## Places that do not matter -/

theorem displaced_refl (lexeme : Lexeme) : Displaced .anywhere lexeme lexeme := by
  induction lexeme using Lexeme.induction with
  | node lexeme induction =>
      exact .intro rfl rfl rfl (List.forall₂_same.mpr induction) trivial trivial

mutual
/-- Compares lexemes apart from their places. -/
def agrees : Lexeme → Lexeme → Bool
  | ⟨value, kind, radix, args, _, _⟩, ⟨value', kind', radix', args', _, _⟩ =>
      decide (value = value' ∧ kind = kind' ∧ radix = radix') && agreesAll args args'

/-- Compares lexemes one by one apart from their places. -/
def agreesAll : List Lexeme → List Lexeme → Bool
  | [], [] => true
  | first :: rest, other :: others => agrees first other && agreesAll rest others
  | _, _ => false
end

private theorem agreesAll_eq_true_iff {lexemes others : List Lexeme} :
    agreesAll lexemes others = true ↔
      List.Forall₂ (fun first second => agrees first second = true) lexemes others := by
  induction lexemes generalizing others with
  | nil => cases others <;> simp [agreesAll]
  | cons first lexemes induction =>
      cases others with
      | nil => simp [agreesAll]
      | cons other others => simp [agreesAll, induction]

private theorem agrees_eq_true_iff :
    agrees first second = true ↔ Displaced .anywhere first second := by
  induction first using Lexeme.induction generalizing second with
  | node first induction =>
      obtain ⟨value, kind, radix, args, span, location⟩ := first
      obtain ⟨value', kind', radix', args', span', location'⟩ := second
      simp only [agrees, Bool.and_eq_true, decide_eq_true_eq, agreesAll_eq_true_iff]
      constructor
      · rintro ⟨⟨rfl, rfl, rfl⟩, agree⟩
        have each := (List.forall₂_and_left _ _).mpr ⟨induction, agree⟩
        exact .intro rfl rfl rfl (each.imp fun _ _ ⟨iff, agree⟩ => iff.mp agree) trivial trivial
      · intro displaced
        have each := (List.forall₂_and_left _ _).mpr ⟨induction, displaced.args⟩
        exact ⟨⟨displaced.value, displaced.kind, displaced.radix⟩,
          each.imp fun _ _ ⟨iff, moved⟩ => iff.mpr moved⟩

instance (first second : Lexeme) : Decidable (Displaced .anywhere first second) :=
  decidable_of_iff _ agrees_eq_true_iff

/-! ## Values of displaced lexemes -/

theorem displaced_ofWord (value : UInt64) {location other : Location}
    (moved : displacement.Locations location other) :
    Displaced displacement (ofWord value location) (ofWord value other) :=
  .intro rfl rfl rfl .nil displacement.spans_zero moved

namespace Displaced

/-- Changes that keep identifiers displaced keep operands displaced. -/
theorem mapIdentifiers {change change' : Lexeme → Lexeme}
    (displaced : Displaced displacement first second)
    (changes : ∀ {lexeme other : Lexeme}, lexeme.kind = .identifier →
      Displaced displacement lexeme other →
        Displaced displacement (change lexeme) (change' other)) :
    Displaced displacement (first.mapIdentifiers change) (second.mapIdentifiers change') := by
  induction first using Lexeme.induction generalizing second with
  | node first induction =>
      by_cases identifier : first.kind = .identifier
      · rw [mapIdentifiers_of_identifier identifier,
          mapIdentifiers_of_identifier (displaced.kind.symm.trans identifier)]
        exact changes identifier displaced
      · have no_identifier : second.kind ≠ .identifier := displaced.kind ▸ identifier
        by_cases closure : first.kind = .closure
        · rw [mapIdentifiers_of_closure closure,
            mapIdentifiers_of_closure (displaced.kind.symm.trans closure)]
          refine .intro displaced.kind displaced.value displaced.radix ?_ displaced.span
            displaced.location
          rw [List.forall₂_map_left_iff, List.forall₂_map_right_iff]
          have each := (List.forall₂_and_left _ _).mpr ⟨induction, displaced.args⟩
          exact each.imp fun _ _ ⟨kept, moved⟩ => kept moved
        · have no_closure : second.kind ≠ .closure := displaced.kind ▸ closure
          rwa [mapIdentifiers_of_other identifier closure,
            mapIdentifiers_of_other no_identifier no_closure]

theorem word (displaced : Displaced displacement first second) :
    displacement.Ends Eq first.word second.word := by
  unfold Lexeme.word
  rw [displaced.kind, displaced.radix, displaced.value, displaced.source_eq]
  split
  · cases Numeral.parse? second.radix second.value.toList with
    | some value => exact .ok rfl
    | none => exact .error (Fault.Displaced.located _ displaced.location)
  · exact .error (Fault.Displaced.located _ displaced.location)

private theorem compute (displaced : Displaced displacement first second) (left right : UInt64) :
    displacement.Ends Eq (Operation.compute first left right)
      (Operation.compute second left right) := by
  unfold Operation.compute
  rw [displaced.kind, displaced.value]
  split
  · cases Operation.ofText? second.value with
    | none => exact .error (Fault.Displaced.located _ displaced.location)
    | some operation =>
        dsimp only
        cases operation.result? left right with
        | none => exact .error (Fault.Displaced.located _ displaced.location)
        | some value => exact .ok rfl
  · exact .error (Fault.Displaced.located _ displaced.location)

private theorem evaluate (displaced : Displaced displacement first second) :
    displacement.Ends Eq first.evaluate second.evaluate := by
  induction first using Lexeme.induction generalizing second with
  | node first induction =>
      by_cases plain : first.kind ≠ .identifier ∧ first.kind ≠ .closure
      · rw [evaluate_eq_word plain.1 plain.2,
          evaluate_eq_word (displaced.kind ▸ plain.1) (displaced.kind ▸ plain.2)]
        exact displaced.word
      · obtain ⟨value, kind, radix, args, span, location⟩ := first
        obtain ⟨value', kind', radix', args', span', location'⟩ := second
        obtain ⟨rfl, rfl, rfl, args_displaced, -, moved⟩ := displaced
        dsimp only at plain args_displaced moved
        cases kind with
        | identifier => exact .error (.located _ moved)
        | closure =>
            rcases args_displaced with _ | ⟨left, _ | ⟨operator, _ | ⟨right, rest⟩⟩⟩
            · exact .error (.panicked _)
            · refine (induction _ (by simp) left).bind fun _ _ _ => ?_
              exact .error (.panicked _)
            · refine (induction _ (by simp) left).bind fun _ _ _ => ?_
              exact .error (.panicked _)
            · simp only [Lexeme.evaluate]
              refine (induction _ (by simp) left).bind ?_
              rintro leftValue _ rfl
              refine (induction _ (by simp) right).bind ?_
              rintro rightValue _ rfl
              exact operator.compute leftValue rightValue
        | _ => simp at plain

theorem fold (displaced : Displaced displacement first second) :
    displacement.Ends (Displaced displacement) first.fold second.fold := by
  unfold Lexeme.fold
  rw [displaced.kind]
  split
  · refine displaced.evaluate.map ?_
    rintro value _ rfl
    exact displaced_ofWord value displaced.location
  · exact .ok displaced

end Displaced
end Lexeme

namespace Fault

/-- The fault some rows further down. -/
def down (rows : Int) : Fault → Fault
  | .located location cause => .located (location.down rows) cause
  | fault => fault

/-- A fault is displaced downwards to one fault only. -/
theorem Displaced.eq_down {rows : Int} {first second : Fault}
    (displaced : Displaced (.down rows) first second) : second = first.down rows := by
  cases displaced with
  | located cause moved =>
      obtain rfl := moved
      rfl
  | nowhere | panicked => rfl

end Fault
end TableAssembler
