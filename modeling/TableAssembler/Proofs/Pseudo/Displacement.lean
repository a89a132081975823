import TableAssembler.Proofs.Dictionary
import TableAssembler.Proofs.Statement.Displacement
import TableAssembler.Pseudo.Library

/-!
# Expansion does not look at places

A statement of a body is put where its call stands, but its operands stay at their own places in
the body.  So the displaced calls of two programs are expanded alike when places do not matter,
and under no displacement that moves all of them.
-/

namespace TableAssembler

variable {displacement : Displacement}

namespace Pseudo

/-! ## Parameters -/

/-- Entries with one name, and values that are the same apart from places. -/
def EntriesDisplaced (displacement : Displacement) (first second : String × Lexeme) : Prop :=
  first.1 = second.1 ∧ first.2.Displaced displacement second.2

theorem displaced_find? {entries others : Dictionary Lexeme}
    (displaced : List.Forall₂ (EntriesDisplaced displacement) entries others) (name : String) :
    Option.Rel (Lexeme.Displaced displacement) (Dictionary.find? entries name)
      (Dictionary.find? others name) := by
  induction displaced with
  | nil => exact .none
  | @cons first second _ _ entry _ induction =>
      obtain ⟨key, value⟩ := first
      obtain ⟨_, value'⟩ := second
      obtain ⟨rfl, moved⟩ := entry
      rw [Dictionary.find?_cons, Dictionary.find?_cons]
      split_ifs
      · exact .some moved
      · exact induction

theorem displaced_binding (pseudo : Pseudo) {args others : List Lexeme}
    (displaced : List.Forall₂ (Lexeme.Displaced displacement) args others) :
    List.Forall₂ (EntriesDisplaced displacement) (pseudo.binding args)
      (pseudo.binding others) := by
  unfold binding
  refine List.rel_reverse ?_
  generalize pseudo.formals = formals
  induction formals generalizing args others with
  | nil => exact .nil
  | cons formal formals induction =>
      cases displaced with
      | nil => exact .nil
      | cons first rest => exact .cons ⟨rfl, first⟩ (induction rest)

private theorem displaced_bindIdentifier {binding binding' : Dictionary Lexeme}
    (bound : List.Forall₂ (EntriesDisplaced displacement) binding binding')
    {lexeme other : Lexeme} (displaced : lexeme.Displaced displacement other) :
    (bindIdentifier binding lexeme).Displaced displacement (bindIdentifier binding' other) := by
  unfold bindIdentifier
  rw [displaced.value]
  have found := displaced_find? bound other.value
  generalize Dictionary.find? binding other.value = actual? at found
  generalize Dictionary.find? binding' other.value = actual?' at found
  cases found with
  | none => exact displaced
  | some actual => exact actual

/-! ## Calls -/

/-- One statement of a body at two places, for calls at any two places. -/
theorem displaced_bindStatement {binding binding' : Dictionary Lexeme}
    (bound : List.Forall₂ (EntriesDisplaced .anywhere) binding binding')
    (location location' : Location) {statement other : Statement}
    (displaced : statement.Displaced .anywhere other) :
    (bindStatement binding location statement).Displaced .anywhere
      (bindStatement binding' location' other) := by
  have found := displaced_find? bound other.name.value
  refine ⟨displaced.kind, .intro displaced.name.kind ?_ displaced.name.radix displaced.name.args
    trivial trivial, ?_⟩
  · dsimp only [bindStatement]
    rw [displaced.name.value]
    generalize Dictionary.find? binding other.name.value = actual? at found
    generalize Dictionary.find? binding' other.name.value = actual?' at found
    cases found with
    | none => rfl
    | some actual => exact actual.value
  · dsimp only [bindStatement]
    rw [List.forall₂_map_left_iff, List.forall₂_map_right_iff]
    exact displaced.args.imp fun _ _ arg =>
      arg.mapIdentifiers fun _ => displaced_bindIdentifier bound

/-- The pseudo-instructions are the same apart from the places in their bodies. -/
structure Displaced (first second : Pseudo) : Prop where
  name : first.name = second.name
  formals : first.formals = second.formals
  body : List.Forall₂ (Statement.Displaced .anywhere) first.body second.body

theorem displaced_refl (pseudo : Pseudo) : pseudo.Displaced pseudo :=
  ⟨rfl, rfl, List.forall₂_same.mpr fun statement _ => statement.displaced_refl⟩

theorem Displaced.bind {first second : Pseudo} (same : first.Displaced second)
    {call other : Statement} (displaced : call.Displaced .anywhere other) :
    Displacement.anywhere.Ends (List.Forall₂ (Statement.Displaced .anywhere)) (first.bind call)
      (second.bind other) := by
  have bound := second.displaced_binding displaced.args
  unfold Pseudo.bind
  rw [displaced.args.length_eq, same.formals, same.name]
  split_ifs
  · exact .error (Fault.Displaced.located _ displaced.location)
  · refine .ok ?_
    rw [List.forall₂_map_left_iff, List.forall₂_map_right_iff]
    refine same.body.imp fun _ _ statement => ?_
    rw [binding, same.formals]
    exact displaced_bindStatement bound _ _ statement

end Pseudo

/-! ## Programs -/

namespace Library

/-- Libraries whose pseudo-instructions are the same apart from the places in their bodies. -/
def Displaced (first second : Library) : Prop :=
  ∀ mnemonic, Option.Rel Pseudo.Displaced (first.find? mnemonic) (second.find? mnemonic)

theorem displaced_refl (library : Library) : library.Displaced library := by
  intro mnemonic
  cases library.find? mnemonic with
  | none => exact .none
  | some pseudo => exact .some pseudo.displaced_refl

variable {first second : Library}

/-- Displaced statements are replaced by displaced ones, whatever room there is for calls. -/
theorem Displaced.inline (same : first.Displaced second) (depth : Nat)
    {statement other : Statement} (displaced : statement.Displaced .anywhere other) :
    Displacement.anywhere.Ends (List.Forall₂ (Statement.Displaced .anywhere))
      (first.inline depth statement) (second.inline depth other) := by
  induction depth using Nat.strongRecOn generalizing statement other with
  | ind depth induction =>
      unfold Library.inline
      rw [displaced.kind, displaced.mnemonic_eq]
      split_ifs
      · exact .error (Fault.Displaced.located _ displaced.location)
      · have found := same other.mnemonic
        generalize first.find? other.mnemonic = pseudo? at found
        generalize second.find? other.mnemonic = other? at found
        cases found with
        | none => exact .ok (.cons displaced .nil)
        | some pseudos =>
            cases depth with
            | zero => exact .error (Fault.Displaced.located _ displaced.location)
            | succ room =>
                have inner {call call' : Statement} :=
                  @induction room (Nat.lt_succ_self room) call call'
                refine (pseudos.bind displaced).bind fun body body' bodies => ?_
                refine (Outcome.Alike.mapM bodies fun _ _ => inner).bind ?_
                exact fun _ _ parts => .ok (List.rel_flatten parts)

theorem Displaced.expandStatement (same : first.Displaced second) {statement other : Statement}
    (displaced : statement.Displaced .anywhere other) :
    Displacement.anywhere.Ends (List.Forall₂ (Statement.Displaced .anywhere))
      (first.expandStatement statement) (second.expandStatement other) := by
  unfold Library.expandStatement
  rw [displaced.kind]
  split_ifs
  · exact .ok (.cons displaced .nil)
  · exact same.inline depthLimit displaced

/-- Displaced programs are expanded into displaced programs. -/
theorem Displaced.expand (same : first.Displaced second) {program other : List Statement}
    (displaced : List.Forall₂ (Statement.Displaced .anywhere) program other) :
    Displacement.anywhere.Ends (List.Forall₂ (Statement.Displaced .anywhere))
      (first.expand program) (second.expand other) := by
  refine (Outcome.Alike.mapM displaced fun _ _ => same.expandStatement).bind ?_
  exact fun _ _ parts => .ok (List.rel_flatten parts)

end Library
end TableAssembler
