import Mathlib.Data.List.Forall2

/-!
# Computations that succeed

A computation made of steps succeeds exactly when all its steps do.  These equivalences take a
successful computation apart without unfolding it.
-/

namespace TableAssembler
namespace Success

variable {ε α β γ : Type}

theorem bind_eq_ok {first : Except ε α} {next : α → Except ε β} {result : β} :
    first >>= next = .ok result ↔ ∃ value, first = .ok value ∧ next value = .ok result := by
  cases first with
  | error fault => simp [bind, Except.bind]
  | ok value => simp [bind, Except.bind]

theorem pure_eq_ok {value result : α} :
    (pure value : Except ε α) = .ok result ↔ value = result := by
  simp [pure, Except.pure]

theorem map_eq_ok {first : Except ε α} {change : α → β} {result : β} :
    first.map change = .ok result ↔ ∃ value, first = .ok value ∧ change value = result := by
  cases first with
  | error fault => simp [Except.map]
  | ok value => simp [Except.map]

theorem map_map (first : Except ε α) (change : α → β) (again : β → γ) :
    (first.map change).map again = first.map fun value => again (change value) := by
  cases first with
  | error fault => rfl
  | ok value => rfl

theorem map_eq_error {first : Except ε α} {change : α → β} {fault : ε} :
    first.map change = .error fault ↔ first = .error fault := by
  cases first <;> simp [Except.map]

theorem mapError_eq_ok {ε' : Type} {first : Except ε α} {change : ε → ε'} {result : α} :
    first.mapError change = .ok result ↔ first = .ok result := by
  cases first with
  | error fault => simp [Except.mapError]
  | ok value => simp [Except.mapError]

/-- A list of computations gives a list of results, one for each. -/
theorem mapM_eq_ok {step : α → Except ε β} {inputs : List α} {results : List β} :
    inputs.mapM step = .ok results ↔
      List.Forall₂ (fun input result => step input = .ok result) inputs results := by
  induction inputs generalizing results with
  | nil =>
      rw [List.mapM_nil, pure_eq_ok, List.forall₂_nil_left_iff]
      exact eq_comm
  | cons input inputs induction =>
      simp only [List.mapM_cons, bind_eq_ok, pure_eq_ok, induction, List.forall₂_cons_left_iff]
      constructor
      · rintro ⟨result, first, rest, others, rfl⟩
        exact ⟨result, rest, first, others, rfl⟩
      · rintro ⟨result, rest, first, others, rfl⟩
        exact ⟨result, first, rest, others, rfl⟩

/-- Steps whose results are changed one by one give a changed list of results. -/
theorem mapM_eq_map {inputs : List α} {step : α → Except ε β} {other : α → Except ε γ}
    {change : β → γ} (steps : ∀ input ∈ inputs, other input = (step input).map change) :
    inputs.mapM other = (inputs.mapM step).map (List.map change) := by
  induction inputs with
  | nil => rfl
  | cons input inputs induction =>
      obtain ⟨first, others⟩ := List.forall_mem_cons.mp steps
      rw [List.mapM_cons, List.mapM_cons, first, induction others]
      cases step input with
      | error fault => rfl
      | ok value =>
          cases inputs.mapM step with
          | error fault => rfl
          | ok values => rfl

/-- What a state has at first and every step keeps, it has in the end. -/
theorem of_foldlM_eq_ok {motive : β → Prop} {step : β → α → Except ε β} {inputs : List α}
    {start result : β} (initially : motive start)
    (keeps : ∀ before input after, motive before → step before input = .ok after → motive after)
    (folded : inputs.foldlM step start = .ok result) : motive result := by
  induction inputs generalizing start with
  | nil =>
      rw [List.foldlM_nil, pure_eq_ok] at folded
      exact folded ▸ initially
  | cons input inputs induction =>
      rw [List.foldlM_cons, bind_eq_ok] at folded
      obtain ⟨next, first, rest⟩ := folded
      exact induction (keeps start input next initially first) rest

/-- The result at an index comes from the input at that index. -/
theorem getElem?_of_forall₂ {relation : α → β → Prop} {inputs : List α} {results : List β}
    {index : Nat} {input : α} (related : List.Forall₂ relation inputs results)
    (found : inputs[index]? = some input) :
    ∃ result, results[index]? = some result ∧ relation input result := by
  induction related generalizing index with
  | nil => simp at found
  | @cons first result inputs results holds others induction =>
      cases index with
      | zero =>
          obtain rfl : first = input := by simpa using found
          exact ⟨result, rfl, holds⟩
      | succ index => exact induction (by simpa using found)

/-- Every result comes from an input. -/
theorem exists_input_of_forall₂ {relation : α → β → Prop} {inputs : List α} {results : List β}
    {result : β} (related : List.Forall₂ relation inputs results) (member : result ∈ results) :
    ∃ input ∈ inputs, relation input result := by
  induction related with
  | nil => contradiction
  | @cons input first inputs results holds _ induction =>
      rcases List.mem_cons.mp member with rfl | later
      · exact ⟨input, List.mem_cons_self, holds⟩
      · obtain ⟨input, member, holds⟩ := induction later
        exact ⟨input, List.mem_cons_of_mem _ member, holds⟩

/-- Two passes over a list relate its ends. -/
theorem forall₂_comp {first : α → β → Prop} {second : β → γ → Prop} {both : α → γ → Prop}
    {inputs : List α} {middles : List β} {results : List γ}
    (front : List.Forall₂ first inputs middles) (back : List.Forall₂ second middles results)
    (comp : ∀ input middle result, first input middle → second middle result →
      both input result) :
    List.Forall₂ both inputs results := by
  induction front generalizing results with
  | nil =>
      cases back
      exact .nil
  | cons first_holds _ induction =>
      cases back with
      | cons second_holds back => exact .cons (comp _ _ _ first_holds second_holds) (induction back)

/-- Results that are computed from their inputs one by one are a map. -/
theorem eq_map_of_forall₂ {change : α → β} {inputs : List α} {results : List β}
    (computed : List.Forall₂ (fun input result => result = change input) inputs results) :
    results = inputs.map change := by
  rw [← List.forall₂_eq_eq_eq, List.forall₂_map_right_iff]
  exact computed.flip

/-- Two lists whose members agree in what is taken of them agree in all of it. -/
theorem map_eq_map_of_forall₂ {first : α → γ} {second : β → γ} {inputs : List α}
    {results : List β}
    (same : List.Forall₂ (fun input result => first input = second result) inputs results) :
    inputs.map first = results.map second := by
  rwa [← List.forall₂_eq_eq_eq, List.forall₂_map_left_iff, List.forall₂_map_right_iff]

end Success
end TableAssembler
