import Mathlib.Data.List.Forall2

/-!
# How computations end

Two computations end alike when both succeed with results that are related, or both fail with
faults that are.  One computation is confined to some faults when it fails with no others, and
lands among some results and faults when it ends with one of them.  A computation that looks at
items in order reports the first fault of an item.  Steps keep all of these, so they are shown of a
whole computation by showing them of its steps.
-/

namespace TableAssembler
namespace Outcome

variable {ε ε' α α' β β' : Type}

/-! ## Two computations -/

/-- Both computations succeed with related results, or both fail with related faults. -/
inductive Alike (faults : ε → ε' → Prop) (results : α → α' → Prop) :
    Except ε α → Except ε' α' → Prop
  | ok {first : α} {second : α'} :
      results first second → Alike faults results (.ok first) (.ok second)
  | error {first : ε} {second : ε'} :
      faults first second → Alike faults results (.error first) (.error second)

variable {faults : ε → ε' → Prop} {results : α → α' → Prop}

theorem Alike.bind {further : β → β' → Prop} {first : Except ε α} {second : Except ε' α'}
    {next : α → Except ε β} {next' : α' → Except ε' β'} (alike : Alike faults results first second)
    (step : ∀ value other, results value other →
      Alike faults further (next value) (next' other)) :
    Alike faults further (first >>= next) (second >>= next') := by
  cases alike with
  | ok related => exact step _ _ related
  | error related => exact .error related

theorem Alike.map {further : β → β' → Prop} {first : Except ε α} {second : Except ε' α'}
    {change : α → β} {change' : α' → β'} (alike : Alike faults results first second)
    (step : ∀ value other, results value other → further (change value) (change' other)) :
    Alike faults further (first.map change) (second.map change') := by
  cases alike with
  | ok related => exact .ok (step _ _ related)
  | error related => exact .error related

/-- A computation ends like itself. -/
theorem Alike.refl {results : α → α → Prop} (same : ∀ value, results value value)
    (computation : Except ε α) : Alike Eq results computation computation := by
  cases computation with
  | ok value => exact .ok (same value)
  | error fault => exact .error rfl

/-- Related inputs, taken one by one, give related results. -/
theorem Alike.mapM {inputs : List β} {others : List β'} {related : β → β' → Prop}
    {step : β → Except ε α} {step' : β' → Except ε' α'}
    (agree : List.Forall₂ related inputs others)
    (steps : ∀ input other, related input other →
      Alike faults results (step input) (step' other)) :
    Alike faults (List.Forall₂ results) (inputs.mapM step) (others.mapM step') := by
  induction agree with
  | nil => exact .ok .nil
  | cons first _ induction =>
      rw [List.mapM_cons, List.mapM_cons]
      refine (steps _ _ first).bind fun value other value_related => ?_
      exact induction.bind fun values rest rest_related => .ok (.cons value_related rest_related)

/-! ## One computation -/

/-- The computation fails with no other faults than some. -/
def Confined (faults : ε → Prop) (result : Except ε α) : Prop :=
  ∀ fault, result = .error fault → faults fault

namespace Confined

variable {faults : ε → Prop}

theorem ok (value : α) : Confined faults (.ok value) := by
  intro fault failed
  contradiction

theorem error {fault : ε} (admitted : faults fault) :
    Confined faults (.error fault : Except ε α) := by
  intro other failed
  exact Except.error.inj failed ▸ admitted

theorem bind {first : Except ε α} {next : α → Except ε β} (confined : Confined faults first)
    (step : ∀ value, first = .ok value → Confined faults (next value)) :
    Confined faults (first >>= next) := by
  cases result : first with
  | ok value => exact step value result
  | error fault => exact error (confined fault result)

theorem map {first : Except ε α} (confined : Confined faults first) (change : α → β) :
    Confined faults (first.map change) := by
  cases result : first with
  | ok value => exact ok (change value)
  | error fault => exact error (confined fault result)

theorem mapError {others : ε' → Prop} {first : Except ε α} {change : ε → ε'}
    (confined : Confined faults first) (step : ∀ fault, faults fault → others (change fault)) :
    Confined others (first.mapError change) := by
  cases result : first with
  | ok value => exact ok value
  | error fault => exact error (step fault (confined fault result))

theorem mapM {inputs : List β} {step : β → Except ε α}
    (steps : ∀ input ∈ inputs, Confined faults (step input)) :
    Confined faults (inputs.mapM step) := by
  induction inputs with
  | nil => exact ok []
  | cons input inputs induction =>
      obtain ⟨first, others⟩ := List.forall_mem_cons.mp steps
      rw [List.mapM_cons]
      refine first.bind fun value _ => ?_
      exact (induction others).bind fun values _ => ok (value :: values)

end Confined

/-- The computation succeeds with one of some results, or fails with one of some faults. -/
inductive Lands (faults : ε → Prop) (results : α → Prop) : Except ε α → Prop
  | ok {value : α} : results value → Lands faults results (.ok value)
  | error {fault : ε} : faults fault → Lands faults results (.error fault)

namespace Lands

variable {faults : ε → Prop} {results : α → Prop} {further : β → Prop}

theorem bind {first : Except ε α} {next : α → Except ε β} (lands : Lands faults results first)
    (step : ∀ value, results value → Lands faults further (next value)) :
    Lands faults further (first >>= next) := by
  cases lands with
  | ok holds => exact step _ holds
  | error admitted => exact .error admitted

theorem map {first : Except ε α} {change : α → β} (lands : Lands faults results first)
    (step : ∀ value, results value → further (change value)) :
    Lands faults further (first.map change) := by
  cases lands with
  | ok holds => exact .ok (step _ holds)
  | error admitted => exact .error admitted

theorem imp {others : ε → Prop} {weaker : α → Prop} {computation : Except ε α}
    (lands : Lands faults results computation) (admits : ∀ fault, faults fault → others fault)
    (gives : ∀ value, results value → weaker value) : Lands others weaker computation := by
  cases lands with
  | ok holds => exact .ok (gives _ holds)
  | error admitted => exact .error (admits _ admitted)

theorem mapM {inputs : List β} {step : β → Except ε α}
    (steps : ∀ input ∈ inputs, Lands faults results (step input)) :
    Lands faults (fun values => ∀ value ∈ values, results value) (inputs.mapM step) := by
  induction inputs with
  | nil => exact .ok (by simp)
  | cons input inputs induction =>
      obtain ⟨first, others⟩ := List.forall_mem_cons.mp steps
      rw [List.mapM_cons]
      refine first.bind fun value holds => ?_
      exact (induction others).bind fun values all => .ok (List.forall_mem_cons.mpr ⟨holds, all⟩)

/-- What is known of the results of a computation that lands among some faults. -/
theorem of_ok {known : α → Prop} {computation : Except ε α}
    (lands : Lands faults results computation)
    (step : ∀ value, computation = .ok value → results value → known value) :
    Lands faults known computation := by
  cases lands with
  | ok holds => exact .ok (step _ rfl holds)
  | error admitted => exact .error admitted

end Lands

/-! ## The first fault -/

/-- The fault is that of the first item that has one. -/
def IsFirst (faulty : β → ε → Prop) (items : List β) (fault : ε) : Prop :=
  ∃ front item back, items = front ++ item :: back ∧
    (∀ earlier ∈ front, ∀ other, ¬ faulty earlier other) ∧ faulty item fault

namespace IsFirst

variable {faulty : β → ε → Prop} {front back : List β} {fault : ε}

theorem append (first : IsFirst faulty front fault) (back : List β) :
    IsFirst faulty (front ++ back) fault := by
  obtain ⟨before, item, behind, rfl, sound, here⟩ := first
  exact ⟨before, item, behind ++ back, by simp, sound, here⟩

/-- Items without a fault in front of others change nothing. -/
theorem behind (sound : ∀ item ∈ front, ∀ other, ¬ faulty item other)
    (first : IsFirst faulty back fault) : IsFirst faulty (front ++ back) fault := by
  obtain ⟨before, item, behind, rfl, before_sound, here⟩ := first
  exact ⟨front ++ before, item, behind, by simp,
    List.forall_mem_append.mpr ⟨sound, before_sound⟩, here⟩

theorem exists_faulty {items : List β} (first : IsFirst faulty items fault) :
    ∃ item ∈ items, faulty item fault := by
  obtain ⟨before, item, behind, rfl, -, here⟩ := first
  exact ⟨item, by simp, here⟩

/-- There is one first fault where every item has at most one. -/
theorem unique (single : ∀ item fault other, faulty item fault → faulty item other → fault = other)
    {items : List β} {other : ε} (first : IsFirst faulty items fault)
    (again : IsFirst faulty items other) : fault = other := by
  obtain ⟨before, item, behind, rfl, sound, here⟩ := first
  obtain ⟨before', item', behind', split, sound', here'⟩ := again
  rcases List.append_eq_append_iff.mp split with ⟨between, rfl, rest⟩ | ⟨between, rfl, rest⟩
  · cases between with
    | nil =>
        obtain ⟨rfl, -⟩ := List.cons.inj rest
        exact single item fault other here here'
    | cons head between =>
        obtain ⟨rfl, -⟩ := List.cons.inj rest
        exact absurd here (sound' item (by simp) fault)
  · cases between with
    | nil =>
        obtain ⟨rfl, -⟩ := List.cons.inj rest
        exact single item' fault other here here'
    | cons head between =>
        obtain ⟨rfl, -⟩ := List.cons.inj rest
        exact absurd here' (sound item' (by simp) other)

end IsFirst

/-- The computation looks at some items in order.  It fails with the fault of the first item that
has one, and when none has, it gives one of some results. -/
inductive Reports (faulty : β → ε → Prop) (items : List β) (results : α → Prop) :
    Except ε α → Prop
  | ok {value : α} : (∀ item ∈ items, ∀ fault, ¬ faulty item fault) → results value →
      Reports faulty items results (.ok value)
  | error {fault : ε} : IsFirst faulty items fault → Reports faulty items results (.error fault)

namespace Reports

variable {γ : Type} {faulty : γ → ε → Prop} {items : List γ} {results : α → Prop}
  {computation : Except ε α}

/-- A computation that looks at one item. -/
theorem single_error {item : γ} {fault : ε} (here : faulty item fault) :
    Reports faulty [item] results (.error fault) :=
  .error ⟨[], item, [], rfl, by simp, here⟩

theorem single_ok {item : γ} {value : α} (sound : ∀ fault, ¬ faulty item fault)
    (holds : results value) : Reports faulty [item] results (.ok value) :=
  .ok (List.forall_mem_singleton.mpr sound) holds

/-- An item without a fault can be looked at first. -/
theorem cons {item : γ} (sound : ∀ fault, ¬ faulty item fault)
    (reports : Reports faulty items results computation) :
    Reports faulty (item :: items) results computation := by
  cases reports with
  | ok others holds => exact .ok (List.forall_mem_cons.mpr ⟨sound, others⟩) holds
  | error is_first =>
      have first : IsFirst faulty ([item] ++ items) _ :=
        is_first.behind (List.forall_mem_singleton.mpr sound)
      exact .error first

/-- What a second step looks at comes behind what the first one has looked at. -/
theorem bind {front back : List γ} {further : β → Prop} {first : Except ε α}
    {next : α → Except ε β} (reports : Reports faulty front results first)
    (step : ∀ value, results value → Reports faulty back further (next value)) :
    Reports faulty (front ++ back) further (first >>= next) := by
  cases reports with
  | error is_first => exact .error (is_first.append back)
  | @ok value sound holds =>
      have later := step value holds
      change Reports faulty (front ++ back) further (next value)
      generalize next value = second at later ⊢
      cases later with
      | ok back_sound result => exact .ok (List.forall_mem_append.mpr ⟨sound, back_sound⟩) result
      | error is_first => exact .error (is_first.behind sound)

theorem map {further : β → Prop} {change : α → β}
    (reports : Reports faulty items results computation)
    (step : ∀ value, results value → further (change value)) :
    Reports faulty items further (computation.map change) := by
  cases reports with
  | ok sound holds => exact .ok sound (step _ holds)
  | error is_first => exact .error is_first

/-- Steps that look at one item each look at all items in order. -/
theorem mapM {results : γ → α → Prop} {step : γ → Except ε α}
    (steps : ∀ item ∈ items, Reports faulty [item] (results item) (step item)) :
    Reports faulty items (List.Forall₂ results items) (items.mapM step) := by
  induction items with
  | nil => exact .ok (by simp) .nil
  | cons item items induction =>
      obtain ⟨first, others⟩ := List.forall_mem_cons.mp steps
      rw [List.mapM_cons]
      refine first.bind fun value holds => ?_
      exact (induction others).map fun values all => .cons holds all

/-- Steps from one state to the next look at all items in order; what is known of a state depends
on the items before it. -/
theorem foldlM {step : β → γ → Except ε β} {start : β} (known : List γ → β → Prop)
    (initially : known [] start)
    (steps : ∀ front item back state, items = front ++ item :: back → known front state →
      Reports faulty [item] (known (front ++ [item])) (step state item)) :
    Reports faulty items (known items) (items.foldlM step start) := by
  suffices onwards : ∀ back front state, items = front ++ back → known front state →
      Reports faulty back (known items) (back.foldlM step state) from
    onwards items [] start rfl initially
  intro back
  induction back with
  | nil =>
      intro front state split holds
      rw [List.append_nil] at split
      exact .ok (by simp) (split ▸ holds)
  | cons item back induction =>
      intro front state split holds
      rw [List.foldlM_cons]
      refine (steps front item back state split holds).bind fun next next_holds => ?_
      exact induction (front ++ [item]) next (by simp [split]) next_holds

/-- The computation succeeds exactly when no item has a fault. -/
theorem exists_ok_iff (reports : Reports faulty items results computation) :
    (∃ value, computation = .ok value) ↔ ∀ item ∈ items, ∀ fault, ¬ faulty item fault := by
  cases reports with
  | ok sound => exact iff_of_true ⟨_, rfl⟩ sound
  | error is_first =>
      obtain ⟨item, member, here⟩ := is_first.exists_faulty
      exact iff_of_false (by simp) fun sound => sound item member _ here

theorem results_of_ok (reports : Reports faulty items results computation) {value : α}
    (succeeds : computation = .ok value) : results value := by
  subst succeeds
  cases reports with
  | ok _ holds => exact holds

/-- The computation fails exactly with the first fault. -/
theorem eq_error_iff (reports : Reports faulty items results computation)
    (single : ∀ item fault other, faulty item fault → faulty item other → fault = other)
    (fault : ε) : computation = .error fault ↔ IsFirst faulty items fault := by
  cases reports with
  | ok sound =>
      refine iff_of_false (by simp) fun is_first => ?_
      obtain ⟨item, member, here⟩ := is_first.exists_faulty
      exact sound item member fault here
  | @error found is_first =>
      rw [Except.error.injEq]
      constructor
      · rintro rfl
        exact is_first
      · exact is_first.unique single

end Reports
end Outcome
end TableAssembler
