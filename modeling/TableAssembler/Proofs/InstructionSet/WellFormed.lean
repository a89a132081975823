import TableAssembler.InstructionSet.Basic
import TableAssembler.Proofs.Success

/-!
# Compiled instruction sets are well formed

A template gives no field without bits, and a set takes no instruction with the name of a
directive.  Every set that comes from a configuration has both properties; what is said about
encodings holds of sets that have them.
-/

namespace TableAssembler

namespace Template

theorem Group.size_field_ne_zero {tables : Tables} {group : Group} {field : Field}
    (accepted : group.field tables = .ok field) : field.size ≠ 0 := by
  simp only [Group.field] at accepted
  split_ifs at accepted with tag_empty width_zero
  all_goals
    rw [Except.ok.injEq] at accepted
    subst accepted
    exact width_zero

theorem size_ne_zero_of_mem_fields {tables : Tables} {text : List Char} {all : List Field}
    (accepted : fields tables text = .ok all) : ∀ field ∈ all, field.size ≠ 0 := by
  fun_induction fields tables text generalizing all with
  | case1 =>
      cases accepted
      simp
  | case2 c rest space induction => exact induction accepted
  | case3 c rest space bit gathers constant =>
      rename_i induction
      simp only [Success.bind_eq_ok, Success.pure_eq_ok] at accepted
      obtain ⟨others, others_ok, rfl⟩ := accepted
      intro field member
      rcases List.mem_cons.mp member with rfl | member
      · exact Int.natCast_ne_zero.mpr (List.length_cons ▸ Nat.succ_ne_zero _)
      · exact induction others_ok field member
  | case4 rest group space bit =>
      rename_i induction
      simp only [Success.bind_eq_ok, Success.pure_eq_ok] at accepted
      obtain ⟨first, first_ok, others, others_ok, rfl⟩ := accepted
      intro field member
      rcases List.mem_cons.mp member with rfl | member
      · exact Group.size_field_ne_zero first_ok
      · exact induction others_ok field member
  | case5 => cases accepted

end Template

namespace Directive

theorem isDirective_of_data? {mnemonic : String} {data : Data}
    (found : data? mnemonic = some data) : isDirective mnemonic = true := by
  have named : data.name = mnemonic := by simpa using List.find?_some found
  have listed : data ∈ allData := List.mem_of_find?_eq_some found
  rw [isDirective, List.contains_iff_mem, all, ← named]
  exact List.mem_cons_of_mem _ (List.mem_map_of_mem listed)

private theorem lower_eq_of_isDirective {mnemonic : String}
    (directive : isDirective mnemonic = true) :
    Text.lower mnemonic = mnemonic := by
  rw [isDirective, List.contains_iff_mem] at directive
  simp only [all, origin, allData, List.map_cons, List.map_nil, List.mem_cons,
    List.not_mem_nil, or_false] at directive
  rcases directive with rfl | rfl | rfl | rfl | rfl <;> decide

end Directive

namespace InstructionSet

/-- What compilation guarantees of an instruction set. -/
structure WellFormed (set : InstructionSet) : Prop where
  /-- Directives are not redefined. -/
  not_directive : ∀ instruction ∈ set.instructions, Directive.isDirective instruction.name = false
  /-- Every field has bits. -/
  size_ne_zero : ∀ instruction ∈ set.instructions, ∀ field ∈ instruction.fields, field.size ≠ 0

theorem WellFormed.add {set extended : InstructionSet} {name template : String}
    (wellFormed : set.WellFormed) (added : set.add name template = .ok extended) :
    extended.WellFormed := by
  simp only [InstructionSet.add] at added
  split_ifs at added with directive duplicate
  simp only [Success.bind_eq_ok, Success.pure_eq_ok, Template.compile,
    Success.mapError_eq_ok] at added
  obtain ⟨fields, compiled, rfl⟩ := added
  constructor
  · intro instruction member
    rcases List.mem_append.mp member with old | new
    · exact wellFormed.not_directive instruction old
    · obtain rfl := List.mem_singleton.mp new
      exact Bool.eq_false_iff.mpr directive
  · intro instruction member
    rcases List.mem_append.mp member with old | new
    · exact wellFormed.size_ne_zero instruction old
    · obtain rfl := List.mem_singleton.mp new
      exact Template.size_ne_zero_of_mem_fields compiled

/-- A set that was compiled from a configuration is well formed. -/
theorem wellFormed_of_compile {config : Config} {set : InstructionSet}
    (compiled : compile config = .ok set) : set.WellFormed :=
  Success.of_foldlM_eq_ok ⟨by simp, by simp⟩ (fun _ _ _ wellFormed added => wellFormed.add added)
    compiled

/-- An instruction that a well-formed set finds has no directive's name. -/
theorem WellFormed.not_isDirective {set : InstructionSet} {mnemonic : String}
    {instruction : Instruction} (wellFormed : set.WellFormed)
    (found : set.instruction? mnemonic = some instruction) :
    Directive.isDirective mnemonic = false := by
  by_contra directive
  have lower := Directive.lower_eq_of_isDirective (Bool.not_eq_false _ ▸ directive)
  rw [instruction?, lower, find?] at found
  have named : instruction.name = mnemonic := by simpa using List.find?_some found
  have listed := wellFormed.not_directive instruction (List.mem_of_find?_eq_some found)
  rw [named] at listed
  exact directive listed

theorem WellFormed.data?_eq_none {set : InstructionSet} {mnemonic : String}
    {instruction : Instruction} (wellFormed : set.WellFormed)
    (found : set.instruction? mnemonic = some instruction) : Directive.data? mnemonic = none := by
  have plain := wellFormed.not_isDirective found
  cases directive : Directive.data? mnemonic with
  | some data => simp [Directive.isDirective_of_data? directive] at plain
  | none => rfl

theorem WellFormed.size_ne_zero_of_instruction? {set : InstructionSet} {mnemonic : String}
    {instruction : Instruction} (wellFormed : set.WellFormed)
    (found : set.instruction? mnemonic = some instruction) :
    ∀ field ∈ instruction.fields, field.size ≠ 0 :=
  wellFormed.size_ne_zero instruction (List.mem_of_find?_eq_some found)

end InstructionSet
end TableAssembler
