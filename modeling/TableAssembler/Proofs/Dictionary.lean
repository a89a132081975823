import Mathlib.Data.List.Nodup
import Mathlib.Data.String.Basic
import TableAssembler.Dictionary

/-!
# Looking up names

The first entry with a name counts, so an entry behind others counts when none of them has its
name.  Entries with different names are found, and sorted, in the same way in whatever order they
are listed.
-/

namespace TableAssembler
namespace Dictionary

variable {α : Type}

@[simp]
theorem names_append (front back : Dictionary α) :
    names (front ++ back) = names front ++ names back :=
  List.map_append

theorem find?_eq_none_iff {entries : Dictionary α} {name : String} :
    find? entries name = none ↔ name ∉ names entries := by
  rw [find?, List.lookup_eq_none_iff]
  simp only [names, List.mem_map, not_exists, not_and, bne_iff_ne, ne_eq]
  exact ⟨fun unused entry member same => unused entry member same.symm,
    fun unused entry member same => unused entry member same.symm⟩

theorem mem_of_find? {entries : Dictionary α} {name : String} {value : α}
    (found : find? entries name = some value) : (name, value) ∈ entries := by
  obtain ⟨front, back, rfl, -⟩ := List.lookup_eq_some_iff.mp found
  exact List.mem_append_right _ List.mem_cons_self

theorem find?_append (front back : Dictionary α) (name : String) :
    find? (front ++ back) name = (find? front name).or (find? back name) :=
  List.lookup_append

theorem find?_cons (first : String) (value : α) (entries : Dictionary α) (name : String) :
    find? ((first, value) :: entries) name =
      if name = first then some value else find? entries name := by
  by_cases same : name = first
  · rw [if_pos same, same]
    exact List.lookup_cons_self
  · simp [find?, List.lookup_cons, same, beq_false_of_ne same]

/-- Entries that get another value under their name change nothing under other names. -/
theorem find?_map_replace (entries : Dictionary α) (name other : String) (value : α) :
    find? (entries.map fun entry => if entry.1 == name then (name, value) else entry) other =
      if other = name then (find? entries name).map fun _ => value else find? entries other := by
  induction entries with
  | nil => split <;> rfl
  | cons entry entries induction =>
      obtain ⟨first, old⟩ := entry
      rw [List.map_cons, apply_ite (fun head => find? (head :: _) other), find?_cons, find?_cons,
        find?_cons, find?_cons, induction]
      grind

/-- Entries whose names are changed without mixing them up with one are found as before. -/
theorem find?_map_name {entries : Dictionary α} {change : String → String} {name : String}
    (apart : ∀ other ∈ names entries, change name = change other → name = other) :
    find? (entries.map fun entry => (change entry.1, entry.2)) (change name) =
      find? entries name := by
  induction entries with
  | nil => rfl
  | cons entry entries induction =>
      obtain ⟨first, others⟩ := List.forall_mem_cons.mp apart
      rw [List.map_cons, find?_cons, find?_cons, induction others]
      by_cases same : name = entry.1
      · rw [if_pos (congrArg change same), if_pos same]
      · rw [if_neg (mt first same), if_neg same]

/-- Values that are changed under their names are found changed. -/
theorem find?_map_value {β : Type} (change : α → β) (entries : Dictionary α) (name : String) :
    find? (entries.map fun entry => (entry.1, change entry.2)) name =
      (find? entries name).map change := by
  induction entries with
  | nil => rfl
  | cons entry entries induction =>
      rw [List.map_cons, find?_cons, find?_cons, induction]
      split_ifs
      · rfl
      · rfl

@[simp]
theorem find?_singleton_self (name : String) (value : α) :
    find? [(name, value)] name = some value :=
  List.lookup_cons_self

/-! ## Different names -/

variable {entries others front back : Dictionary α} {entry other : String × α}

theorem eq_of_mem_of_name_eq (distinct : (names entries).Nodup) (member : entry ∈ entries)
    (other_member : other ∈ entries) (same : entry.1 = other.1) : entry = other :=
  List.inj_on_of_nodup_map distinct member other_member same

theorem find?_eq_some_iff (distinct : (names entries).Nodup) {name : String} {value : α} :
    find? entries name = some value ↔ (name, value) ∈ entries := by
  refine ⟨mem_of_find?, fun member => ?_⟩
  cases found : find? entries name with
  | none => exact absurd (List.mem_map_of_mem member) (find?_eq_none_iff.mp found)
  | some other =>
      have same := eq_of_mem_of_name_eq distinct (mem_of_find? found) member rfl
      rw [(Prod.mk.inj same).2]

theorem nodup_names_sorted (distinct : (names entries).Nodup) : (names (sorted entries)).Nodup :=
  ((perm_sorted entries).map Prod.fst).nodup_iff.mpr distinct

private theorem pairwise_insert
    (ascending : entries.Pairwise fun entry later => entry.1 ≤ later.1) :
    (insert entry entries).Pairwise fun entry later => entry.1 ≤ later.1 := by
  induction entries with
  | nil => exact List.pairwise_singleton _ _
  | cons head tail induction =>
      obtain ⟨head_le, tail_ascending⟩ := List.pairwise_cons.mp ascending
      unfold insert
      split
      · next entry_le =>
          refine List.pairwise_cons.mpr ⟨?_, ascending⟩
          exact List.forall_mem_cons.mpr
            ⟨entry_le, fun later member => String.le_trans entry_le (head_le later member)⟩
      · next less =>
          refine List.pairwise_cons.mpr ⟨fun later member => ?_, induction tail_ascending⟩
          rcases List.mem_cons.mp ((perm_insert entry tail).mem_iff.mp member) with rfl | listed
          · exact (String.le_total _ _).resolve_left less
          · exact head_le later listed

theorem pairwise_sorted (entries : Dictionary α) :
    (sorted entries).Pairwise fun entry later => entry.1 ≤ later.1 := by
  induction entries with
  | nil => exact .nil
  | cons entry entries induction => exact pairwise_insert induction

/-- Sorting forgets the order in which entries with different names are listed. -/
theorem sorted_eq_of_perm (distinct : (names entries).Nodup) (reordered : entries.Perm others) :
    sorted entries = sorted others := by
  have perm := (perm_sorted entries).trans (reordered.trans (perm_sorted others).symm)
  refine perm.eq_of_pairwise (fun entry other member other_member le ge => ?_)
    (pairwise_sorted entries) (pairwise_sorted others)
  have listed := (perm_sorted entries).mem_iff.mp member
  have other_listed := reordered.mem_iff.mpr ((perm_sorted others).mem_iff.mp other_member)
  exact eq_of_mem_of_name_eq distinct listed other_listed (String.le_antisymm le ge)

/-- The names ascend where no two of them are equal. -/
theorem pairwise_lt_sorted (distinct : (names entries).Nodup) :
    (sorted entries).Pairwise fun entry later => entry.1 < later.1 := by
  have different := List.pairwise_map.mp (nodup_names_sorted distinct)
  exact ((pairwise_sorted entries).and different).imp fun both => lt_of_le_of_ne both.1 both.2

/-- In front of an entry stand those with smaller names. -/
theorem mem_front_iff (ascending : entries.Pairwise fun entry later => entry.1 < later.1)
    (split : entries = front ++ entry :: back) :
    other ∈ front ↔ other ∈ entries ∧ other.1 < entry.1 := by
  subst split
  obtain ⟨-, behind, before⟩ := List.pairwise_append.mp ascending
  constructor
  · exact fun member =>
      ⟨List.mem_append_left _ member, before other member entry List.mem_cons_self⟩
  · rintro ⟨member, less⟩
    rcases List.mem_append.mp member with listed | listed
    · exact listed
    · rcases List.mem_cons.mp listed with rfl | listed
      · exact absurd less (lt_irrefl _)
      · exact absurd less (lt_asymm ((List.pairwise_cons.mp behind).1 other listed))

end Dictionary
end TableAssembler
