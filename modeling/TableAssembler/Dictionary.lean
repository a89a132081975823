/-!
# Dictionaries

Entries with a name.  Whoever lists a dictionary has no order in mind, so everything that depends
on an order uses the ascending one, by code points.
-/

namespace TableAssembler

/-- Values with their names. -/
abbrev Dictionary (α : Type) := List (String × α)

namespace Dictionary

variable {α : Type}

/-- Puts an entry before the first one whose name is not smaller. -/
def insert (entry : String × α) : Dictionary α → Dictionary α
  | [] => [entry]
  | head :: tail => if entry.1 ≤ head.1 then entry :: head :: tail else head :: insert entry tail

/-- The entries in ascending order of their names. -/
def sorted (entries : Dictionary α) : Dictionary α :=
  entries.foldr insert []

/-- The names of the entries. -/
def names (entries : Dictionary α) : List String := entries.map Prod.fst

/-- The first value with a name. -/
def find? (entries : Dictionary α) (name : String) : Option α := entries.lookup name

theorem perm_insert (entry : String × α) (entries : Dictionary α) :
    (insert entry entries).Perm (entry :: entries) := by
  induction entries with
  | nil => exact .refl _
  | cons head tail ih =>
      unfold insert
      split
      · exact .refl _
      · exact (ih.cons head).trans (.swap entry head tail)

theorem perm_sorted (entries : Dictionary α) : (sorted entries).Perm entries := by
  induction entries with
  | nil => exact .refl _
  | cons head tail ih => exact (perm_insert head _).trans (ih.cons head)

end Dictionary
end TableAssembler
