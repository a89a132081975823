import Mathlib.Data.List.TakeWhile

/-!
# Characters up to a stop

Readers take the characters of a class up to the first one outside it.  What they take, and what
they leave, is known from any way to cut the text in front of such a character.
-/

namespace TableAssembler
namespace Text

variable {keep : Char → Bool} {front back : List Char}

/-- The characters up to the first one that is not kept. -/
theorem takeWhile_append_eq (kept : ∀ c ∈ front, keep c = true)
    (stops : ∀ c ∈ back.head?, keep c = false) : (front ++ back).takeWhile keep = front := by
  rw [List.takeWhile_append_of_pos kept]
  cases back with
  | nil => exact List.append_nil front
  | cons c back =>
      rw [List.takeWhile_cons_of_neg (by simp [stops c rfl]), List.append_nil]

/-- The characters from the first one on that is not kept. -/
theorem dropWhile_append_eq (kept : ∀ c ∈ front, keep c = true)
    (stops : ∀ c ∈ back.head?, keep c = false) : (front ++ back).dropWhile keep = back := by
  have whole := List.takeWhile_append_dropWhile (p := keep) (l := front ++ back)
  rw [takeWhile_append_eq kept stops] at whole
  exact List.append_cancel_left whole

/-- What is left starts with no character that is kept. -/
theorem eq_false_of_mem_head?_dropWhile {text : List Char} {c : Char}
    (ahead : c ∈ (text.dropWhile keep).head?) : keep c = false := by
  have stops := List.head?_dropWhile_not keep text
  rwa [Option.mem_def.mp ahead] at stops

/-- What is taken from the front of a text is kept, and the character behind it is not. -/
theorem keeps_of_takeWhile_eq (taken : (front ++ back).takeWhile keep = front) :
    (∀ c ∈ front, keep c = true) ∧ ∀ c ∈ back.head?, keep c = false := by
  constructor
  · rw [← taken]
    exact fun c member => List.mem_takeWhile_imp member
  · have whole := List.takeWhile_append_dropWhile (p := keep) (l := front ++ back)
    rw [taken] at whole
    rw [← List.append_cancel_left whole]
    exact fun c ahead => eq_false_of_mem_head?_dropWhile ahead

/-- A character at the front of a text is one of the front part, or the one behind it. -/
theorem mem_or_eq_of_mem_head?_append_cons {c stop : Char}
    (ahead : c ∈ (front ++ stop :: back).head?) : c ∈ front ∨ c = stop := by
  cases front with
  | nil => exact .inr (Option.some.inj ahead).symm
  | cons first front => exact .inl (Option.some.inj ahead ▸ List.mem_cons_self)

end Text
end TableAssembler
