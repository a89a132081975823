import Mathlib.Data.List.DropRight
import TableAssembler.Location

/-!
# Rows and columns

A position behind a text counts: its row the line feeds of the text, and its column the characters
behind the last of them.
-/

namespace TableAssembler
namespace Location

/-- The characters of a text behind its last line feed. -/
def lastLine (text : List Char) : List Char := text.rtakeWhile (· != '\n')

private theorem lastLine_append_newline (text : List Char) : lastLine (text ++ ['\n']) = [] := by
  simp [lastLine]

theorem lastLine_append_of_ne {c : Char} (other : c ≠ '\n') (text : List Char) :
    lastLine (text ++ [c]) = lastLine text ++ [c] := by
  simp [lastLine, other]

private theorem advance_append_singleton (location : Location) (text : List Char) (c : Char) :
    location.advance (text ++ [c]) = (location.advance text).step c := by
  rw [advance_append, advance_cons, advance_nil]

theorem row_advance (location : Location) (text : List Char) :
    (location.advance text).row = location.row + text.count '\n' := by
  induction text generalizing location with
  | nil => simp
  | cons c text induction =>
      rw [advance_cons, induction]
      by_cases newline : c = '\n'
      · subst newline
        have stepped : (location.step '\n').row = location.row + 1 := rfl
        rw [stepped, List.count_cons_self]
        push_cast
        omega
      · have stepped : (location.step c).row = location.row := by simp [step, newline]
        rw [stepped, List.count_cons_of_ne newline]

theorem col_advance_start (file : String) (text : List Char) :
    ((start file).advance text).col = 1 + (lastLine text).length := by
  induction text using List.reverseRecOn with
  | nil => rfl
  | append_singleton text c induction =>
      rw [advance_append_singleton]
      by_cases newline : c = '\n'
      · subst newline
        rw [lastLine_append_newline]
        rfl
      · have stepped : (((start file).advance text).step c).col =
            ((start file).advance text).col + 1 := by
          simp [step, newline]
        rw [stepped, induction, lastLine_append_of_ne newline, List.length_append]
        push_cast
        rfl

/-- The position of the character at an index of a text, counted from the text alone. -/
def ofIndex (file : String) (text : List Char) (index : Nat) : Location where
  file := file
  row := 1 + (text.take index).count '\n'
  col := 1 + (lastLine (text.take index)).length

theorem advance_start_eq_ofIndex (file : String) (front back : List Char) :
    (start file).advance front = ofIndex file (front ++ back) front.length := by
  have row := row_advance (start file) front
  have col := col_advance_start file front
  have file_eq := file_advance (start file) front
  generalize (start file).advance front = location at row col file_eq
  obtain ⟨_, _, _⟩ := location
  rw [ofIndex, List.take_left, mk.injEq]
  exact ⟨file_eq, row, col⟩

theorem lastLine_append_of_no_newline (front : List Char) {back : List Char}
    (row : '\n' ∉ back) : lastLine (front ++ back) = lastLine front ++ back := by
  induction back using List.reverseRecOn with
  | nil => simp
  | append_singleton back c induction =>
      simp only [List.mem_append, List.mem_singleton, not_or] at row
      rw [← List.append_assoc, lastLine_append_of_ne (Ne.symm row.2), induction row.1,
        List.append_assoc]

private theorem ofIndex_ne_of_lt (file : String) {text : List Char} {index later : Nat}
    (order : index < later) (inside : later ≤ text.length) :
    ofIndex file text index ≠ ofIndex file text later := by
  intro same
  obtain ⟨further, rfl⟩ := Nat.exists_eq_add_of_lt order
  obtain ⟨-, row, col⟩ := mk.inj same
  have split : text.take (index + further + 1) =
      text.take index ++ (text.drop index).take (further + 1) := by
    rw [Nat.add_assoc, List.take_add]
  have length : ((text.drop index).take (further + 1)).length = further + 1 := by
    rw [List.length_take, List.length_drop]
    omega
  rw [split, List.count_append] at row
  have no_newline : '\n' ∉ (text.drop index).take (further + 1) := by
    rw [← List.count_eq_zero]
    omega
  rw [split, lastLine_append_of_no_newline _ no_newline, List.length_append] at col
  omega

/-- A position belongs to one index of a text. -/
theorem ofIndex_inj {file : String} {text : List Char} {index other : Nat}
    (inside : index ≤ text.length) (other_inside : other ≤ text.length) :
    ofIndex file text index = ofIndex file text other ↔ index = other := by
  refine ⟨fun same => ?_, congrArg _⟩
  rcases Nat.lt_trichotomy index other with before | equal | behind
  · exact absurd same (ofIndex_ne_of_lt file before other_inside)
  · exact equal
  · exact absurd same.symm (ofIndex_ne_of_lt file behind inside)

end Location
end TableAssembler
