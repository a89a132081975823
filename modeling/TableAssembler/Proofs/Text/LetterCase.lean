import Mathlib.Data.Nat.Bitwise
import TableAssembler.Text.Letter
import TableAssembler.Text.LetterCase

/-!
# Letters in upper case

The upper case partner of a character is its own partner, and that of a letter is a letter.  Both
are facts about the tables: no run holds a partner, and the partners of letters lie in intervals of
letters.  They are checked for all code points of a run at once, as bits of one number.
-/

namespace TableAssembler
namespace Text

namespace CaseRun

/-! ## Runs -/

/-- The code points of a run. -/
def points (run : CaseRun) : List Nat :=
  List.range' run.first ((run.last - run.first) / run.stride + 1) run.stride

/-- The code point that a run gives for one of its own. -/
def partner (run : CaseRun) (point : Nat) : Nat := (point + run.shift).toNat

/-- The partners of the code points of a run. -/
def partners (run : CaseRun) : List Nat := run.points.map run.partner

variable {run : CaseRun} {runs : List CaseRun} {point : Nat} {c : Char}

private theorem mem_points_of_contains (inside : run.contains point = true) :
    point ∈ run.points := by
  simp only [contains, Bool.and_eq_true, decide_eq_true_eq, beq_iff_eq] at inside
  obtain ⟨⟨from_first, to_last⟩, even⟩ := inside
  refine List.mem_range'.mpr ⟨(point - run.first) / run.stride, ?_, ?_⟩
  · exact Nat.lt_succ_of_le (Nat.div_le_div_right (by omega))
  · have whole := Nat.div_add_mod (point - run.first) run.stride
    omega

theorem partner_mem_partners (inside : run.contains point = true) :
    run.partner point ∈ run.partners :=
  List.mem_map_of_mem (mem_points_of_contains inside)

theorem find?_eq_none (missed : ∀ run ∈ runs, run.contains c.toNat = false) :
    runs.find? (·.contains c.toNat) = none :=
  List.find?_eq_none.mpr fun run member => by simp [missed run member]

theorem apply_eq_self (missed : ∀ run ∈ runs, run.contains c.toNat = false) :
    apply runs c = c := by
  simp [apply, find?_eq_none missed]

theorem apply_append_of_front {front : List CaseRun}
    (missed : ∀ run ∈ front, run.contains c.toNat = false) :
    apply (front ++ runs) c = apply runs c := by
  simp [apply, List.find?_append, find?_eq_none missed]

theorem apply_append_of_back {front : List CaseRun}
    (missed : ∀ run ∈ runs, run.contains c.toNat = false) :
    apply (front ++ runs) c = apply front c := by
  simp [apply, List.find?_append, find?_eq_none missed]

/-- A character that changes is in a run, and becomes its partner there. -/
theorem exists_run_of_apply_ne (changed : apply runs c ≠ c) :
    ∃ run ∈ runs, run.contains c.toNat = true ∧
      apply runs c = Char.ofNat (run.partner c.toNat) := by
  unfold apply at changed ⊢
  cases found : runs.find? (·.contains c.toNat) with
  | none => simp [found] at changed
  | some run =>
      have inside := List.find?_some found
      exact ⟨run, List.mem_of_find?_eq_some found, inside, rfl⟩

end CaseRun

/-! ## Sets of code points -/

/-- Code points as the bits of one number. -/
def pointBits (points : List Nat) : Nat := points.foldr (fun point mask => 2 ^ point ||| mask) 0

/-- The code points of intervals as the bits of one number. -/
def intervalBits (intervals : List (Nat × Nat)) : Nat :=
  intervals.foldr
    (fun interval mask => (2 ^ (interval.2 + 1 - interval.1) - 1) <<< interval.1 ||| mask) 0

section Bits

variable {points others : List Nat} {intervals : List (Nat × Nat)} {point : Nat}

private theorem testBit_pointBits (points : List Nat) (point : Nat) :
    (pointBits points).testBit point = decide (point ∈ points) := by
  induction points with
  | nil => simp [pointBits]
  | cons first points induction =>
      rw [pointBits, List.foldr_cons, ← pointBits, Nat.testBit_or, Nat.testBit_two_pow, induction]
      simp [eq_comm]

private theorem testBit_intervalBits (intervals : List (Nat × Nat)) (point : Nat) :
    (intervalBits intervals).testBit point = covers intervals point := by
  induction intervals with
  | nil => simp [intervalBits, covers]
  | cons interval intervals induction =>
      rw [intervalBits, List.foldr_cons, ← intervalBits, Nat.testBit_or, Nat.testBit_shiftLeft,
        Nat.testBit_two_pow_sub_one, induction, covers, covers, List.any_cons]
      congr 1
      rw [← Bool.decide_and, ← Bool.decide_and, decide_eq_decide]
      omega

private theorem notMem_of_disjoint (disjoint : pointBits points &&& pointBits others = 0)
    (member : point ∈ points) : point ∉ others := by
  have shared := congrArg (Nat.testBit · point) disjoint
  simpa [testBit_pointBits, member] using shared

private theorem covers_eq_false_of_disjoint
    (disjoint : pointBits points &&& intervalBits intervals = 0)
    (member : point ∈ points) : covers intervals point = false := by
  have shared := congrArg (Nat.testBit · point) disjoint
  simpa [testBit_pointBits, testBit_intervalBits, member] using shared

private theorem covers_of_within
    (within : pointBits points &&& intervalBits intervals = pointBits points)
    (member : point ∈ points) : covers intervals point = true := by
  have shared := congrArg (Nat.testBit · point) within
  simpa [testBit_pointBits, testBit_intervalBits, member] using shared

end Bits

/-! ## The tables -/

/-- The letters of ASCII that have an upper case partner. -/
def asciiRuns : List CaseRun := [⟨0x61, 0x7a, 1, -32⟩]

/-- The letters of ASCII. -/
def asciiLetterIntervals : List (Nat × Nat) := [(0x41, 0x5a), (0x61, 0x7a)]

theorem upperChar_eq_apply (c : Char) :
    upperChar c = CaseRun.apply (asciiRuns ++ upperRuns) c := by
  have ascii_upper : ∀ point < 128,
      (Char.ofNat point).toUpper = CaseRun.apply asciiRuns (Char.ofNat point) := by
    decide +kernel
  have upper_firsts : ∀ run ∈ upperRuns, 128 ≤ run.first := by decide +kernel
  by_cases ascii : c.toNat < 128
  · have here := ascii_upper c.toNat ascii
    rw [Char.ofNat_toNat] at here
    rw [upperChar, if_pos ascii, here, CaseRun.apply_append_of_back]
    intro run member
    simp [CaseRun.contains, Nat.not_le.mpr (ascii.trans_le (upper_firsts run member))]
  · rw [upperChar, if_neg ascii, CaseRun.apply_append_of_front]
    intro run member
    obtain rfl := List.mem_singleton.mp member
    have behind : ¬ c.toNat ≤ 0x7a := by omega
    simp [CaseRun.contains, behind]

theorem isLetter_eq_covers (c : Char) :
    isLetter c = covers (asciiLetterIntervals ++ letterIntervals) c.toNat := by
  have ascii_letters : ∀ point < 128,
      (Char.ofNat point).isAlpha = covers asciiLetterIntervals point := by
    decide +kernel
  have letter_firsts : ∀ interval ∈ letterIntervals, 128 ≤ interval.1 := by decide +kernel
  rw [covers, List.any_append, ← covers, ← covers, isLetter]
  split_ifs with ascii
  · have here := ascii_letters c.toNat ascii
    rw [Char.ofNat_toNat] at here
    have uncovered : covers letterIntervals c.toNat = false := by
      rw [← Bool.not_eq_true, covers_eq_true_iff]
      rintro ⟨interval, member, from_first, -⟩
      have first_le := letter_firsts interval member
      omega
    rw [here, uncovered, Bool.or_false]
  · have uncovered : covers asciiLetterIntervals c.toNat = false := by
      rw [← Bool.not_eq_true, covers_eq_true_iff]
      simp [asciiLetterIntervals]
      omega
    rw [uncovered, Bool.false_or]

private theorem partners_disjoint : ∀ run ∈ asciiRuns ++ upperRuns,
    pointBits run.partners &&& pointBits ((asciiRuns ++ upperRuns).flatMap CaseRun.points) = 0 := by
  decide +kernel

private theorem isValidChar_partner : ∀ run ∈ asciiRuns ++ upperRuns,
    ∀ point ∈ run.partners, point.isValidChar := by
  decide +kernel

/-- The partners of a run are letters, or the run holds none: Roman numerals and letters in circles
have two cases, but are no letters. -/
private theorem partners_letters_or : ∀ run ∈ asciiRuns ++ upperRuns,
    pointBits run.partners &&& intervalBits (asciiLetterIntervals ++ letterIntervals) =
        pointBits run.partners ∨
      pointBits run.points &&& intervalBits (asciiLetterIntervals ++ letterIntervals) = 0 := by
  decide +kernel

/-! ## Characters -/

/-- A character that changes becomes the partner of its run. -/
theorem exists_partner_of_upperChar_ne {c : Char} (changed : upperChar c ≠ c) :
    ∃ run ∈ asciiRuns ++ upperRuns, run.contains c.toNat = true ∧
      (upperChar c).toNat = run.partner c.toNat := by
  rw [upperChar_eq_apply] at changed ⊢
  obtain ⟨run, member, inside, becomes⟩ := CaseRun.exists_run_of_apply_ne changed
  have valid := isValidChar_partner run member _ (CaseRun.partner_mem_partners inside)
  refine ⟨run, member, inside, ?_⟩
  rw [becomes, Char.ofNat, dif_pos valid]
  rfl

private theorem upperChar_upperChar (c : Char) : upperChar (upperChar c) = upperChar c := by
  by_cases changed : upperChar c = c
  · rw [changed, changed]
  obtain ⟨run, member, inside, point_eq⟩ := exists_partner_of_upperChar_ne changed
  have outside := notMem_of_disjoint (partners_disjoint run member)
    (CaseRun.partner_mem_partners inside)
  rw [upperChar_eq_apply (upperChar c)]
  refine CaseRun.apply_eq_self fun other other_member => ?_
  rw [point_eq, ← Bool.not_eq_true]
  exact fun held => outside
    (List.mem_flatMap_of_mem other_member (CaseRun.mem_points_of_contains held))

theorem upper_upper (text : String) : upper (upper text) = upper text := by
  rw [← String.toList_inj]
  simp [upperChar_upperChar]

theorem isLetter_upperChar {c : Char} (letter : isLetter c = true) :
    isLetter (upperChar c) = true := by
  by_cases changed : upperChar c = c
  · rwa [changed]
  obtain ⟨run, member, inside, point_eq⟩ := exists_partner_of_upperChar_ne changed
  rw [isLetter_eq_covers, point_eq]
  rcases partners_letters_or run member with within | disjoint
  · exact covers_of_within within (CaseRun.partner_mem_partners inside)
  · have uncovered := covers_eq_false_of_disjoint disjoint (CaseRun.mem_points_of_contains inside)
    rw [isLetter_eq_covers, uncovered] at letter
    contradiction

end Text
end TableAssembler
