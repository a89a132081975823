import Mathlib.Data.Nat.Digits.Defs
import Mathlib.Tactic.IntervalCases
import Mathlib.Tactic.Ring
import TableAssembler.Text.Numeral

/-!
# Values of numerals

A numeral is read from the left, so the value of a text is put together from the values of its
parts.  Written digits read back as the number they were written for.
-/

namespace TableAssembler
namespace Numeral

/-- A number below the greatest signed 64-bit number is left as it is. -/
theorem wrap_eq_self {value : Int} (nonnegative : 0 ≤ value) (small : value < 2 ^ 63) :
    wrap value = value :=
  Int.bmod_eq_of_le (by simp [UInt64.size]; omega) (by simp [UInt64.size]; omega)

/-- A number is left as it is exactly when a signed 64-bit number can be as great. -/
theorem wrap_natCast_eq_iff (number : Nat) : wrap number = number ↔ number < 2 ^ 63 := by
  constructor
  · intro same
    have bounded : wrap number < (UInt64.size + 1) / 2 := Int.bmod_lt (by decide)
    simp only [UInt64.size] at bounded
    omega
  · intro small
    exact wrap_eq_self (by omega) (by omega)

/-- A number stays positive exactly when its low 64 bits leave the sign out. -/
theorem one_le_wrap_natCast_iff {number : Nat} (nonzero : wrap number ≠ 0) :
    1 ≤ wrap number ↔ number % 2 ^ 64 < 2 ^ 63 := by
  have cases := Int.bmod_def number UInt64.size
  simp only [wrap, UInt64.size] at nonzero cases ⊢
  split_ifs at cases with low
  · omega
  · omega

theorem wrap_wrap_add_wrap (first second : Int) :
    wrap (wrap first + wrap second) = wrap (first + second) := by
  unfold wrap
  rw [Int.bmod_add_bmod, Int.add_bmod_bmod]

theorem wrap_wrap (value : Int) : wrap (wrap value) = wrap value := Int.bmod_bmod

/-! ## Parts of a numeral -/

private theorem valueFrom?_append (radix sofar : Nat) (front back : List Char) :
    valueFrom? radix sofar (front ++ back) =
      (valueFrom? radix sofar front).bind fun value => valueFrom? radix value back := by
  induction front generalizing sofar with
  | nil => rfl
  | cons c front induction =>
      simp only [List.cons_append, valueFrom?]
      cases digitValue? c with
      | none => rfl
      | some digit =>
          by_cases small : digit < radix
          · simp [small, induction]
          · simp [small]

/-- What has been read counts as often as the digits behind it say. -/
theorem valueFrom?_eq (radix sofar : Nat) (digits : List Char) :
    valueFrom? radix sofar digits =
      (value? radix digits).map fun value => sofar * radix ^ digits.length + value := by
  induction digits generalizing sofar with
  | nil => simp
  | cons c digits induction =>
      simp only [value?, valueFrom?]
      cases digitValue? c with
      | none => rfl
      | some digit =>
          by_cases small : digit < radix
          · simp only [small, if_true]
            rw [induction, induction (0 * radix + digit), Option.map_map]
            congr 1
            funext value
            simp only [Function.comp_apply, List.length_cons]
            ring
          · simp [small]

theorem value?_append_eq_some {radix value : Nat} {front back : List Char} :
    value? radix (front ++ back) = some value ↔
      ∃ high low, value? radix front = some high ∧ value? radix back = some low ∧
        value = high * radix ^ back.length + low := by
  rw [value?, valueFrom?_append, ← value?]
  cases value? radix front with
  | none => simp
  | some high =>
      rw [Option.bind_some, valueFrom?_eq]
      cases value? radix back with
      | none => simp
      | some low => simp [eq_comm]

/-- The first digit of a numeral counts as often as the digits behind it say. -/
theorem value?_cons_eq_some {radix value : Nat} {c : Char} {digits : List Char} :
    value? radix (c :: digits) = some value ↔
      ∃ high low, digitValue? c = some high ∧ high < radix ∧ value? radix digits = some low ∧
        value = high * radix ^ digits.length + low := by
  rw [value?, valueFrom?]
  cases digitValue? c with
  | none => simp
  | some digit =>
      by_cases small : digit < radix
      · simp [small, valueFrom?_eq radix digit, eq_comm]
      · simp [small]

/-- A numeral with `n` digits is below the `n`-th power of the radix. -/
theorem value?_lt {radix value : Nat} {digits : List Char}
    (reads : value? radix digits = some value) : value < radix ^ digits.length := by
  induction digits generalizing value with
  | nil =>
      obtain rfl : 0 = value := by simpa using reads
      simp
  | cons c digits induction =>
      obtain ⟨high, low, -, high_lt, rest, rfl⟩ := value?_cons_eq_some.mp reads
      have low_lt := induction rest
      calc
        high * radix ^ digits.length + low < (high + 1) * radix ^ digits.length := by
          rw [Nat.add_mul, Nat.one_mul]
          exact Nat.add_lt_add_left low_lt _
        _ ≤ radix * radix ^ digits.length := Nat.mul_le_mul_right _ high_lt
        _ = radix ^ (c :: digits).length := by rw [List.length_cons, Nat.pow_succ, Nat.mul_comm]

/-- Digits of a radix write a number. -/
theorem exists_value?_eq_some {radix : Nat} {digits : List Char}
    (all : ∀ c ∈ digits, isDigit radix c = true) :
    ∃ number, value? radix digits = some number := by
  unfold value?
  generalize 0 = sofar
  induction digits generalizing sofar with
  | nil => exact ⟨sofar, rfl⟩
  | cons c digits induction =>
      obtain ⟨first, others⟩ := List.forall_mem_cons.mp all
      unfold isDigit at first
      cases digit : digitValue? c with
      | none => simp [digit] at first
      | some value =>
          have small : value < radix := by simpa [digit] using first
          obtain ⟨number, reads⟩ := induction others (sofar * radix + value)
          exact ⟨number, by simp [valueFrom?, digit, small, reads]⟩

/-- Only digits of the radix write a number. -/
theorem isDigit_of_value? {radix number : Nat} {digits : List Char}
    (reads : value? radix digits = some number) : ∀ c ∈ digits, isDigit radix c = true := by
  induction digits generalizing number with
  | nil => simp
  | cons c digits induction =>
      obtain ⟨high, low, value, small, rest, -⟩ := value?_cons_eq_some.mp reads
      exact List.forall_mem_cons.mpr ⟨by simp [isDigit, value, small], induction rest⟩

theorem value?_replicate_zero_append {radix : Nat} (positive : 0 < radix) (count : Nat)
    (digits : List Char) :
    value? radix (List.replicate count '0' ++ digits) = value? radix digits := by
  induction count with
  | zero => rfl
  | succ count induction =>
      rw [← induction]
      simp [value?, valueFrom?, List.replicate_succ, digitValue?, positive]

/-! ## Digits as characters -/

/-- Digits are decimal digits, and in greater radices letters of the alphabet too. -/
theorem isDigit_or_isAlpha {radix : Nat} {c : Char} (digit : isDigit radix c = true) :
    c.toNat < 128 ∧ (c.isDigit = true ∨ c.isAlpha = true ∧ 10 < radix) := by
  unfold isDigit digitValue? at digit
  split_ifs at digit with decimal small great
  · have last : c.toNat ≤ 57 := decimal.2
    have figure : c.isDigit = true :=
      Bool.and_eq_true_iff.mpr ⟨decide_eq_true decimal.1, decide_eq_true decimal.2⟩
    exact ⟨by omega, .inl figure⟩
  · have first : 97 ≤ c.toNat := small.1
    have last : c.toNat ≤ 122 := small.2
    have letter : c.isLower = true :=
      Bool.and_eq_true_iff.mpr ⟨decide_eq_true small.1, decide_eq_true small.2⟩
    have value : c.toNat - 87 < radix := of_decide_eq_true digit
    exact ⟨by omega, .inr ⟨Bool.or_eq_true_iff.mpr (.inr letter), by omega⟩⟩
  · have first : 65 ≤ c.toNat := great.1
    have last : c.toNat ≤ 90 := great.2
    have letter : c.isUpper = true := decide_eq_true great
    have value : c.toNat - 55 < radix := of_decide_eq_true digit
    exact ⟨by omega, .inr ⟨Bool.or_eq_true_iff.mpr (.inl letter), by omega⟩⟩

private theorem toLower_of_digitValue? {c : Char} {digit : Nat} (value : digitValue? c = some digit)
    (small : digit < 16) : c.toLower = digit.digitChar := by
  have is_digit : isDigit 16 c = true := by simpa [isDigit, value] using small
  have table : ∀ code < 128, ∀ digit < 16, digitValue? (Char.ofNat code) = some digit →
      (Char.ofNat code).toLower = digit.digitChar := by
    decide +kernel
  have entry := table c.toNat (isDigit_or_isAlpha is_digit).1 digit small
  rw [Char.ofNat_toNat] at entry
  exact entry value

/-- The characters are those of the digits, the most significant one first. -/
def Spells (characters : List Char) (digits : List Nat) : Prop :=
  characters.map Char.toLower = digits.map Nat.digitChar

/-- The number that is read from a numeral is the one that its digits have by their places. -/
theorem exists_spells_of_value? {radix number : Nat} (le_sixteen : radix ≤ 16)
    {characters : List Char} (reads : value? radix characters = some number) :
    ∃ digits, Spells characters digits ∧ (∀ digit ∈ digits, digit < radix) ∧
      Nat.ofDigits radix digits.reverse = number := by
  induction characters generalizing number with
  | nil =>
      obtain rfl : 0 = number := by simpa using reads
      exact ⟨[], rfl, by simp, rfl⟩
  | cons c characters induction =>
      obtain ⟨high, low, value, high_small, rest, rfl⟩ := value?_cons_eq_some.mp reads
      obtain ⟨digits, spells, small, rfl⟩ := induction rest
      refine ⟨high :: digits, ?_, List.forall_mem_cons.mpr ⟨high_small, small⟩, ?_⟩
      · rw [Spells, List.map_cons, List.map_cons,
          toLower_of_digitValue? value (high_small.trans_le le_sixteen), spells]
      · have length : characters.length = digits.length := by
          simpa using congrArg List.length spells
        rw [List.reverse_cons, Nat.ofDigits_append, Nat.ofDigits_singleton, List.length_reverse,
          length]
        ring

/-! ## Written digits -/

private theorem digitValue?_digitChar {digit : Nat} (small : digit < 16) :
    digitValue? digit.digitChar = some digit := by
  interval_cases digit <;> decide

/-- The digits that are written for a number read back as the number. -/
theorem value?_toDigits {radix : Nat} (two_le : 2 ≤ radix) (le_sixteen : radix ≤ 16)
    (value : Nat) : value? radix (Nat.toDigits radix value) = some value := by
  induction value using Nat.base_induction radix two_le with
  | single digit small =>
      rw [Nat.toDigits_of_lt_base small]
      simp [value?, valueFrom?, digitValue?_digitChar (small.trans_le le_sixteen), small]
  | digit high low small positive induction =>
      rw [← Nat.toDigits_append_toDigits two_le positive small, value?_append_eq_some]
      refine ⟨high, low, induction, ?_, ?_⟩
      · rw [Nat.toDigits_of_lt_base small]
        simp [value?, valueFrom?, digitValue?_digitChar (small.trans_le le_sixteen), small]
      · simp [Nat.toDigits_of_lt_base small, Nat.mul_comm]

/-- A word reads back from its decimal digits. -/
theorem parse?_decimal (word : UInt64) : parse? 10 (decimal word.toNat).toList = some word := by
  have fits : word.toNat < UInt64.size := word.toNat_lt
  simp [parse?, decimal, value?_toDigits, word?, fits]

/-- A number of bits holds a value exactly when the value is below their power of two. -/
theorem bitLength_le_iff {value width : Nat} :
    bitLength value ≤ width ↔ value < 2 ^ width := by
  unfold bitLength
  split_ifs with zero
  · simp [zero]
  · exact Nat.log2_lt zero

end Numeral
end TableAssembler
