/-!
# Sets of code points

A character property is stored as an ascending list of closed intervals of code points.  Tables
cover the code points from 128 upwards; the ASCII part of each property is written out beside its
predicate, where a proof can evaluate it.
-/

namespace TableAssembler
namespace Text

/-- Membership of a code point in one of the closed intervals. -/
def covers (intervals : List (Nat × Nat)) (point : Nat) : Bool :=
  intervals.any fun interval => decide (interval.1 ≤ point) && decide (point ≤ interval.2)

theorem covers_eq_true_iff (intervals : List (Nat × Nat)) (point : Nat) :
    covers intervals point = true ↔
      ∃ interval ∈ intervals, interval.1 ≤ point ∧ point ≤ interval.2 := by
  simp [covers]

end Text
end TableAssembler
