/-!
# Parts of sequences

Where a sequence contains another one, and the pieces between such places.
-/

namespace TableAssembler
namespace Part

variable {α : Type} [BEq α]

/-- The first place where a sequence contains a part. -/
def position? (part : List α) : List α → Option Nat
  | [] => if part.isEmpty then some 0 else none
  | head :: tail =>
      if part.isPrefixOf (head :: tail) then some 0 else (position? part tail).map (· + 1)

/-- The last place where a sequence contains a part. -/
def lastPosition? (part whole : List α) : Option Nat :=
  (position? part.reverse whole.reverse).map fun behind => whole.length - behind - part.length

/-- The pieces of a sequence between at most `limit` marks. -/
def split (mark : List α) : Nat → List α → List (List α)
  | 0, whole => [whole]
  | limit + 1, whole =>
      match position? mark whole with
      | some place => whole.take place :: split mark limit (whole.drop (place + mark.length))
      | none => [whole]

/-- The pieces of a sequence between all marks. -/
def splitAll (mark whole : List α) : List (List α) := split mark whole.length whole

/-- Pieces with a mark between them. -/
def join (mark : List α) (pieces : List (List α)) : List α := (pieces.intersperse mark).flatten

end Part
end TableAssembler
