import TableAssembler.Format.Yaml.Node

/-!
# Expansion of aliases

An alias is read as the node that it stands for, each time that it is met, but never inside of
itself.  Since a short document could hold very many nodes in this way, the share of the nodes that
are read through aliases is bounded: a long reading bounds it more than a short one.
-/

namespace TableAssembler
namespace Yaml

/-- How many nodes are read. -/
structure Tally where
  /-- The number of nodes; an alias and the node that it stands for are two. -/
  nodes : Nat := 0
  /-- The number of nodes among them that are read through aliases. -/
  aliased : Nat := 0
  deriving DecidableEq, Repr, Inhabited

namespace Tally

/-- So many nodes do no harm, even if all of them are read through aliases. -/
def harmless : Nat := 1000

/-- So many nodes that are read through aliases do no harm. -/
def harmlessAliased : Nat := 100

/-- Up to this number of nodes the greatest share holds. -/
def few : Nat := 400000

/-- From this number of nodes on the least share holds. -/
def many : Nat := 4000000

/-- The share of nodes that may be read through aliases, as a numerator over `shareUnit`: 99 percent
of a few nodes, 10 percent of many, and evenly less in between. -/
def share (nodes : Nat) : Nat := 99 * (many - few) - 89 * (min nodes many - few)

/-- The whole of which `share` gives a part. -/
def shareUnit : Nat := 100 * (many - few)

/-- Too many of the nodes are read through aliases. -/
def isExcessive (tally : Tally) : Bool :=
  decide (harmlessAliased < tally.aliased) && decide (harmless < tally.nodes) &&
    decide (tally.nodes * share tally.nodes < tally.aliased * shareUnit)

/-- The tally with one more node. -/
def add (tally : Tally) (aliased : Bool) : Tally :=
  { nodes := tally.nodes + 1, aliased := if aliased then tally.aliased + 1 else tally.aliased }

end Tally

/-- A reading of nodes, which counts them and may fail. -/
abbrev Counted := StateT Tally Option

/-- Where a node is read. -/
structure Place where
  /-- The nodes that aliases stand for. -/
  anchors : Array Node := #[]
  /-- The aliases through which the node is read. -/
  inside : List Nat := []
  deriving Repr, Inhabited

namespace Counted

/-- The nodes make no sense. -/
def fail {α : Type} : Counted α := StateT.lift none

/-- Counts one more node. -/
def tick (place : Place) : Counted Unit := do
  let tally := (← get).add !place.inside.isEmpty
  if tally.isExcessive then fail
  set tally

/-- A node, or the one that it stands for, with the place where its parts are read. -/
def visit (place : Place) (node : Node) : Counted (Place × Node) := do
  tick place
  match node with
  | .reference _ site target =>
      if place.inside.contains site then fail
      let place := { place with inside := site :: place.inside }
      tick place
      match place.anchors[target]? with
      | some node => return (place, node)
      | none => fail
  | node => return (place, node)

end Counted
end Yaml
end TableAssembler
