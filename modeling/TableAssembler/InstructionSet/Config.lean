import TableAssembler.InstructionSet.Table

/-!
# Configuration of an instruction set

The uncompiled description: tables, templates of instructions, and pseudo-instructions.
-/

namespace TableAssembler

/-- The uncompiled description of an instruction set. -/
structure Config where
  /-- Symbol tables under their tags. -/
  tables : Tables := []
  /-- Templates under the names of instructions. -/
  instructions : Dictionary String := []
  /-- Bodies under the headers of pseudo-instructions. -/
  pseudo : Dictionary String := []
  deriving DecidableEq, Repr, Inhabited

end TableAssembler
