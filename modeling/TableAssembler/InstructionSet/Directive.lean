import TableAssembler.Dictionary

/-!
# Directives

Directives are part of every instruction set: `org` sets the address of what follows, and the
data directives emit units of a fixed number of bytes.
-/

namespace TableAssembler
namespace Directive

/-- A directive that emits its arguments as units. -/
structure Data where
  /-- Mnemonic of the directive. -/
  name : String
  /-- Bits of a value that are kept. -/
  mask : UInt64
  /-- Bytes of a unit. -/
  width : Nat
  deriving DecidableEq, Repr, Inhabited

/-- The directive that sets the origin. -/
def origin : String := "org"

/-- The data directives.  Bytes share the mask of words. -/
def allData : List Data :=
  [⟨"db", 0xffff, 1⟩, ⟨"dw", 0xffff, 2⟩, ⟨"dd", 0xffffffff, 4⟩, ⟨"dq", 0xffffffffffffffff, 8⟩]

/-- The data directive with a mnemonic in lower case. -/
def data? (mnemonic : String) : Option Data :=
  allData.find? (·.name == mnemonic)

/-- The mnemonics of all directives. -/
def all : List String := origin :: allData.map (·.name)

/-- The mnemonic names a directive. -/
def isDirective (mnemonic : String) : Bool := all.contains mnemonic

end Directive
end TableAssembler
