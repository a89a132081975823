import TableAssembler.Fault
import TableAssembler.InstructionSet.Directive
import TableAssembler.Statement.Basic

/-!
# Layouts

A layout tells how far a statement moves the addresses behind it.  In units every instruction
counts one and a word of data is the unit; in bytes a statement counts what it emits.
-/

namespace TableAssembler

/-- How addresses are counted. -/
inductive Layout
  | units
  | bytes
  /-- A number without a layout; it counts bytes. -/
  | unassigned (code : Int)
  deriving DecidableEq, Repr, Inhabited

/-- The number of bytes of an instruction, by its mnemonic. -/
abbrev Sizer := String → Except Cause Nat

namespace Layout

/-- The layout with a number, in the order of declaration from zero. -/
def ofCode (code : Int) : Layout :=
  if code = 0 then .units else if code = 1 then .bytes else .unassigned code

/-- The name of a layout. -/
def name : Layout → String
  | .units => "units"
  | .bytes => "bytes"
  | .unassigned code => "Layout(" ++ Numeral.signed code ++ ")"

/-- The layout with a name; letter case does not matter. -/
def parse (text : String) : Except Cause Layout :=
  if Text.lower text = name .units then .ok .units
  else if Text.lower text = name .bytes then .ok .bytes
  else .error (.unknownLayout text)

/-- The size of a unit of data. -/
def dataUnit (layout : Layout) (data : Directive.Data) : UInt64 :=
  let width := UInt64.ofNat data.width
  if layout = .units then width / 2 else width

/-- The size of one argument of a data directive.  In units every character of a string counts
twice. -/
def argumentSize (layout : Layout) (data : Directive.Data) (arg : Lexeme) : Except Fault UInt64 :=
  let unit := layout.dataUnit data
  match arg.kind with
  | .identifier | .number | .closure => .ok unit
  | .text =>
      let characters := UInt64.ofNat arg.value.length
      .ok (if layout = .units then characters * unit * 2 else characters * unit)
  | kind => .error (.located arg.location (.dataArgument kind))

/-- The size of an instruction; without a sizer every instruction counts one. -/
def instructionSize (layout : Layout) (sizer? : Option Sizer) (statement : Statement) :
    Except Fault UInt64 :=
  match layout, sizer? with
  | .units, _ | _, none => .ok 1
  | _, some sizer =>
      match sizer statement.mnemonic with
      | .ok size => .ok (UInt64.ofNat size)
      | .error cause => .error (.located statement.location cause)

/-- The size of a data directive: the sum over its arguments. -/
def dataSize (layout : Layout) (data : Directive.Data) (args : List Lexeme) :
    Except Fault UInt64 := do
  let sizes ← args.mapM (layout.argumentSize data)
  return sizes.foldr (· + ·) 0

/-- The size of a statement.  In units the byte directive counts like an instruction. -/
def statementSize (layout : Layout) (sizer? : Option Sizer) (statement : Statement) :
    Except Fault UInt64 :=
  match Directive.data? statement.mnemonic with
  | none => layout.instructionSize sizer? statement
  | some data =>
      if layout = .units ∧ data.width = 1 then layout.instructionSize sizer? statement
      else layout.dataSize data statement.args

end Layout
end TableAssembler
