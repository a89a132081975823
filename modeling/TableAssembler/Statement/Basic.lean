import TableAssembler.Lexeme.Basic
import TableAssembler.Text.LetterCase

/-!
# Statements

A program is a list of statements: labels, and instructions with their operands.
-/

namespace TableAssembler

/-- The class of a statement. -/
inductive Statement.Kind
  | label
  | instruction
  /-- A class that no program text produces. -/
  | unassigned (code : Int)
  deriving DecidableEq, Repr, Inhabited

namespace Statement.Kind

/-- The class with a number, in the order of declaration from zero. -/
def ofCode (code : Int) : Kind :=
  if code = 0 then .label else if code = 1 then .instruction else .unassigned code

/-- The name of a class. -/
def name : Kind → String
  | .label => "label"
  | .instruction => "instruction"
  | .unassigned code => "TokenKind(" ++ Numeral.signed code ++ ")"

end Statement.Kind

/-- A label, or an instruction with its operands. -/
structure Statement where
  /-- Class of the statement. -/
  kind : Statement.Kind := .instruction
  /-- The label, or the name of the instruction. -/
  name : Lexeme
  /-- Operands of an instruction. -/
  args : List Lexeme := []
  deriving Repr, Inhabited

namespace Statement

/-- The definition of a label. -/
def label (name : Lexeme) : Statement := { kind := .label, name }

/-- An instruction with its operands. -/
def instruction (name : Lexeme) (args : List Lexeme) : Statement := { name, args }

/-- Where the statement starts. -/
def location (statement : Statement) : Location := statement.name.location

/-- The name that an instruction is looked up by: letter case does not matter. -/
def mnemonic (statement : Statement) : String := Text.lower statement.name.value

/-- The text of a statement. -/
def render (statement : Statement) : String :=
  if statement.kind = .label then statement.name.value ++ ":"
  else if statement.args.isEmpty then statement.name.value
  else statement.name.value ++ " " ++ ", ".intercalate (statement.args.map Lexeme.source)

/-- Changes the operands of an instruction; every other statement stays as it is. -/
def mapArgs (change : Lexeme → Lexeme) (statement : Statement) : Statement :=
  if statement.kind = .instruction then { statement with args := statement.args.map change }
  else statement

@[simp]
theorem kind_mapArgs (change : Lexeme → Lexeme) (statement : Statement) :
    (statement.mapArgs change).kind = statement.kind := by
  unfold mapArgs
  split <;> rfl

@[simp]
theorem name_mapArgs (change : Lexeme → Lexeme) (statement : Statement) :
    (statement.mapArgs change).name = statement.name := by
  unfold mapArgs
  split <;> rfl

end Statement
end TableAssembler
