import TableAssembler.Format.Starlark.Literal

/-!
# Starlark programs

Expressions and statements.  A comprehension has clauses: a loop over an iterable with the targets
of its elements, or a condition.
-/

namespace TableAssembler
namespace Starlark

/-- How an argument of a call is given. -/
inductive ArgumentKind
  | positional
  | named (name : String)
  /-- The elements of an iterable, in their places. -/
  | spread
  /-- The entries of a dictionary, under their names. -/
  | spreadNamed
  deriving DecidableEq, Repr, Inhabited

/-- How a parameter of a function takes its value. -/
inductive ParameterKind
  /-- An argument must be there. -/
  | required
  /-- There is a value without an argument. -/
  | optional
  /-- The parameters after this mark are given by name only. -/
  | divider
  /-- All arguments that are left. -/
  | others
  /-- All arguments under names that are left. -/
  | otherNames
  deriving DecidableEq, Repr, Inhabited

mutual

/-- An expression. -/
inductive Expr
  | literal (value : Literal)
  | name (text : String)
  | list (items : List Expr)
  | tuple (items : List Expr)
  | dict (entries : List (Expr × Expr))
  /-- A list from a comprehension; its number tells it from all others of the program. -/
  | listOf (number : Nat) (item : Expr) (clauses : List (Option Expr × Expr))
  /-- A dictionary from a comprehension, with a number too. -/
  | dictOf (number : Nat) (key value : Expr) (clauses : List (Option Expr × Expr))
  | unary (operator : String) (operand : Expr)
  | binary (operator : String) (left right : Expr)
  /-- The second operand counts when the first one is true. -/
  | both (left right : Expr)
  /-- The second operand counts when the first one is false. -/
  | either (left right : Expr)
  | choice (condition yes no : Expr)
  | call (function : Expr) (arguments : List (ArgumentKind × Expr))
  | index (container key : Expr)
  | slice (container : Expr) (low high step : Option Expr)
  | attribute (object : Expr) (name : String)
  /-- A function; its number tells it from all others of the program. -/
  | function (number : Nat) (name : String)
      (parameters : List (ParameterKind × String × Option Expr)) (body : List Stmt)

/-- A statement. -/
inductive Stmt
  | evaluate (value : Expr)
  | assign (target value : Expr)
  /-- An operation on a target and a value, whose result the target takes. -/
  | augment (target : Expr) (operator : String) (value : Expr)
  | define (name : String) (function : Expr)
  | branch (condition : Expr) (yes no : List Stmt)
  | loop (target iterable : Expr) (body : List Stmt)
  | result (value : Option Expr)
  /-- Leaves a loop. -/
  | leave
  /-- Goes on with the next element of a loop. -/
  | next
  | pass

end

instance : Inhabited Expr := ⟨.tuple []⟩
instance : Inhabited Stmt := ⟨.pass⟩

end Starlark
end TableAssembler
