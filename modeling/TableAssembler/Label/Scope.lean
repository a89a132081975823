import TableAssembler.Statement.Basic

/-!
# Scopes of labels

A label that starts with a dot belongs to the last label before it that does not.  Qualifying a
program writes the full name in the place of every such name, in labels and in operands.
-/

namespace TableAssembler
namespace Scope

/-- The full name of a local identifier. -/
def qualifyLexeme (scope : String) (lexeme : Lexeme) : Lexeme :=
  if lexeme.isLocal then { lexeme with value := scope ++ lexeme.value } else lexeme

/-- The full names in an operand. -/
def qualifyOperand (scope : String) (lexeme : Lexeme) : Lexeme :=
  lexeme.mapIdentifiers (qualifyLexeme scope)

/-- The scope behind a statement. -/
def after (scope : String) (statement : Statement) : String :=
  if statement.kind = .label ∧ ¬ statement.name.isLocal then statement.name.value else scope

/-- The full names in a statement. -/
def qualifyStatement (scope : String) (statement : Statement) : Statement :=
  if statement.kind = .label then { statement with name := qualifyLexeme scope statement.name }
  else statement.mapArgs (qualifyOperand scope)

/-- The full names in statements that start in a scope. -/
def qualifyFrom : String → List Statement → List Statement
  | _, [] => []
  | scope, statement :: rest =>
      qualifyStatement scope statement :: qualifyFrom (after scope statement) rest

/-- The full names in a program. -/
def qualify (statements : List Statement) : List Statement :=
  qualifyFrom "" statements

end Scope
end TableAssembler
