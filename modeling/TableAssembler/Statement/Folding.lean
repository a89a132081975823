import TableAssembler.Lexeme.Evaluation
import TableAssembler.Statement.Basic

/-!
# Folding

The closures among the operands of a program are replaced by their values.
-/

namespace TableAssembler
namespace Statement

/-- Folds the operands of an instruction. -/
def fold (statement : Statement) : Except Fault Statement :=
  if statement.kind = .instruction then do
    let args ← statement.args.mapM Lexeme.fold
    return { statement with args }
  else .ok statement

/-- Folds the operands of a program. -/
def foldAll (statements : List Statement) : Except Fault (List Statement) :=
  statements.mapM fold

end Statement
end TableAssembler
