import TableAssembler.Label.Placement
import TableAssembler.Label.Scope
import TableAssembler.Pseudo.Library
import TableAssembler.Statement.Folding

/-!
# Resolution

From lexemes to a program that can be encoded: calls are expanded, names are qualified, labels are
placed and put in, and closures are folded.
-/

namespace TableAssembler

/-- A program whose operands are identifiers, numbers and strings. -/
structure Resolution where
  /-- The instructions in order. -/
  statements : List Statement
  /-- The addresses of its labels. -/
  labels : Labels
  deriving Repr, Inhabited

/-- What a program is resolved for. -/
structure Target where
  /-- The pseudo-instructions. -/
  library : Library
  /-- How addresses are counted. -/
  layout : Layout
  /-- The sizes of instructions. -/
  sizer? : Option Sizer

namespace Target

/-- The placement of a program whose calls are expanded. -/
def place (target : Target) (statements : List Statement) : Except Fault Placement :=
  Placement.place target.layout target.sizer? (Scope.qualify statements)

/-- Puts the addresses of labels in and folds closures. -/
def finish (placement : Placement) : Except Fault Resolution := do
  let statements ← Statement.foldAll (placement.labels.substitute placement.code)
  return { statements, labels := placement.labels }

/-- Resolves a program given as lexemes. -/
def resolve (target : Target) (lexemes : List Lexeme) : Except Fault Resolution := do
  let grouped ← Statement.group lexemes
  let expanded ← target.library.expand grouped
  let placement ← target.place expanded
  finish placement

/-! ## Entries -/

/-- The entries about the statements behind a stage. -/
def trace (stage : String) (statements : List Statement) : List Log.Entry :=
  statements.map fun statement =>
    { level := .debug
      message := statement.location.render ++ ": " ++ statement.render
      fields := [("stage", stage)] }

/-- The entries about the addresses of labels, by name. -/
def traceLabels (labels : Labels) : List Log.Entry :=
  (Dictionary.sorted labels).map fun (name, address) =>
    { level := .debug
      message := "0x" ++ Numeral.hex 1 address.toNat
      fields := [("label", name)] }

/-- Entries that only a verbose assembly leaves. -/
def ifVerbose (verbose : Bool) (entries : List Log.Entry) : List Log.Entry :=
  if verbose then entries else []

/-- What a stage leaves when it succeeds, and nothing when it fails. -/
def whenOk {α : Type} (result : Except Fault α) (entries : α → List Log.Entry) : List Log.Entry :=
  match result with
  | .ok value => entries value
  | .error _ => []

/-- The entries that resolving a program leaves. -/
def entries (target : Target) (verbose : Bool) (lexemes : List Lexeme) : List Log.Entry :=
  whenOk (Statement.group lexemes) fun grouped =>
    ifVerbose verbose (trace "group" grouped) ++ target.library.warnings grouped ++
      whenOk (target.library.expand grouped) fun expanded =>
        ifVerbose verbose (trace "expand" expanded) ++
          whenOk (target.place expanded) fun placement =>
            ifVerbose verbose (traceLabels placement.labels) ++
              whenOk (finish placement) fun resolution =>
                ifVerbose verbose (trace "fold" resolution.statements)

end Target
end TableAssembler
