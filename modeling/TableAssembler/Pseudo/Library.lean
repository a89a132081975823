import TableAssembler.Log
import TableAssembler.Pseudo.Basic

/-!
# Libraries of pseudo-instructions

A library expands calls until none is left.  Bodies may call other pseudo-instructions, or their
own, and which one can depend on the arguments; the nesting of calls is therefore bounded.
-/

namespace TableAssembler

/-- The pseudo-instructions that a program can call. -/
structure Library where
  /-- Pseudo-instructions with different names. -/
  pseudos : List Pseudo
  deriving Repr, Inhabited

namespace Library

/-- The pseudo-instruction with a mnemonic. -/
def find? (library : Library) (mnemonic : String) : Option Pseudo :=
  library.pseudos.find? (·.name == mnemonic)

/-- Adds the pseudo-instructions of sorted entries, a header and a body each, to a library. -/
def addAll (library : Library) : Dictionary String → Except Fault Library
  | [] => .ok library
  | (header, body) :: rest => do
      let pseudo ← Pseudo.compile header body
      if (library.find? pseudo.name).isSome then
        .error (.nowhere (.duplicatePseudo pseudo.name))
      else
        addAll ⟨library.pseudos ++ [pseudo]⟩ rest

/-- Compiles a library from headers and their bodies. -/
def compile (sources : Dictionary String) : Except Fault Library :=
  addAll ⟨[]⟩ (Dictionary.sorted sources)

/-! ## Expansion -/

/-- The greatest number of calls that may be nested in one another. -/
def depthLimit : Nat := 64

/-- Replaces a statement of a body by what it stands for, with room for `depth` nested calls. -/
def inline (library : Library) : Nat → Statement → Except Fault (List Statement)
  | depth, statement =>
      if statement.kind = .label then .error (.located statement.location .labelInPseudo)
      else
        match library.find? statement.mnemonic, depth with
        | none, _ => .ok [statement]
        | some _, 0 => .error (.located statement.location .pseudoTooDeep)
        | some pseudo, depth + 1 => do
            let body ← pseudo.bind statement
            let parts ← body.mapM (inline library depth)
            return parts.flatten

/-- Replaces a statement of a program by what it stands for; labels stay. -/
def expandStatement (library : Library) (statement : Statement) : Except Fault (List Statement) :=
  if statement.kind = .label then .ok [statement] else library.inline depthLimit statement

/-- Replaces every call in a program until none is left. -/
def expand (library : Library) (statements : List Statement) : Except Fault (List Statement) := do
  let parts ← statements.mapM library.expandStatement
  return parts.flatten

/-! ## Warnings -/

/-- The entries of the statements before the first one that cannot be expanded, that one
included. -/
def warningsOf (expand : Statement → Except Fault (List Statement))
    (warnings : Statement → List Log.Entry) : List Statement → List Log.Entry
  | [] => []
  | statement :: rest =>
      warnings statement ++
        match expand statement with
        | .ok _ => warningsOf expand warnings rest
        | .error _ => []

/-- The entry about the arguments of a call that no parameter takes. -/
def callWarning (pseudo : Pseudo) (call : Statement) : List Log.Entry :=
  if pseudo.formals.length < call.args.length then
    [Log.extraArguments call.location.render pseudo.name
      (call.args.length - pseudo.formals.length)]
  else []

/-- The entries that expanding a statement of a body leaves. -/
def inlineWarnings (library : Library) : Nat → Statement → List Log.Entry
  | depth, statement =>
      if statement.kind = .label then []
      else
        match library.find? statement.mnemonic, depth with
        | some pseudo, depth + 1 =>
            match pseudo.bind statement with
            | .ok body =>
                callWarning pseudo statement ++
                  warningsOf (library.inline depth) (inlineWarnings library depth) body
            | .error _ => []
        | _, _ => []

/-- The entries that expanding a program leaves. -/
def warnings (library : Library) (statements : List Statement) : List Log.Entry :=
  warningsOf library.expandStatement
    (fun statement =>
      if statement.kind = .label then [] else library.inlineWarnings depthLimit statement)
    statements

end Library
end TableAssembler
