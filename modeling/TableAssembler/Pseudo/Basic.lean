import TableAssembler.Dictionary
import TableAssembler.Statement.Grouping

/-!
# Pseudo-instructions

A pseudo-instruction is written as a header, its mnemonic with the names of its parameters, and a
body of statements.  A call is replaced by the body with the arguments in place of the parameters,
all at once, so that an argument which shares the name of a parameter is never replaced again.
-/

namespace TableAssembler

/-- A compiled pseudo-instruction. -/
structure Pseudo where
  /-- Mnemonic in lower case. -/
  name : String
  /-- Names of the parameters, in the order of the arguments. -/
  formals : List String
  /-- Statements that stand for a call. -/
  body : List Statement
  deriving Repr, Inhabited

namespace Pseudo

/-- The name under which the text of a header is read: its first word in upper case. -/
def fileOf (header : String) : String :=
  "PSEUDO_" ++ Text.upper (String.ofList ((Text.trim header.toList).takeWhile (· != ' ')))

/-- The name of a parameter. -/
def formal (arg : Lexeme) : Except Fault String :=
  if arg.kind = .identifier then .ok arg.value
  else .error (.located arg.location (.pseudoParameter arg.source))

/-- The instruction that a header consists of. -/
def head (file : String) : List Statement → Except Fault Statement
  | [⟨.instruction, name, args⟩] => .ok ⟨.instruction, name, args⟩
  | _ => .error (.located (.start file) .pseudoHeader)

/-- Compiles a pseudo-instruction from its header and its body. -/
def compile (header body : String) : Except Fault Pseudo := do
  let file := fileOf header
  let head ← (Statement.parse file header).bind (head file)
  let formals ← head.args.mapM formal
  let body ← Statement.parse (file ++ "_BODY") body
  return { name := head.mnemonic, formals, body }

/-! ## Calls -/

/-- The arguments under the names of the parameters; of two parameters with one name the last
counts. -/
def binding (pseudo : Pseudo) (args : List Lexeme) : Dictionary Lexeme :=
  (pseudo.formals.zip args).reverse

/-- Puts the argument in place of an identifier that names a parameter. -/
def bindIdentifier (binding : Dictionary Lexeme) (lexeme : Lexeme) : Lexeme :=
  (Dictionary.find? binding lexeme.value).getD lexeme

/-- One statement of the body, for a call at a location.  A parameter in the place of the name is
replaced by the text of its argument. -/
def bindStatement (binding : Dictionary Lexeme) (location : Location) (statement : Statement) :
    Statement :=
  let value :=
    match Dictionary.find? binding statement.name.value with
    | some actual => actual.value
    | none => statement.name.value
  { statement with
    name := { statement.name with value, location }
    args := statement.args.map (Lexeme.mapIdentifiers (bindIdentifier binding)) }

/-- The statements that stand for a call. -/
def bind (pseudo : Pseudo) (call : Statement) : Except Fault (List Statement) :=
  if call.args.length < pseudo.formals.length then
    .error (.located call.location
      (.pseudoArity pseudo.name pseudo.formals.length call.args.length))
  else
    .ok (pseudo.body.map (bindStatement (pseudo.binding call.args) call.location))

end Pseudo
end TableAssembler
