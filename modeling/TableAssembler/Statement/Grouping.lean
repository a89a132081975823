import TableAssembler.Lexeme.Scanner
import TableAssembler.Statement.Basic

/-!
# From lexemes to statements

Statements end with their line; a label may stand before a statement on the same line.  Lexemes
are taken one at a time: `Progress` is the statement that is being read, with the parentheses that
are open in its last operand, and says what must come next.  A statement that stops too early is
reported just past the last lexeme read.
-/

namespace TableAssembler
namespace Statement

/-- An open parenthesis, with what has been read behind it. -/
inductive Pending
  /-- The left operand must follow. -/
  | left (opening : Lexeme)
  /-- The right operand must follow. -/
  | right (opening left operator : Lexeme)
  deriving Repr

/-- What must come next in a statement. -/
inductive Need
  /-- Anything that can stand behind the name: a colon, an operand or the end of the line. -/
  | afterName
  /-- An operand, inside the open parentheses. -/
  | operand (pending : List Pending)
  /-- An operator behind the left operand of a closure. -/
  | operator (opening left : Lexeme) (pending : List Pending)
  /-- The closing parenthesis behind the right operand of a closure. -/
  | closing (opening left operator right : Lexeme) (pending : List Pending)
  /-- A comma or the end of the line. -/
  | separator
  deriving Repr

/-- A statement of which some lexemes are read. -/
structure Progress where
  /-- The name of the statement. -/
  name : Lexeme
  /-- Operands that are complete. -/
  args : List Lexeme
  /-- The last lexeme read. -/
  last : Lexeme
  /-- What must come next. -/
  need : Need
  deriving Repr

namespace Progress

/-- A statement of which only the name is read. -/
def ofName (name : Lexeme) : Progress := { name, args := [], last := name, need := .afterName }

/-- The instruction read so far. -/
def instruction (progress : Progress) : Statement :=
  .instruction progress.name progress.args

/-- Reads a lexeme and waits for what comes next. -/
def await (progress : Progress) (last : Lexeme) (need : Need) : Progress :=
  { progress with last, need }

/-- A complete operand goes to the innermost open parenthesis, or to the statement. -/
def accept (progress : Progress) (last operand : Lexeme) : List Pending → Progress
  | [] => { progress with args := progress.args ++ [operand], last, need := .separator }
  | .left opening :: pending => progress.await last (.operator opening operand pending)
  | .right opening left operator :: pending =>
      progress.await last (.closing opening left operator operand pending)

/-- Reads the first lexeme of an operand. -/
def operand (progress : Progress) (pending : List Pending) (lexeme : Lexeme) :
    Except Fault Progress :=
  match lexeme.kind with
  | .identifier | .number | .text => .ok (progress.accept lexeme lexeme pending)
  | _ =>
      if lexeme.is .punctuation "(" then
        .ok (progress.await lexeme (.operand (.left lexeme :: pending)))
      else .error (.located lexeme.location (.unexpectedSource lexeme.source))

/-- Reads one lexeme of a statement; a statement that ends with it is given back. -/
def step (progress : Progress) (lexeme : Lexeme) :
    Except Fault (Option Statement × Option Progress) :=
  match progress.need with
  | .afterName =>
      if lexeme.is .punctuation ":" then .ok (some (.label progress.name), none)
      else if lexeme.kind = .newline then .ok (some progress.instruction, none)
      else (progress.operand [] lexeme).map fun next => (none, some next)
  | .operand [] =>
      if lexeme.kind = .newline then .error (.located progress.last.after .operandMissing)
      else (progress.operand [] lexeme).map fun next => (none, some next)
  | .operand pending => (progress.operand pending lexeme).map fun next => (none, some next)
  | .operator opening left pending =>
      if lexeme.kind = .operator then
        .ok (none, some (progress.await lexeme (.operand (.right opening left lexeme :: pending))))
      else .error (.located lexeme.location (.operatorExpected lexeme.kind))
  | .closing opening left operator right pending =>
      if lexeme.is .punctuation ")" then
        let closure := Lexeme.ofOperation left operator right opening.location
        .ok (none, some (progress.accept lexeme closure pending))
      else .error (.located lexeme.location (.closureUnclosed lexeme.source))
  | .separator =>
      if lexeme.kind = .newline then .ok (some progress.instruction, none)
      else if lexeme.is .punctuation "," then
        .ok (none, some (progress.await lexeme (.operand [])))
      else .error (.located lexeme.location (.unexpectedSource lexeme.source))

/-- The statement that ends with the text. -/
def finish (progress : Progress) : Except Fault Statement :=
  match progress.need with
  | .afterName | .separator => .ok progress.instruction
  | .operand _ => .error (.located progress.last.after .operandMissing)
  | .operator .. => .error (.located progress.last.after (.operatorExpected .newline))
  | .closing .. => .error (.located progress.last.after (.closureUnclosed "end of file"))

end Progress

/-- Reads one lexeme, inside a statement or between two. -/
def groupStep : Option Progress → Lexeme → Except Fault (Option Statement × Option Progress)
  | some progress, lexeme => progress.step lexeme
  | none, lexeme =>
      if lexeme.kind = .newline then .ok (none, none)
      else if lexeme.kind = .identifier then .ok (none, some (.ofName lexeme))
      else .error (.located lexeme.location (.unexpectedSource lexeme.source))

/-- The statements of the lexemes that follow some progress. -/
def groupFrom : Option Progress → List Lexeme → Except Fault (List Statement)
  | none, [] => .ok []
  | some progress, [] => progress.finish.map fun statement => [statement]
  | state, lexeme :: rest => do
      let (complete, next) ← groupStep state lexeme
      let statements ← groupFrom next rest
      return complete.toList ++ statements

/-- The statements of a list of lexemes. -/
def group (lexemes : List Lexeme) : Except Fault (List Statement) :=
  groupFrom none lexemes

/-- The statements of the text of a file. -/
def parse (file : String) (text : String) : Except Fault (List Statement) :=
  Lexeme.scan file text >>= group

end Statement
end TableAssembler
