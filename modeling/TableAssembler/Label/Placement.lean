import TableAssembler.Label.Layout
import TableAssembler.Lexeme.Word

/-!
# Placement of labels

Walking through a program gives every label the address of what follows it.  Labels and origins
have done their work then and leave the program.
-/

namespace TableAssembler

/-- Addresses of labels under their full names. -/
abbrev Labels := Dictionary UInt64

/-- A program without labels and origins, and the addresses of the labels. -/
structure Placement where
  /-- The statements that emit code. -/
  code : List Statement
  /-- The addresses of the labels, in the order of their definition. -/
  labels : Labels
  deriving Repr, Inhabited

namespace Placement

/-- The address that an origin sets. -/
def originAddress (statement : Statement) : Except Fault UInt64 :=
  match statement.args with
  | [arg] =>
      if arg.kind = .number then arg.word else .error (.located arg.location .originArgument)
  | _ => .error (.located statement.location .originArgument)

/-- A placement with one more statement before it. -/
def cons (statement : Statement) (placement : Placement) : Placement :=
  { placement with code := statement :: placement.code }

/-- Places the statements from an address on, when some labels are placed. -/
def placeFrom (layout : Layout) (sizer? : Option Sizer) :
    UInt64 → Labels → List Statement → Except Fault Placement
  | _, labels, [] => .ok { code := [], labels }
  | address, labels, statement :: rest =>
      if statement.kind = .label then
        let name := statement.name.value
        if (Dictionary.find? labels name).isSome then
          .error (.located statement.location (.duplicateLabel name))
        else placeFrom layout sizer? address (labels ++ [(name, address)]) rest
      else if statement.mnemonic = Directive.origin then do
        let origin ← originAddress statement
        placeFrom layout sizer? origin labels rest
      else do
        let size ← layout.statementSize sizer? statement
        let placement ← placeFrom layout sizer? (address + size) labels rest
        return placement.cons statement

/-- Places a program. -/
def place (layout : Layout) (sizer? : Option Sizer) (statements : List Statement) :
    Except Fault Placement :=
  placeFrom layout sizer? 0 [] statements

end Placement

namespace Labels

/-- An identifier that names a label becomes its address; others are left as they are. -/
def substituteIdentifier (labels : Labels) (lexeme : Lexeme) : Lexeme :=
  match Dictionary.find? labels lexeme.value with
  | some address => Lexeme.ofWord address lexeme.location
  | none => lexeme

/-- Puts addresses in place of the names of labels in an operand. -/
def substituteOperand (labels : Labels) (lexeme : Lexeme) : Lexeme :=
  lexeme.mapIdentifiers (substituteIdentifier labels)

/-- Puts addresses in place of the names of labels in a program. -/
def substitute (labels : Labels) (statements : List Statement) : List Statement :=
  statements.map (Statement.mapArgs (substituteOperand labels))

end Labels
end TableAssembler
