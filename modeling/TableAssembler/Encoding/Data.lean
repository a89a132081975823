import TableAssembler.Encoding.Bits
import TableAssembler.Lexeme.Word
import TableAssembler.Statement.Basic

/-!
# Encoding of data

A data directive emits one unit for every number and one for every character of a string.
-/

namespace TableAssembler
namespace Encoding

/-- The value of a numeric argument.  An identifier that is left is a label nobody declared. -/
def number (arg : Lexeme) : Except Fault UInt64 :=
  match arg.kind with
  | .number => arg.word
  | .identifier => .error (.located arg.location (.undeclaredLabel arg.value))
  | kind => .error (.located arg.location (.unexpectedKind kind))

/-- The unit of a value. -/
def unit (data : Directive.Data) (value : UInt64) : List UInt8 :=
  bigEndian data.width (value &&& data.mask).toNat

/-- The units of one argument. -/
def argumentUnits (data : Directive.Data) (arg : Lexeme) : Except Fault (List UInt8) :=
  if arg.kind = .text then
    .ok (arg.value.toList.flatMap fun c => unit data (UInt64.ofNat c.toNat))
  else (number arg).map (unit data)

/-- The bytes of a data directive. -/
def encodeData (data : Directive.Data) (statement : Statement) : Except Fault (List UInt8) :=
  if statement.args.isEmpty then .error (.located statement.location .dataMissing)
  else do
    let units ← statement.args.mapM (argumentUnits data)
    return units.flatten

end Encoding
end TableAssembler
