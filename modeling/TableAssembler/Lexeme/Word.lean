import TableAssembler.Fault

/-!
# The value of a number

A number lexeme stands for a 64-bit word.
-/

namespace TableAssembler
namespace Lexeme

/-- The value of a number lexeme. -/
def word (lexeme : Lexeme) : Except Fault UInt64 :=
  if lexeme.kind = .number then
    match Numeral.parse? lexeme.radix lexeme.value.toList with
    | some value => .ok value
    | none => .error (.located lexeme.location (.numberOutOfRange lexeme.source))
  else
    .error (.located lexeme.location (.numberExpected lexeme.kind))

end Lexeme
end TableAssembler
