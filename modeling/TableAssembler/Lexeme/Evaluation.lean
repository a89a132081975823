import TableAssembler.Lexeme.Word

/-!
# Values of operands

Closures are computed on 64-bit words: sums, differences and products wrap, quotients are rounded
down, and a shift by the width of a word or more leaves nothing.
-/

namespace TableAssembler

/-- What an operator computes. -/
inductive Operation
  | add
  | subtract
  | multiply
  | divide
  | conjunction
  | disjunction
  | exclusion
  | shiftLeft
  | shiftRight
  deriving DecidableEq, Repr, Inhabited

namespace Operation

/-- The operation that an operator is written for. -/
def ofText? : String → Option Operation
  | "+" => some .add
  | "-" => some .subtract
  | "*" => some .multiply
  | "/" => some .divide
  | "&" => some .conjunction
  | "|" => some .disjunction
  | "^" => some .exclusion
  | "<<" => some .shiftLeft
  | ">>" => some .shiftRight
  | _ => none

/-- The result on two words; only a division by zero has none. -/
def result? (operation : Operation) (left right : UInt64) : Option UInt64 :=
  match operation with
  | .add => some (left + right)
  | .subtract => some (left - right)
  | .multiply => some (left * right)
  | .divide => if right = 0 then none else some (left / right)
  | .conjunction => some (left &&& right)
  | .disjunction => some (left ||| right)
  | .exclusion => some (left ^^^ right)
  | .shiftLeft => some (if right < 64 then left <<< right else 0)
  | .shiftRight => some (if right < 64 then left >>> right else 0)

/-- Computes with the operator of a closure; the operands come first. -/
def compute (operator : Lexeme) (left right : UInt64) : Except Fault UInt64 :=
  if operator.kind = .operator then
    match ofText? operator.value with
    | some operation =>
        match operation.result? left right with
        | some value => .ok value
        | none => .error (.located operator.location .divisionByZero)
    | none => .error (.located operator.location (.unknownOperator operator.value))
  else
    .error (.located operator.location (.operatorExpected operator.kind))

end Operation

namespace Lexeme

/-- The value of a number or of a closure.  The operands of a closure are read without asking how
many there are. -/
def evaluate : Lexeme → Except Fault UInt64
  | { kind := .identifier, value, location, .. } =>
      .error (.located location (.undeclaredLabel value))
  | { kind := .closure, args := left :: operator :: right :: _, .. } => do
      let leftValue ← left.evaluate
      let rightValue ← right.evaluate
      Operation.compute operator leftValue rightValue
  | { kind := .closure, args := left :: rest, .. } => do
      let _ ← left.evaluate
      .error (.panicked (.indexOutOfRange 2 (rest.length + 1)))
  | { kind := .closure, args := [], .. } => .error (.panicked (.indexOutOfRange 0 0))
  | lexeme => lexeme.word

/-- A closure becomes the decimal number of its value; other operands stay. -/
def fold (lexeme : Lexeme) : Except Fault Lexeme :=
  if lexeme.kind = .closure then
    lexeme.evaluate.map fun value => ofWord value lexeme.location
  else .ok lexeme

end Lexeme
end TableAssembler
