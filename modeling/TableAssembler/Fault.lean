import TableAssembler.Lexeme.Basic

/-!
# Faults

Everything that can be wrong with a program or with an instruction set is a `Cause`.  A computation
ends in a `Fault`: it reports a cause, with the place it was found at when there is one, or it
breaks down in a `Panic`, which reports nothing and has no place.  All wording is here: counts are
shown in groups of three digits, locations and hexadecimal values are not.
-/

namespace TableAssembler

/-- The radix that a malformed number announced. -/
inductive NumberForm
  | hexadecimal
  | binary
  | decimal
  deriving DecidableEq, Repr, Inhabited

/-- The name of a radix in messages. -/
def NumberForm.name : NumberForm → String
  | .hexadecimal => "hex"
  | .binary => "binary"
  | .decimal => "decimal"

/-- What is wrong with a program or an instruction set. -/
inductive Cause
  /-- No lexeme starts with the character. -/
  | unexpectedCharacter (c : Char)
  /-- A backslash in a string is followed by a character that has no escape. -/
  | unknownEscape (c : Char)
  /-- A number holds a character that is no digit of its radix. -/
  | digitExpected (form : NumberForm) (c : Char)
  /-- The mark of a radix has no digit behind it. -/
  | numberWithoutDigits
  /-- The text ends inside a string. -/
  | unterminatedString
  /-- A number is needed. -/
  | numberExpected (got : Lexeme.Kind)
  /-- A number has no 64-bit value. -/
  | numberOutOfRange (source : String)
  /-- A statement cannot go on, or start, with this. -/
  | unexpectedSource (source : String)
  /-- A statement ends where an operand must follow. -/
  | operandMissing
  /-- A closure has no operator after its left operand. -/
  | operatorExpected (got : Lexeme.Kind)
  /-- A closure is not closed after its right operand. -/
  | closureUnclosed (got : String)
  /-- No operation is written like this. -/
  | unknownOperator (operator : String)
  /-- A division by zero. -/
  | divisionByZero
  /-- Two headers define one pseudo-instruction. -/
  | duplicatePseudo (name : String)
  /-- A parameter of a pseudo-instruction is no identifier. -/
  | pseudoParameter (source : String)
  /-- A pseudo-instruction is called with too few arguments. -/
  | pseudoArity (name : String) (want got : Nat)
  /-- Calls of pseudo-instructions are nested too deeply. -/
  | pseudoTooDeep
  /-- The body of a pseudo-instruction holds a label. -/
  | labelInPseudo
  /-- A header is not one instruction. -/
  | pseudoHeader
  /-- Two labels have one name. -/
  | duplicateLabel (name : String)
  /-- A name is neither a label nor a symbol of a table. -/
  | undeclaredLabel (name : String)
  /-- The origin is not given by one number. -/
  | originArgument
  /-- A data directive cannot be sized with this argument. -/
  | dataArgument (got : Lexeme.Kind)
  /-- No layout has this name. -/
  | unknownLayout (name : String)
  /-- A group of a template names no table. -/
  | fieldTagMissing
  /-- A group of a template has no width, or the width zero. -/
  | fieldWidthMissing
  /-- A group of a template is not closed. -/
  | fieldUnclosed
  /-- A template holds a character with no meaning. -/
  | templateCharacter (c : Char)
  /-- A template cannot be compiled. -/
  | template (mnemonic text : String) (cause : Cause)
  /-- There is no table with this tag. -/
  | unknownTable (tag : String)
  /-- A table does not hold this symbol. -/
  | unknownSymbol (tag symbol : String)
  /-- There is no instruction with this mnemonic. -/
  | unknownInstruction (mnemonic : String)
  /-- Two instructions have one mnemonic. -/
  | duplicateInstruction (mnemonic : String)
  /-- An instruction has the name of a directive. -/
  | reservedInstruction (mnemonic : String)
  /-- No group of bytes holds an encoding of this width. -/
  | encodingTooWide (bits : Int)
  /-- A data directive has no arguments. -/
  | dataMissing
  /-- A field of a table has no argument. -/
  | symbolMissing
  /-- A field of a number has no argument. -/
  | immediateMissing
  /-- A field of a table needs an identifier. -/
  | identifierExpected (got : Lexeme.Kind)
  /-- A lexeme of this class cannot be encoded. -/
  | unexpectedKind (got : Lexeme.Kind)
  /-- A value has more bits than its field. -/
  | valueTooWide (value : UInt64) (width : Int)
  /-- An encoding does not fill whole bytes. -/
  | bitsUnaligned (bits : Nat)
  /-- An encoding does not fit in eight bytes. -/
  | bitsTooMany (bits : Nat)
  /-- An encoding holds something other than bits. -/
  | notBinary (text : String)
  /-- A directive is left that has no code. -/
  | directiveUnresolved (name : String)
  deriving DecidableEq, Repr, Inhabited

namespace Cause

/-- The wording of a cause. -/
def message : Cause → String
  | .unexpectedCharacter c => "unexpected character " ++ Quoted.character c
  | .unknownEscape c => "unknown escape \\" ++ c.toString
  | .digitExpected form c =>
      "expected " ++ form.name ++ " digit got " ++ Quoted.character c
  | .numberWithoutDigits => "number has no digits"
  | .unterminatedString => "unterminated string"
  | .numberExpected got => "expected number got " ++ got.name
  | .numberOutOfRange source => "'" ++ source ++ "' does not fit in 64 bits"
  | .unexpectedSource source => "unexpected token '" ++ source ++ "'"
  | .operandMissing => "expected argument"
  | .operatorExpected got => "expected operator got " ++ got.name
  | .closureUnclosed got => "expected ')' got '" ++ got ++ "'"
  | .unknownOperator operator => "invalid operator '" ++ operator ++ "'"
  | .divisionByZero => "division by zero"
  | .duplicatePseudo name => "pseudo-instruction '" ++ name ++ "' defined more than once"
  | .pseudoParameter source =>
      "pseudo-instruction parameter '" ++ source ++ "' must be an identifier"
  | .pseudoArity name want got =>
      "pseudo-instruction '" ++ name ++ "' expects " ++ Numeral.grouped want ++
        " arguments, got " ++ Numeral.grouped got
  | .pseudoTooDeep => "pseudo-instruction expansion too deep"
  | .labelInPseudo => "labels are not permitted in a pseudo-instruction body"
  | .pseudoHeader => "pseudo-instruction header must be a single instruction"
  | .duplicateLabel name => "label '" ++ name ++ "' already defined"
  | .undeclaredLabel name => "use of undeclared label '" ++ name ++ "'"
  | .originArgument => "org requires exactly one numeric argument"
  | .dataArgument got => "unexpected " ++ got.name ++ " in data directive"
  | .unknownLayout name => "unknown layout '" ++ name ++ "'"
  | .fieldTagMissing => "field type missing"
  | .fieldWidthMissing => "field width missing or zero"
  | .fieldUnclosed => "expected closing '\x7d'"
  | .templateCharacter c => "unknown character " ++ Quoted.character c
  | .template mnemonic text cause =>
      "instruction " ++ mnemonic ++ " \"" ++ text ++ "\": " ++ cause.message
  | .unknownTable tag => "unknown type " ++ tag
  | .unknownSymbol tag symbol => "type " ++ tag ++ " doesn't have " ++ symbol
  | .unknownInstruction mnemonic => "unknown instruction " ++ mnemonic
  | .duplicateInstruction mnemonic => "instruction " ++ mnemonic ++ " duplicated"
  | .reservedInstruction mnemonic => "instruction " ++ mnemonic ++ " is a directive"
  | .encodingTooWide bits => "encoding of " ++ Numeral.grouped bits ++ " bits is too big"
  | .dataMissing => "no data was provided"
  | .symbolMissing => "expected argument"
  | .immediateMissing => "expected immediate"
  | .identifierExpected got => "expected ident got " ++ got.name
  | .unexpectedKind got => "unexpected " ++ got.name
  | .valueTooWide value width =>
      "number 0x" ++ Numeral.hex 1 value.toNat ++ " too big for " ++ Numeral.grouped width ++
        " bits"
  | .bitsUnaligned bits => Numeral.grouped bits ++ " bits is not a whole number of bytes"
  | .bitsTooMany bits => Numeral.grouped bits ++ " bits is too big, the limit is 64"
  | .notBinary text => "strconv.ParseUint: parsing " ++ Quoted.text text ++ ": invalid syntax"
  | .directiveUnresolved name => "'" ++ name ++ "' must be handled before code generation"

end Cause

/-- A breakdown of the assembler itself.  It is no report about the program: the runtime ends the
run with a text of its own, and nothing takes notice of it before. -/
inductive Panic
  /-- A text is to be repeated a negative number of times. -/
  | negativeRepeat
  /-- A list is read behind its end. -/
  | indexOutOfRange (index length : Nat)
  deriving DecidableEq, Repr, Inhabited

/-- The wording of the runtime. -/
def Panic.message : Panic → String
  | .negativeRepeat => "strings: negative Repeat count"
  | .indexOutOfRange index length =>
      "runtime error: index out of range [" ++ toString index ++ "] with length " ++
        toString length

/-- How a computation fails. -/
inductive Fault
  /-- A cause that was found at a place in source text. -/
  | located (location : Location) (cause : Cause)
  /-- A cause that lies nowhere in source text. -/
  | nowhere (cause : Cause)
  /-- A breakdown. -/
  | panicked (panic : Panic)
  deriving DecidableEq, Repr, Inhabited

namespace Fault

/-- The cause that is reported; a breakdown reports none. -/
def cause? : Fault → Option Cause
  | .located _ cause | .nowhere cause => some cause
  | .panicked _ => none

/-- The location, when there is one, and the wording. -/
def message : Fault → String
  | .located location cause => location.render ++ ": " ++ cause.message
  | .nowhere cause => cause.message
  | .panicked panic => panic.message

end Fault
end TableAssembler
