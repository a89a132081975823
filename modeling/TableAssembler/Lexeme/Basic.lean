import TableAssembler.Location
import TableAssembler.Text.Quoted

/-!
# Lexemes

A lexeme is a classified piece of source text.  Parenthesised expressions are lexemes too: a
closure holds its left operand, its operator and its right operand, so that operands of any depth
can stand where a single word can.
-/

namespace TableAssembler

/-- The class of a lexeme. -/
inductive Lexeme.Kind
  | identifier
  | punctuation
  | number
  | text
  | operator
  | closure
  | newline
  /-- A class that no text produces. -/
  | unassigned (code : Int)
  deriving DecidableEq, Repr, Inhabited

namespace Lexeme.Kind

/-- The class with a number, in the order of declaration from zero. -/
def ofCode (code : Int) : Kind :=
  if code = 0 then .identifier
  else if code = 1 then .punctuation
  else if code = 2 then .number
  else if code = 3 then .text
  else if code = 4 then .operator
  else if code = 5 then .closure
  else if code = 6 then .newline
  else .unassigned code

/-- The name of a class in messages. -/
def name : Kind → String
  | .identifier => "ident"
  | .punctuation => "punct"
  | .number => "number"
  | .text => "string"
  | .operator => "operator"
  | .closure => "closure"
  | .newline => "newline"
  | .unassigned code => "Kind(" ++ Numeral.signed code ++ ")"

end Lexeme.Kind

/-- A classified piece of source text, or a parenthesised expression. -/
structure Lexeme where
  /-- Text; the digits alone of a number, and a string without quotes and escapes. -/
  value : String := ""
  /-- Class of the lexeme. -/
  kind : Lexeme.Kind := .identifier
  /-- Radix of a number. -/
  radix : Int := 0
  /-- Left operand, operator and right operand of a closure. -/
  args : List Lexeme := []
  /-- Number of source characters; zero when the lexeme was not read from text. -/
  span : Int := 0
  /-- Where the lexeme starts. -/
  location : Location := {}
  deriving Repr, Inhabited

namespace Lexeme

/-- Induction over the operands of a lexeme. -/
@[elab_as_elim]
theorem induction {motive : Lexeme → Prop}
    (node : ∀ lexeme : Lexeme, (∀ arg ∈ lexeme.args, motive arg) → motive lexeme)
    (lexeme : Lexeme) : motive lexeme :=
  node lexeme fun arg _ => induction node arg
termination_by sizeOf lexeme
decreasing_by
  rename_i mem
  have := List.sizeOf_lt_of_mem mem
  cases lexeme
  simp_all
  omega

/-- A decimal number. -/
def ofWord (value : UInt64) (location : Location) : Lexeme :=
  { value := Numeral.decimal value.toNat, kind := .number, radix := 10, location }

/-- A parenthesised expression that opens at a location. -/
def ofOperation (left operator right : Lexeme) (location : Location) : Lexeme :=
  { value := "(", kind := .closure, args := [left, operator, right], location }

/-- The lexeme has a class and a text. -/
def is (lexeme : Lexeme) (kind : Kind) (value : String) : Bool :=
  decide (lexeme.kind = kind) && lexeme.value == value

/-- An identifier that starts with a dot names a place inside the last global label. -/
def isLocal (lexeme : Lexeme) : Bool :=
  decide (lexeme.kind = .identifier) && lexeme.value.toList.head? == some '.'

/-- The text of a lexeme as it could stand in a source. -/
def source : Lexeme → String
  | { kind := .number, radix, value, .. } =>
      if radix = 16 then "0x" ++ value
      else if radix = 2 then "0b" ++ value
      else value
  | { kind := .text, value, .. } => Quoted.text value
  | { kind := .newline, .. } => "\\n"
  | { kind := .closure, args := [left, operator, right], .. } =>
      "(" ++ left.source ++ " " ++ operator.source ++ " " ++ right.source ++ ")"
  | { value, .. } => value

/-- Changes every identifier of an operand, at any depth of its closures. -/
def mapIdentifiers (change : Lexeme → Lexeme) (lexeme : Lexeme) : Lexeme :=
  match lexeme.kind with
  | .identifier => change lexeme
  | .closure => { lexeme with args := lexeme.args.map (mapIdentifiers change) }
  | _ => lexeme
termination_by sizeOf lexeme
decreasing_by
  rename_i arg mem
  have := List.sizeOf_lt_of_mem mem
  cases lexeme
  simp_all
  omega

/-- The position just past a lexeme, on the row where it starts. -/
def after (lexeme : Lexeme) : Location :=
  lexeme.location.right (if lexeme.span = 0 then lexeme.source.length else lexeme.span)

end Lexeme
end TableAssembler
