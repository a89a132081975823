import TableAssembler.Text.Numeral

/-!
# Fields of an encoding

An encoding is a row of fields: constant bits, and fields that take their value from an argument.
Widths are signed 64-bit numbers, and sums of widths wrap like them.
-/

namespace TableAssembler

/-- The class of a field. -/
inductive Field.Kind
  | constant
  | immediate
  | symbol
  | optional
  /-- A class that no template produces. -/
  | unassigned (code : Int)
  deriving DecidableEq, Repr, Inhabited

namespace Field.Kind

/-- The class with a number, in the order of declaration from zero. -/
def ofCode (code : Int) : Kind :=
  if code = 0 then .constant
  else if code = 1 then .immediate
  else if code = 2 then .symbol
  else if code = 3 then .optional
  else .unassigned code

/-- The name of a class. -/
def name : Kind → String
  | .constant => "const"
  | .immediate => "imm"
  | .symbol => "type"
  | .optional => "extra"
  | .unassigned code => "FieldKind(" ++ Numeral.signed code ++ ")"

end Field.Kind

/-- One part of an encoding. -/
inductive Field
  /-- Bits that are always the same, as zeros and ones. -/
  | constant (bits : List Char)
  /-- A number that must be given. -/
  | immediate (width : Int)
  /-- A symbol of the table with a tag. -/
  | symbol (tag : String) (width : Int)
  /-- A number that is zero when no argument is left for it. -/
  | optional (width : Int)
  deriving DecidableEq, Repr, Inhabited

namespace Field

/-- The tag of a field that must have a number. -/
def immediateTag : String := "IMM"

/-- The tag of a field that may have a number. -/
def optionalTag : String := "E"

/-- The class of a field. -/
def kind : Field → Kind
  | .constant _ => .constant
  | .immediate _ => .immediate
  | .symbol _ _ => .symbol
  | .optional _ => .optional

/-- The number of bits of a field. -/
def size : Field → Int
  | .constant bits => bits.length
  | .immediate width => width
  | .symbol _ width => width
  | .optional width => width

/-- The tag and the width of a field between braces. -/
def group (tag : String) (width : Int) : String :=
  "\x7b" ++ tag ++ Numeral.signed width ++ "\x7d"

/-- A field as it is written in a template. -/
def render : Field → String
  | .constant bits => String.ofList bits
  | .immediate width => group immediateTag width
  | .symbol tag width => group tag width
  | .optional width => group optionalTag width

/-- The field of a class with the parts that the class has; a class that no template produces is
written like a symbol. -/
def ofParts (kind : Kind) (bits : List Char) (tag : String) (width : Int) : Field :=
  match kind with
  | .constant => .constant bits
  | .immediate => .immediate width
  | .optional => .optional width
  | .symbol | .unassigned _ => .symbol tag width

/-- The number of bits of a row of fields. -/
def totalSize (fields : List Field) : Int :=
  Numeral.wrap (fields.foldr (fun field total => field.size + total) 0)

end Field
end TableAssembler
