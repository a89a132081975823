import TableAssembler.Dictionary
import TableAssembler.Fault
import TableAssembler.Text.LetterCase

/-!
# Symbol tables

A table gives the values of the symbols that a field of an instruction admits.  The letter case of
tags and symbols does not matter: tags are kept in upper case and symbols in lower case.
-/

namespace TableAssembler

/-- Tables of symbols under their tags. -/
abbrev Tables := Dictionary (Dictionary UInt64)

namespace Tables

/-- The tables in the letter case they are looked up by, and in ascending order. -/
def normalize (tables : Tables) : Tables :=
  Dictionary.sorted (tables.map fun (tag, symbols) =>
    (Text.upper tag,
      Dictionary.sorted (symbols.map fun (symbol, value) => (Text.lower symbol, value))))

/-- There is a table with the tag. -/
def hasTag (tables : Tables) (tag : String) : Bool :=
  (Dictionary.find? tables (Text.upper tag)).isSome

/-- The value of a symbol in the table with a tag. -/
def value (tables : Tables) (tag symbol : String) : Except Cause UInt64 :=
  match Dictionary.find? tables (Text.upper tag) with
  | none => .error (.unknownTable (Text.upper tag))
  | some table =>
      match Dictionary.find? table (Text.lower symbol) with
      | none => .error (.unknownSymbol (Text.upper tag) symbol)
      | some value => .ok value

end Tables
end TableAssembler
