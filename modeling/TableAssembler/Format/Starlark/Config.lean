import TableAssembler.Format.Fault
import TableAssembler.Format.Starlark.Evaluation
import TableAssembler.InstructionSet.Config

/-!
# Configurations in Starlark

A program gives the sections of a configuration as dictionaries under their names.  The
instructions must be there.
-/

namespace TableAssembler
namespace Starlark

/-- The characters of a text. -/
def stringOf (text : List UInt8) : String := String.ofList (Utf8.decode text)

/-- The entries of a value that is a dictionary. -/
def entriesOf? (store : Store) : Value → Option Entries
  | .dict address => store.dicts[address]?.map Shared.content
  | _ => none

/-- An entry of a dictionary whose key must be a text. -/
def textKey (store : Store) (title : String) (entry : Value × Value) :
    Except ConfigFault (String × Value) :=
  match entry.1 with
  | .text name => .ok (stringOf name, entry.2)
  | key => .error (.entry title (store.render key))

/-- A section whose keys are texts. -/
def sectionOf (store : Store) (globals : Frame) (name : String) (required : Bool) :
    Except ConfigFault (Dictionary Value) :=
  match (Dictionary.find? globals name).bind id with
  | none => if required then .error (.missingSection name) else .ok []
  | some value =>
      match entriesOf? store value with
      | some entries => entries.mapM (textKey store name)
      | none => .error (.missingSection name)

/-- An entry whose value must be a text. -/
def textEntry (title : String) (entry : String × Value) : Except ConfigFault (String × String) :=
  match entry.2 with
  | .text value => .ok (entry.1, stringOf value)
  | _ => .error (.entry title entry.1)

/-- A section of texts. -/
def textsOf (store : Store) (globals : Frame) (name : String) (required : Bool) :
    Except ConfigFault (Dictionary String) := do
  let entries ← sectionOf store globals name required
  entries.mapM (textEntry name)

/-- A symbol with its value, which must be a word. -/
def symbolEntry (store : Store) (title : String) (entry : Value × Value) :
    Except ConfigFault (String × UInt64) := do
  let (symbol, value) ← textKey store title entry
  match value with
  | .int value =>
      if 0 ≤ value ∧ value.toNat < UInt64.size then .ok (symbol, UInt64.ofNat value.toNat)
      else .error (.entry title symbol)
  | _ => .error (.entry title symbol)

/-- A table under its tag. -/
def tableEntry (store : Store) (entry : String × Value) :
    Except ConfigFault (String × Dictionary UInt64) :=
  match entriesOf? store entry.2 with
  | some symbols => do
      let table ← symbols.mapM (symbolEntry store ("tables." ++ entry.1))
      return (entry.1, table)
  | none => .error (.entry "tables" entry.1)

/-- Runs a program and reads its configuration. -/
def load (source : List UInt8) : Except ConfigFault Config :=
  match run? source with
  | none => .error .failedStarlark
  | some (globals, store) => do
      let instructions ← textsOf store globals "instructions" true
      let pseudo ← textsOf store globals "pseudo" false
      let tables ← sectionOf store globals "tables" false
      let tables ← tables.mapM (tableEntry store)
      return { tables, instructions, pseudo }

end Starlark
end TableAssembler
