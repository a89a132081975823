import TableAssembler.Directory

/-!
# Faults of configuration files

What can be wrong with the file of an instruction set before it is compiled.
-/

namespace TableAssembler

/-- What is wrong with the configuration of an instruction set. -/
inductive ConfigFault
  /-- The file cannot be read. -/
  | file (fault : FileFault)
  /-- No format has this extension. -/
  | unknownFormat (extension : String)
  /-- A section is missing or is no dictionary. -/
  | missingSection (key : String)
  /-- An entry of a section has the wrong type. -/
  | entry (key name : String)
  /-- A YAML stream without a document. -/
  | emptyDocument
  /-- No YAML document of the right shape. -/
  | malformedYaml
  /-- A Starlark program that cannot be read or run. -/
  | failedStarlark
  deriving DecidableEq, Repr, Inhabited

namespace ConfigFault

/-- The wording of a fault. -/
def message : ConfigFault → String
  | .file fault => fault.message
  | .unknownFormat extension => "unknown instruction set file type '" ++ extension ++ "'"
  | .missingSection key => "'" ++ key ++ "' missing or not a dict"
  | .entry key name => key ++ ": bad entry " ++ name
  | .emptyDocument => "EOF"
  | .malformedYaml => "malformed YAML document"
  | .failedStarlark => "failed Starlark program"

end ConfigFault
end TableAssembler
