import Std.Data.HashSet
import TableAssembler.Format.Fault
import TableAssembler.Format.Yaml.Expansion
import TableAssembler.InstructionSet.Config

/-!
# Configurations in YAML

A document is a mapping with the sections of a configuration and no others.  Every scalar can
stand for a text; a word is a scalar that looks like a number, and loses its fraction.  A mapping
can take over the entries of others: its own entries count more, and earlier ones count more than
later ones.
-/

namespace TableAssembler
namespace Yaml
namespace Node

open Counted

/-! ## Scalars -/

/-- What a scalar means, and its text. -/
def readScalar (place : Place) (node : Node) : Counted (Resolution × String) := do
  match ← visit place node with
  | (_, .scalar tag text) =>
      match Resolution.ofTagged? tag text with
      | some resolution => return (resolution, text)
      | none => fail
  | _ => fail

/-- The text of a scalar, if it has a value; a number has the text that was written. -/
def readText (place : Place) (node : Node) : Counted (Option String) := do
  match ← readScalar place node with
  | (.null, _) => return none
  | (.text value, _) => return some value
  | (_, text) => return some text

/-- The word of a scalar, if it has a value. -/
def readWord (place : Place) (node : Node) : Counted (Option UInt64) := do
  let word? ← match ← readScalar place node with
    | (.null, _) => return none
    | (.int value, _) => pure (if 0 ≤ value then Numeral.word? value.toNat else none)
    | (.float value, _) => pure value.word?
    | _ => fail
  match word? with
  | some word => return some word
  | none => fail

/-! ## Mappings -/

/-- A set of names. -/
abbrev Names := Std.HashSet String

/-- The kind of a key, and its text as far as it has one. -/
def identity : Node → Nat × String
  | .scalar _ text => (0, text)
  | .sequence _ => (1, "")
  | .mapping _ => (2, "")
  | .reference name _ _ => (3, name)

/-- No key is the same as one before it or one in a set. -/
def areDistinct : List Node → Std.HashSet (Nat × String) → Bool
  | [], _ => true
  | key :: keys, seen =>
      !seen.contains key.identity && areDistinct keys (seen.insert key.identity)

/-- The key under which a mapping takes over the entries of others. -/
def isMerge : Node → Bool
  | .scalar tag text => tag == .merge && text == "<<"
  | _ => false

/-- The nodes from which a mapping takes over entries. -/
def sources (entries : List (Node × Node)) : List Node :=
  match entries.find? fun entry => entry.1.isMerge with
  | some (_, .sequence items) => items
  | some (_, node) => [node]
  | none => []

/-- The keys of a mapping that are texts, whatever they stand for. -/
def readNames (place : Place) (entries : List (Node × Node)) : Counted Names :=
  entries.foldlM
    (fun names (key, _) => do
      match ← readScalar place key with
      | (.text name, _) => return names.insert name
      | _ => return names)
    {}

/-- The state of reading a mapping. -/
structure Absorption (σ : Type) where
  /-- What is read. -/
  content : σ
  /-- When entries are taken over: the names of all entries that are read. -/
  names : Option Names := none

/-- How an entry is read; `taken` tells that it is taken over. -/
abbrev EntryReader (σ : Type) := (taken : Bool) → Place → σ → String → Node → Counted σ

/-- Reads one entry, unless its key has no value or its name is there when entries are taken
over. -/
def readEntry {σ : Type} (reader : EntryReader σ) (place : Place) (absorption : Absorption σ)
    (entry : Node × Node) : Counted (Absorption σ) := do
  if entry.1.isMerge then return absorption
  match ← readText place entry.1 with
  | none => return absorption
  | some name =>
      if absorption.names.any (·.contains name) then return absorption
      let content ←
        reader absorption.names.isSome place absorption.content name entry.2
      return { content, names := absorption.names.map (·.insert name) }

/-- Reads the entries of a mapping and those that it takes over.  No key stands twice.  `fuel`
bounds the depth of mappings that take over entries themselves. -/
def readEntries {σ : Type} (reader : EntryReader σ) :
    Nat → Place → Absorption σ → List (Node × Node) → Counted (Absorption σ)
  | 0, _, _, _ => fail
  | fuel + 1, place, absorption, entries => do
      if !areDistinct (entries.map Prod.fst) {} then fail
      let absorption ← entries.foldlM (readEntry reader place) absorption
      if (sources entries).isEmpty then return absorption
      let names ← match absorption.names with
        | some names => pure names
        | none => readNames place entries
      (sources entries).foldlM
        (fun absorption node => do
          match ← visit place node with
          | (place, .mapping entries) => readEntries reader fuel place absorption entries
          | _ => fail)
        { absorption with names := some names }

/-- What a mapping holds; it starts out as `empty`, and stays so for a node without a value. -/
def readMapping {σ : Type} (fuel : Nat) (reader : EntryReader σ) (empty : σ) (place : Place)
    (node : Node) : Counted σ := do
  match ← visit place node with
  | (place, .mapping entries) =>
      return (← readEntries reader fuel place { content := empty } entries).content
  | (_, .scalar tag text) =>
      if Resolution.ofTagged? tag text == some .null then return empty else fail
  | _ => fail

/-! ## Sections -/

/-- A dictionary with a value under a name, in place of one that is there. -/
def put {α : Type} (dictionary : Dictionary α) (name : String) (value : α) : Dictionary α :=
  if (Dictionary.find? dictionary name).isSome then
    dictionary.map fun entry => if entry.1 == name then (name, value) else entry
  else dictionary ++ [(name, value)]

/-- The dictionary of a mapping whose values are read by `read`; a node without a value counts as
`empty`.  Where an entry is taken over without a value, one that is there stays. -/
def readDictionary {α : Type} (fuel : Nat) (read : Place → Node → Counted (Option α))
    (empty : α) : Place → Node → Counted (Dictionary α) :=
  readMapping fuel
    (fun taken place dictionary name node => do
      match ← read place node with
      | some value => return put dictionary name value
      | none =>
          if taken && (Dictionary.find? dictionary name).isSome then return dictionary
          else return put dictionary name empty)
    []

/-- Reads one section of a document into a configuration. -/
def readSection (fuel : Nat) (place : Place) (config : Config) (name : String) (node : Node) :
    Counted Config := do
  match name with
  | "tables" =>
      let table (place : Place) (node : Node) := some <$> readDictionary fuel readWord 0 place node
      return { config with tables := ← readDictionary fuel table [] place node }
  | "instructions" =>
      return { config with instructions := ← readDictionary fuel readText "" place node }
  | "pseudo" => return { config with pseudo := ← readDictionary fuel readText "" place node }
  | _ => fail

/-- Reads the configuration of a document.  Its own sections have different names. -/
def readConfig (fuel : Nat) (place : Place) (node : Node) : Counted Config := do
  let (config, _) ← readMapping fuel
    (fun taken place (config, own) name node => do
      if !taken && own.contains name then fail
      return (← readSection fuel place config name node, name :: own))
    (({}, []) : Config × List String) place node
  return config

/-- The configuration of a document with some root; the document itself counts as a node too. -/
def config? (fuel : Nat) (anchors : Array Node) (root : Node) : Option Config :=
  (readConfig fuel { anchors } root).run' { nodes := 1 }

end Node

/-- Reads a configuration; it must have instructions. -/
def load (bytes : List UInt8) : Except ConfigFault Config :=
  match Document.ofBytes bytes with
  | .missing => .error .emptyDocument
  | .malformed => .error .malformedYaml
  | .root node anchors =>
      match node.config? ((bytes.length + 1) * (bytes.length + 1)) anchors with
      | none => .error .malformedYaml
      | some config =>
          if config.instructions.isEmpty then .error (.missingSection "instructions")
          else .ok config

end Yaml
end TableAssembler
