import TableAssembler.Format.Yaml.Resolution
import TableAssembler.Format.Yaml.Stream

/-!
# YAML nodes

The first document of a stream as a tree.  The nodes with names are numbered, and an alias holds
the number of the node that it stands for, which may be a node around it.
-/

namespace TableAssembler
namespace Yaml

/-- A node of a document. -/
inductive Node
  | scalar (tag : Tag) (text : String)
  | sequence (items : List Node)
  | mapping (entries : List (Node × Node))
  /-- An alias of the node with a name and a number; `site` tells the aliases of a text apart. -/
  | reference (name : String) (site target : Nat)
  deriving Repr, Inhabited

/-- What a stream holds. -/
inductive Document
  /-- There is no document. -/
  | missing
  /-- The stream cannot be read. -/
  | malformed
  /-- The root of the first document, and its nodes with names. -/
  | root (node : Node) (anchors : Array Node)
  deriving Repr, Inhabited

namespace Node

/-- What stands where nothing is written. -/
def absent : Node := .scalar .null ""

/-- The scalar of a token; without a tag of its own, a plain one is read for what it looks like. -/
def ofScalar (tag? : Option String) (text : String) (plain : Bool) : Node :=
  match tag?.filter (· != "!") with
  | some tag => .scalar (Tag.ofText tag) text
  | none =>
      if !plain then .scalar .text text
      else if text = "<<" then .scalar .merge text
      else .scalar (Resolution.ofText text).tag text

/-! ## Reading -/

/-- What is known while a document is read. -/
structure Progress where
  /-- The tokens that are left. -/
  stream : Stream
  /-- What handles of tags stand for, the first one with a name counts. -/
  handles : List (String × String) := [("!", "!"), ("!!", Tag.standard)]
  /-- The names of nodes with the numbers of the nodes, the newest first. -/
  names : List (String × Nat) := []
  /-- The nodes with names; one that is not complete counts as absent. -/
  anchors : Array Node := #[]
  /-- The number of aliases. -/
  aliases : Nat := 0

/-- A step of reading, which may find the stream malformed. -/
abbrev Step := StateT Progress Option

namespace Step

/-- The next token. -/
def peek : Step Token := do
  let progress ← get
  let (token, stream) ← progress.stream.peek?
  set { progress with stream }
  return token

/-- Passes the next token. -/
def next : Step Unit :=
  modify fun progress => { progress with stream := progress.stream.next }

/-- Nothing can be read here. -/
def fail {α : Type} : Step α := StateT.lift none

/-- The tag of a token in full. -/
def fullTag (handle suffix : String) : Step String := do
  if handle.isEmpty then return suffix
  match (← get).handles.lookup handle with
  | some start => return start ++ suffix
  | none => fail

/-- The tag before a node, if there is one. -/
def tag? : Step (Option String) := do
  match ← peek with
  | .tag handle suffix =>
      next
      return some (← fullTag handle suffix)
  | _ => return none

/-- The anchor before a node, if there is one. -/
def anchor? : Step (Option String) := do
  match ← peek with
  | .anchor name =>
      next
      return some name
  | _ => return none

/-- The anchor and the tag before a node, in either order. -/
def properties : Step (Option String × Option String) := do
  match ← anchor? with
  | some name => return (some name, ← tag?)
  | none =>
      let tag ← tag?
      if tag.isSome then return (← anchor?, tag) else return (none, none)

/-- Notes the name of a node that follows, and gives the node a number. -/
def announce (anchor : Option String) : Step (Option Nat) := do
  match anchor with
  | some name =>
      let progress ← get
      let number := progress.anchors.size
      set { progress with
        names := (name, number) :: progress.names
        anchors := progress.anchors.push absent }
      return some number
  | none => return none

/-- Notes a node that is complete under its number. -/
def complete (number : Option Nat) (node : Node) : Step Node := do
  if let some number := number then
    modify fun progress =>
      { progress with anchors := progress.anchors.setIfInBounds number node }
  return node

/-- The alias of the node that has a name by now. -/
def refer (name : String) : Step Node := do
  let progress ← get
  match progress.names.lookup name with
  | some target =>
      set { progress with aliases := progress.aliases + 1 }
      return .reference name progress.aliases target
  | none => fail

end Step

open Step

mutual

/-- A node.  In a block it can be a block of its own; as a value it can be a sequence that is not
indented.  `fuel` bounds the depth. -/
def read : Nat → Bool → Bool → Step Node
  | 0, _, _ => fail
  | fuel + 1, block, value => do
      match ← peek with
      | .reference name =>
          next
          refer name
      | _ =>
          let (anchor, tag) ← properties
          let token ← peek
          if value && token == .blockEntry then
            let number ← announce anchor
            complete number (.sequence (← looseItems fuel))
          else
            match token, block with
            | .scalar text plain, _ =>
                next
                complete (← announce anchor) (ofScalar tag text plain)
            | .flowSequenceStart, _ =>
                next
                let number ← announce anchor
                complete number (.sequence (← flowItems fuel true))
            | .flowMappingStart, _ =>
                next
                let number ← announce anchor
                complete number (.mapping (← flowEntries fuel true))
            | .blockSequenceStart, true =>
                next
                let number ← announce anchor
                complete number (.sequence (← blockItems fuel))
            | .blockMappingStart, true =>
                next
                let number ← announce anchor
                complete number (.mapping (← blockEntries fuel))
            | _, _ =>
                if anchor.isNone && tag.isNone then fail
                complete (← announce anchor) (ofScalar tag "" true)

/-- A node, or nothing when one of some tokens follows. -/
def readUnless : Nat → List Token → Bool → Bool → Step Node
  | 0, _, _, _ => fail
  | fuel + 1, stops, block, value => do
      if stops.contains (← peek) then return absent else read fuel block value

/-- The items of an indented sequence, up to the end of its block. -/
def blockItems : Nat → Step (List Node)
  | 0 => fail
  | fuel + 1 => do
      match ← peek with
      | .blockEntry =>
          next
          let item ← readUnless fuel [.blockEntry, .blockEnd] true false
          return item :: (← blockItems fuel)
      | .blockEnd =>
          next
          return []
      | _ => fail

/-- The items of a sequence that is not indented. -/
def looseItems : Nat → Step (List Node)
  | 0 => fail
  | fuel + 1 => do
      match ← peek with
      | .blockEntry =>
          next
          let item ← readUnless fuel [.blockEntry, .key, .value, .blockEnd] true false
          return item :: (← looseItems fuel)
      | _ => return []

/-- The value behind a colon, if there is one. -/
def readValue : Nat → List Token → Bool → Step Node
  | 0, _, _ => fail
  | fuel + 1, stops, block => do
      match ← peek with
      | .value =>
          next
          readUnless fuel stops block block
      | _ => return absent

/-- The entries of a mapping in a block. -/
def blockEntries : Nat → Step (List (Node × Node))
  | 0 => fail
  | fuel + 1 => do
      match ← peek with
      | .key =>
          next
          let key ← readUnless fuel [.key, .value, .blockEnd] true true
          let value ← readValue fuel [.key, .value, .blockEnd] true
          return (key, value) :: (← blockEntries fuel)
      | .blockEnd =>
          next
          return []
      | _ => fail

/-- The entries of a mapping between braces; behind the first one each follows a comma. -/
def flowEntries : Nat → Bool → Step (List (Node × Node))
  | 0, _ => fail
  | fuel + 1, first => do
      if (← peek) == .flowMappingEnd then
        next
        return []
      if !first then
        if (← peek) != .flowEntry then fail
        next
      match ← peek with
      | .flowMappingEnd =>
          next
          return []
      | .key =>
          next
          let key ← readUnless fuel [.value, .flowEntry, .flowMappingEnd] false false
          let value ← readValue fuel [.flowEntry, .flowMappingEnd] false
          return (key, value) :: (← flowEntries fuel false)
      | _ =>
          let key ← read fuel false false
          return (key, absent) :: (← flowEntries fuel false)

/-- The items of a sequence between brackets; behind the first one each follows a comma.  A key
makes an item with one entry. -/
def flowItems : Nat → Bool → Step (List Node)
  | 0, _ => fail
  | fuel + 1, first => do
      if (← peek) == .flowSequenceEnd then
        next
        return []
      if !first then
        if (← peek) != .flowEntry then fail
        next
      match ← peek with
      | .flowSequenceEnd =>
          next
          return []
      | .key =>
          next
          let key ← flowItemKey fuel
          let value ← readValue fuel [.flowEntry, .flowSequenceEnd] false
          return .mapping [(key, value)] :: (← flowItems fuel false)
      | _ =>
          let item ← read fuel false false
          return item :: (← flowItems fuel false)

/-- The key of an item with one entry; a missing key takes the token behind it. -/
def flowItemKey : Nat → Step Node
  | 0 => fail
  | fuel + 1 => do
      if [Token.value, .flowEntry, .flowSequenceEnd].contains (← peek) then
        next
        return absent
      else read fuel false false

end

/-! ## Documents -/

/-- The only version of the language. -/
def knownVersion : Token := .version 1 1

/-- The directives before a document.  A version is given once, and so is each handle. -/
def directives : Nat → Bool → List (String × String) → Step Unit
  | 0, _, _ => fail
  | fuel + 1, versioned, handles => do
      match ← peek with
      | .version major minor =>
          if versioned || Token.version major minor != knownVersion then fail
          next
          directives fuel true handles
      | .handle name value =>
          if (handles.lookup name).isSome then fail
          next
          directives fuel versioned (handles ++ [(name, value)])
      | _ =>
          modify fun progress => { progress with handles := handles ++ progress.handles }

/-- The token ends a document or starts another one. -/
def endsDocument : Token → Bool
  | .version .. | .handle .. | .documentStart | .documentEnd | .streamEnd => true
  | _ => false

/-- The root of the first document, which is followed by readable tokens; nothing when there is no
document. -/
def document (fuel : Nat) : Step (Option Node) := do
  match ← peek with
  | .streamEnd => return none
  | .version .. | .handle .. | .documentStart =>
      directives fuel false []
      if (← peek) != .documentStart then fail
      next
      let root ← if endsDocument (← peek) then pure absent else read fuel true false
      let _ ← peek
      return some root
  | _ =>
      let root ← read fuel true false
      let _ ← peek
      return some root

/-- The steps that a character can use up. -/
def stepsPerCharacter : Nat := 16

end Node

/-- The first document of a stream of bytes. -/
def Document.ofBytes (bytes : List UInt8) : Document :=
  let input := Input.ofBytes bytes
  match (Node.document (Node.stepsPerCharacter * (input.text.length + 1))).run
      { stream := .ofInput input } with
  | none => .malformed
  | some (none, _) => .missing
  | some (some node, progress) => .root node progress.anchors

end Yaml
end TableAssembler
