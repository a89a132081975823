import TableAssembler.Dictionary
import TableAssembler.Writer

/-!
# Directories

The files that a program can see, by their paths.  A folder is there when a file lies below it, or
when it is listed as empty.  Looking a path up can fail on the way: every part before the last
must be a folder, and neither the path nor a part of it may be too long.  A file that is found can
be read.  A file that is written can be refused: when it is opened, and then it stays as it was, or
behind that, and then it holds as much as was taken.
-/

namespace TableAssembler

/-- Why a file cannot be used. -/
inductive FileReason
  | missing
  | notDirectory
  | isDirectory
  /-- The path holds a character that ends every path. -/
  | invalid
  | nameTooLong
  /-- Something other than the path is in the way. -/
  | refused (text : String)
  deriving DecidableEq, Repr, Inhabited

/-- A file that cannot be opened, read, written or closed. -/
structure FileFault where
  /-- What was tried. -/
  operation : String
  /-- The path as it was given. -/
  path : String
  /-- Why it failed. -/
  reason : FileReason
  deriving DecidableEq, Repr, Inhabited

namespace FileFault

/-- The wording of a reason. -/
def reasonText : FileReason → String
  | .missing => "no such file or directory"
  | .notDirectory => "not a directory"
  | .isDirectory => "is a directory"
  | .invalid => "invalid argument"
  | .nameTooLong => "file name too long"
  | .refused text => text

/-- The wording of a fault. -/
def message (fault : FileFault) : String :=
  fault.operation ++ " " ++ fault.path ++ ": " ++ reasonText fault.reason

end FileFault

/-- Files under their paths. -/
structure Directory where
  /-- Contents of files under paths with single slashes between the parts. -/
  files : Dictionary (List UInt8)
  /-- Folders that need not hold a file. -/
  folders : List String := []
  deriving DecidableEq, Repr, Inhabited

namespace Directory

/-- What lies at a path. -/
inductive Item
  | file (bytes : List UInt8)
  | folder
  | missing
  deriving DecidableEq, Repr

/-- The parts of a path, between its slashes. -/
def parts (path : String) : List (List Char) :=
  path.toList.foldr
    (fun c parts =>
      match parts with
      | part :: rest => if c == '/' then [] :: part :: rest else (c :: part) :: rest
      | [] => [[c]])
    [[]]

/-- The path of some parts. -/
def join (parts : List (List Char)) : String :=
  String.ofList (List.intercalate ['/'] parts)

/-- The part of a path that leads one folder up. -/
def up : List Char := ['.', '.']

/-- The folder above a place.  There is none above the root, and the folders above the directory
itself have names of their own. -/
def above (place : List (List Char)) : List (List Char) :=
  if place = [[]] then place
  else if place.all (· == up) then place ++ [up]
  else place.dropLast

/-- The place behind one more part of a path. -/
def enter (place : List (List Char)) (part : List Char) : List (List Char) :=
  if part.isEmpty || part == ['.'] then place
  else if part == up then above place
  else place ++ [part]

/-- The place above all others. -/
def root : List (List Char) := [[]]

/-- The file that is always empty and keeps nothing. -/
def nullFile : List (List Char) := [[], "dev".toList, "null".toList]

/-- What lies at a place; no parts are the directory itself. -/
def item (directory : Directory) (place : List (List Char)) : Item :=
  let path := join place
  if place.all (· == up) || place == root then .folder
  else if place == nullFile then .file []
  else
    match Dictionary.find? directory.files path with
    | some bytes => .file bytes
    | none =>
        let below := path.toList ++ ['/']
        if directory.files.any (fun file => below.isPrefixOf file.1.toList) ||
            directory.folders.contains path then .folder
        else .missing

/-- The number of bytes that a part of a path can have. -/
def longestPart : Nat := 255

/-- The number of bytes that a path can have. -/
def longestPath : Nat := 4095

/-- Goes on from one place along the parts of a path. -/
def walk (directory : Directory) :
    List (List Char) → List (List Char) → Except FileReason (List (List Char))
  | place, [] => .ok place
  | place, part :: rest =>
      match directory.item place with
      | .file _ => .error .notDirectory
      | .missing => .error .missing
      | .folder =>
          if (String.ofList part).utf8ByteSize ≤ longestPart then
            walk directory (enter place part) rest
          else .error .nameTooLong

/-- The places that a path passes, its own place at the end, when nothing is in its way. -/
def passed : List (List Char) → List (List Char) → List (List (List Char))
  | place, [] => [place]
  | place, part :: rest => place :: passed (enter place part) rest

/-- Where a path starts, and the parts that lead on from there. -/
def origin (path : String) : List (List Char) × List (List Char) :=
  match parts path with
  | [] :: rest => (root, rest)
  | parts => ([], parts)

/-- The places of a path, from where it starts. -/
def stations (path : String) : List (List (List Char)) :=
  passed (origin path).1 (origin path).2

/-- A path that can be looked up at all. -/
def usable (path : String) : Except FileReason Unit :=
  if path.contains (Char.ofNat 0) then .error .invalid
  else if path.isEmpty then .error .missing
  else if path.utf8ByteSize ≤ longestPath then .ok ()
  else .error .nameTooLong

/-- The place that a path leads to, where something may be missing. -/
def locate (directory : Directory) (path : String) : Except FileReason (List (List Char)) := do
  usable path
  directory.walk (origin path).1 (origin path).2

/-- The contents of a file. -/
def read (directory : Directory) (path : String) : Except FileFault (List UInt8) :=
  match directory.locate path with
  | .error reason => .error ⟨"open", path, reason⟩
  | .ok place =>
      match directory.item place with
      | .file bytes => .ok bytes
      | .folder => .error ⟨"read", path, .isDirectory⟩
      | .missing => .error ⟨"open", path, .missing⟩

/-- The directory with other contents at a path. -/
def put (directory : Directory) (path : String) (bytes : List UInt8) : Directory :=
  if path = join nullFile then directory
  else if (Dictionary.find? directory.files path).isSome then
    { directory with
      files := directory.files.map fun file => if file.1 == path then (path, bytes) else file }
  else { directory with files := directory.files ++ [(path, bytes)] }

/-- The place where a file can be written.  A path with a slash or a step to another folder at its
end names a folder, whatever lies there. -/
def target (directory : Directory) (path : String) : Except FileReason (List (List Char)) := do
  usable path
  let (start, parts) := origin path
  match (parts.reverse.dropWhile List.isEmpty) with
  | [] => .error .isDirectory
  | name :: parents =>
      let folder ← directory.walk start (parents.reverse ++ [[]])
      if parts.getLast? == some [] || name == ['.'] || name == up then .error .isDirectory
      else
        let place ← directory.walk folder [name]
        if directory.item place = .folder then .error .isDirectory else .ok place

/-- Opens a file to be written. -/
def create (directory : Directory) (file : FileWriter) (path : String) :
    Except FileFault (List (List Char)) :=
  match directory.target path, file.blocked? with
  | .error reason, _ => .error ⟨"open", path, reason⟩
  | .ok _, some reason => .error ⟨"open", path, .refused reason⟩
  | .ok place, none => .ok place

/-- What an opened file holds when texts have been written to it, and what went wrong first.  It is
closed in any case. -/
def save (file : FileWriter) (path : String) (texts : List (List UInt8)) :
    List UInt8 × Option FileFault :=
  let writing := file.write texts
  let spoiled? := file.spoils? writing.bytes
  let fault? :=
    match writing.refused?, spoiled? with
    | some reason, _ => some ⟨"write", path, .refused reason⟩
    | none, some refusal => some ⟨"close", path, .refused refusal.reason⟩
    | none, none => none
  (Refusal.keep spoiled? writing.bytes, fault?)

/-- Writes texts to a file, in place of what is there. -/
def write (directory : Directory) (file : FileWriter) (path : String)
    (texts : List (List UInt8)) : Directory × Option FileFault :=
  match directory.create file path with
  | .error fault => (directory, some fault)
  | .ok place =>
      let (bytes, fault?) := save file path texts
      (directory.put (join place) bytes, fault?)

/-- The files that are not in another directory with the same contents. -/
def since (directory before : Directory) : Dictionary (List UInt8) :=
  directory.files.filter fun file => Dictionary.find? before.files file.1 != some file.2

end Directory
end TableAssembler
