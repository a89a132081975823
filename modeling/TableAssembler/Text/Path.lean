/-!
# File names

The extension of a path is the part of its last element from the last dot on, and the file that
is written for a source has the same name with another extension.
-/

namespace TableAssembler
namespace Path

/-- The last element of a path, read backwards. -/
def reversedElement (path : List Char) : List Char :=
  path.reverse.takeWhile (· != '/')

/-- The number of characters of the extension, its dot included. -/
def extensionLength (path : List Char) : Nat :=
  let element := reversedElement path
  let afterDot := element.takeWhile (· != '.')
  if afterDot.length < element.length then afterDot.length + 1 else 0

/-- The extension of a path, with its dot; empty when the last element has no dot. -/
def extension (path : String) : String :=
  String.ofList (path.toList.drop (path.toList.length - extensionLength path.toList))

/-- A path without its extension. -/
def stem (path : String) : String :=
  String.ofList (path.toList.take (path.toList.length - extensionLength path.toList))

/-- The extension of assembled files. -/
def binaryExtension : String := ".bin"

/-- The default name of the file assembled from a source: a binary extension takes the place of
the extension, and is added to a name that has it already. -/
def binaryName (source : String) : String :=
  if extension source = binaryExtension then source ++ binaryExtension
  else stem source ++ binaryExtension

end Path
end TableAssembler
