import TableAssembler.Assembly.Resolution
import TableAssembler.Image.Basic
import TableAssembler.InstructionSet.Builtin

/-!
# Assembly

An assembler is an instruction set with its compiled library.  It turns the text of a file into an
image and the addresses of its labels.
-/

namespace TableAssembler

/-- An instruction set with its compiled pseudo-instructions. -/
structure Assembler where
  /-- The instruction set. -/
  set : InstructionSet
  /-- The compiled pseudo-instructions of the set. -/
  library : Library
  deriving Repr, Inhabited

/-- An assembled file. -/
structure Assembly where
  /-- The bytes of the file. -/
  image : Image
  /-- The addresses of its labels. -/
  labels : Labels
  deriving Repr, Inhabited

namespace Assembler

/-- The assembler of an instruction set. -/
def ofSet (set : InstructionSet) : Except Fault Assembler :=
  (Library.compile set.pseudo).map fun library => { set, library }

/-- What programs are resolved for: the library and the sizes of the set. -/
def target (assembler : Assembler) (layout : Layout) : Target :=
  { library := assembler.library, layout, sizer? := some assembler.set.encodedSize }

/-- Assembles the text of a file. -/
def assemble (assembler : Assembler) (layout : Layout) (file text : String) :
    Except Fault Assembly := do
  let lexemes ← Lexeme.scan file text
  let resolution ← (assembler.target layout).resolve lexemes
  let image ← Image.generate assembler.set resolution.statements
  return { image, labels := resolution.labels }

/-- The entry about the number of lexemes of a file. -/
def fileEntry (file : String) (lexemes : List Lexeme) : Log.Entry :=
  { level := .debug
    message := Numeral.decimal lexemes.length ++ " lexems"
    fields := [("file", file)] }

/-- The entries that assembling a file leaves. -/
def entries (assembler : Assembler) (layout : Layout) (verbose : Bool) (file text : String) :
    List Log.Entry :=
  Target.whenOk (Lexeme.scan file text) fun lexemes =>
    Target.ifVerbose verbose [fileEntry file lexemes] ++
      (assembler.target layout).entries verbose lexemes ++
      Target.whenOk ((assembler.target layout).resolve lexemes) fun resolution =>
        Image.entries assembler.set verbose resolution.statements

end Assembler

/-! ## Several files -/

/-- An assembler that remembers the labels of the last file. -/
structure Session where
  /-- The assembler. -/
  assembler : Assembler
  /-- The labels of the last file; none when it could not be assembled. -/
  labels? : Option Labels := none
  deriving Repr, Inhabited

namespace Session

/-- Assembles one more file.  A file that cannot be read leaves the session as it is. -/
def assemble (session : Session) (layout : Layout) (file : String) (text? : Option String) :
    Session × Option (Except Fault Assembly) :=
  match text? with
  | none => (session, none)
  | some text =>
      let result := session.assembler.assemble layout file text
      ({ session with labels? := result.toOption.map (·.labels) }, some result)

end Session
end TableAssembler
