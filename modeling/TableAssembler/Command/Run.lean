import TableAssembler.Assembly.Basic
import TableAssembler.Command.Completion
import TableAssembler.Format.Load

/-!
# The command

A run reads its files from a directory, and leaves a directory, what standard output took, a level
of the log with entries, and perhaps a failure.  The image is written first, the listing after it,
and a line about both last; what is written to can refuse each of them, in part or as a whole.  Only
the texts that help on the use of the command, and the names that complete its arguments, are taken
to reach standard output as they are.
-/

namespace TableAssembler
namespace Command

/-- Why a run failed. -/
inductive Failure
  | usage (fault : UsageFault)
  /-- No level has this name. -/
  | unknownLevel (name : String)
  /-- There is not exactly one source. -/
  | sourceMissing
  /-- A file cannot be read or written. -/
  | file (fault : FileFault)
  /-- The configuration of the instruction set cannot be loaded. -/
  | config (fault : ConfigFault)
  /-- The instruction set of a file cannot be compiled. -/
  | set (path : String) (cause : Cause)
  /-- The program or its pseudo-instructions cannot be assembled. -/
  | assembly (fault : Fault)
  deriving DecidableEq, Repr, Inhabited

namespace Failure

/-- The wording of a failure. -/
def message : Failure → String
  | .usage fault => fault.message
  | .unknownLevel name => "not a valid logrus Level: " ++ Quoted.text name
  | .sourceMissing => "expected a single source file"
  | .file fault => fault.message
  | .config fault => fault.message
  | .set path cause => path ++ ": " ++ cause.message
  | .assembly fault => fault.message

end Failure

/-- How everything that a run writes to takes what it is given. -/
structure Environment where
  /-- The file of the image. -/
  image : FileWriter := {}
  /-- The file of the listing. -/
  listing : FileWriter := {}
  /-- Standard output. -/
  stdout : Writer := {}

/-- What a run leaves. -/
structure Outcome where
  /-- The files after the run. -/
  directory : Directory
  /-- The bytes on standard output. -/
  stdout : List UInt8 := []
  /-- The reports, whatever the level of the log. -/
  entries : List Log.Entry := []
  /-- The failure that ended the run. -/
  failure? : Option Failure := none
  deriving Repr, Inhabited

/-- An outcome without effects. -/
def Outcome.fail (directory : Directory) (failure : Failure) : Outcome :=
  { directory, failure? := some failure }

/-- The compiled instruction set of a file, or the builtin one. -/
def loadSet (directory : Directory) (path : String) : Except Failure InstructionSet :=
  if path.isEmpty then InstructionSet.builtin.mapError fun cause => .assembly (.nowhere cause)
  else do
    let config ← (Config.load directory path).mapError .config
    (InstructionSet.compile config).mapError (.set path)

/-- A source that is ready to be assembled. -/
structure Job where
  /-- The assembler of the instruction set. -/
  assembler : Assembler
  /-- How addresses are counted. -/
  layout : Layout
  /-- The path of the source. -/
  source : String
  /-- The text of the source. -/
  text : String

/-- Finds everything that the assembly of a source needs. -/
def prepare (directory : Directory) (options : Options) (set : InstructionSet)
    (files : List String) : Except Failure Job := do
  let source ← match files with
    | [source] => .ok source
    | _ => .error .sourceMissing
  let layout ← (Layout.parse options.layout).mapError fun cause => .assembly (.nowhere cause)
  let assembler ← (Assembler.ofSet set).mapError .assembly
  let bytes ← (directory.read source).mapError .file
  return { assembler, layout, source, text := String.ofList (Utf8.decode bytes) }

/-- The last line of a run that succeeded. -/
def summary (output : String) (image : Image) : String :=
  "Assembled file: " ++ output ++ " (" ++ Numeral.grouped image.bytes.length ++ " bytes)\n"

/-- The path of the image of a source. -/
def outputPath (options : Options) (source : String) : String :=
  if options.output.isEmpty then Path.binaryName source else options.output

/-- The bytes of texts that are written one by one. -/
def encoded (texts : List String) : List (List UInt8) := texts.map (·.toUTF8.toList)

/-- The path by which standard output is known. -/
def stdoutPath : String := "/dev/stdout"

/-- Ends a run with texts on standard output. -/
def Environment.print (environment : Environment) (directory : Directory)
    (texts : List String) : Outcome :=
  let writing := environment.stdout.write (encoded texts)
  { directory
    stdout := writing.bytes
    failure? := writing.refused?.map fun reason => .file ⟨"write", stdoutPath, .refused reason⟩ }

/-- Writes the listing, nowhere, on standard output or to a file, and ends with a last line. -/
def writeListing (environment : Environment) (directory : Directory) (path : String)
    (image : Image) (last : String) : Outcome :=
  if path.isEmpty then environment.print directory [last]
  else if path = "-" then environment.print directory (image.listing ++ [last])
  else
    match directory.write environment.listing path (encoded image.listing) with
    | (directory, some fault) => .fail directory (.file fault)
    | (directory, none) => environment.print directory [last]

/-- Writes the image and then the listing. -/
def writeImage (environment : Environment) (directory : Directory) (options : Options)
    (source : String) (image : Image) : Outcome :=
  let output := outputPath options source
  match directory.write environment.image output [image.bytes] with
  | (directory, some fault) => .fail directory (.file fault)
  | (directory, none) =>
      writeListing environment directory options.listing image (summary output image)

/-- Assembles a source that is ready. -/
def Job.run (job : Job) (environment : Environment) (directory : Directory) (options : Options) :
    Outcome :=
  let outcome :=
    match job.assembler.assemble job.layout job.source job.text with
    | .error fault => Outcome.fail directory (.assembly fault)
    | .ok assembly => writeImage environment directory options job.source assembly.image
  { outcome with
    entries := job.assembler.entries job.layout options.verbose job.source job.text }

/-- The body of the command.  What is refused of a list of mnemonics goes unnoticed. -/
def execute (environment : Environment) (directory : Directory) (options : Options)
    (files : List String) : Outcome :=
  match loadSet directory options.isa with
  | .error failure => .fail directory failure
  | .ok set =>
      if options.mnemonics then
        let lines := set.mnemonics.map (· ++ "\n")
        { directory, stdout := environment.stdout.attempt (encoded lines) }
      else
        match prepare directory options set files with
        | .error failure => .fail directory failure
        | .ok job => job.run environment directory options

/-- The level that the options set; a verbose log shows what every stage reports. -/
def Options.level (options : Options) : Except Failure Log.Level :=
  match Log.Level.ofName? (Text.lower options.logLevel) with
  | none => .error (.unknownLevel options.logLevel)
  | some level =>
      .ok (if options.verbose && level.rank < Log.Level.debug.rank then .debug else level)

/-- The paths that a run with some arguments can read or write. -/
def paths (arguments : List String) : List String :=
  match Task.ofArguments arguments with
  | (.assemble, arguments) =>
      match ({} : Options).read (Task.flags .assemble) arguments with
      | .error _ => []
      | .ok (options, files) =>
          (options.isa :: options.listing :: files ++ files.map (outputPath options)).filter
            fun path => !path.isEmpty
  | _ => []

/-- What stays from one run to the next. -/
structure State where
  /-- The files. -/
  directory : Directory
  /-- The level of the log. -/
  level : Log.Level := .debug
  deriving Repr, Inhabited

/-- A run that fails before it sets the level. -/
def State.fail (state : State) (failure : Failure) : State × Outcome :=
  (state, .fail state.directory failure)

/-- A run that sets the level by its options, and then does something with the files. -/
def State.proceed (state : State) (options : Options) (action : Directory → Outcome) :
    State × Outcome :=
  match options.level with
  | .error failure => state.fail failure
  | .ok level =>
      let outcome := action state.directory
      ({ directory := outcome.directory, level },
        { outcome with entries := Log.visible level outcome.entries })

/-- A run that does nothing but print a text. -/
def printed (text : String) (directory : Directory) : Outcome :=
  { directory, stdout := text.toUTF8.toList }

/-- Runs a task with options and files.  The scripts of shells are not a part of the program: a
task that asks for one prints nothing. -/
def perform (environment : Environment) (state : State) (task : Task) (options : Options)
    (files : List String) : State × Outcome :=
  if options.help || task = .completion then (state, printed task.help state.directory)
  else
    match task, files with
    | .assemble, files => state.proceed options (execute environment · options files)
    | task, word :: _ => state.fail (.usage (.unknownCommand word task.path))
    | _, [] => state.proceed {} (printed "")

/-- Runs the command with its arguments. -/
def run (environment : Environment) (state : State) (arguments : List String) :
    State × Outcome :=
  match Task.ofArguments arguments with
  | (.complete describe, arguments) =>
      match arguments.getLast? with
      | none => state.fail (.usage .nothingToComplete)
      | some last =>
          let completion := Completion.ofArguments arguments.dropLast last
          state.proceed {} (printed (completion.text describe))
  | (task, arguments) =>
      match ({} : Options).read task.flags arguments with
      | .error fault => state.fail (.usage fault)
      | .ok (options, files) => perform environment state task options files

end Command
end TableAssembler
