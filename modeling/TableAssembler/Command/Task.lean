import TableAssembler.Command.Options

/-!
# Tasks

The first argument that is no flag tells what to do.  Most often it is a file to assemble; some
words ask for the completion of command lines instead.
-/

namespace TableAssembler
namespace Command

/-- A shell that can complete command lines. -/
inductive Shell
  | bash
  | fish
  | powershell
  | zsh
  deriving DecidableEq, Repr, Inhabited

namespace Shell

/-- All shells in the order of their names. -/
def all : List Shell := [.bash, .fish, .powershell, .zsh]

/-- The name of a shell. -/
def name : Shell → String
  | .bash => "bash"
  | .fish => "fish"
  | .powershell => "powershell"
  | .zsh => "zsh"

/-- What the task of a shell does. -/
def purpose (shell : Shell) : String := "Generate the autocompletion script for " ++ shell.name

end Shell

/-- What a run does. -/
inductive Task
  /-- Assembles a source. -/
  | assemble
  /-- Tells which shells there are. -/
  | completion
  /-- Writes the script with which a shell completes command lines. -/
  | script (shell : Shell)
  /-- Completes a command line for a shell. -/
  | complete (describe : Bool)
  deriving DecidableEq, Repr, Inhabited

namespace Task

/-- The name of the program. -/
def program : String := "bitasm"

/-- The last word of a command. -/
def name : Task → String
  | .assemble => program
  | .completion => "completion"
  | .script shell => shell.name
  | .complete true => "__complete"
  | .complete false => "__completeNoDesc"

/-- The words of a command. -/
def path : Task → String
  | .assemble => program
  | .script shell => program ++ " " ++ name .completion ++ " " ++ shell.name
  | task => program ++ " " ++ task.name

/-- The flags of a task besides the one for help, in the order of their names. -/
def ownFlags : Task → List Flag
  | .assemble => [.isa, .layout, .listing, .logLevel, .mnemonics, .output, .verbose]
  | .script _ => [.noDescriptions]
  | _ => []

/-- The flags of a task in the order of their names. -/
def flags (task : Task) : List Flag := .help :: task.ownFlags

/-! ## Words -/

/-- The argument is a flag whose value is the next argument, as far as the flags of the task tell:
a flag that the task does not have counts as one with a value, and so does the one for help. -/
def awaitsValue (task : Task) (argument : String) : Bool :=
  let switches := task.ownFlags.filter Flag.isSwitch
  match argument.toList with
  | '-' :: '-' :: name =>
      !name.contains '=' && !switches.any (·.name == String.ofList name)
  | ['-', letter] =>
      letter != '=' && decide (letter.toNat < 128) && !switches.any (·.letter? == some letter)
  | _ => false

/-- The first argument that is no flag and not the value of one, and all other arguments. -/
def word? (task : Task) : List String → Option (String × List String)
  | [] => none
  | argument :: rest =>
      if argument = "--" then none
      else if task.awaitsValue argument then
        match rest with
        | value :: next :: rest =>
            (task.word? (next :: rest)).map fun (word, others) =>
              (word, argument :: value :: others)
        | _ => none
      else if argument.isEmpty || argument.toList.head? == some '-' then
        (task.word? rest).map fun (word, others) => (word, argument :: others)
      else some (argument, rest)

/-- The task of arguments that follow the word for completion, and its arguments. -/
def ofShell (arguments : List String) : Task × List String :=
  match word? .completion arguments with
  | some (word, others) =>
      match Shell.all.find? (·.name == word) with
      | some shell => (.script shell, others)
      | none => (.completion, arguments)
  | none => (.completion, arguments)

/-- The task of a run and its arguments. -/
def ofArguments (arguments : List String) : Task × List String :=
  match word? .assemble arguments with
  | some (word, others) =>
      if word = name .completion then ofShell others
      else if word = name (.complete true) then (.complete true, others)
      else if word = name (.complete false) then (.complete false, others)
      else (.assemble, arguments)
  | none => (.assemble, arguments)

end Task
end Command
end TableAssembler
