import TableAssembler.Command.Task

/-!
# Help

The texts that explain the commands and their flags, in aligned columns.
-/

namespace TableAssembler
namespace Command

/-! ## Flags -/

namespace Flag

/-- What a flag of a task does. -/
def purpose (task : Task) : Flag → String
  | .help => "help for " ++ task.name
  | .isa => "instruction set file (.star, .yaml or .yml)"
  | .layout => "label layout: units or bytes"
  | .listing => "write a listing to FILE, or '-' for standard output"
  | .logLevel => "log messages above specified level (debug, info, warn, error)"
  | .mnemonics => "list the mnemonics of the instruction set and exit"
  | .noDescriptions => "disable completion descriptions"
  | .output => "output file (default: SOURCE with a .bin extension)"
  | .verbose => "log every assembler stage"

/-- The value of a flag that is not given, when it has one. -/
def default? : Flag → Option String
  | .layout => some ({} : Options).layout
  | .logLevel => some ({} : Options).logLevel
  | _ => none

/-- The names of a flag and the type of its value. -/
def usage (flag : Flag) : String :=
  let names := match flag.letter? with
    | some letter => "  -" ++ letter.toString ++ ", --" ++ flag.name
    | none => "      --" ++ flag.name
  if flag.isSwitch then names else names ++ " string"

end Flag

/-- A text that is filled up with blanks to a width. -/
def padded (width : Nat) (text : String) : String :=
  text ++ String.ofList (List.replicate (width - text.length) ' ')

namespace Task

/-- The column in which the purposes of flags start. -/
def purposeColumn (task : Task) : Nat :=
  (task.flags.map fun flag => flag.usage.length).foldl max 0 + 3

/-- The line about a flag. -/
def helpLine (task : Task) (flag : Flag) : String :=
  let default := match flag.default? with
    | some value => " (default " ++ Quoted.text value ++ ")"
    | none => ""
  padded task.purposeColumn flag.usage ++ flag.purpose task ++ default ++ "\n"

/-! ## Tasks -/

/-- What the script of a shell is for and how it is loaded. -/
def scriptDescription : Shell → String
  | .bash =>
      "Generate the autocompletion script for the bash shell.\n\n" ++
        "This script depends on the 'bash-completion' package.\n" ++
        "If it is not installed already, you can install it via your OS's package manager.\n\n" ++
        "To load completions in your current shell session:\n\n" ++
        "\tsource <(bitasm completion bash)\n\n" ++
        "To load completions for every new session, execute once:\n\n#### Linux:\n\n" ++
        "\tbitasm completion bash > /etc/bash_completion.d/bitasm\n\n#### macOS:\n\n" ++
        "\tbitasm completion bash > $(brew --prefix)/etc/bash_completion.d/bitasm\n\n" ++
        "You will need to start a new shell for this setup to take effect."
  | .fish =>
      "Generate the autocompletion script for the fish shell.\n\n" ++
        "To load completions in your current shell session:\n\n" ++
        "\tbitasm completion fish | source\n\n" ++
        "To load completions for every new session, execute once:\n\n" ++
        "\tbitasm completion fish > ~/.config/fish/completions/bitasm.fish\n\n" ++
        "You will need to start a new shell for this setup to take effect."
  | .powershell =>
      "Generate the autocompletion script for powershell.\n\n" ++
        "To load completions in your current shell session:\n\n" ++
        "\tbitasm completion powershell | Out-String | Invoke-Expression\n\n" ++
        "To load completions for every new session, add the output of the above command\n" ++
        "to your powershell profile."
  | .zsh =>
      "Generate the autocompletion script for the zsh shell.\n\n" ++
        "If shell completion is not already enabled in your environment you will need\n" ++
        "to enable it.  You can execute the following once:\n\n" ++
        "\techo \"autoload -U compinit; compinit\" >> ~/.zshrc\n\n" ++
        "To load completions in your current shell session:\n\n" ++
        "\tsource <(bitasm completion zsh)\n\n" ++
        "To load completions for every new session, execute once:\n\n#### Linux:\n\n" ++
        "\tbitasm completion zsh > \"$\x7bfpath[1]\x7d/_bitasm\"\n\n#### macOS:\n\n" ++
        "\tbitasm completion zsh > $(brew --prefix)/share/zsh/site-functions/_bitasm\n\n" ++
        "You will need to start a new shell for this setup to take effect."

/-- What a task does. -/
def description : Task → String
  | .assemble =>
      "Assembles SOURCE into a flat big-endian binary.\n\n" ++
        "The instruction set is builtin, or loaded from a Starlark (.star) or\n" ++
        "YAML (.yaml, .yml) file defining tables, instructions and pseudo."
  | .script shell => scriptDescription shell
  | _ =>
      "Generate the autocompletion script for bitasm for the specified shell.\n" ++
        "See each sub-command's help for details on how to use the generated script."

/-- How a task is called. -/
def synopsis : Task → String
  | .assemble => "bitasm [options] SOURCE [flags]"
  | .script .bash => path (.script .bash)
  | .script shell => path (.script shell) ++ " [flags]"
  | task => task.path ++ " [command]"

/-- The width of the names of shells in the help. -/
def shellWidth : Nat := 12

/-- The lines about the shells. -/
def shellLines : String :=
  String.join (Shell.all.map fun shell =>
    "  " ++ padded shellWidth shell.name ++ shell.purpose ++ "\n")

/-- The help of a task. -/
def help (task : Task) : String :=
  let commands := if task = .completion then "\nAvailable Commands:\n" ++ shellLines else ""
  let ending := if task = .completion then
      "\nUse \"" ++ task.path ++ " [command] --help\" for more information about a command.\n"
    else ""
  task.description ++ "\n\nUsage:\n  " ++ task.synopsis ++ "\n" ++ commands ++ "\nFlags:\n" ++
    String.join (task.flags.map task.helpLine) ++ ending

end Task
end Command
end TableAssembler
