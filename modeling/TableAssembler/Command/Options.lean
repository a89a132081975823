import TableAssembler.Text.Quoted

/-!
# Options of commands

Flags stand anywhere among the arguments, up to a double dash.  A flag has a long name and may
have a letter; letters of switches can be joined, and a value can follow in the same argument or
in the next one.
-/

namespace TableAssembler
namespace Command

/-- The flags of all commands, in the order of their names. -/
inductive Flag
  | help
  | isa
  | layout
  | listing
  | logLevel
  | mnemonics
  | noDescriptions
  | output
  | verbose
  deriving DecidableEq, Repr, Inhabited

namespace Flag

/-- The long name of a flag. -/
def name : Flag → String
  | .help => "help"
  | .isa => "isa"
  | .layout => "layout"
  | .listing => "listing"
  | .logLevel => "log-level"
  | .mnemonics => "mnemonics"
  | .noDescriptions => "no-descriptions"
  | .output => "output"
  | .verbose => "verbose"

/-- The letter of a flag. -/
def letter? : Flag → Option Char
  | .help => some 'h'
  | .listing => some 'l'
  | .output => some 'o'
  | .verbose => some 'v'
  | _ => none

/-- The flag is on or off, and is on when it has no value. -/
def isSwitch : Flag → Bool
  | .help | .mnemonics | .noDescriptions | .verbose => true
  | _ => false

/-- The names of a flag in messages. -/
def title (flag : Flag) : String :=
  match flag.letter? with
  | some letter => "-" ++ letter.toString ++ ", --" ++ flag.name
  | none => "--" ++ flag.name

end Flag

/-- What is wrong with the arguments. -/
inductive UsageFault
  | unknownFlag (name : String)
  | unknownLetter (letter : Char) (letters : String)
  | badFlag (argument : String)
  | valueMissing (argument : String)
  | letterValueMissing (letter : Char) (letters : String)
  | notSwitch (flag : Flag) (value : String)
  /-- A command of a path that takes no arguments has one. -/
  | unknownCommand (word path : String)
  /-- There is no argument to complete. -/
  | nothingToComplete
  deriving DecidableEq, Repr, Inhabited

namespace UsageFault

/-- The wording of a fault. -/
def message : UsageFault → String
  | .unknownFlag name => "unknown flag: --" ++ name
  | .unknownLetter letter letters =>
      "unknown shorthand flag: " ++ Quoted.character letter ++ " in -" ++ letters
  | .badFlag argument => "bad flag syntax: " ++ argument
  | .valueMissing argument => "flag needs an argument: " ++ argument
  | .letterValueMissing letter letters =>
      "flag needs an argument: " ++ Quoted.character letter ++ " in -" ++ letters
  | .notSwitch flag value =>
      "invalid argument " ++ Quoted.text value ++ " for " ++ Quoted.text flag.title ++
        " flag: strconv.ParseBool: parsing " ++ Quoted.text value ++ ": invalid syntax"
  | .unknownCommand word path =>
      "unknown command " ++ Quoted.text word ++ " for " ++ Quoted.text path
  | .nothingToComplete => "requires at least 1 arg(s), only received 0"

end UsageFault

/-- The values of the flags. -/
structure Options where
  /-- Print the help. -/
  help : Bool := false
  /-- File of the instruction set; empty for the builtin one. -/
  isa : String := ""
  /-- Name of the layout. -/
  layout : String := "units"
  /-- File of the listing; empty for none, a dash for standard output. -/
  listing : String := ""
  /-- Name of the level of the log. -/
  logLevel : String := "warning"
  /-- Print the mnemonics. -/
  mnemonics : Bool := false
  /-- Leave descriptions out of completions. -/
  noDescriptions : Bool := false
  /-- File of the image; empty for the default name. -/
  output : String := ""
  /-- Report every stage. -/
  verbose : Bool := false
  /-- The flags that are given. -/
  given : List Flag := []
  deriving DecidableEq, Repr, Inhabited

namespace Options

/-- The state that a text gives to a switch. -/
def switch? (value : String) : Option Bool :=
  if ["1", "t", "T", "true", "TRUE", "True"].contains value then some true
  else if ["0", "f", "F", "false", "FALSE", "False"].contains value then some false
  else none

/-- The options with a value for a flag. -/
def set (options : Options) (flag : Flag) (value : String) : Except UsageFault Options :=
  let options := { options with given := flag :: options.given }
  let switch (change : Bool → Options) : Except UsageFault Options :=
    match switch? value with
    | some state => .ok (change state)
    | none => .error (.notSwitch flag value)
  match flag with
  | .help => switch fun help => { options with help }
  | .isa => .ok { options with isa := value }
  | .layout => .ok { options with layout := value }
  | .listing => .ok { options with listing := value }
  | .logLevel => .ok { options with logLevel := value }
  | .mnemonics => switch fun mnemonics => { options with mnemonics }
  | .noDescriptions => switch fun noDescriptions => { options with noDescriptions }
  | .output => .ok { options with output := value }
  | .verbose => switch fun verbose => { options with verbose }

/-- Reads one of some flags with its long name, behind its dashes.  The result tells whether the
value was the next argument. -/
def long (flags : List Flag) (options : Options) (argument : String) (next? : Option String) :
    Except UsageFault (Options × Bool) :=
  let text := argument.toList.drop 2
  let name := String.ofList (text.takeWhile (· != '='))
  if text.head? == some '-' || text.head? == some '=' then .error (.badFlag argument)
  else
    match flags.find? (·.name == name) with
    | none => .error (.unknownFlag name)
    | some flag =>
        match text.dropWhile (· != '='), next? with
        | _ :: value, _ => (options.set flag (String.ofList value)).map (·, false)
        | [], next? =>
            if flag.isSwitch then (options.set flag "true").map (·, false)
            else
              match next? with
              | some value => (options.set flag value).map (·, true)
              | none => .error (.valueMissing argument)

/-- The first byte of a character, as a character. -/
def leadByte (c : Char) : Char :=
  match (String.ofList [c]).toUTF8.toList with
  | byte :: _ => Char.ofNat byte.toNat
  | [] => c

/-- Reads the letters of some flags behind a dash.  The result tells whether the value was the next
argument. -/
def letters (flags : List Flag) (options : Options) (next? : Option String) :
    List Char → Except UsageFault (Options × Bool)
  | [] => .ok (options, false)
  | letter :: rest =>
      if "test.".toList.isPrefixOf (letter :: rest) then .ok (options, false)
      else
        match flags.find? (·.letter? == some letter) with
        | none => .error (.unknownLetter (leadByte letter) (String.ofList (letter :: rest)))
        | some flag =>
            match rest with
            | '=' :: c :: value =>
                (options.set flag (String.ofList (c :: value))).map (·, false)
            | _ =>
                if flag.isSwitch then do
                  let options ← options.set flag "true"
                  letters flags options next? rest
                else if rest.isEmpty then
                  match next? with
                  | some value => (options.set flag value).map (·, true)
                  | none => .error (.letterValueMissing letter (String.ofList [letter]))
                else (options.set flag (String.ofList rest)).map (·, false)

/-- The argument is a flag, not a file. -/
def isFlag (argument : String) : Bool :=
  argument.toList.head? == some '-' && argument != "-"

/-- Reads one of some flags.  The result tells whether its value was the next argument. -/
def flag (flags : List Flag) (options : Options) (argument : String) (next? : Option String) :
    Except UsageFault (Options × Bool) :=
  if argument.toList.take 2 == ['-', '-'] then options.long flags argument next?
  else options.letters flags next? (argument.toList.drop 1)

/-- Reads arguments with some flags into options, and gives back the files. -/
def read (flags : List Flag) (options : Options) (arguments : List String) :
    Except UsageFault (Options × List String) :=
  match arguments with
  | [] => .ok (options, [])
  | argument :: rest =>
      if argument = "--" then .ok (options, rest)
      else if isFlag argument then do
        let (options, usedNext) ← options.flag flags argument rest.head?
        options.read flags (rest.drop (if usedNext then 1 else 0))
      else do
        let (options, files) ← options.read flags rest
        return (options, argument :: files)
termination_by arguments.length
decreasing_by all_goals simp only [List.length_cons, List.length_drop]; omega

end Options
end Command
end TableAssembler
