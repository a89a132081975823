import TableAssembler.Command.Help

/-!
# Completion of command lines

A shell asks how the last argument of a command line can go on.  The answer is a list of words with
descriptions, and a directive that tells the shell whether names of files would do as well.
-/

namespace TableAssembler
namespace Command

/-- What a shell does with an answer. -/
inductive Directive
  /-- Offer the names of files when there is no completion. -/
  | default
  /-- Offer nothing but the completions. -/
  | noFiles
  deriving DecidableEq, Repr, Inhabited

namespace Directive

/-- The number of a directive. -/
def number : Directive → Nat
  | .default => 0
  | .noFiles => 4

/-- The name of a directive. -/
def name : Directive → String
  | .default => "ShellCompDirectiveDefault"
  | .noFiles => "ShellCompDirectiveNoFileComp"

end Directive

/-- The answer to a shell. -/
structure Completion where
  /-- The completions with their descriptions. -/
  words : List (String × String) := []
  /-- What the shell does. -/
  directive : Directive := .default
  deriving DecidableEq, Repr, Inhabited

namespace Completion

/-- The text of an answer. -/
def text (completion : Completion) (describe : Bool) : String :=
  let line (word : String × String) : String :=
    if describe then word.1 ++ "\t" ++ word.2 ++ "\n" else word.1 ++ "\n"
  String.join (completion.words.map line) ++ ":" ++ toString completion.directive.number ++
    "\nCompletion ended with directive: " ++ completion.directive.name ++ "\n"

/-! ## Values of flags -/

/-- The last argument may be the value of a flag, or a part of it. -/
structure Subject where
  /-- The flag whose value is completed. -/
  flag? : Option Flag := none
  /-- There would be a flag, but the task does not have it. -/
  unknown : Bool := false
  /-- The arguments before the flag. -/
  before : List String
  /-- The text that is completed. -/
  last : String
  deriving DecidableEq, Repr, Inhabited

/-- The part of a text before the first equality sign, and the part after it. -/
def splitValue? (text : List Char) : Option (List Char × List Char) :=
  if text.contains '=' then
    some (text.takeWhile (· != '='), (text.dropWhile (· != '=')).drop 1)
  else none

/-- The name of a flag behind its dashes, or the last of its letters. -/
def flagName : List Char → List Char
  | '-' :: '-' :: name => name
  | letters => letters.getLast?.toList

/-- The name of the flag that an argument is. -/
def nameOf (argument : String) : List Char :=
  match argument.toList with
  | ['-'] | ['-', '-'] => []
  | '-' :: rest => if rest.contains '=' then [] else flagName ('-' :: rest)
  | _ => []

/-- One of some flags by its letter or its name. -/
def findFlag? (flags : List Flag) (name : List Char) : Option Flag :=
  match name with
  | [letter] => flags.find? (·.letter? == some letter)
  | name => flags.find? (·.name == String.ofList name)

/-- The subject when the flag before it counts: that flag, unless it is a switch. -/
def afterFlag (flags : List Flag) (before : List String) (last : String) : Subject :=
  match (before.getLast?.map nameOf).getD [] with
  | [] => { before, last }
  | name =>
      match findFlag? flags name with
      | none => { unknown := true, before, last }
      | some flag =>
          if flag.isSwitch then { before, last }
          else { flag? := some flag, before := before.dropLast, last }

/-- The subject when a flag and its value are one argument. -/
def withValue (flags : List Flag) (before : List String) (argument : String)
    (name value : List Char) : Subject :=
  let last := String.ofList value
  let (name, rest) :=
    if !(flagName name).isEmpty then (flagName name, before)
    else ((before.getLast?.map nameOf).getD [], before.dropLast)
  if name.isEmpty then { before, last }
  else
    match findFlag? flags name with
    | none => { unknown := true, before, last := argument }
    | some flag => { flag? := some flag, before := rest, last }

/-- What is completed after some arguments. -/
def subject (flags : List Flag) (before : List String) (last : String) : Subject :=
  if last.toList.head? == some '-' then
    match splitValue? last.toList with
    | some (name, value) => withValue flags before last name value
    | none => { before, last }
  else afterFlag flags before last

/-! ## Answers -/

/-- The flags that start with a text and are not given. -/
def flagWords (task : Task) (given : List Flag) (start : String) : List (String × String) :=
  let names (flag : Flag) : List String :=
    ("--" ++ flag.name) :: flag.letter?.toList.map fun letter => "-" ++ letter.toString
  (task.flags.filter (!given.contains ·)).flatMap fun flag =>
    ((names flag).filter fun name => start.toList.isPrefixOf name.toList).map
      (·, flag.purpose task)

/-- The shells that start with a text. -/
def shellWords (start : String) : List (String × String) :=
  (Shell.all.filter fun shell => start.toList.isPrefixOf shell.name.toList).map
    fun shell => (shell.name, shell.purpose)

/-- The completions of the last argument of a task. -/
def ofTask (task : Task) (before : List String) (last : String) : Completion :=
  let subject := subject task.flags before last
  match ({} : Options).read task.flags subject.before,
      ({} : Options).read task.flags (subject.before ++ ["--"]) with
  | .ok (options, files), .ok (_, marked) =>
      let flagsEnded := decide (files.length < marked.length)
      if subject.unknown && !flagsEnded then {}
      else if options.given.contains .help then { directive := .noFiles }
      else if subject.flag?.isNone && subject.last.toList.head? == some '-' &&
          !subject.last.toList.contains '=' && !flagsEnded then
        { words := flagWords task options.given subject.last, directive := .noFiles }
      else
        let words := if task = .completion && subject.flag?.isNone && files.isEmpty then
            shellWords subject.last
          else []
        let ownFiles := task = .assemble || (subject.flag?.isSome && !flagsEnded)
        { words, directive := if ownFiles then .default else .noFiles }
  | _, _ => {}

/-- The completions of the last argument, which follows some others. -/
def ofArguments (before : List String) (last : String) : Completion :=
  match before with
  | word :: rest =>
      if word = Task.name .completion then
        let (task, before) := Task.ofShell rest
        ofTask task before last
      else ofTask .assemble before last
  | [] => ofTask .assemble [] last

end Completion
end Command
end TableAssembler
