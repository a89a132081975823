/-!
# Log entries

What an assembly reports besides its result.  Levels are ordered from the gravest to the most
talkative; a log that is set to a level shows the entries up to it.
-/

namespace TableAssembler
namespace Log

/-- How grave an entry is. -/
inductive Level
  | panic
  | fatal
  | error
  | warning
  | info
  | debug
  | trace
  deriving DecidableEq, Repr, Inhabited

namespace Level

/-- Position in the order from the gravest to the most talkative. -/
def rank : Level → Nat
  | .panic => 0
  | .fatal => 1
  | .error => 2
  | .warning => 3
  | .info => 4
  | .debug => 5
  | .trace => 6

/-- The name of a level. -/
def name : Level → String
  | .panic => "panic"
  | .fatal => "fatal"
  | .error => "error"
  | .warning => "warning"
  | .info => "info"
  | .debug => "debug"
  | .trace => "trace"

/-- The level with a name, in lower case. -/
def ofName? : String → Option Level
  | "panic" => some .panic
  | "fatal" => some .fatal
  | "error" => some .error
  | "warn" | "warning" => some .warning
  | "info" => some .info
  | "debug" => some .debug
  | "trace" => some .trace
  | _ => none

end Level

/-- One report. -/
structure Entry where
  /-- How grave it is. -/
  level : Level
  /-- Its text. -/
  message : String
  /-- Named texts that belong to it. -/
  fields : List (String × String) := []
  deriving DecidableEq, Repr, Inhabited

/-- The entries that a log set to a level shows. -/
def visible (level : Level) (entries : List Entry) : List Entry :=
  entries.filter fun entry => decide (entry.level.rank ≤ level.rank)

/-- The entry about arguments that nothing uses. -/
def extraArguments (location name : String) (count : Nat) : Entry :=
  { level := .warning
    message := location ++ ": " ++ name ++ ": " ++ toString count ++ " extra arguments ignored" }

end Log
end TableAssembler
