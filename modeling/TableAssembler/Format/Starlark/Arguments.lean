import TableAssembler.Format.Starlark.Scope
import TableAssembler.Format.Starlark.Store

/-!
# Arguments of Starlark calls

How the arguments of a call become the values of parameters.
-/

namespace TableAssembler
namespace Starlark

/-- The arguments of a call: those in order, and those under a name. -/
structure Arguments where
  positional : List Value := []
  named : List (List UInt8 × Value) := []

/-- The bytes of a name. -/
def nameBytes (name : String) : List UInt8 := Utf8.encode name.toList

namespace Arguments

/-- The arguments in order when none has a name and their number is within bounds. -/
def inOrder (arguments : Arguments) (least most : Nat) : Eval (List Value) := do
  let count := arguments.positional.length
  Eval.require (arguments.named.isEmpty && decide (least ≤ count) && decide (count ≤ most))
  return arguments.positional

/-- Adds a named argument to the values of parameters. -/
def addNamed? (names : List (List UInt8)) (bound : List (List UInt8 × Value))
    (argument : List UInt8 × Value) : Option (List (List UInt8 × Value)) :=
  if names.contains argument.1 && (bound.lookup argument.1).isNone then some (argument :: bound)
  else none

/-- The values of parameters, the first `least` of which must have one. -/
def values (arguments : Arguments) (least : Nat) (names : List String) :
    Eval (List (Option Value)) := do
  let names := names.map nameBytes
  Eval.require (decide (arguments.positional.length ≤ names.length))
  let bound ← Eval.ofOption
    (arguments.named.foldlM (addNamed? names) (names.zip arguments.positional))
  let values := names.map fun name => bound.lookup name
  Eval.require ((values.take least).all Option.isSome)
  return values

end Arguments

namespace Closure

/-- The names of the parameters of certain kinds. -/
def namesOf (closure : Closure) (test : ParameterKind → Bool) : List String :=
  (closure.parameters.filter fun parameter => test parameter.1).map Prod.snd

/-- The parameters that take one argument. -/
def singleNames (closure : Closure) : List String :=
  closure.namesOf fun kind => kind == .required || kind == .optional

/-- The parameters that take arguments in order: those before the collecting one. -/
def orderedNames (closure : Closure) : List String :=
  let before := closure.parameters.takeWhile fun parameter => !parameter.1.collects
  (before.filter fun parameter => parameter.1 != .otherNames).map Prod.snd

/-- The values of all parameters. -/
def bind (closure : Closure) (arguments : Arguments) : Eval (List (String × Value)) := do
  let ordered := closure.orderedNames
  let surplus := arguments.positional.drop ordered.length
  let others := closure.namesOf (· == .others)
  let otherNames := closure.namesOf (· == .otherNames)
  Eval.require (surplus.isEmpty || !others.isEmpty)
  let single := closure.singleNames.map nameBytes
  let (known, unknown) := arguments.named.partition fun argument => single.contains argument.1
  Eval.require ((unknown.isEmpty || !otherNames.isEmpty) &&
    decide (unknown.map Prod.fst).Nodup)
  let bound ← Eval.ofOption (known.foldlM (Arguments.addNamed? single)
    ((ordered.map nameBytes).zip arguments.positional))
  let ofSingle (name : String) : Option (String × Value) :=
    ((bound.lookup (nameBytes name)).orElse fun _ => closure.defaults.lookup name).map (name, ·)
  let singles ← Eval.ofOption (closure.singleNames.mapM ofSingle)
  let collected ← otherNames.mapM fun name => do
    return (name, ← Store.newDict (unknown.map fun argument => (.text argument.1, argument.2)))
  return singles ++ others.map (·, .tuple surplus) ++ collected

end Closure
end Starlark
end TableAssembler
