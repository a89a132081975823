import TableAssembler.Format.Starlark.Syntax

/-!
# Names of Starlark programs

Which names the blocks of a program bind, and the rules that a program must keep before it runs:
every name is bound somewhere, a name of the program is bound once, and jumps, targets, parameters
and arguments stand where they may.
-/

namespace TableAssembler
namespace Starlark

/-- The names that every program can use. -/
def universalNames : List String :=
  ["None", "True", "False", "abs", "all", "any", "bool", "bytes", "chr", "dict", "dir",
    "enumerate", "fail", "float", "getattr", "hasattr", "hash", "int", "len", "list", "max", "min",
    "ord", "print", "range", "repr", "reversed", "sorted", "str", "tuple", "type", "zip"]

/-! ## Bound names -/

mutual

/-- The names that a target binds. -/
def Expr.targetNames : Expr → List String
  | .name text => [text]
  | .list items => targetNamesOfAll items
  | .tuple items => targetNamesOfAll items
  | _ => []

/-- The names that targets bind. -/
def targetNamesOfAll : List Expr → List String
  | [] => []
  | item :: rest => item.targetNames ++ targetNamesOfAll rest

end

mutual

/-- The names that a statement binds in its block. -/
def Stmt.boundNames : Stmt → List String
  | .assign target _ => target.targetNames
  | .augment target _ _ => target.targetNames
  | .define name _ => [name]
  | .branch _ yes no => boundNamesOfAll yes ++ boundNamesOfAll no
  | .loop target _ body => target.targetNames ++ boundNamesOfAll body
  | _ => []

/-- The names that statements bind in their block. -/
def boundNamesOfAll : List Stmt → List String
  | [] => []
  | statement :: rest => statement.boundNames ++ boundNamesOfAll rest

end

/-- The names that a comprehension binds. -/
def clauseNames (clauses : List (Option Expr × Expr)) : List String :=
  clauses.flatMap fun clause => (clause.1.map Expr.targetNames).getD []

/-- The names of parameters. -/
def parameterNames (parameters : List (ParameterKind × String × Option Expr)) : List String :=
  (parameters.filter fun parameter => parameter.1 != .divider).map fun parameter => parameter.2.1

/-! ## Order of parameters and arguments -/

/-- A parameter that takes the arguments which others leave. -/
def ParameterKind.collects : ParameterKind → Bool
  | .divider | .others => true
  | _ => false

/-- No name is taken twice, parameters that need an argument come before those that do not unless
they are given by name, at most one mark or collecting parameter divides them, nothing follows the
collection of named arguments, and something follows a bare mark. -/
def parametersPlaced (parameters : List (ParameterKind × String × Option Expr)) : Bool :=
  let kinds := parameters.map Prod.fst
  let places := kinds.takeWhile fun kind => !kind.collects
  let behind := kinds.drop places.length
  let named := behind.drop 1
  decide (parameterNames parameters).Nodup &&
    !(places.dropWhile (· == .required)).contains .required &&
    !named.any ParameterKind.collects &&
    !kinds.dropLast.contains .otherNames &&
    (behind.head? != some .divider || named.any (· != .otherNames))

/-- The place of an argument among the others. -/
def ArgumentKind.rank : ArgumentKind → Nat
  | .positional => 0
  | .named _ => 1
  | .spread => 2
  | .spreadNamed => 3

/-- The number of arguments of a kind that a call may have. -/
def mostArguments : Nat := 255

/-- Arguments come in the order of their kinds, no name is given twice, and neither are
collections. -/
def argumentsPlaced (kinds : List ArgumentKind) : Bool :=
  let ranks := kinds.map ArgumentKind.rank
  let names := kinds.filter fun kind => kind.rank != 0
  decide (ranks.Pairwise (· ≤ ·)) && decide names.Nodup &&
    decide (ranks.count 0 ≤ mostArguments) && decide (ranks.count 1 ≤ mostArguments)

/-! ## Rules -/

/-- What may stand at a place of a program. -/
structure Place where
  /-- The names that can be used. -/
  names : List String
  /-- The place belongs to a function. -/
  inFunction : Bool := false
  /-- The place belongs to a loop. -/
  inLoop : Bool := false

/-- A place where further names can be used. -/
def Place.binding (place : Place) (names : List String) : Place :=
  { place with names := names ++ place.names }

mutual

/-- An expression keeps the rules. -/
def Expr.valid (place : Place) : Expr → Bool
  | .literal _ => true
  | .name text => place.names.contains text
  | .list items => allValid place items
  | .tuple items => allValid place items
  | .dict entries => entriesValid place entries
  | .listOf _ item clauses =>
      let inner := place.binding (clauseNames clauses)
      comprehensionValid place inner clauses && item.valid inner
  | .dictOf _ key value clauses =>
      let inner := place.binding (clauseNames clauses)
      comprehensionValid place inner clauses && key.valid inner && value.valid inner
  | .unary _ operand => operand.valid place
  | .binary _ left right => left.valid place && right.valid place
  | .both left right => left.valid place && right.valid place
  | .either left right => left.valid place && right.valid place
  | .choice condition yes no => condition.valid place && yes.valid place && no.valid place
  | .call function arguments =>
      function.valid place && argumentsPlaced (arguments.map Prod.fst) &&
        argumentsValid place arguments
  | .index container key => container.valid place && key.valid place
  | .slice container low high step =>
      container.valid place && optionValid place low && optionValid place high &&
        optionValid place step
  | .attribute object _ => object.valid place
  | .function _ _ parameters body =>
      let names := parameterNames parameters ++ boundNamesOfAll body
      parametersPlaced parameters && defaultsValid place parameters &&
        blockValid { (place.binding names) with inFunction := true, inLoop := false } body

/-- Expressions keep the rules. -/
def allValid (place : Place) : List Expr → Bool
  | [] => true
  | item :: rest => item.valid place && allValid place rest

/-- An expression that may be missing keeps the rules. -/
def optionValid (place : Place) : Option Expr → Bool
  | none => true
  | some value => value.valid place

/-- Keys and values keep the rules. -/
def entriesValid (place : Place) : List (Expr × Expr) → Bool
  | [] => true
  | (key, value) :: rest => key.valid place && value.valid place && entriesValid place rest

/-- Arguments keep the rules. -/
def argumentsValid (place : Place) : List (ArgumentKind × Expr) → Bool
  | [] => true
  | (_, value) :: rest => value.valid place && argumentsValid place rest

/-- The values of parameters without an argument keep the rules. -/
def defaultsValid (place : Place) : List (ParameterKind × String × Option Expr) → Bool
  | [] => true
  | (_, _, value) :: rest => optionValid place value && defaultsValid place rest

/-- The clauses of a comprehension keep the rules; the iterable of the first one stands outside. -/
def comprehensionValid (outer inner : Place) : List (Option Expr × Expr) → Bool
  | [] => true
  | (none, condition) :: rest => condition.valid outer && comprehensionValid inner inner rest
  | (some target, iterable) :: rest =>
      iterable.valid outer && target.validTarget inner && comprehensionValid inner inner rest

/-- An expression can be assigned to. -/
def Expr.validTarget (place : Place) : Expr → Bool
  | .name _ => true
  | .index container key => container.valid place && key.valid place
  | .attribute object _ => object.valid place
  | .list items => targetsValid place items
  | .tuple items => targetsValid place items
  | _ => false

/-- Expressions can be assigned to. -/
def targetsValid (place : Place) : List Expr → Bool
  | [] => true
  | item :: rest => item.validTarget place && targetsValid place rest

/-- A statement keeps the rules. -/
def Stmt.valid (place : Place) : Stmt → Bool
  | .evaluate value => value.valid place
  | .assign target value => value.valid place && target.validTarget place
  | .augment target _ value =>
      value.valid place && target.validTarget place &&
        (match target with
          | .list _ | .tuple _ => false
          | _ => true)
  | .define _ function => function.valid place
  | .branch condition yes no =>
      place.inFunction && condition.valid place && blockValid place yes && blockValid place no
  | .loop target iterable body =>
      place.inFunction && iterable.valid place && target.validTarget place &&
        blockValid { place with inLoop := true } body
  | .result value => place.inFunction && optionValid place value
  | .leave => place.inLoop
  | .next => place.inLoop
  | .pass => true

/-- Statements keep the rules. -/
def blockValid (place : Place) : List Stmt → Bool
  | [] => true
  | statement :: rest => statement.valid place && blockValid place rest

end

/-- A program keeps the rules. -/
def programValid (statements : List Stmt) : Bool :=
  let names := boundNamesOfAll statements
  decide names.Nodup && blockValid { names := names ++ universalNames } statements

end Starlark
end TableAssembler
