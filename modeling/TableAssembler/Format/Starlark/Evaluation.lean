import TableAssembler.Format.Starlark.Grammar
import TableAssembler.Format.Starlark.Method

/-!
# Evaluation of Starlark programs

Programs run statement by statement on a store.  No function calls itself and every loop goes
through a finite sequence, so the depth of the recursion is bounded by the size of the program; the
first argument of an evaluation is such a bound.
-/

namespace TableAssembler
namespace Starlark

/-- Where an evaluation takes place. -/
structure Context where
  /-- The addresses of the frames around it, the innermost first. -/
  frames : List Nat
  /-- The frame of the function or the program that is running. -/
  home : Nat
  /-- The functions that are being called, by their numbers. -/
  active : List Nat := []

/-- A context inside of another frame. -/
def Context.inside (context : Context) (frame : Nat) : Context :=
  { context with frames := frame :: context.frames }

/-- How a statement ends. -/
inductive Outcome
  /-- The next statement follows. -/
  | done
  /-- The loop ends. -/
  | leave
  /-- The next element of the loop follows. -/
  | next
  /-- The function ends. -/
  | result (value : Value)

/-- The value of a literal. -/
def Literal.value : Literal → Value
  | .int value => .int value
  | .float value => .float value
  | .text value => .text value
  | .bytes value => .bytes value

/-- The value of a name that every program can use. -/
def universal? (name : String) : Option Value :=
  match name with
  | "None" => some .none
  | "True" => some (.bool true)
  | "False" => some (.bool false)
  | _ => if universalNames.contains name then some (.builtin name) else none

/-- The summands of a sum, the last one first. -/
def Expr.summands : Expr → List Expr
  | .binary "+" left right => right :: left.summands
  | value => [value]

/-- Joins byte strings that are written next to each other in a sum.  The summands before them come
last one first. -/
def joinBytes (before : List Expr) (summand : Expr) : List Expr :=
  match before, summand with
  | .literal (.bytes left) :: rest, .literal (.bytes right) =>
      .literal (.bytes (left ++ right)) :: rest
  | before, summand => summand :: before

/-- The named arguments that the entries of a dictionary give. -/
def namedArguments? (entries : Entries) : Option (List (List UInt8 × Value)) :=
  entries.mapM fun entry =>
    match entry.1 with
    | .text name => some (name, entry.2)
    | _ => none

mutual

/-- The value of an expression. -/
def evaluate : Nat → Context → Expr → Eval Value
  | 0, _, _ => Eval.fail
  | fuel + 1, context, expression => do
      match expression with
      | .literal value => return value.value
      | .name text =>
          match ← Store.lookup? context.frames text with
          | some value => return value
          | none => Eval.ofOption (universal? text)
      | .list items => Store.newList (← items.mapM (evaluate fuel context))
      | .tuple items => return .tuple (← items.mapM (evaluate fuel context))
      | .dict entries =>
          let add (sofar : Entries) (entry : Expr × Expr) : Eval Entries := do
            let key ← evaluate fuel context entry.1
            let value ← evaluate fuel context entry.2
            Eval.require (key.isHashable && (sofar.find? key).isNone)
            return sofar ++ [(key, value)]
          Store.newDict (← entries.foldlM add [])
      | .listOf number item clauses =>
          let frame ← Store.comprehensionFrame context.home number (clauseNames clauses)
          let inner := context.inside frame
          let items ← comprehend fuel context inner clauses
            (fun items => do return (← evaluate fuel inner item) :: items) []
          Store.newList items.reverse
      | .dictOf number key value clauses =>
          let frame ← Store.comprehensionFrame context.home number (clauseNames clauses)
          let inner := context.inside frame
          let add (entries : Entries) : Eval Entries := do
            let key ← evaluate fuel inner key
            Eval.require key.isHashable
            return entries.insert key (← evaluate fuel inner value)
          Store.newDict (← comprehend fuel context inner clauses add [])
      | .unary operator operand => unary operator (← evaluate fuel context operand)
      | .binary "+" left right =>
          match (Expr.binary "+" left right).summands.reverse.foldl joinBytes [] |>.reverse with
          | [] => Eval.fail
          | first :: rest =>
              let add (sofar : Value) (summand : Expr) : Eval Value := do
                sum sofar (← evaluate fuel context summand)
              rest.foldlM add (← evaluate fuel context first)
      | .binary operator left right =>
          let left ← evaluate fuel context left
          binary operator left (← evaluate fuel context right)
      | .both left right =>
          let left ← evaluate fuel context left
          if ← Store.truth left then evaluate fuel context right else return left
      | .either left right =>
          let left ← evaluate fuel context left
          if ← Store.truth left then return left else evaluate fuel context right
      | .choice condition yes no =>
          if ← Store.truth (← evaluate fuel context condition) then evaluate fuel context yes
          else evaluate fuel context no
      | .call function arguments =>
          let function ← evaluate fuel context function
          let add (sofar : Arguments) (argument : ArgumentKind × Expr) : Eval Arguments := do
            let value ← evaluate fuel context argument.2
            match argument.1 with
            | .positional => return { sofar with positional := sofar.positional ++ [value] }
            | .named name => return { sofar with named := sofar.named ++ [(nameBytes name, value)] }
            | .spread =>
                let items ← Store.elements value
                return { sofar with positional := sofar.positional ++ items }
            | .spreadNamed =>
                match value with
                | .dict address =>
                    let named ← Eval.ofOption (namedArguments? (← Store.entries address))
                    return { sofar with named := sofar.named ++ named }
                | _ => Eval.fail
          call fuel context.active function (← arguments.foldlM add {})
      | .index container key =>
          let container ← evaluate fuel context container
          getItem container (← evaluate fuel context key)
      | .slice container low high step =>
          let part (bound : Option Expr) : Eval Value :=
            match bound with
            | some bound => evaluate fuel context bound
            | none => return .none
          let container ← evaluate fuel context container
          let low ← part low
          let high ← part high
          slice container low high (← part step)
      | .attribute object name =>
          let object ← evaluate fuel context object
          Eval.ofOption (← Builtin.attribute? object (nameBytes name))
      | .function number name parameters body =>
          let default (parameter : ParameterKind × String × Option Expr) :
              Eval (Option (String × Value)) := do
            match parameter.2.2 with
            | some value => return some (parameter.2.1, ← evaluate fuel context value)
            | none => return none
          let defaults ← parameters.mapM default
          let closure : Closure :=
            { number, name, body
              parameters := parameters.map fun parameter => (parameter.1, parameter.2.1)
              defaults := defaults.filterMap id
              frames := context.frames }
          let store ← get
          set { store with closures := store.closures.push closure }
          return .function store.closures.size

/-- Runs through the clauses of a comprehension, and adds what each round gives.  The first iterable
is evaluated in the context around it. -/
def comprehend {α : Type} : Nat → Context → Context → List (Option Expr × Expr) → (α → Eval α) →
    α → Eval α
  | 0, _, _, _, _, _ => Eval.fail
  | _ + 1, _, _, [], add, sofar => add sofar
  | fuel + 1, outer, inner, (none, condition) :: rest, add, sofar => do
      if ← Store.truth (← evaluate fuel outer condition) then
        comprehend fuel inner inner rest add sofar
      else return sofar
  | fuel + 1, outer, inner, (some target, iterable) :: rest, add, sofar => do
      let iterable ← evaluate fuel outer iterable
      let items ← Store.elements iterable
      let round (sofar : α) (item : Value) : Eval α := do
        assign fuel inner target item
        comprehend fuel inner inner rest add sofar
      Store.during iterable (items.foldlM round sofar)

/-- Assigns a value to a target. -/
def assign : Nat → Context → Expr → Value → Eval Unit
  | 0, _, _, _ => Eval.fail
  | fuel + 1, context, target, value => do
      let spread (targets : List Expr) : Eval Unit := do
        let items ← Store.elements value
        Eval.require (decide (items.length = targets.length))
        (targets.zip items).forM fun pair => assign fuel context pair.1 pair.2
      match target with
      | .name text => Store.assign context.frames text value
      | .index container key =>
          let container ← evaluate fuel context container
          setItem container (← evaluate fuel context key) value
      | .list targets => spread targets
      | .tuple targets => spread targets
      | _ => Eval.fail

/-- Calls a value. -/
def call : Nat → List Nat → Value → Arguments → Eval Value
  | 0, _, _, _ => Eval.fail
  | fuel + 1, active, function, arguments => do
      match function with
      | .builtin name =>
          Builtin.call (fun function values => call fuel active function { positional := values })
            name arguments
      | .method receiver name _ => Method.call receiver name arguments
      | .function address =>
          let some closure := (← get).closures[address]? | Eval.fail
          Eval.require !(active.contains closure.number)
          let values ← closure.bind arguments
          let frame ← Store.newFrame (values.map Prod.fst ++ boundNamesOfAll closure.body)
          values.forM fun (name, value) => Store.assign [frame] name value
          let context : Context :=
            { frames := frame :: closure.frames
              home := frame
              active := closure.number :: active }
          match ← execute fuel context closure.body with
          | .result value => return value
          | _ => return .none
      | _ => Eval.fail

/-- Runs statements one after another. -/
def execute : Nat → Context → List Stmt → Eval Outcome
  | 0, _, _ => Eval.fail
  | fuel + 1, context, statements => do
      let onward (outcome : Outcome) (statement : Stmt) : Eval Outcome :=
        match outcome with
        | .done => step fuel context statement
        | outcome => return outcome
      statements.foldlM onward .done

/-- Runs a statement. -/
def step : Nat → Context → Stmt → Eval Outcome
  | 0, _, _ => Eval.fail
  | fuel + 1, context, statement => do
      match statement with
      | .evaluate value =>
          discard (evaluate fuel context value)
          return .done
      | .assign target value =>
          assign fuel context target (← evaluate fuel context value)
          return .done
      | .augment (.index container key) operator value =>
          let container ← evaluate fuel context container
          let key ← evaluate fuel context key
          let before ← getItem container key
          let after ← augmented operator before (← evaluate fuel context value)
          setItem container key after
          return .done
      | .augment target operator value =>
          let before ← evaluate fuel context target
          let after ← augmented operator before (← evaluate fuel context value)
          assign fuel context target after
          return .done
      | .define name function =>
          assign fuel context (.name name) (← evaluate fuel context function)
          return .done
      | .branch condition yes no =>
          if ← Store.truth (← evaluate fuel context condition) then execute fuel context yes
          else execute fuel context no
      | .loop target iterable body =>
          let iterable ← evaluate fuel context iterable
          let items ← Store.elements iterable
          let round (outcome : Outcome) (item : Value) : Eval Outcome :=
            match outcome with
            | .leave | .result _ => return outcome
            | _ => do
                assign fuel context target item
                execute fuel context body
          match ← Store.during iterable (items.foldlM round .done) with
          | .result value => return .result value
          | _ => return .done
      | .result (some value) => return .result (← evaluate fuel context value)
      | .result none => return .result .none
      | .leave => return .leave
      | .next => return .next
      | .pass => return .done

end

/-- The steps that a byte of a program can use up. -/
def stepsPerByte : Nat := 16

/-- Runs a program.  Gives the store at its end, and the values of its variables. -/
def run? (source : List UInt8) : Option (Frame × Store) := do
  let statements ← Grammar.parse? source
  if !programValid statements then none
  let program : Eval Frame := do
    let frame ← Store.newFrame (boundNamesOfAll statements)
    let context : Context := { frames := [frame], home := frame }
    discard (execute (stepsPerByte * (source.length + 1)) context statements)
    return (← get).frames[frame]?.getD []
  program.run {}

end Starlark
end TableAssembler
