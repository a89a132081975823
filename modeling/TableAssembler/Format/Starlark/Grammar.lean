import TableAssembler.Format.Starlark.Syntax
import TableAssembler.Format.Starlark.Token

/-!
# The grammar of Starlark

Programs are read by recursive descent.  Every reader takes tokens and leaves those behind what it
reads; its first argument bounds the depth of the recursion and exceeds what the tokens can use up.
-/

namespace TableAssembler
namespace Starlark
namespace Grammar

/-- A step of reading, which leaves the tokens that follow. -/
abbrev Reader := StateT (List Token) Option

/-- Nothing can be read here. -/
def fail {α : Type} : Reader α := StateT.lift none

/-- The next token is a symbol. -/
def atSymbol (text : String) : Reader Bool := do
  return (← get).head? == some (.symbol text)

/-- The next token is a keyword. -/
def atKeyword (text : String) : Reader Bool := do
  return (← get).head? == some (.keyword text)

/-- Passes the next token. -/
def skip : Reader Unit := modify (·.drop 1)

/-- Passes a token that must follow. -/
def expect (token : Token) : Reader Unit := do
  if (← get).head? == some token then skip else fail

/-- Passes a symbol if it follows, and tells whether it did. -/
def accept (text : String) : Reader Bool := do
  if ← atSymbol text then
    skip
    return true
  else return false

/-- Passes a keyword if it follows, and tells whether it did. -/
def acceptKeyword (text : String) : Reader Bool := do
  if ← atKeyword text then
    skip
    return true
  else return false

/-- A name. -/
def identifier : Reader String := do
  match ← get with
  | .name text :: rest =>
      set rest
      return text
  | _ => fail

/-- A list of expressions ends before the next token. -/
def endsList : Reader Bool := do
  match (← get).head? with
  | none => return true
  | some token =>
      return token == .newline ||
        [Token.symbol "=", .symbol "\x7d", .symbol "]", .symbol ")", .symbol ";"].contains token

/-- The operators of a level, the loosest first; those of the first level are comparisons. -/
def operators : Nat → List String
  | 0 => ["==", "!=", "<", ">", "<=", ">=", "in", "not in"]
  | 1 => ["|"]
  | 2 => ["^"]
  | 3 => ["&"]
  | 4 => ["<<", ">>"]
  | 5 => ["-", "+"]
  | 6 => ["*", "%", "/", "//"]
  | _ => []

/-- The operator that follows, with the tokens behind it. -/
def operator? : List Token → Option (String × List Token)
  | .symbol text :: rest => some (text, rest)
  | .keyword "in" :: rest => some ("in", rest)
  | .keyword "not" :: .keyword "in" :: rest => some ("not in", rest)
  | _ => none

/-- The operators that join an assignment with an operation. -/
def augmented : List String :=
  ["+=", "-=", "*=", "/=", "//=", "%=", "&=", "|=", "^=", "<<=", ">>="]

mutual

/-- One expression. -/
def test : Nat → Reader Expr
  | 0 => fail
  | fuel + 1 => do
      if ← atKeyword "lambda" then lambda fuel true
      else
        let value ← disjunction fuel
        if ← acceptKeyword "if" then
          let condition ← disjunction fuel
          expect (.keyword "else")
          return .choice condition value (← test fuel)
        else return value

/-- One expression without a condition of its own. -/
def testAlone : Nat → Reader Expr
  | 0 => fail
  | fuel + 1 => do if ← atKeyword "lambda" then lambda fuel false else disjunction fuel

/-- A function without a name. -/
def lambda : Nat → Bool → Reader Expr
  | 0, _ => fail
  | fuel + 1, conditional => do
      let number := (← get).length
      skip
      let parameters ← parameters fuel true
      expect (.symbol ":")
      let body ← if conditional then test fuel else testAlone fuel
      return .function number "lambda" parameters [.result (some body)]

/-- The parameters of a function, up to its colon or closing parenthesis. -/
def parameters : Nat → Bool → Reader (List (ParameterKind × String × Option Expr))
  | 0, _ => fail
  | fuel + 1, first => do
      if (← atSymbol ")") || (← atSymbol ":") then return []
      if !first then expect (.symbol ",")
      if ← atSymbol ")" then return []
      let parameter ←
        if ← accept "**" then pure (.otherNames, ← identifier, none)
        else if ← accept "*" then
          match (← get).head? with
          | some (.name _) => pure (.others, ← identifier, none)
          | _ => pure (.divider, "", none)
        else
          let name ← identifier
          if ← accept "=" then pure (.optional, name, some (← test fuel))
          else pure (.required, name, none)
      return parameter :: (← parameters fuel false)

/-- Operands of which one must be true. -/
def disjunction : Nat → Reader Expr
  | 0 => fail
  | fuel + 1 => do moreDisjuncts fuel (← conjunction fuel)

/-- Further operands of which one must be true. -/
def moreDisjuncts : Nat → Expr → Reader Expr
  | 0, _ => fail
  | fuel + 1, left => do
      if ← acceptKeyword "or" then moreDisjuncts fuel (.either left (← conjunction fuel))
      else return left

/-- Operands that must all be true. -/
def conjunction : Nat → Reader Expr
  | 0 => fail
  | fuel + 1 => do moreConjuncts fuel (← negation fuel)

/-- Further operands that must all be true. -/
def moreConjuncts : Nat → Expr → Reader Expr
  | 0, _ => fail
  | fuel + 1, left => do
      if ← acceptKeyword "and" then moreConjuncts fuel (.both left (← negation fuel))
      else return left

/-- An operand that may be negated. -/
def negation : Nat → Reader Expr
  | 0 => fail
  | fuel + 1 => do
      if ← acceptKeyword "not" then return .unary "not" (← negation fuel)
      else operation fuel 0

/-- Operands that are joined by the operators of a level. -/
def operation : Nat → Nat → Reader Expr
  | 0, _ => fail
  | fuel + 1, level => do
      if (operators level).isEmpty then primary fuel
      else moreOperands fuel level true (← operation fuel (level + 1))

/-- Further operands of a level.  Comparisons cannot be chained. -/
def moreOperands : Nat → Nat → Bool → Expr → Reader Expr
  | 0, _, _, _ => fail
  | fuel + 1, level, first, left => do
      match operator? (← get) with
      | some (operator, rest) =>
          if !(operators level).contains operator then return left
          else if level = 0 && !first then fail
          else
            set rest
            let right ← operation fuel (level + 1)
            moreOperands fuel level false (.binary operator left right)
      | none => return left

/-- A primary with what is appended to it, or one with a sign. -/
def primary : Nat → Reader Expr
  | 0 => fail
  | fuel + 1 => do
      match (← get).head? with
      | some (.symbol sign) =>
          if ["-", "+", "~"].contains sign then
            skip
            suffixes fuel (.unary sign (← primary fuel))
          else suffixes fuel (← atom fuel)
      | _ => suffixes fuel (← atom fuel)

/-- Attributes, indices and calls behind a primary. -/
def suffixes : Nat → Expr → Reader Expr
  | 0, _ => fail
  | fuel + 1, object => do
      if ← accept "." then suffixes fuel (.attribute object (← identifier))
      else if ← accept "[" then suffixes fuel (← subscript fuel object)
      else if ← accept "(" then
        let arguments ← arguments fuel true
        suffixes fuel (.call object arguments)
      else return object

/-- An index or a slice behind its opening bracket. -/
def subscript : Nat → Expr → Reader Expr
  | 0, _ => fail
  | fuel + 1, container => do
      let low ← if ← atSymbol ":" then pure none else pure (some (← tupleOrTest fuel false))
      match low, ← accept "]" with
      | some key, true => return .index container key
      | none, true => fail
      | low, false =>
          expect (.symbol ":")
          let high ← if (← atSymbol ":") || (← atSymbol "]") then pure none
            else pure (some (← test fuel))
          let step ← if (← accept ":") && !(← atSymbol "]") then pure (some (← test fuel))
            else pure none
          expect (.symbol "]")
          return .slice container low high step

/-- The arguments of a call, and its closing parenthesis. -/
def arguments : Nat → Bool → Reader (List (ArgumentKind × Expr))
  | 0, _ => fail
  | fuel + 1, first => do
      if ← accept ")" then return []
      if !first then expect (.symbol ",")
      if ← accept ")" then return []
      let argument ←
        if ← accept "**" then pure (.spreadNamed, ← test fuel)
        else if ← accept "*" then pure (.spread, ← test fuel)
        else
          match ← get with
          | .name name :: .symbol "=" :: rest =>
              set rest
              pure (.named name, ← test fuel)
          | _ => pure (.positional, ← test fuel)
      return argument :: (← arguments fuel false)

/-- One expression, or several with commas between them.  A comma at the end is for parentheses
only. -/
def tupleOrTest : Nat → Bool → Reader Expr
  | 0, _ => fail
  | fuel + 1, inParentheses => do
      let first ← test fuel
      if ← atSymbol "," then return .tuple (first :: (← moreItems fuel inParentheses))
      else return first

/-- Further expressions, each behind a comma. -/
def moreItems : Nat → Bool → Reader (List Expr)
  | 0, _ => fail
  | fuel + 1, commaAtEnd => do
      if ← accept "," then
        if ← endsList then
          if commaAtEnd then return [] else fail
        else
          let item ← test fuel
          return item :: (← moreItems fuel commaAtEnd)
      else return []

/-- A key with its value. -/
def entry : Nat → Reader (Expr × Expr)
  | 0 => fail
  | fuel + 1 => do
      let key ← test fuel
      expect (.symbol ":")
      return (key, ← test fuel)

/-- Further entries, up to the closing brace. -/
def moreEntries : Nat → Reader (List (Expr × Expr))
  | 0 => fail
  | fuel + 1 => do
      if ← accept "," then
        if ← accept "\x7d" then return []
        let entry ← entry fuel
        return entry :: (← moreEntries fuel)
      else
        expect (.symbol "\x7d")
        return []

/-- The targets of a loop. -/
def targets : Nat → Reader Expr
  | 0 => fail
  | fuel + 1 => do
      let first ← primary fuel
      if ← atSymbol "," then return .tuple (first :: (← moreTargets fuel)) else return first

/-- Further targets, each behind a comma. -/
def moreTargets : Nat → Reader (List Expr)
  | 0 => fail
  | fuel + 1 => do
      if ← accept "," then
        if ← endsList then return []
        let target ← primary fuel
        return target :: (← moreTargets fuel)
      else return []

/-- The clauses of a comprehension, up to its closing symbol. -/
def clauses : Nat → String → Reader (List (Option Expr × Expr))
  | 0, _ => fail
  | fuel + 1, closing => do
      if ← accept closing then return []
      else if ← acceptKeyword "for" then
        let target ← targets fuel
        expect (.keyword "in")
        let iterable ← disjunction fuel
        return (some target, iterable) :: (← clauses fuel closing)
      else if ← acceptKeyword "if" then
        let condition ← testAlone fuel
        return (none, condition) :: (← clauses fuel closing)
      else fail

/-- A literal, a name, or something in brackets. -/
def atom : Nat → Reader Expr
  | 0 => fail
  | fuel + 1 => do
      match (← get).head? with
      | some (.literal value) =>
          skip
          return .literal value
      | some (.name text) =>
          skip
          return .name text
      | some (.symbol "(") =>
          skip
          if ← accept ")" then return .tuple []
          let value ← tupleOrTest fuel true
          expect (.symbol ")")
          return value
      | some (.symbol "[") =>
          let number := (← get).length
          skip
          if ← accept "]" then return .list []
          let first ← test fuel
          if ← atKeyword "for" then return .listOf number first (← clauses fuel "]")
          let others ← moreItems fuel true
          expect (.symbol "]")
          return .list (first :: others)
      | some (.symbol "\x7b") =>
          let number := (← get).length
          skip
          if ← accept "\x7d" then return .dict []
          let (key, value) ← entry fuel
          if ← atKeyword "for" then return .dictOf number key value (← clauses fuel "\x7d")
          let others ← moreEntries fuel
          return .dict ((key, value) :: others)
      | _ => fail

end

/-! ## Statements -/

/-- A statement inside of a line. -/
def smallStatement (fuel : Nat) : Reader Stmt := do
  match (← get).head? with
  | some (.keyword "return") =>
      skip
      match (← get).head? with
      | none | some .newline | some (.symbol ";") => return .result none
      | _ => return .result (some (← tupleOrTest fuel false))
  | some (.keyword "break") =>
      skip
      return .leave
  | some (.keyword "continue") =>
      skip
      return .next
  | some (.keyword "pass") =>
      skip
      return .pass
  | _ =>
      let target ← tupleOrTest fuel false
      match (← get).head? with
      | some (.symbol "=") =>
          skip
          return .assign target (← tupleOrTest fuel false)
      | some (.symbol operator) =>
          if augmented.contains operator then
            skip
            let operation := String.ofList operator.toList.dropLast
            return .augment target operation (← tupleOrTest fuel false)
          else return .evaluate target
      | _ => return .evaluate target

mutual

/-- The statements of a line, and its end. -/
def line : Nat → Reader (List Stmt)
  | 0 => fail
  | fuel + 1 => do
      let first ← smallStatement fuel
      if ← accept ";" then
        match ← get with
        | [] => return [first]
        | .newline :: rest =>
            set rest
            return [first]
        | _ => return first :: (← line fuel)
      else
        match ← get with
        | [] => return [first]
        | .newline :: rest =>
            set rest
            return [first]
        | _ => fail

/-- A line, or a statement with blocks of its own. -/
def statement : Nat → Reader (List Stmt)
  | 0 => fail
  | fuel + 1 => do
      let number := (← get).length
      if ← acceptKeyword "def" then
        let name ← identifier
        expect (.symbol "(")
        let parameters ← parameters fuel true
        expect (.symbol ")")
        expect (.symbol ":")
        let body ← block fuel
        return [.define name (.function number name parameters body)]
      else if ← acceptKeyword "if" then return [← branches fuel]
      else if ← acceptKeyword "for" then
        let target ← targets fuel
        expect (.keyword "in")
        let iterable ← tupleOrTest fuel false
        expect (.symbol ":")
        return [.loop target iterable (← block fuel)]
      else line fuel

/-- A condition with its block, and the blocks for when it is false. -/
def branches : Nat → Reader Stmt
  | 0 => fail
  | fuel + 1 => do
      let condition ← test fuel
      expect (.symbol ":")
      let yes ← block fuel
      if ← acceptKeyword "elif" then return .branch condition yes [← branches fuel]
      else if ← acceptKeyword "else" then
        expect (.symbol ":")
        return .branch condition yes (← block fuel)
      else return .branch condition yes []

/-- The statements behind a colon. -/
def block : Nat → Reader (List Stmt)
  | 0 => fail
  | fuel + 1 => do
      match ← get with
      | .newline :: .indent :: rest =>
          set rest
          statements fuel
      | _ => line fuel

/-- The statements of a block, up to its end. -/
def statements : Nat → Reader (List Stmt)
  | 0 => fail
  | fuel + 1 => do
      match ← get with
      | .outdent :: rest =>
          set rest
          return []
      | _ =>
          let first ← statement fuel
          return first ++ (← statements fuel)

end

/-- The statements of a program. -/
def program : Nat → Reader (List Stmt)
  | 0 => fail
  | fuel + 1 => do
      match ← get with
      | [] => return []
      | .newline :: rest =>
          set rest
          program fuel
      | _ =>
          let first ← statement fuel
          return first ++ (← program fuel)

/-- The steps that a token can use up. -/
def stepsPerToken : Nat := 24

/-- The statements of a program text. -/
def parse? (source : List UInt8) : Option (List Stmt) := do
  let tokens ← Token.ofProgram? source
  let (statements, _) ← (program (stepsPerToken * (tokens.length + 1))).run tokens
  return statements

end Grammar
end Starlark
end TableAssembler
