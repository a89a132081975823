import TableAssembler.Assembly.Basic
import TableAssembler.Assembly.Resolution
import TableAssembler.Binary64.Arithmetic
import TableAssembler.Binary64.Basic
import TableAssembler.Binary64.Digits
import TableAssembler.Binary64.Parse
import TableAssembler.Command.Completion
import TableAssembler.Command.Help
import TableAssembler.Command.Options
import TableAssembler.Command.Run
import TableAssembler.Command.Task
import TableAssembler.Dictionary
import TableAssembler.Directory
import TableAssembler.Encoding.Bits
import TableAssembler.Encoding.Data
import TableAssembler.Encoding.Instruction
import TableAssembler.Fault
import TableAssembler.Format.Fault
import TableAssembler.Format.Load
import TableAssembler.Format.Starlark.Arguments
import TableAssembler.Format.Starlark.Builtin
import TableAssembler.Format.Starlark.Comparison
import TableAssembler.Format.Starlark.Config
import TableAssembler.Format.Starlark.Evaluation
import TableAssembler.Format.Starlark.Grammar
import TableAssembler.Format.Starlark.Interpolation
import TableAssembler.Format.Starlark.Literal
import TableAssembler.Format.Starlark.Method
import TableAssembler.Format.Starlark.Number
import TableAssembler.Format.Starlark.Operation
import TableAssembler.Format.Starlark.Rendering
import TableAssembler.Format.Starlark.Scope
import TableAssembler.Format.Starlark.Store
import TableAssembler.Format.Starlark.Syntax
import TableAssembler.Format.Starlark.Token
import TableAssembler.Format.Starlark.Value
import TableAssembler.Format.Yaml.Config
import TableAssembler.Format.Yaml.Cursor
import TableAssembler.Format.Yaml.Expansion
import TableAssembler.Format.Yaml.Input
import TableAssembler.Format.Yaml.Node
import TableAssembler.Format.Yaml.Resolution
import TableAssembler.Format.Yaml.Scalar
import TableAssembler.Format.Yaml.Stream
import TableAssembler.Format.Yaml.Token
import TableAssembler.Image.Basic
import TableAssembler.InstructionSet.Basic
import TableAssembler.InstructionSet.Builtin
import TableAssembler.InstructionSet.Config
import TableAssembler.InstructionSet.Directive
import TableAssembler.InstructionSet.Field
import TableAssembler.InstructionSet.Table
import TableAssembler.InstructionSet.Template
import TableAssembler.Label.Layout
import TableAssembler.Label.Placement
import TableAssembler.Label.Scope
import TableAssembler.Lexeme.Basic
import TableAssembler.Lexeme.Evaluation
import TableAssembler.Lexeme.Scanner
import TableAssembler.Lexeme.Word
import TableAssembler.Location
import TableAssembler.Log
import TableAssembler.Main
import TableAssembler.Pseudo.Basic
import TableAssembler.Pseudo.Library
import TableAssembler.Statement.Basic
import TableAssembler.Statement.Folding
import TableAssembler.Statement.Grouping
import TableAssembler.Text.CasedLetter
import TableAssembler.Text.CodePoint
import TableAssembler.Text.DecimalDigit
import TableAssembler.Text.Graphic
import TableAssembler.Text.Letter
import TableAssembler.Text.LetterCase
import TableAssembler.Text.LineBreak
import TableAssembler.Text.Numeral
import TableAssembler.Text.Part
import TableAssembler.Text.Path
import TableAssembler.Text.Quoted
import TableAssembler.Text.Utf8
import TableAssembler.Text.WhiteSpace
import TableAssembler.Writer
import TableAssembler.Proofs.InstructionSet.WellFormed
import TableAssembler.Proofs.Text.Numeral
import TableAssembler.Proofs.Encoding.Bits
import TableAssembler.Proofs.Encoding.Instruction
import TableAssembler.Proofs.Dictionary
import TableAssembler.Proofs.Label.Address
import TableAssembler.Proofs.Lexeme.Value
import TableAssembler.Proofs.Label.Scope
import TableAssembler.Proofs.Label.Substitution
import TableAssembler.Proofs.Assembly.Resolution
import TableAssembler.Proofs.Assembly.Agreement
import TableAssembler.Proofs.Statement.Grammar
import TableAssembler.Proofs.Statement.Written
import TableAssembler.Proofs.Location
import TableAssembler.Proofs.Lexeme.Reading
import TableAssembler.Proofs.Lexeme.Tiling
import TableAssembler.Proofs.Image.Lookup
import TableAssembler.Proofs.Pseudo.Inlining
import TableAssembler.Proofs.Statement.Writable
import TableAssembler.Proofs.Pseudo.Expansion
import TableAssembler.Proofs.Directory
import TableAssembler.Proofs.Command.Effects
import TableAssembler.Proofs.Outcome
import TableAssembler.Proofs.Lexeme.Displacement
import TableAssembler.Proofs.Statement.Displacement
import TableAssembler.Proofs.Lexeme.Lines
import TableAssembler.Proofs.Statement.Lines
import TableAssembler.Proofs.Image.Displacement
import TableAssembler.Proofs.Pseudo.Displacement
import TableAssembler.Proofs.Label.Displacement
import TableAssembler.Proofs.Lexeme.Scanned
import TableAssembler.Proofs.Assembly.Displacement
import TableAssembler.Proofs.Lexeme.WellFormed
import TableAssembler.Proofs.Statement.WellFormed
import TableAssembler.Proofs.Assembly.Soundness
import TableAssembler.Proofs.Lexeme.Name
import TableAssembler.Proofs.Label.Fresh
import TableAssembler.Proofs.Encoding.Symbol
import TableAssembler.Proofs.Assembly.FreshLabel
import TableAssembler.Proofs.Assembly.LayoutChoice
import TableAssembler.Proofs.Assembly.LetterCase
import TableAssembler.Proofs.Lexeme.Spelling
import TableAssembler.Proofs.Pseudo.Header
import TableAssembler.Proofs.Lexeme.Place
import TableAssembler.Proofs.Statement.Place
import TableAssembler.Proofs.Assembly.FaultLocation
import TableAssembler.Proofs.Statement.Spelling
import TableAssembler.Proofs.Lexeme.Quotation
import TableAssembler.Proofs.Pseudo.Naming
import TableAssembler.Proofs.Encoding.Width
import TableAssembler.Proofs.Text.Span
import TableAssembler.Proofs.InstructionSet.Template
import TableAssembler.Proofs.Lexeme.Number
import TableAssembler.Proofs.Label.EvaluationOrder
import TableAssembler.Proofs.Statement.EarlyEnd
import TableAssembler.Proofs.Encoding.FaultOrder
import TableAssembler.Proofs.Pseudo.Renaming
import TableAssembler.Proofs.Pseudo.Scope
import TableAssembler.Proofs.Label.Placement
import TableAssembler.Proofs.Encoding.Data
import TableAssembler.Proofs.InstructionSet.Rendering
import TableAssembler.Proofs.Text.LetterCase
import TableAssembler.Proofs.Label.Completion
import TableAssembler.Proofs.Lexeme.Culprit
import TableAssembler.Proofs.Lexeme.Failure
import TableAssembler.Proofs.InstructionSet.Enumeration
import TableAssembler.Proofs.Lexeme.Literal
import TableAssembler.Proofs.Assembly.Emission
import TableAssembler.Proofs.Assembly.BuiltinLoad
import TableAssembler.Proofs.Lexeme.Word
import TableAssembler.Proofs.Text.Path
import TableAssembler.Proofs.Directory.Sibling
import TableAssembler.Proofs.Command.DefaultOutput
