import LineCalculator.Arithmetic
import LineCalculator.Calculation
import LineCalculator.Console.Options
import LineCalculator.Console.Output
import LineCalculator.Console.Platform
import LineCalculator.Console.Prompt
import LineCalculator.Console.Request
import LineCalculator.Console.Run
import LineCalculator.Console.Screen
import LineCalculator.Console.Session
import LineCalculator.Console.TokenTable
import LineCalculator.Console.WholeNumber
import LineCalculator.Cursor
import LineCalculator.Evaluation
import LineCalculator.Expression
import LineCalculator.Fault
import LineCalculator.Files
import LineCalculator.Json
import LineCalculator.Log
import LineCalculator.Main
import LineCalculator.Number.Binary64
import LineCalculator.Number.Decimal
import LineCalculator.Number.Style
import LineCalculator.Operator
import LineCalculator.Proofs.Adjacency
import LineCalculator.Proofs.Building
import LineCalculator.Proofs.Calculation
import LineCalculator.Proofs.Casing
import LineCalculator.Proofs.Concatenation
import LineCalculator.Proofs.Continuation
import LineCalculator.Proofs.Decimals
import LineCalculator.Proofs.Decoding
import LineCalculator.Proofs.Documents
import LineCalculator.Proofs.Dump
import LineCalculator.Proofs.Environment
import LineCalculator.Proofs.Evaluation
import LineCalculator.Proofs.Fallback
import LineCalculator.Proofs.Grammar
import LineCalculator.Proofs.Insertion
import LineCalculator.Proofs.Lexicon
import LineCalculator.Proofs.Loading
import LineCalculator.Proofs.Nearest
import LineCalculator.Proofs.NumberText
import LineCalculator.Proofs.Numerals
import LineCalculator.Proofs.Objects
import LineCalculator.Proofs.Ordering
import LineCalculator.Proofs.Ownership
import LineCalculator.Proofs.Precedence
import LineCalculator.Proofs.Preorder
import LineCalculator.Proofs.Pulling
import LineCalculator.Proofs.Registers
import LineCalculator.Proofs.Relocation
import LineCalculator.Proofs.Resolution
import LineCalculator.Proofs.Resumption
import LineCalculator.Proofs.Retyping
import LineCalculator.Proofs.Rounding
import LineCalculator.Proofs.Scaffold
import LineCalculator.Proofs.Scanning
import LineCalculator.Proofs.Sealing
import LineCalculator.Proofs.Session
import LineCalculator.Proofs.Signs
import LineCalculator.Proofs.Snippets
import LineCalculator.Proofs.Spacing
import LineCalculator.Proofs.Substitution
import LineCalculator.Proofs.Sums
import LineCalculator.Proofs.Tiling
import LineCalculator.Proofs.Trace
import LineCalculator.Proofs.Traps
import LineCalculator.Proofs.Traversal
import LineCalculator.Proofs.TreeText
import LineCalculator.Release
import LineCalculator.Settings
import LineCalculator.Settings.Environment
import LineCalculator.Settings.File
import LineCalculator.Settings.Load
import LineCalculator.Text.Blank
import LineCalculator.Text.Case
import LineCalculator.Text.CaseTable
import LineCalculator.Text.Columns
import LineCalculator.Text.Digit
import LineCalculator.Text.DigitRun
import LineCalculator.Text.Emoji
import LineCalculator.Text.EmojiTable
import LineCalculator.Text.Hexadecimal
import LineCalculator.Text.Lines
import LineCalculator.Text.Memory
import LineCalculator.Text.Printable
import LineCalculator.Text.Quoted
import LineCalculator.Text.Ranges
import LineCalculator.Text.Writer
import LineCalculator.Token
import LineCalculator.Token.Scan
import LineCalculator.Toml.Document
import LineCalculator.Toml.Draft
import LineCalculator.Toml.Entry
import LineCalculator.Toml.File
import LineCalculator.Toml.Moment
import LineCalculator.Toml.Numeral
import LineCalculator.Toml.Quoted
import LineCalculator.Toml.Reader
import LineCalculator.Toml.Value
import LineCalculator.Tree
import LineCalculator.Tree.Dump
import LineCalculator.Tree.Insertion
import LineCalculator.Tree.Objects
import LineCalculator.Tree.Scaffold
import LineCalculator.Tree.Sealing
import LineCalculator.Tree.Text
