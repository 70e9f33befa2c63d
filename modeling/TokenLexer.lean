import TokenLexer.Text
import TokenLexer.Text.Table
import TokenLexer.Text.Category
import TokenLexer.Text.Script
import TokenLexer.Text.Orbit
import TokenLexer.Text.Printable
import TokenLexer.Text.Digit
import TokenLexer.Text.Casing
import TokenLexer.Regex.CharClass
import TokenLexer.Regex.Tree
import TokenLexer.Regex.SyntaxError
import TokenLexer.Regex.NamedClass
import TokenLexer.Regex.Reading
import TokenLexer.Regex.Program
import TokenLexer.Regex.Search
import TokenLexer.Number.Binary64
import TokenLexer.Number.Shortest
import TokenLexer.Number.Reading
import TokenLexer.Text.Blank
import TokenLexer.Text.Quoted
import TokenLexer.Text.Directive
import TokenLexer.Function
import TokenLexer.Backtracking.Tree
import TokenLexer.Lexer
import TokenLexer.Sorting
import TokenLexer.Value
import TokenLexer.Value.Equality
import TokenLexer.Value.Shown
import TokenLexer.Value.Hashing
import TokenLexer.Value.Order
import TokenLexer.Error
import TokenLexer.Function.Apply
import TokenLexer.Traced
import TokenLexer.Backtracking.Search
import TokenLexer.Backtracking.SyntaxError
import TokenLexer.Pattern
import TokenLexer.Lexer.Matching
import TokenLexer.Lexer.Building
import TokenLexer.Config
import TokenLexer.Registry
import TokenLexer.Probe
import TokenLexer.About
import TokenLexer.Session.Step
import TokenLexer.Backtracking.Reading
import TokenLexer.Session.Identity
import TokenLexer.Session
import TokenLexer.Proofs.Lexer.Branches
import TokenLexer.Proofs.Registry.Naming
import TokenLexer.Proofs.Lexer.Expression
import TokenLexer.Proofs.Registry.Loading
import TokenLexer.Proofs.Registry.Chaining
import TokenLexer.Proofs.Config
import TokenLexer.Proofs.Registry.Encoding
import TokenLexer.Proofs.Regex.Parsing
import TokenLexer.Proofs.Regex.Running
import TokenLexer.Proofs.Regex.Crossing
import TokenLexer.Proofs.Regex.Searching
import TokenLexer.Proofs.Regex.Capturing
import TokenLexer.Proofs.Regex.Numbering
import TokenLexer.Proofs.Lexer.WholeText
import TokenLexer.Proofs.Sorting.OrderedMerging
import TokenLexer.Proofs.Value.Sorting
import TokenLexer.Proofs.Config.Grammar
import TokenLexer.Proofs.Config.Reporting
import TokenLexer.Proofs.Lexer.Visits
import TokenLexer.Proofs.Lexer.Accounting
import TokenLexer.Proofs.Session.Matching
import TokenLexer.Proofs.Registry.Branching
import TokenLexer.Proofs.Lexer.Safety
import TokenLexer.Proofs.Registry.Editing
import TokenLexer.Proofs.Registry.Registering
import TokenLexer.Proofs.Session.Frame
import TokenLexer.Proofs.Session.Snapshots
import TokenLexer.Proofs.Session.Reporting
import TokenLexer.Proofs.Lexer.Memory
import TokenLexer.Proofs.Lexer.Mapping
import TokenLexer.Proofs.Lexer.Distribution
import TokenLexer.Proofs.Lexer.Shape
import TokenLexer.Proofs.Lexer.Unencodable
import TokenLexer.Proofs.Lexer.Rejection
import TokenLexer.Proofs.Session.Transparency
import TokenLexer.Proofs.Session.Equality
import TokenLexer.Proofs.Config.Reordering
import TokenLexer.Proofs.Session.Histories
