import CommandGrammar.Action
import CommandGrammar.Argument
import CommandGrammar.Base64
import CommandGrammar.Candidate
import CommandGrammar.Clock
import CommandGrammar.Completion
import CommandGrammar.Context
import CommandGrammar.Decimal.Notation
import CommandGrammar.Decimal.Numeral
import CommandGrammar.Decimal.Shortest
import CommandGrammar.Derive.Attribute
import CommandGrammar.Derive.Code
import CommandGrammar.Derive.Error
import CommandGrammar.Derive.Expression
import CommandGrammar.Derive.Item
import CommandGrammar.Derive.Lexer
import CommandGrammar.Derive.StringLiteral
import CommandGrammar.Derive.TokenTree
import CommandGrammar.FileSystem
import CommandGrammar.Glob
import CommandGrammar.Grammar
import CommandGrammar.Grammar.Alias
import CommandGrammar.Grammar.Build
import CommandGrammar.Grammar.Builder
import CommandGrammar.Grammar.Error
import CommandGrammar.HelpTable
import CommandGrammar.Kind
import CommandGrammar.Kind.Clock
import CommandGrammar.Kind.File
import CommandGrammar.Kind.Network
import CommandGrammar.Kind.Number
import CommandGrammar.Kind.Word
import CommandGrammar.Line
import CommandGrammar.Line.Token
import CommandGrammar.Main
import CommandGrammar.Network.Address
import CommandGrammar.Node
import CommandGrammar.Outline
import CommandGrammar.Pattern
import CommandGrammar.Pattern.CharClass
import CommandGrammar.Pattern.Expr
import CommandGrammar.Pattern.Reader
import CommandGrammar.Pattern.Weight
import CommandGrammar.Proofs.Adding
import CommandGrammar.Proofs.Agreement
import CommandGrammar.Proofs.Arena
import CommandGrammar.Proofs.Beginning
import CommandGrammar.Proofs.Building
import CommandGrammar.Proofs.Check
import CommandGrammar.Proofs.Collected
import CommandGrammar.Proofs.Completion
import CommandGrammar.Proofs.Declared
import CommandGrammar.Proofs.Drafting
import CommandGrammar.Proofs.EndOfLine
import CommandGrammar.Proofs.Entries
import CommandGrammar.Proofs.Escape
import CommandGrammar.Proofs.Finishing
import CommandGrammar.Proofs.Grouping
import CommandGrammar.Proofs.Guarding
import CommandGrammar.Proofs.Line
import CommandGrammar.Proofs.Listing
import CommandGrammar.Proofs.LongerLine
import CommandGrammar.Proofs.Numbering
import CommandGrammar.Proofs.Offered
import CommandGrammar.Proofs.Place
import CommandGrammar.Proofs.Rearranging
import CommandGrammar.Proofs.Renumbering
import CommandGrammar.Proofs.Reordering
import CommandGrammar.Proofs.Resembling
import CommandGrammar.Proofs.Search
import CommandGrammar.Proofs.Showing
import CommandGrammar.Proofs.Sound
import CommandGrammar.Proofs.Splicing
import CommandGrammar.Proofs.Splitting
import CommandGrammar.Proofs.State
import CommandGrammar.Proofs.Step
import CommandGrammar.Proofs.Survey
import CommandGrammar.Proofs.Target
import CommandGrammar.Proofs.Way
import CommandGrammar.Search
import CommandGrammar.Shell.Command
import CommandGrammar.Shell.Session
import CommandGrammar.Text.Blank
import CommandGrammar.Text.CaseClass
import CommandGrammar.Text.Category
import CommandGrammar.Text.Category.Control
import CommandGrammar.Text.Category.Letter
import CommandGrammar.Text.Category.Mark
import CommandGrammar.Text.Category.Number
import CommandGrammar.Text.Category.Punctuation
import CommandGrammar.Text.Category.Symbol
import CommandGrammar.Text.DecimalDigit
import CommandGrammar.Text.Escaped
import CommandGrammar.Text.Property
import CommandGrammar.Text.Quoting
import CommandGrammar.Text.Ranges
import CommandGrammar.Text.Script
import CommandGrammar.Text.Script.FromAToE
import CommandGrammar.Text.Script.FromGToN
import CommandGrammar.Text.Script.FromOToZ
import CommandGrammar.Text.Script.Table
import CommandGrammar.Text.Unprintable
import CommandGrammar.Text.Utf8
import CommandGrammar.Text.WordChar
import CommandGrammar.Url
import CommandGrammar.Url.Host
import CommandGrammar.Url.Path
import CommandGrammar.Url.Percent
import CommandGrammar.Url.Punycode
import CommandGrammar.Value
import CommandGrammar.Vars
import CommandGrammar.Proofs.Grafting
import CommandGrammar.Proofs.Inlining
import CommandGrammar.Proofs.Tiling
import CommandGrammar.Proofs.Rereading
import CommandGrammar.Proofs.Matching
import CommandGrammar.Proofs.Quoting
import CommandGrammar.Proofs.Finding
import CommandGrammar.Proofs.Cursor
import CommandGrammar.Proofs.Reparsing
import CommandGrammar.Proofs.Members
import CommandGrammar.Proofs.Edges
import CommandGrammar.Proofs.Converting
import CommandGrammar.Proofs.Trail
import CommandGrammar.Proofs.Commands
import CommandGrammar.Proofs.Session
import CommandGrammar.Proofs.Narrowing
import CommandGrammar.Proofs.DeadEnds
import CommandGrammar.Proofs.Literal
import CommandGrammar.Proofs.Anchoring
import CommandGrammar.Proofs.ExistingFiles
import CommandGrammar.Proofs.HelpWords
import CommandGrammar.Proofs.NameOrder
import CommandGrammar.Proofs.Paths
import CommandGrammar.Proofs.FileTokens
import CommandGrammar.Proofs.Conversion
import CommandGrammar.Proofs.HostNames
import CommandGrammar.Proofs.Numerals
import CommandGrammar.Proofs.BinaryText
import CommandGrammar.Proofs.SingleValues
import CommandGrammar.Proofs.AddressText
import CommandGrammar.Proofs.NetworkText
import CommandGrammar.Proofs.KeysAndValues
import CommandGrammar.Proofs.QuotedTokens
import CommandGrammar.Proofs.HelpLayout
import CommandGrammar.Proofs.Ancestors
import CommandGrammar.Proofs.SameState
import CommandGrammar.Proofs.FieldSettings
