import Excerpt.CommandLine.Arguments
import Excerpt.CommandLine.Execution
import Excerpt.CommandLine.Files
import Excerpt.Components
import Excerpt.Config.Basic
import Excerpt.Config.Document
import Excerpt.Cursor
import Excerpt.Decimal.Layout
import Excerpt.Decimal.Reader
import Excerpt.Decimal.Shortest
import Excerpt.Definitions
import Excerpt.Error
import Excerpt.Extracted
import Excerpt.Grammar
import Excerpt.Inspect
import Excerpt.Json.Reader
import Excerpt.Json.Writer
import Excerpt.Main
import Excerpt.Match
import Excerpt.Matcher.Attempt
import Excerpt.Matcher.Basic
import Excerpt.Matcher.Build
import Excerpt.Nesting
import Excerpt.Proofs.Cursor
import Excerpt.Proofs.Cursor.Operations
import Excerpt.Proofs.Grammar.Literals
import Excerpt.Proofs.Grammar.NestedLists
import Excerpt.Proofs.Matcher.Callees
import Excerpt.Proofs.Matcher.Depth
import Excerpt.Proofs.Matcher.Failure
import Excerpt.Proofs.Matcher.FirstCalls
import Excerpt.Proofs.Matcher.FirstCharacter
import Excerpt.Proofs.Matcher.Induction
import Excerpt.Proofs.Matcher.LeftRecursion
import Excerpt.Proofs.Matcher.Loops
import Excerpt.Proofs.Matcher.Monotone
import Excerpt.Proofs.Matcher.Pruning
import Excerpt.Proofs.Matcher.RequiredFront
import Excerpt.Proofs.Matcher.Shift
import Excerpt.Proofs.Matcher.Standing
import Excerpt.Proofs.Matcher.Steps
import Excerpt.Proofs.Matcher.Tree
import Excerpt.Proofs.Nesting
import Excerpt.Proofs.Nesting.Attempt
import Excerpt.Proofs.Nesting.Lexeme
import Excerpt.Proofs.Preconditions
import Excerpt.Proofs.Regex.SomeOf
import Excerpt.Proofs.Scan.Candidate
import Excerpt.Proofs.Scan.Plain
import Excerpt.Proofs.Scan.Run
import Excerpt.Proofs.Scan.Shift
import Excerpt.Proofs.Scan.WholeText
import Excerpt.Proofs.Shift
import Excerpt.Proofs.Template.Cut
import Excerpt.Proofs.Template.Direct
import Excerpt.Proofs.Template.Language
import Excerpt.Proofs.Template.Reading
import Excerpt.Proofs.Text
import Excerpt.Proofs.Text.Places
import Excerpt.Proofs.Text.Rendering
import Excerpt.Proofs.Text.Words
import Excerpt.Record
import Excerpt.Regex.BracketClass
import Excerpt.Regex.Bytes
import Excerpt.Regex.CharSet
import Excerpt.Regex.Depth
import Excerpt.Regex.Escape
import Excerpt.Regex.Expr
import Excerpt.Regex.Fault
import Excerpt.Regex.Flags
import Excerpt.Regex.NamedClass
import Excerpt.Regex.Parser
import Excerpt.Regex.Pattern
import Excerpt.Regex.Place
import Excerpt.Regex.Program
import Excerpt.Regex.Search
import Excerpt.Regex.Size
import Excerpt.Rules
import Excerpt.Scan
import Excerpt.Template
import Excerpt.Text.Alphabet
import Excerpt.Text.Basic
import Excerpt.Text.CaseFold
import Excerpt.Text.Category
import Excerpt.Text.Printable
import Excerpt.Text.Property
import Excerpt.Text.Quoted
import Excerpt.Text.Script
import Excerpt.Text.WordCharacter
import Excerpt.Value.Basic
import Excerpt.Value.Display
import Excerpt.Yaml.Scalar
import Excerpt.Yaml.Writer
import Excerpt.Proofs.RuleBook
import Excerpt.Proofs.Matcher.Closed
import Excerpt.Proofs.Template.Openings
import Excerpt.Proofs.Template.StepNames
import Excerpt.Proofs.Template.WellFormed
import Excerpt.Proofs.Sequence.Course
import Excerpt.Proofs.Sequence.Bindings
import Excerpt.Proofs.Sequence.Consumption
import Excerpt.Proofs.Matcher.Origin
import Excerpt.Proofs.Extracted
import Excerpt.Proofs.Sequence.Splice
import Excerpt.Proofs.Definitions
import Excerpt.Proofs.Repetition.Chain
import Excerpt.Proofs.Repetition.EmptyElement
import Excerpt.Proofs.Matcher.Choice
import Excerpt.Proofs.Nesting.Balanced
import Excerpt.Proofs.Regex.Visits
import Excerpt.Proofs.Regex.StringLiteral
import Excerpt.Proofs.Regex.TextStart
import Excerpt.Proofs.Regex.Steady.Basic
import Excerpt.Proofs.Regex.Steady.Class
import Excerpt.Proofs.Regex.Steady.Element
import Excerpt.Proofs.Regex.Anchor
import Excerpt.Proofs.Flattening
import Excerpt.Proofs.Matcher.MatchedFront
import Excerpt.Proofs.Definitions.Levels
import Excerpt.Proofs.Matcher.PullUp
