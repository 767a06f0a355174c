import Tariff.Catalog
import Tariff.Collision
import Tariff.CommandLine.Arguments
import Tariff.CommandLine.Trial
import Tariff.Failure
import Tariff.Fault
import Tariff.Formula.Check
import Tariff.Formula.Error
import Tariff.Formula.Evaluation
import Tariff.Formula.Layout
import Tariff.Formula.Operator
import Tariff.Formula.Parser
import Tariff.Formula.Token
import Tariff.Formula.Tree
import Tariff.Main
import Tariff.Match
import Tariff.Moment
import Tariff.Moment.Reading
import Tariff.Money.Format
import Tariff.Money.Rounding
import Tariff.Number.Binary
import Tariff.Number.Numeral
import Tariff.Number.Power
import Tariff.Number.Shortest
import Tariff.Number.Written
import Tariff.Proofs.Audit
import Tariff.Proofs.Catalog
import Tariff.Proofs.Collision.Conflicts
import Tariff.Proofs.Collision.Coverage
import Tariff.Proofs.Collision.Exactness
import Tariff.Proofs.Collision.Grouping
import Tariff.Proofs.Formula.Balance
import Tariff.Proofs.Formula.Checking
import Tariff.Proofs.Formula.Choice
import Tariff.Proofs.Formula.Cursor
import Tariff.Proofs.Formula.Dependence
import Tariff.Proofs.Formula.Descent.Completeness
import Tariff.Proofs.Formula.Descent.Failing
import Tariff.Proofs.Formula.Descent.Leaving
import Tariff.Proofs.Formula.Descent.Limit
import Tariff.Proofs.Formula.Descent.Misplaced
import Tariff.Proofs.Formula.Descent.Places
import Tariff.Proofs.Formula.Descent.Soundness
import Tariff.Proofs.Formula.Descent.Walking
import Tariff.Proofs.Formula.Evaluation
import Tariff.Proofs.Formula.Exactness
import Tariff.Proofs.Formula.Extremes
import Tariff.Proofs.Formula.FirstWrong
import Tariff.Proofs.Formula.Grammar
import Tariff.Proofs.Formula.Greedy
import Tariff.Proofs.Formula.Interpretation
import Tariff.Proofs.Formula.Keywords
import Tariff.Proofs.Formula.Layout
import Tariff.Proofs.Formula.Lexing
import Tariff.Proofs.Formula.LongSum
import Tariff.Proofs.Formula.Names
import Tariff.Proofs.Formula.Nesting
import Tariff.Proofs.Formula.Parentheses
import Tariff.Proofs.Formula.Respacing
import Tariff.Proofs.Formula.Room
import Tariff.Proofs.Formula.Scan
import Tariff.Proofs.Formula.Spacing
import Tariff.Proofs.Formula.Spelling
import Tariff.Proofs.Formula.Texts
import Tariff.Proofs.Formula.Unambiguity
import Tariff.Proofs.Formula.Viable
import Tariff.Proofs.Formula.Words
import Tariff.Proofs.Formula.ZeroDivisor
import Tariff.Proofs.Match.Candidates
import Tariff.Proofs.Match.Optimality
import Tariff.Proofs.Match.Ranking
import Tariff.Proofs.Members
import Tariff.Proofs.Moment
import Tariff.Proofs.Money.Idempotence
import Tariff.Proofs.Money.ReadingBack
import Tariff.Proofs.Money.Rounding
import Tariff.Proofs.Number.Arithmetic
import Tariff.Proofs.Number.Decimal
import Tariff.Proofs.Number.Magnitude
import Tariff.Proofs.Number.Nearest
import Tariff.Proofs.Number.Neighbours
import Tariff.Proofs.Number.Order
import Tariff.Proofs.Number.Range
import Tariff.Proofs.Number.Rounding
import Tariff.Proofs.Number.Writing
import Tariff.Proofs.Outcome
import Tariff.Proofs.Overflow
import Tariff.Proofs.Quote.Amounts
import Tariff.Proofs.Quote.Bounds
import Tariff.Proofs.Quote.Choices
import Tariff.Proofs.Quote.Display
import Tariff.Proofs.Quote.Faults
import Tariff.Proofs.Quote.Finiteness
import Tariff.Proofs.Quote.Gate
import Tariff.Proofs.Quote.Inputs
import Tariff.Proofs.Quote.Naming
import Tariff.Proofs.Quote.Orderable
import Tariff.Proofs.Quote.Stages
import Tariff.Proofs.Snapshot
import Tariff.Proofs.Snapshot.File
import Tariff.Proofs.Sorting
import Tariff.Proofs.Tiers
import Tariff.Quote
import Tariff.Quote.Breakdown
import Tariff.Quote.FieldValue
import Tariff.Review
import Tariff.Review.Table
import Tariff.Session
import Tariff.Settings
import Tariff.Snapshot
import Tariff.Storefront
import Tariff.Template
import Tariff.Template.Entry
import Tariff.Template.Field
import Tariff.Template.Tier
import Tariff.Text.Blank
import Tariff.Text.Case
import Tariff.Text.Case.Table
import Tariff.Text.Digit
import Tariff.Text.Printable
import Tariff.Text.Quoted
import Tariff.Value
import Tariff.Value.Document
import Tariff.Value.Indented
import Tariff.Value.Scalar
import Tariff.Value.Written
