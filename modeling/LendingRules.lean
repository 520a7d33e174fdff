import LendingRules.Cache.Basic
import LendingRules.Cache.Lifetimes
import LendingRules.Digest.Basic
import LendingRules.Digest.Compression
import LendingRules.Digest.Tree
import LendingRules.Document.Basic
import LendingRules.Document.Nesting
import LendingRules.Document.Ranking
import LendingRules.Document.Repetition
import LendingRules.Document.RuleError
import LendingRules.Draft.Basic
import LendingRules.Draft.Writable
import LendingRules.Error
import LendingRules.Facet.Basic
import LendingRules.Facet.Set
import LendingRules.Facet.Table
import LendingRules.Policy.Assignment
import LendingRules.Policy.Basic
import LendingRules.Policy.Table
import LendingRules.Ranking.Basic
import LendingRules.Ranking.Precedence
import LendingRules.Record.Ruling
import LendingRules.Record.Value
import LendingRules.Request.Basic
import LendingRules.Request.Form
import LendingRules.Request.Uuid
import LendingRules.Rule.Basic
import LendingRules.Rule.Criterion
import LendingRules.Rulebook.Basic
import LendingRules.Rulebook.Index
import LendingRules.Rulebook.OfText
import LendingRules.Rulebook.Written
import LendingRules.Ruling.Basic
import LendingRules.Service.Basic
import LendingRules.Service.Inquiry
import LendingRules.Session.Basic
import LendingRules.Statement.Basic
import LendingRules.Statement.Criteria
import LendingRules.Statement.OfLine
import LendingRules.Statement.PolicyList
import LendingRules.Statement.Ranking
import LendingRules.Statement.SyntaxError
import LendingRules.Statement.Token
import LendingRules.Tenant.Map
import LendingRules.Tenant.TextStore
import LendingRules.Text.Alphanumeric
import LendingRules.Text.Blank
import LendingRules.Text.CodeRange
import LendingRules.Text.Cursor
import LendingRules.Text.Extending
import LendingRules.Text.Ignorable
import LendingRules.Text.Lines
import LendingRules.Text.Quoted
import LendingRules.Text.Unprintable
import LendingRules.Proofs.Interleaving.World
import LendingRules.Proofs.Interleaving.Generation
import LendingRules.Proofs.Interleaving.Transition
import LendingRules.Proofs.Interleaving.History
import LendingRules.Proofs.Interleaving.Invalidation
import LendingRules.Proofs.Interleaving.Transparency
import LendingRules.Proofs.Interleaving.Alone
import LendingRules.Proofs.Interleaving.Desk
import LendingRules.Proofs.Interleaving.Staleness
import LendingRules.Proofs.Interleaving.Entries
import LendingRules.Proofs.Interleaving.EntryAge
import LendingRules.Proofs.Tenancy.Office
import LendingRules.Proofs.Tenancy.Errands
import LendingRules.Proofs.Tenancy.GuardedTexts
import LendingRules.Proofs.Tenancy.Confinement
import LendingRules.Proofs.Tenancy.Renumbering
import LendingRules.Proofs.Tenancy.Seclusion
import LendingRules.Proofs.Tenancy.Failures
import LendingRules.Proofs.Reading.Success
import LendingRules.Proofs.Reading.TextLines
import LendingRules.Proofs.Rulings.RankingOrder
import LendingRules.Proofs.Reading.LineMeaning
import LendingRules.Proofs.Reading.Entries
import LendingRules.Proofs.Reading.NestingStep
import LendingRules.Proofs.Rulings.Made
import LendingRules.Proofs.Rulings.Matching
import LendingRules.Proofs.Reading.Enclosure
import LendingRules.Proofs.Reading.Flattening
import LendingRules.Proofs.Rulings.Refinement
import LendingRules.Proofs.Writing.Criteria
import LendingRules.Proofs.Writing.RuleLines
import LendingRules.Proofs.Writing.RankingLine
import LendingRules.Proofs.Writing.ReadBack
import LendingRules.Proofs.Writing.Renumbering
import LendingRules.Proofs.Writing.Agreement
import LendingRules.Proofs.Rulings.ProperRules
import LendingRules.Proofs.Rulings.WellFormed
import LendingRules.Proofs.Reading.Faults
import LendingRules.Proofs.Reading.LineFaults
import LendingRules.Proofs.Reading.EntryFaults
import LendingRules.Proofs.Reading.EarliestFault
import LendingRules.Proofs.Writing.Acceptance
import LendingRules.Proofs.Writing.LineNumbers
import LendingRules.Proofs.Writing.TextRules
import LendingRules.Proofs.Writing.TextIds
import LendingRules.Proofs.Writing.FlatText
import LendingRules.Proofs.Grammar.Phrases
import LendingRules.Proofs.Grammar.Tokens
import LendingRules.Proofs.Grammar.Clauses
import LendingRules.Proofs.Grammar.Rankings
import LendingRules.Proofs.Grammar.Lines
import LendingRules.Proofs.Grammar.Texts
import LendingRules.Proofs.Grammar.Padding
import LendingRules.Proofs.Grammar.Positions
import LendingRules.Proofs.Grammar.NamesOnLines
import LendingRules.Proofs.Grammar.FaultColumns
import LendingRules.Proofs.Grammar.ErrorPlaces
import LendingRules.Proofs.Layout.Edits
import LendingRules.Proofs.Layout.Restating
import LendingRules.Proofs.Layout.Documents
import LendingRules.Proofs.Layout.Meaning
import LendingRules.Proofs.Rulings.Specificity
import LendingRules.Proofs.Rulings.Supply
import LendingRules.Proofs.Rulings.Reordering
import LendingRules.Proofs.Rulings.NestedRules
import LendingRules.Proofs.Tenancy.Blame
import LendingRules.Proofs.Requests.Patterns
import LendingRules.Proofs.Requests.Uuids
import LendingRules.Proofs.Requests.Forms
import LendingRules.Proofs.Interleaving.Stages
import LendingRules.Proofs.Interleaving.Serials
import LendingRules.Proofs.Interleaving.Refreshes
import LendingRules.Proofs.Interleaving.Loads
import LendingRules.Proofs.Interleaving.Accounting
