import ComparativeLaw.Bundled.Decisions
import ComparativeLaw.Bundled.Engine
import ComparativeLaw.Bundled.Rules
import ComparativeLaw.Calendar.Date
import ComparativeLaw.Calendar.Reading
import ComparativeLaw.CaseLaw.Decision
import ComparativeLaw.CaseLaw.Index
import ComparativeLaw.CaseLaw.Query
import ComparativeLaw.CaseLaw.Search
import ComparativeLaw.CaseLaw.Token
import ComparativeLaw.CaseLaw.Vocabulary
import ComparativeLaw.Catalog
import ComparativeLaw.ChoiceOfLaw.Analysis
import ComparativeLaw.ChoiceOfLaw.BetterLaw
import ComparativeLaw.ChoiceOfLaw.CombinedModern
import ComparativeLaw.ChoiceOfLaw.Contacts
import ComparativeLaw.ChoiceOfLaw.Facts
import ComparativeLaw.ChoiceOfLaw.InterestAnalysis
import ComparativeLaw.ChoiceOfLaw.Relationship
import ComparativeLaw.ChoiceOfLaw.Resolution
import ComparativeLaw.ChoiceOfLaw.Standing
import ComparativeLaw.ChoiceOfLaw.Territorial
import ComparativeLaw.ChoiceOfLaw.Vocabulary
import ComparativeLaw.ChoiceOfLaw.Weights
import ComparativeLaw.CommandLine.Command
import ComparativeLaw.CommandLine.Outcome
import ComparativeLaw.CommandLine.Words
import ComparativeLaw.Comparison
import ComparativeLaw.DataRoot
import ComparativeLaw.Engine.Basic
import ComparativeLaw.Engine.Call
import ComparativeLaw.Event
import ComparativeLaw.Fault
import ComparativeLaw.Feed.Decisions
import ComparativeLaw.Feed.File
import ComparativeLaw.Feed.RuleRecord
import ComparativeLaw.Feed.Rules
import ComparativeLaw.Json.Basic
import ComparativeLaw.Json.Conversion
import ComparativeLaw.Json.Printer
import ComparativeLaw.Json.Reader
import ComparativeLaw.Jurisdiction.Basic
import ComparativeLaw.Jurisdiction.Code
import ComparativeLaw.Jurisdiction.Known
import ComparativeLaw.Jurisdiction.Registry
import ComparativeLaw.Main
import ComparativeLaw.Number.Numeral
import ComparativeLaw.Number.Rounding
import ComparativeLaw.Number.Scalar
import ComparativeLaw.Number.Shortest
import ComparativeLaw.Number.Text
import ComparativeLaw.Policy
import ComparativeLaw.Report
import ComparativeLaw.Rule.Basic
import ComparativeLaw.Rule.Draft
import ComparativeLaw.Rule.Entry
import ComparativeLaw.Rule.Payload
import ComparativeLaw.Schema.Day
import ComparativeLaw.Schema.Number
import ComparativeLaw.Schema.Problem
import ComparativeLaw.Schema.Reading
import ComparativeLaw.Scoring
import ComparativeLaw.Service.Action
import ComparativeLaw.Service.Basic
import ComparativeLaw.Service.Clock
import ComparativeLaw.Service.Description
import ComparativeLaw.Service.Host
import ComparativeLaw.Service.Key
import ComparativeLaw.Service.Limiter
import ComparativeLaw.Service.Message
import ComparativeLaw.Service.Page
import ComparativeLaw.Service.Path
import ComparativeLaw.Service.Refusal
import ComparativeLaw.Service.Target
import ComparativeLaw.Table
import ComparativeLaw.Text.Blank
import ComparativeLaw.Text.Case
import ComparativeLaw.Text.CaseTable
import ComparativeLaw.Text.Digit
import ComparativeLaw.Text.Encoding
import ComparativeLaw.Text.Point
import ComparativeLaw.Text.Printable
import ComparativeLaw.Text.Quoted
import ComparativeLaw.Text.Resemblance
import ComparativeLaw.Text.Utf8
import ComparativeLaw.Topic
import ComparativeLaw.Vocabulary
import ComparativeLaw.Proofs.Checked
import ComparativeLaw.Proofs.Number.Exact
import ComparativeLaw.Proofs.Scoring
import ComparativeLaw.Proofs.CaseLaw.Token
import ComparativeLaw.Proofs.CaseLaw.Filing
import ComparativeLaw.Proofs.Policy
import ComparativeLaw.Proofs.CaseLaw.Scan
import ComparativeLaw.Proofs.ChoiceOfLaw.Contacts
import ComparativeLaw.Proofs.ChoiceOfLaw.Shares
import ComparativeLaw.Proofs.ChoiceOfLaw.Recognised
import ComparativeLaw.Proofs.ChoiceOfLaw.Reports
import ComparativeLaw.Proofs.Service.Resource
import ComparativeLaw.Proofs.Service.Limiter
import ComparativeLaw.Proofs.Comparison.Partition
import ComparativeLaw.Proofs.Engine.Building
import ComparativeLaw.Proofs.Engine.Snapshot
import ComparativeLaw.Proofs.ChoiceOfLaw.Standing
import ComparativeLaw.Proofs.ChoiceOfLaw.Contest
import ComparativeLaw.Proofs.ChoiceOfLaw.Fractions
import ComparativeLaw.Proofs.Text.Settled
import ComparativeLaw.Proofs.Text.Trim
import ComparativeLaw.Proofs.Jurisdiction.Canonical
import ComparativeLaw.Proofs.ChoiceOfLaw.Selection
import ComparativeLaw.Proofs.Order
import ComparativeLaw.Proofs.Rule.Payload
import ComparativeLaw.Proofs.Number.Double
import ComparativeLaw.Proofs.CaseLaw.Ranking
import ComparativeLaw.Proofs.ChoiceOfLaw.Reordered
import ComparativeLaw.Proofs.ChoiceOfLaw.Division
import ComparativeLaw.Proofs.ChoiceOfLaw.Failing
import ComparativeLaw.Proofs.Text.Surrogate
import ComparativeLaw.Proofs.Topic
import ComparativeLaw.Proofs.Calendar.Text
import ComparativeLaw.Proofs.Schema.Reading
import ComparativeLaw.Proofs.Feed.Decisions
import ComparativeLaw.Proofs.Rule.Worded
import ComparativeLaw.Proofs.Comparison.Answer
import ComparativeLaw.Proofs.Service.Answer
import ComparativeLaw.Proofs.CaseLaw.Bounds
import ComparativeLaw.Proofs.Jurisdiction.Merging
import ComparativeLaw.Proofs.Engine.Worded
import ComparativeLaw.Proofs.Engine.Coverage
import ComparativeLaw.Proofs.Feed.Rules
import ComparativeLaw.Proofs.Comparison.Consulting
import ComparativeLaw.Proofs.ChoiceOfLaw.Forum
import ComparativeLaw.Proofs.Feed.Loading
import ComparativeLaw.Proofs.Number.Reading
import ComparativeLaw.Proofs.Feed.Payload
import ComparativeLaw.Proofs.Feed.Joined
import ComparativeLaw.Proofs.CaseLaw.Addition
import ComparativeLaw.Proofs.CaseLaw.Citation
import ComparativeLaw.Proofs.CaseLaw.Phrase
import ComparativeLaw.Proofs.Jurisdiction.Spelling
import ComparativeLaw.Proofs.Feed.Codes
import ComparativeLaw.Proofs.ChoiceOfLaw.Weights
import ComparativeLaw.Proofs.ChoiceOfLaw.Raised
import ComparativeLaw.Proofs.Number.Extended
import ComparativeLaw.Proofs.ChoiceOfLaw.Weighable
import ComparativeLaw.Proofs.ChoiceOfLaw.Trichotomy
import ComparativeLaw.Proofs.Text.Recased
import ComparativeLaw.Proofs.CaseLaw.Keyword
import ComparativeLaw.Proofs.ChoiceOfLaw.Decisive
import ComparativeLaw.Proofs.Comparison.Relisted
import ComparativeLaw.Proofs.ChoiceOfLaw.Judged
import ComparativeLaw.Proofs.ChoiceOfLaw.Involved
import ComparativeLaw.Proofs.Catalog.Views
import ComparativeLaw.Proofs.Comparison.Matrix
import ComparativeLaw.Proofs.Comparison.Mean
import ComparativeLaw.Proofs.Comparison.Distribution
import ComparativeLaw.Proofs.Scoring.WeightedMean
import ComparativeLaw.Proofs.Rule.Draft
import ComparativeLaw.Proofs.CaseLaw.Query
import ComparativeLaw.Proofs.Text.Points
import ComparativeLaw.Proofs.Report
import ComparativeLaw.Proofs.ChoiceOfLaw.Gap
import ComparativeLaw.Proofs.Jurisdiction.Union
import ComparativeLaw.Proofs.Text.Sigma
import ComparativeLaw.Proofs.CaseLaw.Locality
