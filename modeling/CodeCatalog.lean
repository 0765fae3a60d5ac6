import CodeCatalog.Act
import CodeCatalog.Catalog
import CodeCatalog.CommandLine.Grammar
import CodeCatalog.CommandLine.Program
import CodeCatalog.CommandLine.Reach
import CodeCatalog.Decimal.Binary64
import CodeCatalog.Decimal.Shortest
import CodeCatalog.Decimal.Word
import CodeCatalog.Digest.Sha256
import CodeCatalog.Element.Basic
import CodeCatalog.Element.Draft
import CodeCatalog.Element.Field
import CodeCatalog.Element.Kind
import CodeCatalog.Element.Record
import CodeCatalog.Element.Summary
import CodeCatalog.Failure
import CodeCatalog.Failure.Assembly
import CodeCatalog.Json.Printer
import CodeCatalog.Json.Reader
import CodeCatalog.Json.Value
import CodeCatalog.Log.Clock
import CodeCatalog.Log.Event
import CodeCatalog.Log.Line
import CodeCatalog.Log.Session
import CodeCatalog.Log.Sink
import CodeCatalog.Main
import CodeCatalog.Proofs.Act
import CodeCatalog.Proofs.Catalog.Agreement
import CodeCatalog.Proofs.Catalog.Binding
import CodeCatalog.Proofs.Catalog.Failing
import CodeCatalog.Proofs.Catalog.Intake
import CodeCatalog.Proofs.Catalog.Listing
import CodeCatalog.Proofs.Catalog.Visit
import CodeCatalog.Proofs.CommandLine.Commands
import CodeCatalog.Proofs.CommandLine.Invocation
import CodeCatalog.Proofs.CommandLine.Persistence
import CodeCatalog.Proofs.CommandLine.Showing
import CodeCatalog.Proofs.CommandLine.Words
import CodeCatalog.Proofs.Decimal.Quotient
import CodeCatalog.Proofs.Decimal.Rounding
import CodeCatalog.Proofs.Element.Reading
import CodeCatalog.Proofs.Element.Record
import CodeCatalog.Proofs.Element.Restoring
import CodeCatalog.Proofs.Element.Strictness
import CodeCatalog.Proofs.Json.Halves
import CodeCatalog.Proofs.Json.Limits
import CodeCatalog.Proofs.Json.Nesting
import CodeCatalog.Proofs.Json.Proper
import CodeCatalog.Proofs.Json.RoundTrip
import CodeCatalog.Proofs.Log.Contents
import CodeCatalog.Proofs.Log.Delivery
import CodeCatalog.Proofs.Log.Levels
import CodeCatalog.Proofs.Log.Line
import CodeCatalog.Proofs.Parallel
import CodeCatalog.Proofs.Search.Accounting
import CodeCatalog.Proofs.Search.Activity
import CodeCatalog.Proofs.Search.Analysis
import CodeCatalog.Proofs.Search.Atomicity
import CodeCatalog.Proofs.Search.Conjunction
import CodeCatalog.Proofs.Search.Degraded
import CodeCatalog.Proofs.Search.Document
import CodeCatalog.Proofs.Search.Engine
import CodeCatalog.Proofs.Search.Exclusion
import CodeCatalog.Proofs.Search.Failing
import CodeCatalog.Proofs.Search.Finding
import CodeCatalog.Proofs.Search.Keyed
import CodeCatalog.Proofs.Search.Naming
import CodeCatalog.Proofs.Search.Opening
import CodeCatalog.Proofs.Search.Origin
import CodeCatalog.Proofs.Search.Overlooked
import CodeCatalog.Proofs.Search.Pacing
import CodeCatalog.Proofs.Search.Prefix
import CodeCatalog.Proofs.Search.Readers
import CodeCatalog.Proofs.Search.Reading
import CodeCatalog.Proofs.Search.Refinement
import CodeCatalog.Proofs.Search.Session
import CodeCatalog.Proofs.Search.Stored
import CodeCatalog.Proofs.Search.Struck
import CodeCatalog.Proofs.Search.Unlogged
import CodeCatalog.Proofs.Search.Writing
import CodeCatalog.Proofs.Settings.Budget
import CodeCatalog.Proofs.Settings.Cells
import CodeCatalog.Proofs.Settings.Check
import CodeCatalog.Proofs.Settings.Fixpoint
import CodeCatalog.Proofs.Settings.Layers
import CodeCatalog.Proofs.Settings.Merge
import CodeCatalog.Proofs.Settings.Outcome
import CodeCatalog.Proofs.Settings.Precedence
import CodeCatalog.Proofs.Settings.Report
import CodeCatalog.Proofs.Settings.Sections
import CodeCatalog.Proofs.Settings.Source
import CodeCatalog.Proofs.Settings.Validity
import CodeCatalog.Proofs.Settings.Variables
import CodeCatalog.Proofs.Settings.Verdict
import CodeCatalog.Proofs.Storage.Growth
import CodeCatalog.Proofs.Storage.Path
import CodeCatalog.Proofs.Storage.Tree
import CodeCatalog.Proofs.Store.FullName
import CodeCatalog.Proofs.Store.History
import CodeCatalog.Proofs.Store.Ledger
import CodeCatalog.Proofs.Store.Substring
import CodeCatalog.Proofs.Stream.Contents
import CodeCatalog.Proofs.Stream.Folding
import CodeCatalog.Proofs.Stream.Held
import CodeCatalog.Proofs.Stream.Isolation
import CodeCatalog.Proofs.Stream.RoundTrip
import CodeCatalog.Proofs.Text.Case
import CodeCatalog.Proofs.Text.Runs
import CodeCatalog.Proofs.Text.Sign
import CodeCatalog.Proofs.Text.Within
import CodeCatalog.Proofs.Text.Words
import CodeCatalog.Proofs.Yaml.Sound
import CodeCatalog.Search.Collection
import CodeCatalog.Search.Description
import CodeCatalog.Search.Document
import CodeCatalog.Search.Engine
import CodeCatalog.Search.Expression
import CodeCatalog.Search.Index
import CodeCatalog.Search.Limit
import CodeCatalog.Search.Query
import CodeCatalog.Search.Readers
import CodeCatalog.Search.Saved
import CodeCatalog.Search.Term
import CodeCatalog.Settings.Check
import CodeCatalog.Settings.Datum
import CodeCatalog.Settings.Load
import CodeCatalog.Settings.Model
import CodeCatalog.Settings.Number
import CodeCatalog.Settings.Problem
import CodeCatalog.Settings.Variables
import CodeCatalog.Storage.Path
import CodeCatalog.Storage.Tree
import CodeCatalog.Store.Basic
import CodeCatalog.Store.Ledger
import CodeCatalog.Stream.Decoding
import CodeCatalog.Stream.Reading
import CodeCatalog.Stream.Writing
import CodeCatalog.Text.Blank
import CodeCatalog.Text.Case
import CodeCatalog.Text.CaseTable
import CodeCatalog.Text.Cut
import CodeCatalog.Text.Digits
import CodeCatalog.Text.LetterTable
import CodeCatalog.Text.Line
import CodeCatalog.Text.PrintableTable
import CodeCatalog.Text.Quoted
import CodeCatalog.Text.RangeTable
import CodeCatalog.Text.Resemblance
import CodeCatalog.Yaml.Base64
import CodeCatalog.Yaml.Build
import CodeCatalog.Yaml.Cursor
import CodeCatalog.Yaml.Data
import CodeCatalog.Yaml.Node
import CodeCatalog.Yaml.Scalar
import CodeCatalog.Yaml.Tag
import CodeCatalog.Yaml.Token
import CodeCatalog.Yaml.Value
