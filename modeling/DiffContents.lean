import DiffContents.Arguments
import DiffContents.Buckets
import DiffContents.Category
import DiffContents.Contents
import DiffContents.Decimal.FloatText
import DiffContents.Decimal.Shortest
import DiffContents.Decoding
import DiffContents.Dedup
import DiffContents.Diff
import DiffContents.Document
import DiffContents.Encoding
import DiffContents.Files
import DiffContents.Help
import DiffContents.Json.Error
import DiffContents.Json.Node
import DiffContents.Json.Numeral
import DiffContents.Json.Reader
import DiffContents.Json.Text
import DiffContents.Json.Token
import DiffContents.Json.Value
import DiffContents.Loading
import DiffContents.Log.Directive
import DiffContents.Log.Event
import DiffContents.Log.Filter
import DiffContents.Log.Pattern
import DiffContents.Main
import DiffContents.Naming
import DiffContents.Patch
import DiffContents.Position
import DiffContents.Proofs.AfterSide
import DiffContents.Proofs.Attribution
import DiffContents.Proofs.Building
import DiffContents.Proofs.ByteOrder
import DiffContents.Proofs.Collation
import DiffContents.Proofs.Completeness
import DiffContents.Proofs.ErrorRecords
import DiffContents.Proofs.Filing
import DiffContents.Proofs.FirstFault
import DiffContents.Proofs.Heads
import DiffContents.Proofs.Irredundance
import DiffContents.Proofs.Isolation
import DiffContents.Proofs.Json.Choosing
import DiffContents.Proofs.Json.Making
import DiffContents.Proofs.Json.Nodes
import DiffContents.Proofs.Json.Outlines
import DiffContents.Proofs.Json.Reading
import DiffContents.Proofs.Json.Rewriting
import DiffContents.Proofs.Json.Scanning
import DiffContents.Proofs.Json.Tokens
import DiffContents.Proofs.Json.Values
import DiffContents.Proofs.Justification
import DiffContents.Proofs.LineByLine
import DiffContents.Proofs.Merging
import DiffContents.Proofs.PathKeys
import DiffContents.Proofs.Places
import DiffContents.Proofs.Renderings
import DiffContents.Proofs.Resolution
import DiffContents.Proofs.Rewriting
import DiffContents.Proofs.RoundTrip
import DiffContents.Proofs.Stages
import DiffContents.Proofs.Survival
import DiffContents.Proofs.Tally
import DiffContents.Record
import DiffContents.Report.Edits
import DiffContents.Report.Layout
import DiffContents.Report.Styled
import DiffContents.Report.Summary
import DiffContents.Run
import DiffContents.Settings
import DiffContents.Shape
import DiffContents.Term
import DiffContents.Text.Blank
import DiffContents.Text.CaseTable
import DiffContents.Text.CodePoints
import DiffContents.Text.Digits
import DiffContents.Text.InvisibleTable
import DiffContents.Text.Lines
import DiffContents.Text.Lowercase
import DiffContents.Text.Quoted
import DiffContents.Text.WordTable
import DiffContents.Toml.Numeral
import DiffContents.Toml.Quotation
import DiffContents.Toml.Scanner
import DiffContents.Toml.Statement
import DiffContents.Toml.Tables
import DiffContents.Toml.Value
import DiffContents.Walk
import DiffContents.Proofs.Colours
import DiffContents.Proofs.Traversal
