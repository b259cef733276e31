import PagedForm.Binary64.Basic
import PagedForm.Binary64.Decimal
import PagedForm.Command.Invocation
import PagedForm.Command.Option
import PagedForm.Command.Response
import PagedForm.Command.Task
import PagedForm.Decision.Basic
import PagedForm.Decision.Parse
import PagedForm.Decision.Render
import PagedForm.Decision.Token
import PagedForm.Diagnosis.Cycle
import PagedForm.Diagnosis.Lint
import PagedForm.Diagnosis.Reach
import PagedForm.Diagnosis.Report
import PagedForm.Diagram
import PagedForm.Example
import PagedForm.Fault
import PagedForm.Field.Answer
import PagedForm.Field.Basic
import PagedForm.Field.Define
import PagedForm.Field.Display
import PagedForm.Field.Document
import PagedForm.Field.Fresh
import PagedForm.Field.Kind
import PagedForm.FileName
import PagedForm.Form.Basic
import PagedForm.Form.Compare
import PagedForm.Form.Document
import PagedForm.Form.Edit
import PagedForm.Form.Saved
import PagedForm.Form.Select
import PagedForm.Json.Reader
import PagedForm.Json.Writer
import PagedForm.Log
import PagedForm.Main
import PagedForm.Moment.Basic
import PagedForm.Moment.Reader
import PagedForm.Navigation.Edge
import PagedForm.Navigation.Outcome
import PagedForm.Navigation.Preview
import PagedForm.Navigation.Run
import PagedForm.Navigation.Visible
import PagedForm.Proofs.Binary64.Rounding
import PagedForm.Proofs.Binary64.Shortest
import PagedForm.Proofs.Command.PageSelection
import PagedForm.Proofs.Decision.Grammar
import PagedForm.Proofs.Decision.Lexical
import PagedForm.Proofs.Decision.Reading
import PagedForm.Proofs.Decision.RoundTrip
import PagedForm.Proofs.Diagnosis.CleanReport
import PagedForm.Proofs.Diagnosis.CleanRuns
import PagedForm.Proofs.Diagnosis.CycleReport
import PagedForm.Proofs.Diagnosis.CycleSearch
import PagedForm.Proofs.Diagnosis.Faultless
import PagedForm.Proofs.Diagnosis.FiledFindings
import PagedForm.Proofs.Diagnosis.Findings
import PagedForm.Proofs.Diagnosis.Linting
import PagedForm.Proofs.Diagnosis.NamedTargets
import PagedForm.Proofs.Diagnosis.Reachability
import PagedForm.Proofs.Diagnosis.UnreachableReport
import PagedForm.Proofs.Diagram.Faithful
import PagedForm.Proofs.Diagram.Statement
import PagedForm.Proofs.Failures
import PagedForm.Proofs.Field.Conversion
import PagedForm.Proofs.Field.NewFields
import PagedForm.Proofs.Form.AddedFields
import PagedForm.Proofs.Form.Commuting
import PagedForm.Proofs.Form.DefaultShapes
import PagedForm.Proofs.Form.DistinctIds
import PagedForm.Proofs.Form.Exportable
import PagedForm.Proofs.Form.FreshPages
import PagedForm.Proofs.Form.JsonDocument
import PagedForm.Proofs.Form.Loading
import PagedForm.Proofs.Form.Lossless
import PagedForm.Proofs.Form.MovedFields
import PagedForm.Proofs.Form.References
import PagedForm.Proofs.Form.Refusal
import PagedForm.Proofs.Form.ReloadedOutput
import PagedForm.Proofs.Form.Renaming
import PagedForm.Proofs.Form.Reordering
import PagedForm.Proofs.Form.Resaved
import PagedForm.Proofs.Form.Settled
import PagedForm.Proofs.Form.Usable
import PagedForm.Proofs.Json.Float
import PagedForm.Proofs.Json.Numeral
import PagedForm.Proofs.Json.Reading
import PagedForm.Proofs.Json.RoundTrip
import PagedForm.Proofs.Json.Text
import PagedForm.Proofs.Navigation.Blocking
import PagedForm.Proofs.Navigation.Course
import PagedForm.Proofs.Navigation.Coverage
import PagedForm.Proofs.Navigation.Edges
import PagedForm.Proofs.Navigation.Enforcement
import PagedForm.Proofs.Navigation.Evaluation
import PagedForm.Proofs.Navigation.Leaving
import PagedForm.Proofs.Navigation.OwnAnswers
import PagedForm.Proofs.Navigation.Previewing
import PagedForm.Proofs.Navigation.Showing
import PagedForm.Proofs.Navigation.Taking
import PagedForm.Proofs.Navigation.Ticking
import PagedForm.Proofs.Numbering
import PagedForm.Proofs.PathLookup
import PagedForm.Proofs.Records
import PagedForm.Proofs.Results
import PagedForm.Proofs.Routing.Export
import PagedForm.Proofs.Routing.FirstMatch
import PagedForm.Proofs.Routing.Selection
import PagedForm.Proofs.Schema.Agreement
import PagedForm.Proofs.Schema.Presentation
import PagedForm.Proofs.Settings.KnownSettings
import PagedForm.Proofs.Upload.Answering
import PagedForm.Proofs.Upload.Checking
import PagedForm.Proofs.Walk
import PagedForm.Proofs.Yaml.DistinctKeys
import PagedForm.Proofs.Yaml.Ordering
import PagedForm.Routing.Decide
import PagedForm.Schema.Compile
import PagedForm.Schema.Data
import PagedForm.Schema.Export
import PagedForm.Schema.Presentation
import PagedForm.Session
import PagedForm.Settings.Basic
import PagedForm.Settings.Load
import PagedForm.Table
import PagedForm.Template
import PagedForm.Text.Blank
import PagedForm.Text.Digit
import PagedForm.Text.LineEnd
import PagedForm.Text.Numeral
import PagedForm.Text.Printable
import PagedForm.Text.Quoted
import PagedForm.Text.Surrogate
import PagedForm.Upload
import PagedForm.Value.Basic
import PagedForm.Value.Compare
import PagedForm.Value.Display
import PagedForm.Yaml.Cursor
import PagedForm.Yaml.Document
import PagedForm.Yaml.Node
import PagedForm.Yaml.Plain
import PagedForm.Yaml.Reader
import PagedForm.Yaml.Scalar
import PagedForm.Yaml.Token
import PagedForm.Yaml.Writer
