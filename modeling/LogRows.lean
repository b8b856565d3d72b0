import LogRows.CommandLine.Flag
import LogRows.CommandLine.Help
import LogRows.CommandLine.Invocation
import LogRows.CommandLine.Words
import LogRows.Condition.Filter
import LogRows.Condition.Glob
import LogRows.Condition.Parse
import LogRows.Condition.SyntaxError
import LogRows.Condition.Token
import LogRows.Condition.Tree
import LogRows.Date
import LogRows.Decimal.Binary64
import LogRows.Decimal.Shortest
import LogRows.Disk
import LogRows.Json.Number
import LogRows.Json.Reader
import LogRows.Json.Value
import LogRows.Main
import LogRows.Program.Commands
import LogRows.Program.Failure
import LogRows.Program.Host
import LogRows.Program.Run
import LogRows.Report.RowText
import LogRows.Report.Selection
import LogRows.Report.Style
import LogRows.Row
import LogRows.Row.Decode
import LogRows.Settings
import LogRows.Settings.Document
import LogRows.Settings.Store
import LogRows.SortedMap
import LogRows.Stream.Config
import LogRows.Stream.Line
import LogRows.Stream.Open
import LogRows.Stream.Pipeline
import LogRows.Stream.Schedule
import LogRows.Stream.Scope
import LogRows.Stream.Source
import LogRows.Text.Alphanumeric
import LogRows.Text.Blank
import LogRows.Text.CodeRanges
import LogRows.Text.Lowercase
import LogRows.Text.Quoted
import LogRows.Text.Replace
import LogRows.Text.Utf8
import LogRows.Toml.Document
import LogRows.Toml.Number
import LogRows.Toml.Text
import LogRows.Toml.Value
import LogRows.Toml.Writer
import LogRows.View
import LogRows.Proofs.LineSplitting
import LogRows.Proofs.ConditionGrammar
import LogRows.Proofs.Stream.Move
import LogRows.Proofs.Stream.Run
import LogRows.Proofs.Stream.Delivery
import LogRows.Proofs.Stream.Account
import LogRows.Proofs.Stream.Draining
import LogRows.Proofs.Stream.ReadModes
import LogRows.Proofs.ConditionFaults
import LogRows.Proofs.Scanning
import LogRows.Proofs.FilterComposition
import LogRows.Proofs.Stream.Custody
import LogRows.Proofs.Stream.Lifecycle
import LogRows.Proofs.Stream.Appends
import LogRows.Proofs.Stream.Cancellation
import LogRows.Proofs.ConditionPrinting
import LogRows.Proofs.Disk
import LogRows.Proofs.Toml.Strings
import LogRows.Proofs.Toml.Numbers
import LogRows.Proofs.Toml.Lines
import LogRows.Proofs.SettingsText
import LogRows.Proofs.TemplateStore
import LogRows.Proofs.Stream.Scheduling
import LogRows.Proofs.Program.Outcomes
import LogRows.Proofs.Program.TailAndWatch
import LogRows.Proofs.LexicalRules
import LogRows.Proofs.StarPatterns
import LogRows.Proofs.LinePlaces
import LogRows.Proofs.Stream.Tail
import LogRows.Proofs.CaselessRows
import LogRows.Proofs.Text.SmallLetters
import LogRows.Proofs.FieldChecks
import LogRows.Proofs.WordChecks
import LogRows.Proofs.FaultColumns
import LogRows.Proofs.Text.ByteOrder
import LogRows.Proofs.FieldSelection
import LogRows.Proofs.CheckKinds
import LogRows.Proofs.Stream.LineEndings
import LogRows.Proofs.Program.SavedTemplates
import LogRows.Proofs.BufferedBytes
import LogRows.Proofs.ConditionHeight
import LogRows.Proofs.Text.Replacing
import LogRows.Proofs.DatedNames
import LogRows.Proofs.WrittenValues
import LogRows.Proofs.UnstyledReports
import LogRows.Proofs.StarScans
