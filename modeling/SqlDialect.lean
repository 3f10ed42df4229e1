import SqlDialect.Cell.Declared
import SqlDialect.Cell.FromJson
import SqlDialect.CommandLine.Run
import SqlDialect.Main
import SqlDialect.Proofs.Query.Comparison
import SqlDialect.Proofs.Rule.Rewriting
import SqlDialect.Query.Massage
import SqlDialect.Rule.Table
import SqlDialect.Schema.Import
import SqlDialect.Session.Connect
import SqlDialect.Session.Cursor
import SqlDialect.Session.Embedded
import SqlDialect.Session.Native
import SqlDialect.Session.Script
import SqlDialect.Settings.Basic
import SqlDialect.Proofs.Query.Occurrence
import SqlDialect.Proofs.Query.Spread
import SqlDialect.Proofs.Query.Outcome
import SqlDialect.Proofs.Schema.ImportRun
import SqlDialect.Proofs.Translation.Rereading
import SqlDialect.Proofs.Schema.Withheld
import SqlDialect.Proofs.Rule.Weight
import SqlDialect.Proofs.Token.Unit
import SqlDialect.Proofs.Token.Seam
import SqlDialect.Proofs.Translation.Units
import SqlDialect.Proofs.Query.QuestionMark
import SqlDialect.Proofs.Query.Batch
import SqlDialect.Proofs.Query.OutOfBand
import SqlDialect.Proofs.Query.Alignment
import SqlDialect.Proofs.Translation.Frame
import SqlDialect.Proofs.Translation.Literals
import SqlDialect.Proofs.Session.Rows
import SqlDialect.Proofs.Session.Span
import SqlDialect.Proofs.Calendar.Day
import SqlDialect.Proofs.Calendar.Reader
import SqlDialect.Proofs.Schema.Written
import SqlDialect.Proofs.Session.Stored
import SqlDialect.Proofs.Text.Utf8
import SqlDialect.Proofs.Wire.Bytes
import SqlDialect.Proofs.Wire.Form
import SqlDialect.Proofs.Wire.Missing
import SqlDialect.Proofs.Wire.RoundTrip
import SqlDialect.Proofs.Query.Numbering
import SqlDialect.Proofs.Rule.Progress
import SqlDialect.Proofs.Schema.Declaration
import SqlDialect.Proofs.Translation.Foreign
import SqlDialect.Proofs.Schema.EnumOrder
import SqlDialect.Proofs.Schema.InForce
import SqlDialect.Proofs.Translation.Spelling
import SqlDialect.Proofs.Translation.Settled
import SqlDialect.Proofs.Session.Fetch
import SqlDialect.Proofs.Session.Forms
import SqlDialect.Proofs.Cell.Declared
import SqlDialect.Proofs.Session.LastRow
import SqlDialect.Proofs.Wire.Interval
import SqlDialect.Proofs.CommandLine.Alignment
import SqlDialect.Proofs.Settings.Certificate
import SqlDialect.Proofs.Settings.Keyword
import SqlDialect.Proofs.Session.Connection
import SqlDialect.Proofs.Session.Ledger
