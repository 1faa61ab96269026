import SqlGauge.Main
import SqlGauge.Proofs.Check.Blame
import SqlGauge.Proofs.Check.Connection
import SqlGauge.Proofs.Number.Exact
import SqlGauge.Proofs.Number.Numeral
import SqlGauge.Proofs.Number.Grammar
import SqlGauge.Proofs.Number.Nearest
import SqlGauge.Proofs.Number.Written
import SqlGauge.Proofs.Threshold.Exact
import SqlGauge.Proofs.Threshold.Grammar
import SqlGauge.Proofs.Threshold.Sameness
import SqlGauge.Proofs.Threshold.Spellings
import SqlGauge.Proofs.Text.Line
import SqlGauge.Proofs.Text.Utf8
import SqlGauge.Proofs.Settings.Trouble
import SqlGauge.Proofs.Settings.Words
import SqlGauge.Proofs.Program.Course
import SqlGauge.Proofs.Program.Ending
import SqlGauge.Proofs.Check.Wording
import SqlGauge.Proofs.Check.Line
import SqlGauge.Proofs.Program.Line
import SqlGauge.Proofs.Settings.Refusal
import SqlGauge.Proofs.Json.Limits
import SqlGauge.Proofs.Program.Return
import SqlGauge.Proofs.Literal.Grammar
import SqlGauge.Proofs.Literal.Writing
import SqlGauge.Proofs.Reading.Number
import SqlGauge.Proofs.Reading.Table
import SqlGauge.Proofs.Reading.Strict
import SqlGauge.Proofs.Reading.Cells
import SqlGauge.Proofs.Reading.History
import SqlGauge.Proofs.Reading.Release
import SqlGauge.Proofs.Check.Memory
import SqlGauge.Proofs.Settings.Agreement
import SqlGauge.Proofs.Program.Secrecy
import SqlGauge.Proofs.Number.Integer
import SqlGauge.Proofs.Address.Deadlines
import SqlGauge.Proofs.Address.Refusal
import SqlGauge.Proofs.Address.Whole
import SqlGauge.Proofs.Settings.Flattening
import SqlGauge.Proofs.Settings.Masking
import SqlGauge.Proofs.Number.General
import SqlGauge.Proofs.Threshold.Infinite
import SqlGauge.Proofs.Threshold.Rebuilding
