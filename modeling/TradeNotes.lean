import TradeNotes.Command.Spoken
import TradeNotes.Log.Trace
import TradeNotes.Main
import TradeNotes.Proofs.Session.Turns
import TradeNotes.Proofs.Session.Steps
import TradeNotes.Proofs.Session.Fetching
import TradeNotes.Proofs.Session.Room
import TradeNotes.Proofs.Session.Yielding
import TradeNotes.Proofs.Session.Run
import TradeNotes.Proofs.Text.Decoding
import TradeNotes.Proofs.Text.Lines
import TradeNotes.Proofs.Session.Reading
import TradeNotes.Proofs.Numeral.Grammar
import TradeNotes.Proofs.Numeral.Longest
import TradeNotes.Proofs.Session.History
import TradeNotes.Proofs.Session.Progress
import TradeNotes.Proofs.Session.FullSink
import TradeNotes.Proofs.Cli.Outcome
import TradeNotes.Proofs.Session.Deletion
import TradeNotes.Proofs.Session.FailingSource
import TradeNotes.Proofs.Text.Encoding
import TradeNotes.Proofs.Cli.Agreement
import TradeNotes.Proofs.Tables.Footprint
import TradeNotes.Proofs.Command.Forms
import TradeNotes.Proofs.Session.Permanence
import TradeNotes.Proofs.Text.Words
import TradeNotes.Proofs.Session.Noninterference
import TradeNotes.Proofs.Tables.Dumping
import TradeNotes.Proofs.Session.Exchange
import TradeNotes.Proofs.Session.WellNamed
import TradeNotes.Proofs.Numeral.Rendering
import TradeNotes.Proofs.Numeral.Subtraction
import TradeNotes.Proofs.Session.Tracing
import TradeNotes.Proofs.Binary64.Nonnegative
import TradeNotes.Proofs.Session.Ratios
import TradeNotes.Proofs.Numeral.Growth
import TradeNotes.Proofs.Command.Grammar
import TradeNotes.Proofs.Command.Speaking
import TradeNotes.Proofs.Session.Answering
import TradeNotes.Proofs.Session.Spelling
import TradeNotes.Proofs.Text.Decimal
import TradeNotes.Proofs.Binary64.Nearest
import TradeNotes.Proofs.Binary64.Value
import TradeNotes.Proofs.Binary64.Error
import TradeNotes.Proofs.Credits.Digits
import TradeNotes.Proofs.Credits.Rounding
import TradeNotes.Proofs.Credits.Logarithm
import TradeNotes.Proofs.Credits.Exponent
import TradeNotes.Proofs.Credits.Amount
import TradeNotes.Proofs.Credits.Shape
import TradeNotes.Proofs.Credits.Accuracy
import TradeNotes.Proofs.Credits.Exactness
import TradeNotes.Proofs.Tables.Blame
import TradeNotes.Proofs.Binary64.Midpoint
import TradeNotes.Proofs.Binary64.Range
import TradeNotes.Proofs.Binary64.Steps
import TradeNotes.Proofs.Session.Amounts
import TradeNotes.Proofs.Binary64.Shortest
import TradeNotes.Proofs.Json.Numbers
import TradeNotes.Proofs.Json.Scaling
import TradeNotes.Proofs.Json.Written
import TradeNotes.Proofs.Json.Rereading
import TradeNotes.Proofs.Json.Strings
import TradeNotes.Proofs.Json.Objects
import TradeNotes.Proofs.Tables.Restoring
import TradeNotes.Proofs.Session.Restoring
import TradeNotes.Proofs.Text.Quoting
import TradeNotes.Proofs.Numeral.Bounds
import TradeNotes.Proofs.Tables.Measuring
import TradeNotes.Proofs.Session.Messages
import TradeNotes.Proofs.Cli.Reports
