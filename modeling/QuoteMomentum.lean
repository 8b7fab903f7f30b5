import QuoteMomentum.Decimal.Binary
import QuoteMomentum.Decimal.Shortest
import QuoteMomentum.Decimal.Fixed
import QuoteMomentum.Decimal.Notation
import QuoteMomentum.Decimal.Compare
import QuoteMomentum.Decimal.Read
import QuoteMomentum.Text.Points
import QuoteMomentum.Text.Layout
import QuoteMomentum.Text.Quoted
import QuoteMomentum.Value.Basic
import QuoteMomentum.Value.Text
import QuoteMomentum.Value.Number
import QuoteMomentum.Fault
import QuoteMomentum.Json.Read
import QuoteMomentum.Json.Write
import QuoteMomentum.Indicator.Numeric
import QuoteMomentum.Indicator.Ema
import QuoteMomentum.Indicator.Macd
import QuoteMomentum.Indicator.Periods
import QuoteMomentum.Indicator.Intensity
import QuoteMomentum.CommandLine.Options
import QuoteMomentum.CommandLine.Run
import QuoteMomentum.CommandLine.Dotenv
import QuoteMomentum.Display.Row
import QuoteMomentum.Display.Stamp
import QuoteMomentum.Display.Table
import QuoteMomentum.Document.Cursor
import QuoteMomentum.Document.Load
import QuoteMomentum.Document.Node
import QuoteMomentum.Document.Resolve
import QuoteMomentum.Document.Token
import QuoteMomentum.Document.Token.Property
import QuoteMomentum.Document.Token.Scalar
import QuoteMomentum.Document.Token.Scan
import QuoteMomentum.Feed.Bucket
import QuoteMomentum.Feed.Chart
import QuoteMomentum.Feed.Client
import QuoteMomentum.Feed.Url
import QuoteMomentum.Log.Record
import QuoteMomentum.Main
import QuoteMomentum.Monitor.Poll
import QuoteMomentum.Quote.Summary
import QuoteMomentum.Session.History
import QuoteMomentum.Settings.Basic
import QuoteMomentum.Settings.Load
import QuoteMomentum.Settings.Summary
import QuoteMomentum.Settings.Validate
import QuoteMomentum.Text.Case
import QuoteMomentum.Text.Encoding
import QuoteMomentum.Value.Convert
import QuoteMomentum.Proofs.History
import QuoteMomentum.Proofs.Ledger
import QuoteMomentum.Proofs.Answer
import QuoteMomentum.Proofs.Validate
import QuoteMomentum.Proofs.Poll
import QuoteMomentum.Proofs.Macd
import QuoteMomentum.Proofs.Safety
import QuoteMomentum.Proofs.Session
import QuoteMomentum.Proofs.Pacing
import QuoteMomentum.Proofs.Schedule
import QuoteMomentum.Proofs.Configure
import QuoteMomentum.Proofs.Reading
import QuoteMomentum.Proofs.Causality
import QuoteMomentum.Proofs.Scaling
import QuoteMomentum.Proofs.Lag
import QuoteMomentum.Proofs.Cancellation
import QuoteMomentum.Proofs.Quote
import QuoteMomentum.Proofs.Layers
import QuoteMomentum.Proofs.Colors
import QuoteMomentum.Proofs.Address
import QuoteMomentum.Proofs.Rounding
import QuoteMomentum.Proofs.Arithmetic
import QuoteMomentum.Proofs.Crossover
import QuoteMomentum.Proofs.Aligned
import QuoteMomentum.Proofs.Smoothing
import QuoteMomentum.Proofs.Columns
