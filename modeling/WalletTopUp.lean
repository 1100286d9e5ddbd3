import WalletTopUp.Amount.Entry
import WalletTopUp.Amount.Pattern
import WalletTopUp.Amount.Value
import WalletTopUp.Decimal.Basic
import WalletTopUp.Decimal.Normal
import WalletTopUp.Decimal.Parser
import WalletTopUp.Decimal.Power
import WalletTopUp.Decimal.Printer
import WalletTopUp.Decimal.Rounding
import WalletTopUp.Decimal.Shortest
import WalletTopUp.Http.Endpoint
import WalletTopUp.Http.Message
import WalletTopUp.Http.Status
import WalletTopUp.Http.Unreachable
import WalletTopUp.Json.Number
import WalletTopUp.Json.Parser
import WalletTopUp.Json.Printer
import WalletTopUp.Json.Record
import WalletTopUp.Json.Tree
import WalletTopUp.Json.Value
import WalletTopUp.Main
import WalletTopUp.Payment.Order
import WalletTopUp.Payment.Report
import WalletTopUp.Payment.Status
import WalletTopUp.Payment.Submission
import WalletTopUp.Payment.Watch
import WalletTopUp.Pipeline.Basic
import WalletTopUp.Pipeline.Run
import WalletTopUp.Pipeline.Step
import WalletTopUp.Proofs.Amount.Number
import WalletTopUp.Proofs.Amount.Numeral
import WalletTopUp.Proofs.Amount.Text
import WalletTopUp.Proofs.Decimal.Flooring
import WalletTopUp.Proofs.Decimal.Normal
import WalletTopUp.Proofs.Decimal.Number
import WalletTopUp.Proofs.Decimal.Order
import WalletTopUp.Proofs.Decimal.Reading
import WalletTopUp.Proofs.Decimal.RoundTrip
import WalletTopUp.Proofs.Decimal.Text
import WalletTopUp.Proofs.History
import WalletTopUp.Proofs.Http.Addresses
import WalletTopUp.Proofs.Json.Compact
import WalletTopUp.Proofs.Json.Records
import WalletTopUp.Proofs.Json.RoundTrip
import WalletTopUp.Proofs.Json.Scalars
import WalletTopUp.Proofs.Json.Trees
import WalletTopUp.Proofs.Payment.Deliveries
import WalletTopUp.Proofs.Payment.Fetches
import WalletTopUp.Proofs.Payment.Reading
import WalletTopUp.Proofs.Payment.Submission
import WalletTopUp.Proofs.Payment.Updates
import WalletTopUp.Proofs.Pipeline.Agreement
import WalletTopUp.Proofs.Pipeline.Announcements
import WalletTopUp.Proofs.Pipeline.Background
import WalletTopUp.Proofs.Pipeline.BonusDisplay
import WalletTopUp.Proofs.Pipeline.CatchUp
import WalletTopUp.Proofs.Pipeline.Consistency
import WalletTopUp.Proofs.Pipeline.Contract
import WalletTopUp.Proofs.Pipeline.ConversionCalls
import WalletTopUp.Proofs.Pipeline.Conversions
import WalletTopUp.Proofs.Pipeline.Debounce
import WalletTopUp.Proofs.Pipeline.Events
import WalletTopUp.Proofs.Pipeline.FieldText
import WalletTopUp.Proofs.Pipeline.Forecasts
import WalletTopUp.Proofs.Pipeline.Frame
import WalletTopUp.Proofs.Pipeline.HandedOver
import WalletTopUp.Proofs.Pipeline.Handlers
import WalletTopUp.Proofs.Pipeline.Inputs
import WalletTopUp.Proofs.Pipeline.Limits
import WalletTopUp.Proofs.Pipeline.Loading
import WalletTopUp.Proofs.Pipeline.Outlook
import WalletTopUp.Proofs.Pipeline.Pricing
import WalletTopUp.Proofs.Pipeline.Publications
import WalletTopUp.Proofs.Pipeline.QuietPeriod
import WalletTopUp.Proofs.Pipeline.RejectedEdits
import WalletTopUp.Proofs.Pipeline.Requests
import WalletTopUp.Proofs.Pipeline.Retention
import WalletTopUp.Proofs.Pipeline.Stopping
import WalletTopUp.Proofs.Pipeline.SubmitControl
import WalletTopUp.Proofs.Pipeline.Supersession
import WalletTopUp.Proofs.Pipeline.Tickets
import WalletTopUp.Proofs.Pipeline.Turn
import WalletTopUp.Proofs.Rates.Aborts
import WalletTopUp.Proofs.Rates.Answers
import WalletTopUp.Proofs.Rates.Desk
import WalletTopUp.Proofs.Rates.Flush
import WalletTopUp.Proofs.Rates.Moves
import WalletTopUp.Proofs.Rates.Opening
import WalletTopUp.Proofs.Rates.Paths
import WalletTopUp.Proofs.Rates.Persistence
import WalletTopUp.Proofs.Rates.Places
import WalletTopUp.Proofs.Rates.Records
import WalletTopUp.Proofs.Rates.Requests
import WalletTopUp.Proofs.Rates.Serving
import WalletTopUp.Proofs.Rates.Snapshots
import WalletTopUp.Proofs.Rates.Table
import WalletTopUp.Proofs.Schedule.Moves
import WalletTopUp.Proofs.Screen.FieldText
import WalletTopUp.Proofs.Screen.Gate
import WalletTopUp.Proofs.Service.Course
import WalletTopUp.Proofs.Service.Learning
import WalletTopUp.Proofs.Session.Click
import WalletTopUp.Proofs.Session.Episodes
import WalletTopUp.Proofs.Session.Inputs
import WalletTopUp.Proofs.Session.Learning
import WalletTopUp.Proofs.Session.Legitimacy
import WalletTopUp.Proofs.Session.Moves
import WalletTopUp.Proofs.Session.OnePayment
import WalletTopUp.Proofs.Session.PaymentStages
import WalletTopUp.Proofs.Session.PaymentSteps
import WalletTopUp.Proofs.Session.Payments
import WalletTopUp.Proofs.Session.Pricing
import WalletTopUp.Proofs.Session.Teardown
import WalletTopUp.Proofs.Session.Turns
import WalletTopUp.Proofs.Terminal.Command
import WalletTopUp.Proofs.Terminal.Config
import WalletTopUp.Proofs.Text.Blank
import WalletTopUp.Proofs.Text.Percent
import WalletTopUp.Proofs.Url.Resolve
import WalletTopUp.Proofs.Wire.RoundTrip
import WalletTopUp.Rates.Conversion
import WalletTopUp.Rates.Desk
import WalletTopUp.Rates.Disk
import WalletTopUp.Rates.File
import WalletTopUp.Rates.Key
import WalletTopUp.Rates.Run
import WalletTopUp.Rates.Store
import WalletTopUp.Rates.Table
import WalletTopUp.Rates.Timestamp
import WalletTopUp.Schedule.Audience
import WalletTopUp.Schedule.Basic
import WalletTopUp.Schedule.Script
import WalletTopUp.Schedule.Systems
import WalletTopUp.Screen.Effect
import WalletTopUp.Screen.Gate
import WalletTopUp.Screen.Report
import WalletTopUp.Screen.Senders
import WalletTopUp.Screen.Sink
import WalletTopUp.Screen.State
import WalletTopUp.Service.Dialogue
import WalletTopUp.Service.Error
import WalletTopUp.Service.Exchange
import WalletTopUp.Service.Journal
import WalletTopUp.Service.Name
import WalletTopUp.Service.Request
import WalletTopUp.Session.Basic
import WalletTopUp.Session.Run
import WalletTopUp.Terminal.Arguments
import WalletTopUp.Terminal.Command
import WalletTopUp.Terminal.Config
import WalletTopUp.Terminal.Report
import WalletTopUp.Terminal.Run
import WalletTopUp.Text.Blank
import WalletTopUp.Text.Percent
import WalletTopUp.Text.Printable
import WalletTopUp.Text.Quoted
import WalletTopUp.Text.Utf8
import WalletTopUp.Timing.Calendar
import WalletTopUp.Timing.Debouncer
import WalletTopUp.Timing.NamedWork
import WalletTopUp.Timing.SwitchLatest
import WalletTopUp.Timing.Ticker
import WalletTopUp.Toml.Parser
import WalletTopUp.Toml.Quoted
import WalletTopUp.Toml.Scalar
import WalletTopUp.Toml.Table
import WalletTopUp.Toml.Value
import WalletTopUp.Url.Basic
import WalletTopUp.Url.Host
import WalletTopUp.Url.Parser
import WalletTopUp.Url.Punycode
import WalletTopUp.Wire.Bonus
import WalletTopUp.Wire.Money
import WalletTopUp.Wire.Payment
