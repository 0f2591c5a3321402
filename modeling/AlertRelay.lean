import AlertRelay.Delivery.ContextSet
import AlertRelay.Main
import AlertRelay.Pipeline.Run
import AlertRelay.Pipeline.Solo
import AlertRelay.Proofs.Config
import AlertRelay.Proofs.Config.Checks
import AlertRelay.Proofs.Delivery.Agreement
import AlertRelay.Proofs.Delivery.Budget
import AlertRelay.Proofs.Delivery.ClosedForm
import AlertRelay.Proofs.Delivery.Course
import AlertRelay.Proofs.Delivery.Millis
import AlertRelay.Proofs.Delivery.Registration
import AlertRelay.Proofs.Delivery.Retry
import AlertRelay.Proofs.Delivery.Schedule
import AlertRelay.Proofs.Delivery.Signals
import AlertRelay.Proofs.Delivery.Timeout
import AlertRelay.Proofs.Delivery.Verdict
import AlertRelay.Proofs.Intake
import AlertRelay.Proofs.Json.Documents
import AlertRelay.Proofs.Json.RoundTrip
import AlertRelay.Proofs.Lane.Balance
import AlertRelay.Proofs.Lane.Duty
import AlertRelay.Proofs.Lane.Fairness
import AlertRelay.Proofs.Lane.Instants
import AlertRelay.Proofs.Lane.Origin
import AlertRelay.Proofs.Lane.Outlook
import AlertRelay.Proofs.Lane.Output
import AlertRelay.Proofs.Lane.Overrun
import AlertRelay.Proofs.Lane.Phase
import AlertRelay.Proofs.Lane.Rest
import AlertRelay.Proofs.Lane.Run
import AlertRelay.Proofs.Lane.Silence
import AlertRelay.Proofs.Lane.Slots
import AlertRelay.Proofs.Lane.Timeline
import AlertRelay.Proofs.Ledger
import AlertRelay.Proofs.Ledger.Faithful
import AlertRelay.Proofs.Ledger.Order
import AlertRelay.Proofs.Pipeline.Books
import AlertRelay.Proofs.Pipeline.Deadline
import AlertRelay.Proofs.Pipeline.DrainTest
import AlertRelay.Proofs.Pipeline.HandOver
import AlertRelay.Proofs.Pipeline.Instants
import AlertRelay.Proofs.Pipeline.Isolation
import AlertRelay.Proofs.Pipeline.Move
import AlertRelay.Proofs.Pipeline.Overrun
import AlertRelay.Proofs.Pipeline.Overtaking
import AlertRelay.Proofs.Pipeline.Rest
import AlertRelay.Proofs.Pipeline.Run
import AlertRelay.Proofs.Pipeline.Shutdown
import AlertRelay.Proofs.Pipeline.Stages
import AlertRelay.Proofs.Pipeline.Workload
import AlertRelay.Proofs.Record.Displayed
import AlertRelay.Proofs.Record.Faults
import AlertRelay.Proofs.Record.Parts
import AlertRelay.Proofs.Record.Rewordings
import AlertRelay.Proofs.Record.RoundTrip
import AlertRelay.Proofs.Record.Shapes
import AlertRelay.Proofs.Relay.Instants
import AlertRelay.Proofs.Relay.Mails
import AlertRelay.Proofs.Render.Headers
import AlertRelay.Proofs.Render.Terminations
import AlertRelay.Proofs.Smtp.Commands
import AlertRelay.Proofs.Smtp.Dialog
import AlertRelay.Proofs.Smtp.LineEnds
import AlertRelay.Proofs.Smtp.Receiver
import AlertRelay.Proofs.Smtp.Replies
import AlertRelay.Proofs.Smtp.Script
import AlertRelay.Proofs.Text.Digits
import AlertRelay.Proofs.Text.Quoted
import AlertRelay.Proofs.Text.Utf8
import AlertRelay.Proofs.Time.Clockwork
import AlertRelay.Proofs.Time.Span
import AlertRelay.Proofs.Time.Timestamp
import AlertRelay.Queue.Monitor
import AlertRelay.Relay
import AlertRelay.Render.Card
import AlertRelay.Stats.Timeline
import AlertRelay.Proofs.Config.Recipients
import AlertRelay.Proofs.Delivery.Causes
import AlertRelay.Proofs.Render.Tables
import AlertRelay.Proofs.Smtp.Secrecy
