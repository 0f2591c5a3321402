import AlertRelay.Json.Value
import AlertRelay.Stats.Counters

/-!
# Log lines

A line of the log has a level, a message and named values. `Counters.summary` are the lines that sum
the counters up: one for all channels and one for each channel.
-/

namespace AlertRelay

/-- The level of a log line. -/
inductive LogLevel where
  | debug
  | info
  | warn
  | error
  deriving DecidableEq, Repr

/-- The name of a level. -/
def LogLevel.text : LogLevel → String
  | .debug => "DEBUG"
  | .info => "INFO"
  | .warn => "WARN"
  | .error => "ERROR"

/-- A line of the log. -/
structure LogLine where
  level : LogLevel
  message : String
  fields : List (String × Json.Value) := []

/-- A line of the log as a JSON value. -/
def LogLine.toValue (l : LogLine) : Json.Value :=
  .object
    [("level", .text l.level.text),
      ("fields", .object (("message", .text l.message) :: l.fields))]

/-- A count as a JSON value. -/
def countValue (n : Nat) : Json.Value :=
  .integer n

namespace Counters

/-- The words of the summary of all channels. -/
def totalsTitle : String := "Notification totals"

/-- The words of the summary of one channel. -/
def channelTitle : String := "Channel notification stats"

/-- The line about all channels. -/
def totalsLine (c : Counters) : LogLine :=
  ⟨.info, totalsTitle,
    [("received", countValue c.received), ("pending", countValue c.totalPending),
      ("success", countValue c.totalSuccess), ("failure", countValue c.totalFailure)]⟩

/-- The line about one channel. -/
def channelLine (c : Counters) (channel : Channel) : LogLine :=
  let k := c.channel channel
  ⟨.info, channelTitle,
    [("channel", .text channel.name), ("sent", countValue k.sent),
      ("pending", countValue k.pending), ("success", countValue k.success),
      ("failure", countValue k.failure), ("cancelled", countValue k.cancelled)]⟩

/-- The lines that sum the counters up. -/
def summary (c : Counters) : List LogLine :=
  c.totalsLine :: Channel.all.map c.channelLine

end Counters

end AlertRelay
