import AlertRelay.Queue.Named
import AlertRelay.Stats.Timeline

/-!
# Watching queues

A monitor reports how many items wait in each of its queues, at every interval until it is told to
stop. Queues that show no items are not mentioned; if none does, the report says so.
-/

namespace AlertRelay.Monitor

variable {α : Type}

/-- The line about a queue. -/
def line (q : NamedQueue α) : String :=
  s!"{q.depth}/{q.capacity} items in {q.name}"

/-- The items that all queues show. -/
def total (qs : List (NamedQueue α)) : Nat :=
  (qs.map NamedQueue.depth).foldr (· + ·) 0

/-- The lines of a report. -/
def report (qs : List (NamedQueue α)) : List String :=
  if total qs = 0 then ["0 items queued"]
  else (qs.filter fun q => 0 < q.depth).map line

/-- The words of a monitor without queues. -/
def nothingToWatch : String := "No queues to monitor, queue monitor exiting"

/-- The words of a monitor that stops. -/
def stopping : String := "Queue monitor stopping"

/-- A line of the log. -/
structure Entry where
  time : Instant
  level : LogLevel
  text : String
  deriving DecidableEq, Repr

/-- What is done to queues. -/
abbrev Change (α : Type) := List (NamedQueue α) → List (NamedQueue α)

/-- The queues after all changes at or before a time. -/
def stateAt (t : Instant) (qs : List (NamedQueue α)) (changes : Plan (Change α)) :
    List (NamedQueue α) :=
  (changes.upTo t).foldl (fun qs change => change qs) qs

/-- The log of a monitor that is told to stop at `cancelAt`, while the queues change by a plan; a
change at an instant comes before the report at that instant. -/
def run (interval : Span) (qs : List (NamedQueue α)) (changes : Plan (Change α))
    (cancelAt : Instant) : List Entry :=
  if qs.isEmpty then [⟨0, .error, nothingToWatch⟩]
  else
    let interval := reportInterval interval
    match firstDue? 0 interval with
    | none => []
    | some _ =>
      let due := dueTimes 0 interval cancelAt
      let lines (t : Instant) :=
        (report (stateAt t qs changes.taken)).map fun text => ⟨t, .debug, text⟩
      due.flatMap lines ++ [⟨cancelAt, .debug, stopping⟩]

end AlertRelay.Monitor
