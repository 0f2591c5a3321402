import AlertRelay.Stats.Ledger
import AlertRelay.Stats.Summary
import AlertRelay.Time.Plan

/-!
# The ledger over time

A ledger writes a summary of its counters at every interval and once at its end. `Timeline.run`
plays a plan of submissions. What is submitted at an instant is submitted before anything else that
is due at that instant.
-/

namespace AlertRelay

/-- The shortest interval between two reports. -/
def leastInterval : Span := Span.ofMillis 1

/-- A summary is due every interval, but never more often than once a millisecond. -/
def reportInterval (d : Span) : Span := d.max leastInterval

/-- The first due time, if there is such an instant. Without one whoever reports dies at its start.
-/
def firstDue? (start : Instant) (interval : Span) : Option Instant :=
  start.after? interval

/-- The due times before the end: the first one after the interval, the others after one pause of
that length each. -/
def dueTimes (start : Instant) (interval : Span) (finish : Instant) : List Instant :=
  match firstDue? start interval with
  | none => []
  | some first =>
    let period := interval.pause.toNanos
    if first < finish then
      (List.range ((finish - first - 1) / period + 1)).map fun k => first + k * period
    else []

namespace Timeline

/-- The queue that increments pass through. -/
def queueName : String := "stats updates"

/-- The words for an increment that comes when there is no bookkeeper any more. -/
def droppedTitle : String := "Stats aggregator stopped, dropping update"

/-- The line for an increment that comes when there is no bookkeeper any more. -/
def droppedLine (u : Update) : LogLine :=
  ⟨.debug, droppedTitle, [("update", .text u.text)]⟩

/-- A summary of the counters at a time. -/
structure Summary where
  time : Instant
  counters : Counters
  deriving DecidableEq, Repr

/-- A look at the ledger after an increment. -/
structure Look where
  time : Instant
  depth : Nat
  snapshot : Counters
  deriving DecidableEq, Repr

/-- What a run shows. -/
structure Report where
  looks : List Look
  summaries : List Summary
  total : Counters
  deriving DecidableEq, Repr

/-- Submits increments at their times; unless `paused`, the bookkeeper works in between. -/
def submit (paused : Bool) (l : Ledger) : Plan Update → Ledger × List Look
  | [] => (l, [])
  | (t, u) :: rest =>
    let l := l.record u
    let l := if paused then l else l.settle
    let (last, looks) := submit paused l rest
    (last, ⟨t, l.queue.length, l.snapshot⟩ :: looks)

/-- Submits increments to a bookkeeper that is dead. -/
def submitInVain (updates : Plan Update) : List Look :=
  updates.map fun u => ⟨u.1, 0, {}⟩

/-- A run: increments at their times, and the last recorder gone at `dropAt`, or with the last
increment if that is later. With `lateStart` the bookkeeper starts only with the last increment. -/
def run (interval : Span) (capacity : Nat) (updates : Plan Update) (dropAt : Instant)
    (lateStart : Bool) : Report :=
  let updates := updates.taken
  let last := updates.finish
  let finish := max dropAt last
  let start := if lateStart then last else 0
  let (ledger, looks) := submit lateStart { capacity } updates
  let interval := reportInterval interval
  match firstDue? start interval with
  | none => ⟨if lateStart then looks else submitInVain updates, [], {}⟩
  | some _ =>
    let total := (({ ledger with isOpen := false } : Ledger).settle.final).getD {}
    let due := dueTimes start interval finish
    let summaries := due.map fun t => ⟨t, Counters.ofUpdates (updates.upTo t)⟩
    ⟨looks, summaries ++ [⟨finish, total⟩], total⟩

end Timeline

end AlertRelay
