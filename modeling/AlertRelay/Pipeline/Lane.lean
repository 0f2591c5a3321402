import AlertRelay.Delivery.Schedule
import AlertRelay.Delivery.Sender
import AlertRelay.Record.Basic
import AlertRelay.Time.Clockwork

/-!
# Lanes

A lane is what belongs to one channel: the records on their way to its worker, the worker, the
deliveries that the worker has launched, and the results on their way back. All queues are bounded.
The worker schedules each record that it takes and launches a delivery that runs by itself; a
finished delivery reports on a queue of the worker, and the worker forwards every report. When the
program is cancelled the worker forwards the reports that are queued, gives notice, and stops.

`Lane.step?` is the state of a lane after one event, if the event can happen at the given moment.
Any event that can happen may be the next one: what the worker prefers is decided by whoever runs
the lane (see `Lane.internalEvent?`).
-/

namespace AlertRelay

/-- The time, and when the whole program was cancelled, if it was. -/
structure Moment where
  now : Instant := 0
  cancelledAt : Option Instant := none
  deriving DecidableEq, Repr, Inhabited

/-- Whether the program is cancelled by now. -/
def Moment.isCancelled (m : Moment) : Bool :=
  match m.cancelledAt with
  | some t => t ≤ m.now
  | none => false

/-- The delivery of a record that a worker took. -/
structure Delivery where
  /-- How many records the worker had taken before. -/
  number : Nat
  record : EventRecord
  launched : Instant
  slot : Instant
  deadline : Instant
  /-- Whether this delivery is the one that cancelled the program. -/
  tripped : Bool := false

/-- What came of a delivery, and when. -/
structure Conclusion where
  time : Instant
  delivery : Delivery
  result : DeliveryResult

/-- Where the worker goes when it has forwarded a result. -/
inductive AfterForward where
  | listen
  | drain
  | stop
  deriving DecidableEq, Repr

/-- What a worker does. -/
inductive WorkerPhase where
  /-- It waits for records, reports and the end. -/
  | listening
  /-- It waits for room to forward a result. -/
  | holding (result : DeliveryResult) (next : AfterForward)
  /-- The program is cancelled, and it empties its queue of reports. -/
  | draining
  | stopped
  /-- It died of an instant that does not exist. -/
  | crashed

/-- Whether a worker is no longer there. -/
def WorkerPhase.isGone : WorkerPhase → Bool
  | .stopped => true
  | .crashed => true
  | _ => false

/-- The phase after a result is forwarded. -/
def AfterForward.phase : AfterForward → WorkerPhase
  | .listen => .listening
  | .drain => .draining
  | .stop => .stopped

/-- A call of a transport: when, for which delivery and record, and the number of the attempt. -/
structure Call where
  time : Instant
  delivery : Nat
  record : EventRecord
  attempt : Nat

/-- Schedules a record at `now`: its slot, and the end of the time that it gets, if there are such
instants. -/
def Sender.plan? (s : Sender) (schedule : Schedule) (now : Instant) : Option (Schedule × Instant) :=
  (schedule.next? now).bind fun schedule =>
    let c := s.settings
    let timeout := deliveryTimeout now c.baseTimeout schedule.last c.retries c.retryDelay
    (now.after? timeout).map fun deadline => (schedule, deadline)

/-- All that belongs to one channel. -/
structure Lane where
  sender : Sender
  /-- The behaviour of the transport towards each delivery, by its number and its record. -/
  transport : Nat → EventRecord → Transport Unit
  /-- Which of two things that are ready at once each delivery notices, by its number. -/
  choice : Nat → Choice := fun _ => {}
  /-- The time of day at an instant. -/
  clock : Instant → String
  capacity : Nat
  schedule : Schedule
  /-- Records handed over that are not yet in the queue. -/
  waiting : List EventRecord := []
  /-- The queue of records. -/
  inbound : List EventRecord := []
  phase : WorkerPhase := .listening
  /-- Deliveries that have not returned. -/
  running : List Delivery := []
  /-- Results of deliveries that wait for room in the queue of reports. -/
  reporting : List DeliveryResult := []
  /-- The queue of reports. -/
  reports : List DeliveryResult := []
  /-- The queue of results. -/
  results : List DeliveryResult := []
  /-- Whether somebody still takes results. -/
  resultsOpen : Bool := true
  /-- Calls of deliveries that have returned. -/
  calls : List Call := []
  /-- The deliveries of all records that the worker has taken. -/
  scheduled : List Delivery := []
  /-- What came of the deliveries that are over. -/
  concluded : List Conclusion := []

/-- What can happen in a lane by itself. -/
inductive LaneEvent where
  /-- A record that was handed over enters the queue. -/
  | enter (i : Nat)
  /-- The worker takes the next record. -/
  | dispatch
  /-- A delivery returns. -/
  | complete (i : Nat)
  /-- The result of a delivery enters the queue of reports. -/
  | report (i : Nat)
  /-- The worker takes the next report. -/
  | gather
  /-- The worker forwards the result that it holds. -/
  | forward
  /-- The worker notices that the program is cancelled. -/
  | halt
  /-- The worker takes the next report on its way out. -/
  | drain
  /-- The worker has no more reports and gives notice. -/
  | announce
  deriving DecidableEq, Repr

namespace Lane

/-- The words of the notice of a worker that stops. -/
def stopNotice (channel : Channel) : String :=
  s!"Received shutdown signal, {channel.name} worker shutting down"

/-- The words for a record whose time is over when it is taken. -/
def lateNotice (reason : DoneReason) (channel : Channel) : String :=
  s!"{reason.message} before {channel.name} delivery started, aborting"

/-- The name of the queue of reports. -/
def reportsName (channel : Channel) : String :=
  s!"{channel.name} delivery results (private)"

/-- The channel of a lane. -/
def channel (l : Lane) : Channel :=
  l.sender.channel

/-- A lane whose worker starts at `now`. Its transport does not tell apart deliveries of the same
record. -/
def start (sender : Sender) (transport : EventRecord → Transport Unit) (clock : Instant → String)
    (capacity : Nat) (now : Instant) : Lane where
  sender := sender
  transport := fun _ => transport
  clock := clock
  capacity := capacity
  schedule := ⟨sender.settings.rateLimit, now⟩

/-- Everything about a delivery, given when the program was cancelled. A delivery that cancelled the
program itself is not cut short by that before its time. Timers are exact here, as those of the
program are on whole milliseconds (`Sender.send_millis`). -/
def trace (l : Lane) (m : Moment) (d : Delivery) : Trace DeliveryResult :=
  let cancelledAt := if d.tripped then none else m.cancelledAt
  let clock := l.clock m.now
  let transport := l.transport d.number d.record
  l.sender.send clock (l.choice d.number) transport ⟨d.deadline, cancelledAt⟩ d.slot d.launched

/-- The calls of a delivery up to now. -/
def callsOf (l : Lane) (m : Moment) (d : Delivery) : List Call :=
  ((l.trace m d).calls.filter fun c => c.1 ≤ m.now).map fun c => ⟨c.1, d.number, d.record, c.2⟩

/-- All calls up to now. -/
def allCalls (l : Lane) (m : Moment) : List Call :=
  l.calls ++ l.running.flatMap (l.callsOf m)

/-- Hands a record over. -/
def offer (l : Lane) (r : EventRecord) : Lane :=
  { l with waiting := l.waiting ++ [r] }

/-- A record enters the queue, or is lost if the worker is gone. -/
def enter? (l : Lane) (i : Nat) : Option Lane :=
  l.waiting[i]?.bind fun r =>
    if l.phase.isGone then some { l with waiting := l.waiting.eraseIdx i }
    else if l.inbound.length < l.capacity then
      some { l with waiting := l.waiting.eraseIdx i, inbound := l.inbound ++ [r] }
    else none

/-- The worker dies, and with it what is in its queues. -/
def crash (l : Lane) : Lane :=
  { l with phase := .crashed, inbound := [], reports := [] }

/-- Schedules a record at `now`. -/
def plan? (l : Lane) (now : Instant) : Option (Schedule × Instant) :=
  l.sender.plan? l.schedule now

/-- Launches a delivery. If its time is over already the worker holds a result instead. -/
def launch (l : Lane) (m : Moment) (d : Delivery) : Lane :=
  let l := { l with scheduled := l.scheduled ++ [d] }
  match (Context.mk d.deadline m.cancelledAt).doneReason? m.now with
  | some reason =>
    let result := DeliveryResult.cancelled l.channel (lateNotice reason l.channel)
    { l with phase := .holding result .listen, concluded := l.concluded ++ [⟨m.now, d, result⟩] }
  | none => { l with running := l.running ++ [d] }

/-- Schedules a record and launches its delivery. If there is no instant for it the worker dies. -/
def book (l : Lane) (m : Moment) (r : EventRecord) : Lane :=
  match l.plan? m.now with
  | none => l.crash
  | some (schedule, deadline) =>
    { l with schedule }.launch m ⟨l.scheduled.length, r, m.now, schedule.last, deadline, false⟩

/-- The worker takes the next record. -/
def dispatch? (l : Lane) (m : Moment) : Option Lane :=
  match l.phase, l.inbound with
  | .listening, r :: rest => some ({ l with inbound := rest }.book m r)
  | _, _ => none

/-- Whether a delivery cancels the program by now. -/
def trips (l : Lane) (m : Moment) (d : Delivery) : Bool :=
  match (l.trace m d).cancelsAt with
  | some t => t ≤ m.now
  | none => false

/-- Whether a delivery has the program still to cancel before it does anything else. -/
def mustTrip (l : Lane) (m : Moment) (d : Delivery) : Bool :=
  !m.isCancelled && l.trips m d

/-- A delivery returns, if its time has come. -/
def complete? (l : Lane) (m : Moment) (i : Nat) : Option Lane :=
  l.running[i]?.bind fun d =>
    match (l.trace m d).ending with
    | .returns t result =>
      if t ≤ m.now && !l.mustTrip m d then
        some { l with
          running := l.running.eraseIdx i
          reporting := l.reporting ++ [result]
          calls := l.calls ++ l.callsOf m d
          concluded := l.concluded ++ [⟨m.now, d, result⟩] }
      else none
    | .hangs => none

/-- The result of a delivery enters the queue of reports, or is lost if the worker is gone. -/
def report? (l : Lane) (i : Nat) : Option Lane :=
  l.reporting[i]?.bind fun r =>
    if l.phase.isGone then some { l with reporting := l.reporting.eraseIdx i }
    else if l.reports.length < l.capacity then
      some { l with reporting := l.reporting.eraseIdx i, reports := l.reports ++ [r] }
    else none

/-- The worker takes the next report. -/
def gather? (l : Lane) : Option Lane :=
  match l.phase, l.reports with
  | .listening, r :: rest => some { l with phase := .holding r .listen, reports := rest }
  | _, _ => none

/-- The worker goes on when it has forwarded a result. A worker that stops leaves nothing in its
queues. -/
def release (l : Lane) : AfterForward → Lane
  | .stop => { l with phase := .stopped, inbound := [], reports := [] }
  | next => { l with phase := next.phase }

/-- The worker forwards the result that it holds. A result that nobody takes is lost. -/
def forward? (l : Lane) : Option Lane :=
  match l.phase with
  | .holding r next =>
    if !l.resultsOpen then some (l.release next)
    else if l.results.length < l.capacity then
      some { l.release next with results := l.results ++ [r] }
    else none
  | _ => none

/-- The worker notices that the program is cancelled. -/
def halt? (l : Lane) (m : Moment) : Option Lane :=
  match l.phase with
  | .listening => if m.isCancelled then some { l with phase := .draining } else none
  | _ => none

/-- The worker takes the next report on its way out. -/
def drain? (l : Lane) : Option Lane :=
  match l.phase, l.reports with
  | .draining, r :: rest => some { l with phase := .holding r .drain, reports := rest }
  | _, _ => none

/-- The worker has no more reports and gives notice. -/
def announce? (l : Lane) : Option Lane :=
  match l.phase, l.reports with
  | .draining, [] =>
    some { l with phase := .holding (.notice l.channel (stopNotice l.channel)) .stop }
  | _, _ => none

/-- The lane after an event, if it can happen. -/
def step? (l : Lane) (m : Moment) : LaneEvent → Option Lane
  | .enter i => l.enter? i
  | .dispatch => l.dispatch? m
  | .complete i => l.complete? m i
  | .report i => l.report? i
  | .gather => l.gather?
  | .forward => l.forward?
  | .halt => l.halt? m
  | .drain => l.drain?
  | .announce => l.announce?

/-- Takes the next result off the queue of results. -/
def takeResult? (l : Lane) : Option (DeliveryResult × Lane) :=
  match l.results with
  | r :: rest => some (r, { l with results := rest })
  | [] => none

/-- Whether no more results will come. -/
def isFinished (l : Lane) : Bool :=
  l.phase.isGone && l.results.isEmpty

/-- Nobody takes results any more. -/
def abandon (l : Lane) : Lane :=
  { l with results := [], resultsOpen := false }

/-- Marks a delivery as the one that cancels the program, if it has to. -/
def trip? (l : Lane) (m : Moment) (i : Nat) : Option Lane :=
  l.running[i]?.bind fun d =>
    if l.mustTrip m d then
      some { l with running := l.running.modify i fun d => { d with tripped := true } }
    else none

/-- The first delivery that has the program to cancel, marked as such. -/
def firstTrip? (l : Lane) (m : Moment) : Option Lane :=
  (List.range l.running.length).findSome? (l.trip? m)

/-- The events of a lane in the order of preference. Deliveries come first; a worker on its way out
empties its queue before others report; else reports come before the end, and the end, reports that
are queued and records in this order. -/
def preference (l : Lane) : List LaneEvent :=
  (List.range l.running.length).map LaneEvent.complete ++
    [.forward, .drain, .announce, .report 0, .halt, .gather, .enter 0, .dispatch]

/-- The event that happens next by itself, if any can happen. -/
def internalEvent? (l : Lane) (m : Moment) : Option LaneEvent :=
  l.preference.find? fun e => (l.step? m e).isSome

/-- The times at which deliveries will return or cancel the program. -/
def timers (l : Lane) (m : Moment) : List Instant :=
  l.running.flatMap fun d =>
    let t := l.trace m d
    t.returnsAt?.toList ++ t.cancelsAt.toList

/-- An upper bound on the events that can happen in a lane: an item counts for the hops that it has
before it. -/
def effort (l : Lane) : Nat :=
  8 * l.waiting.length + 7 * l.inbound.length + 6 * l.running.length + 4 * l.reporting.length +
    3 * l.reports.length + l.results.length + 6

end Lane

end AlertRelay
