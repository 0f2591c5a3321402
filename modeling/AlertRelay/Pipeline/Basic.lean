import AlertRelay.Pipeline.Lane
import AlertRelay.Stats.Ledger

/-!
# The pipeline

Records come in through one bounded queue. The dispatcher hands each to every lane, takes the
results of the lanes, and enters what it does in the ledger. When the program is cancelled it takes
no more records, waits for one lane after the other to finish, each for no longer than the shutdown
timeout, and at last for the counters.

`Pipeline.step?` is the pipeline after one event, if the event can happen. Any event that can happen
may be the next one, and the clock may move at any time, so a theorem about all sequences of events
covers every order in which the parts of the program can run. `Pipeline.act?` is the order of
preference of the program itself.
-/

namespace AlertRelay

/-- What the dispatcher does. -/
inductive DispatcherPhase where
  /-- It waits for the end, results and records. -/
  | listening
  /-- It hands a record to the lanes from number `lane` on. -/
  | fanning (record : EventRecord) (lane : Nat)
  /-- It waits for lane number `lane` to finish, since the given instant. -/
  | closing (lane : Nat) (since : Instant)
  /-- It waits for the counters. -/
  | settling
  | stopped

/-- The whole pipeline. -/
structure Pipeline where
  capacity : Nat
  shutdownTimeout : Span
  moment : Moment := {}
  /-- The queue of records. -/
  inbound : List EventRecord := []
  /-- All records that were accepted, with the times at which they were. -/
  accepted : List (Instant × EventRecord) := []
  phase : DispatcherPhase := .listening
  lanes : List Lane
  ledger : Ledger
  /-- All results that were taken, with the times at which they were. -/
  received : List (Instant × DeliveryResult) := []

/-- What can happen in the pipeline. -/
inductive PipelineEvent where
  /-- A record comes in. -/
  | accept (record : EventRecord)
  /-- The program is cancelled from outside. -/
  | cancel
  /-- The clock moves. -/
  | pass (t : Instant)
  /-- Something happens in a lane. -/
  | lane (i : Nat) (event : LaneEvent)
  /-- A delivery of a lane cancels the program. -/
  | trip (i j : Nat)
  /-- Something happens at the ledger. -/
  | ledger (event : LedgerEvent)
  /-- The dispatcher takes the next record. -/
  | take
  /-- The dispatcher hands a record to the next lane, or is done with it. -/
  | fan
  /-- The dispatcher takes a result of a lane. -/
  | tally (i : Nat)
  /-- The dispatcher notices that the program is cancelled. -/
  | halt
  /-- The dispatcher takes a result of the lane that it waits for. -/
  | collect
  /-- The lane that the dispatcher waits for is finished. -/
  | advance
  /-- The dispatcher has waited too long for a lane. -/
  | abandon
  /-- There is no lane left to wait for. -/
  | close
  /-- The counters are there. -/
  | finish

/-- How a result is counted. A notice is not. -/
def DeliveryResult.update? (r : DeliveryResult) : Option Update :=
  match r.outcome with
  | .succeeded => some (.succeeded r.channel)
  | .failed => some (.failed r.channel)
  | .cancelled => some (.cancelled r.channel)
  | .status => none

/-- What the bookkeeper and the increments that wait for it do by themselves. -/
def LedgerEvent.isOwn : LedgerEvent → Bool
  | .record _ => false
  | .close => false
  | _ => true

namespace Pipeline

/-- A pipeline with the given lanes before anything happens. -/
def start (capacity : Nat) (shutdownTimeout : Span) (lanes : List Lane) : Pipeline :=
  { capacity, shutdownTimeout, lanes, ledger := { capacity } }

/-- The time. -/
def now (p : Pipeline) : Instant :=
  p.moment.now

/-- Whether records are still taken. -/
def isOpen (p : Pipeline) : Bool :=
  match p.phase with
  | .listening => true
  | .fanning _ _ => true
  | _ => false

/-- A record comes in, if the queue is open and has room. -/
def accept? (p : Pipeline) (r : EventRecord) : Option Pipeline :=
  if p.isOpen && p.inbound.length < p.capacity then
    some { p with inbound := p.inbound ++ [r], accepted := p.accepted ++ [(p.now, r)] }
  else none

/-- The program is cancelled from outside. Only the first cancellation counts. -/
def cancel (p : Pipeline) : Pipeline :=
  { p with
    moment := { p.moment with cancelledAt := some (p.moment.cancelledAt.getD p.now) } }

/-- The clock moves on. -/
def pass? (p : Pipeline) (t : Instant) : Option Pipeline :=
  if p.now ≤ t then some { p with moment := { p.moment with now := t } } else none

/-- Puts a lane in the place of another one. -/
def setLane (p : Pipeline) (i : Nat) (l : Lane) : Pipeline :=
  { p with lanes := p.lanes.set i l }

/-- Something happens in a lane. -/
def laneStep? (p : Pipeline) (i : Nat) (e : LaneEvent) : Option Pipeline :=
  p.lanes[i]?.bind fun l => (l.step? p.moment e).map (p.setLane i)

/-- A delivery of a lane cancels the program. -/
def trip? (p : Pipeline) (i j : Nat) : Option Pipeline :=
  p.lanes[i]?.bind fun l => (l.trip? p.moment j).map fun l => (p.setLane i l).cancel

/-- Something happens at the ledger. -/
def ledgerStep? (p : Pipeline) (e : LedgerEvent) : Option Pipeline :=
  if e.isOwn then (p.ledger.step? e).map fun ledger => { p with ledger } else none

/-- The dispatcher takes the next record. -/
def take? (p : Pipeline) : Option Pipeline :=
  match p.phase, p.inbound with
  | .listening, r :: rest => some { p with phase := .fanning r 0, inbound := rest }
  | _, _ => none

/-- The dispatcher hands a record to the next lane and counts it as sent there. A record counts as
received when it was handed to all lanes. -/
def fan? (p : Pipeline) : Option Pipeline :=
  match p.phase with
  | .fanning r i =>
    match p.lanes[i]? with
    | some l =>
      some { p.setLane i (l.offer r) with
        phase := .fanning r (i + 1)
        ledger := p.ledger.record (.sent l.channel) }
    | none => some { p with phase := .listening, ledger := p.ledger.record .received }
  | _ => none

/-- Takes the next result of a lane and counts it. -/
def takeResult? (p : Pipeline) (i : Nat) : Option Pipeline :=
  p.lanes[i]?.bind fun l => l.takeResult?.map fun (r, l) =>
    { p.setLane i l with
      received := p.received ++ [(p.now, r)]
      ledger := match r.update? with
        | some u => p.ledger.record u
        | none => p.ledger }

/-- The dispatcher takes a result of a lane. -/
def tally? (p : Pipeline) (i : Nat) : Option Pipeline :=
  match p.phase with
  | .listening => p.takeResult? i
  | _ => none

/-- The dispatcher notices that the program is cancelled. What is in its queue is lost. -/
def halt? (p : Pipeline) : Option Pipeline :=
  match p.phase with
  | .listening =>
    if p.moment.isCancelled then some { p with phase := .closing 0 p.now, inbound := [] } else none
  | _ => none

/-- The dispatcher takes a result of the lane that it waits for. -/
def collect? (p : Pipeline) : Option Pipeline :=
  match p.phase with
  | .closing i _ => p.takeResult? i
  | _ => none

/-- The lane that the dispatcher waits for is finished. -/
def advance? (p : Pipeline) : Option Pipeline :=
  match p.phase with
  | .closing i _ =>
    p.lanes[i]?.bind fun l =>
      if l.isFinished then some { p with phase := .closing (i + 1) p.now } else none
  | _ => none

/-- When the wait for a lane that began at `since` is over. -/
def patienceEnd (p : Pipeline) (since : Instant) : Instant :=
  since + p.shutdownTimeout.pause.toNanos

/-- The dispatcher has waited too long for a lane and leaves it alone. -/
def abandon? (p : Pipeline) : Option Pipeline :=
  match p.phase with
  | .closing i since =>
    p.lanes[i]?.bind fun l =>
      if p.patienceEnd since ≤ p.now then
        some { p.setLane i l.abandon with phase := .closing (i + 1) p.now }
      else none
  | _ => none

/-- There is no lane left to wait for, and nothing more to count. -/
def close? (p : Pipeline) : Option Pipeline :=
  match p.phase with
  | .closing i _ =>
    if p.lanes.length ≤ i then
      some { p with phase := .settling, ledger := { p.ledger with isOpen := false } }
    else none
  | _ => none

/-- The counters are there. -/
def finish? (p : Pipeline) : Option Pipeline :=
  match p.phase with
  | .settling => if p.ledger.final.isSome then some { p with phase := .stopped } else none
  | _ => none

/-- The pipeline after an event, if it can happen. -/
def step? (p : Pipeline) : PipelineEvent → Option Pipeline
  | .accept r => p.accept? r
  | .cancel => some p.cancel
  | .pass t => p.pass? t
  | .lane i e => p.laneStep? i e
  | .trip i j => p.trip? i j
  | .ledger e => p.ledgerStep? e
  | .take => p.take?
  | .fan => p.fan?
  | .tally i => p.tally? i
  | .halt => p.halt?
  | .collect => p.collect?
  | .advance => p.advance?
  | .abandon => p.abandon?
  | .close => p.close?
  | .finish => p.finish?

/-- Whether the pipeline has ended. -/
def isStopped (p : Pipeline) : Bool :=
  match p.phase with
  | .stopped => true
  | _ => false

/-- The final counters. -/
def totals (p : Pipeline) : Counters :=
  p.ledger.final.getD {}

end Pipeline

end AlertRelay
