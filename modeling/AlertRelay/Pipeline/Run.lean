import AlertRelay.Pipeline.Basic
import AlertRelay.Time.Clockwork
import AlertRelay.Time.Plan

/-!
# Runs of the pipeline

`Pipeline.nextEvent?` is what the parts of the program prefer when several things can happen at one
instant. With it a pipeline is a `Clockwork`, and `Pipeline.play` gives what can be seen while
records come in, the counters are looked at, and the program is cancelled at given times.
-/

namespace AlertRelay

namespace Pipeline

/-- Everything that lanes can do by themselves, lane by lane in the order of preference.
Cancellations by deliveries come first of all. -/
def lanePreference (p : Pipeline) : List PipelineEvent :=
  let lanes := List.range p.lanes.length
  let trips := lanes.flatMap fun i =>
    match p.lanes[i]? with
    | some l => (List.range l.running.length).map (PipelineEvent.trip i)
    | none => []
  let events := lanes.flatMap fun i =>
    match p.lanes[i]? with
    | some l => l.preference.map (PipelineEvent.lane i)
    | none => []
  trips ++ events

/-- Everything that the dispatcher can do: it looks for the end first, then for results, then for
records. It gives a lane up only when nothing else is left to do. -/
def dispatcherPreference (p : Pipeline) : List PipelineEvent :=
  [.fan, .halt] ++ (List.range p.lanes.length).map PipelineEvent.tally ++
    [.take, .collect, .advance, .close, .ledger .apply, .ledger (.enter 0), .ledger .finish,
      .finish, .abandon]

/-- What happens next at this instant, if anything can happen. -/
def nextEvent? (p : Pipeline) : Option PipelineEvent :=
  (p.lanePreference ++ p.dispatcherPreference).find? fun e => (p.step? e).isSome

/-- The pipeline after what happens next. One that has stopped is not looked at any more. -/
def act? (p : Pipeline) : Option Pipeline :=
  if p.isStopped then none else p.nextEvent?.bind p.step?

/-- The instants at which deliveries go on or the wait for a lane is over. -/
def due (p : Pipeline) : List Instant :=
  if p.isStopped then []
  else
    let patience := match p.phase with
      | .closing _ since => [p.patienceEnd since]
      | _ => []
    patience ++ p.lanes.flatMap fun l => l.timers p.moment

/-- Moves the clock. -/
def wait (t : Instant) (p : Pipeline) : Pipeline :=
  { p with moment := { p.moment with now := t } }

/-- An upper bound on what a record that comes in can set off in each lane. -/
def laneLoad : Nat := 30

/-- An upper bound on all that the pipeline can do by itself. -/
def effort (p : Pipeline) : Nat :=
  let load := p.lanes.length * laneLoad + 4
  let fanning := match p.phase with
    | .fanning _ _ => load
    | _ => 0
  p.inbound.length * load + fanning + 3 * (p.lanes.map Lane.effort).foldr (· + ·) 0 +
    p.ledger.effort + 2 * p.lanes.length + 4

instance : Clockwork Pipeline where
  now := Pipeline.now
  act? := Pipeline.act?
  due := Pipeline.due
  wait := Pipeline.wait
  effort := Pipeline.effort

end Pipeline

/-- What is done to a pipeline from outside. -/
inductive Directive where
  | submit (record : EventRecord)
  | look
  | cancel

/-- What is seen of it: whether the record was accepted, or the counters. -/
inductive Observation where
  | submitted (accepted : Bool)
  | seen (counters : Counters)
  | cancelled
  deriving DecidableEq, Repr

namespace Pipeline

open Clockwork

/-- Follows a directive at once. -/
def follow (p : Pipeline) : Directive → Pipeline × Observation
  | .submit r =>
    match p.accept? r with
    | some p => (settle p, .submitted true)
    | none => (p, .submitted false)
  | .look => (p, .seen p.ledger.snapshot)
  | .cancel => (settle p.cancel, .cancelled)

/-- Follows a plan of directives. What is seen is seen when the directive is really followed. -/
def play (p : Pipeline) : Plan Directive → Pipeline × List (Instant × Observation)
  | [] => (p, [])
  | (t, d) :: rest =>
    let (p, seen) := (runTo t p).follow d
    let (last, observations) := p.play rest
    (last, (p.now, seen) :: observations)

/-- Cancels the program and lets the pipeline come to its end. -/
def conclude (p : Pipeline) : Pipeline :=
  runOut p.cancel

end Pipeline

end AlertRelay
