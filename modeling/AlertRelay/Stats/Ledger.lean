import AlertRelay.Stats.Counters

/-!
# The ledger

Increments are submitted through recorders to one bookkeeper. The queue between them is bounded: an
increment that finds it full waits outside and enters later, in whatever order room is found. The
bookkeeper takes one increment at a time and publishes the counters after each. Once no recorder is
left and nothing waits, it returns the counters.

`Ledger.step?` gives the state after one such event, if the event can happen; a run of the ledger is
any sequence of them.
-/

namespace AlertRelay

/-- The state between the recorders and the bookkeeper. -/
structure Ledger where
  capacity : Nat
  /-- Increments in the queue, the next one first. -/
  queue : List Update := []
  /-- Increments that wait for room in the queue. -/
  overflow : List Update := []
  counters : Counters := {}
  /-- The counters after each increment that was taken. -/
  published : List Counters := []
  /-- Whether a recorder is left. -/
  isOpen : Bool := true
  /-- The counters returned at the end. -/
  final : Option Counters := none
  deriving DecidableEq, Repr

/-- What can happen at the ledger. -/
inductive LedgerEvent where
  /-- An increment is submitted. -/
  | record (u : Update)
  /-- A waiting increment enters the queue. -/
  | enter (i : Nat)
  /-- The bookkeeper takes the next increment. -/
  | apply
  /-- A summary is written. -/
  | summarise
  /-- The last recorder is gone. -/
  | close
  /-- The bookkeeper returns. -/
  | finish
  deriving DecidableEq, Repr

namespace Ledger

/-- Submits an increment. -/
def record (l : Ledger) (u : Update) : Ledger :=
  if l.queue.length < l.capacity then { l with queue := l.queue ++ [u] }
  else { l with overflow := l.overflow ++ [u] }

/-- A waiting increment enters the queue, if there is room. -/
def enter? (l : Ledger) (i : Nat) : Option Ledger :=
  if l.queue.length < l.capacity then
    l.overflow[i]?.map fun u =>
      { l with queue := l.queue ++ [u], overflow := l.overflow.eraseIdx i }
  else none

/-- The bookkeeper takes the next increment and publishes the counters. -/
def take? (l : Ledger) : Option Ledger :=
  match l.queue with
  | [] => none
  | u :: rest =>
    if l.final.isSome then none
    else
      let counters := l.counters.apply u
      some { l with queue := rest, counters, published := l.published ++ [counters] }

/-- The bookkeeper returns once nothing can come any more. -/
def finish? (l : Ledger) : Option Ledger :=
  if l.final.isNone && !l.isOpen && l.queue.isEmpty && l.overflow.isEmpty then
    some { l with final := some l.counters }
  else none

/-- The state after an event, if it can happen. -/
def step? (l : Ledger) : LedgerEvent → Option Ledger
  | .record u => if l.isOpen then some (l.record u) else none
  | .enter i => l.enter? i
  | .apply => l.take?
  | .summarise => if l.final.isNone then some l else none
  | .close => if l.isOpen then some { l with isOpen := false } else none
  | .finish => l.finish?

/-- The counters that were published last. -/
def snapshot (l : Ledger) : Counters :=
  (l.published.getLast?).getD {}

/-- What the bookkeeper can do at once: it takes what is in the queue before it lets others in. -/
def internalEvent? (l : Ledger) : Option LedgerEvent :=
  if (l.take?).isSome then some .apply
  else if (l.enter? 0).isSome then some (.enter 0)
  else if (l.finish?).isSome then some .finish
  else none

/-- Lets the bookkeeper work until nothing is left to do or the steps are used up. -/
def settleFor : Nat → Ledger → Ledger
  | 0, l => l
  | steps + 1, l =>
    match l.internalEvent?.bind l.step? with
    | some l => settleFor steps l
    | none => l

/-- An upper bound on the steps that the bookkeeper can make by itself. -/
def effort (l : Ledger) : Nat :=
  l.queue.length + 2 * l.overflow.length + 1

/-- Lets the bookkeeper work until nothing is left to do. -/
def settle (l : Ledger) : Ledger :=
  l.settleFor l.effort

end Ledger

end AlertRelay
