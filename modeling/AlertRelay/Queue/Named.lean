/-!
# Named queues

A bounded queue with a name, any number of senders and one receiver. Once all senders are gone the
receiver still gets what is queued; once the receiver is gone, what is queued is lost. The depth
that a queue shows is the number of items in it, or nothing when no sender is left.
-/

namespace AlertRelay

/-- The words of a failure to make a queue that holds nothing. -/
def emptyQueueFault : String := "mpsc bounded channel requires buffer > 0"

/-- A bounded queue. -/
structure NamedQueue (α : Type) where
  name : String
  capacity : Nat
  items : List α := []
  senders : Nat := 1
  hasReceiver : Bool := true

/-- What comes of sending. -/
inductive SendReply where
  | ok
  | full
  | closed
  | noSender
  deriving DecidableEq, Repr

/-- What comes of receiving. -/
inductive ReceiveReply (α : Type) where
  | item (value : α)
  | empty
  | disconnected
  | noReceiver
  deriving DecidableEq, Repr

namespace NamedQueue

variable {α : Type}

/-- A queue, unless it would hold nothing. -/
def make? (name : String) (capacity : Nat) : Option (NamedQueue α) :=
  if capacity = 0 then none else some { name, capacity }

/-- The number of items that the queue shows. -/
def depth (q : NamedQueue α) : Nat :=
  if q.senders = 0 then 0 else q.items.length

/-- Sends without waiting. -/
def send (q : NamedQueue α) (value : α) : SendReply × NamedQueue α :=
  if q.senders = 0 then (.noSender, q)
  else if !q.hasReceiver then (.closed, q)
  else if q.items.length < q.capacity then (.ok, { q with items := q.items ++ [value] })
  else (.full, q)

/-- Receives without waiting. -/
def receive (q : NamedQueue α) : ReceiveReply α × NamedQueue α :=
  if !q.hasReceiver then (.noReceiver, q)
  else match q.items with
    | value :: rest => (.item value, { q with items := rest })
    | [] => (if q.senders = 0 then .disconnected else .empty, q)

/-- One more sender, if there is one to begin with. -/
def cloneSender (q : NamedQueue α) : NamedQueue α :=
  if q.senders = 0 then q else { q with senders := q.senders + 1 }

/-- One sender less. -/
def dropSender (q : NamedQueue α) : NamedQueue α :=
  { q with senders := q.senders - 1 }

/-- The receiver goes, and with it what is queued. -/
def dropReceiver (q : NamedQueue α) : NamedQueue α :=
  { q with items := [], hasReceiver := false }

end NamedQueue

end AlertRelay
