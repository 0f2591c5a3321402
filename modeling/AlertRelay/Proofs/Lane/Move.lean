import AlertRelay.Pipeline.Lane
import Mathlib.Tactic.Common

/-!
# What can happen in a lane

`Lane.Move` lists everything that an event can do to a lane, with the condition under which it does
it and the lane that comes of it. `Lane.move_of_step?` says that the list is complete, so that a
property of lanes is shown to be kept by going through it. What a lane is given at its start, its
`Lane.kit`, is never changed (`Lane.Move.kit_eq`), and most moves leave its deliveries alone
(`Lane.Move.sameDeliveries`).
-/

namespace AlertRelay

namespace Lane

/-- What an event does to a lane. -/
inductive Move (l : Lane) (m : Moment) : LaneEvent → Lane → Prop
  /-- A record comes too late for the worker. -/
  | lose {i : Nat} {r : EventRecord} (hr : l.waiting[i]? = some r) (hgone : l.phase.isGone = true) :
      Move l m (.enter i) { l with waiting := l.waiting.eraseIdx i }
  | enter {i : Nat} {r : EventRecord} (hr : l.waiting[i]? = some r)
      (hgone : l.phase.isGone = false) (hroom : l.inbound.length < l.capacity) :
      Move l m (.enter i)
        { l with waiting := l.waiting.eraseIdx i, inbound := l.inbound ++ [r] }
  /-- There is no instant for the record, and the worker dies. -/
  | crash {r : EventRecord} {rest : List EventRecord} (hphase : l.phase = .listening)
      (hin : l.inbound = r :: rest) (hplan : l.plan? m.now = none) :
      Move l m .dispatch ({ l with inbound := rest } : Lane).crash
  /-- The time of the record is over when it is taken. -/
  | lapse {r : EventRecord} {rest : List EventRecord} {schedule : Schedule} {deadline : Instant}
      {reason : DoneReason} (hphase : l.phase = .listening) (hin : l.inbound = r :: rest)
      (hplan : l.plan? m.now = some (schedule, deadline))
      (hdone : (Context.mk deadline m.cancelledAt).doneReason? m.now = some reason) :
      Move l m .dispatch
        { l with
          inbound := rest
          schedule := schedule
          scheduled := l.scheduled ++
            [⟨l.scheduled.length, r, m.now, schedule.last, deadline, false⟩]
          phase := .holding (.cancelled l.channel (lateNotice reason l.channel)) .listen
          concluded := l.concluded ++
            [⟨m.now, ⟨l.scheduled.length, r, m.now, schedule.last, deadline, false⟩,
              .cancelled l.channel (lateNotice reason l.channel)⟩] }
  | launch {r : EventRecord} {rest : List EventRecord} {schedule : Schedule} {deadline : Instant}
      (hphase : l.phase = .listening) (hin : l.inbound = r :: rest)
      (hplan : l.plan? m.now = some (schedule, deadline))
      (hdone : (Context.mk deadline m.cancelledAt).doneReason? m.now = none) :
      Move l m .dispatch
        { l with
          inbound := rest
          schedule := schedule
          scheduled := l.scheduled ++
            [⟨l.scheduled.length, r, m.now, schedule.last, deadline, false⟩]
          running := l.running ++
            [⟨l.scheduled.length, r, m.now, schedule.last, deadline, false⟩] }
  | complete {i : Nat} {d : Delivery} {t : Instant} {result : DeliveryResult}
      (hd : l.running[i]? = some d) (hend : (l.trace m d).ending = .returns t result)
      (ht : t ≤ m.now) (htrip : l.mustTrip m d = false) :
      Move l m (.complete i)
        { l with
          running := l.running.eraseIdx i
          reporting := l.reporting ++ [result]
          calls := l.calls ++ l.callsOf m d
          concluded := l.concluded ++ [⟨m.now, d, result⟩] }
  /-- A result comes too late for the worker. -/
  | drop {i : Nat} {r : DeliveryResult} (hr : l.reporting[i]? = some r)
      (hgone : l.phase.isGone = true) :
      Move l m (.report i) { l with reporting := l.reporting.eraseIdx i }
  | report {i : Nat} {r : DeliveryResult} (hr : l.reporting[i]? = some r)
      (hgone : l.phase.isGone = false) (hroom : l.reports.length < l.capacity) :
      Move l m (.report i)
        { l with reporting := l.reporting.eraseIdx i, reports := l.reports ++ [r] }
  | gather {r : DeliveryResult} {rest : List DeliveryResult} (hphase : l.phase = .listening)
      (hr : l.reports = r :: rest) :
      Move l m .gather { l with phase := .holding r .listen, reports := rest }
  /-- Nobody takes the result any more. -/
  | discard {r : DeliveryResult} {next : AfterForward} (hphase : l.phase = .holding r next)
      (hopen : l.resultsOpen = false) : Move l m .forward (l.release next)
  | forward {r : DeliveryResult} {next : AfterForward} (hphase : l.phase = .holding r next)
      (hopen : l.resultsOpen = true) (hroom : l.results.length < l.capacity) :
      Move l m .forward { l.release next with results := l.results ++ [r] }
  | halt (hphase : l.phase = .listening) (hcancel : m.isCancelled = true) :
      Move l m .halt { l with phase := .draining }
  | drain {r : DeliveryResult} {rest : List DeliveryResult} (hphase : l.phase = .draining)
      (hr : l.reports = r :: rest) :
      Move l m .drain { l with phase := .holding r .drain, reports := rest }
  | announce (hphase : l.phase = .draining) (hr : l.reports = []) :
      Move l m .announce
        { l with phase := .holding (.notice l.channel (stopNotice l.channel)) .stop }

variable {l l' : Lane} {m : Moment}

theorem move_of_enter? {i : Nat} (h : l.enter? i = some l') : l.Move m (.enter i) l' := by
  obtain ⟨r, hr, h⟩ := Option.bind_eq_some_iff.1 h
  split at h
  · cases h
    exact .lose hr ‹_›
  · split at h
    · cases h
      exact .enter hr (by simpa using ‹¬l.phase.isGone = true›) ‹_›
    · cases h

/-- A worker that takes a record dies, is too late or launches a delivery. -/
theorem move_of_dispatch? (h : l.dispatch? m = some l') : l.Move m .dispatch l' := by
  unfold dispatch? at h
  split at h
  · rename_i r rest hphase hin
    cases h
    -- Taking the record off the queue does not change what the worker plans for it.
    have hsame : ({ l with inbound := rest } : Lane).plan? m.now = l.plan? m.now := by
      simp only [plan?]
    cases hplan : l.plan? m.now with
    | none =>
      rw [book, hsame, hplan]
      exact .crash hphase hin hplan
    | some planned =>
      obtain ⟨schedule, deadline⟩ := planned
      rw [book, hsame, hplan]
      cases hdone : (Context.mk deadline m.cancelledAt).doneReason? m.now with
      | some reason =>
        simp only [launch, hdone]
        exact .lapse hphase hin hplan hdone
      | none =>
        simp only [launch, hdone]
        exact .launch hphase hin hplan hdone
  · cases h

/-- A delivery returns when its time has come. -/
theorem move_of_complete? {i : Nat} (h : l.complete? m i = some l') :
    l.Move m (.complete i) l' := by
  obtain ⟨d, hd, h⟩ := Option.bind_eq_some_iff.1 h
  split at h
  · split at h
    · rename_i hguard
      simp only [Bool.and_eq_true, decide_eq_true_eq, Bool.not_eq_true'] at hguard
      cases h
      exact .complete hd ‹_› hguard.1 hguard.2
    · cases h
  · cases h

theorem move_of_report? {i : Nat} (h : l.report? i = some l') : l.Move m (.report i) l' := by
  obtain ⟨r, hr, h⟩ := Option.bind_eq_some_iff.1 h
  split at h
  · cases h
    exact .drop hr ‹_›
  · split at h
    · cases h
      exact .report hr (by simpa using ‹¬l.phase.isGone = true›) ‹_›
    · cases h

/-- A result that is forwarded is queued or lost. -/
theorem move_of_forward? (h : l.forward? = some l') : l.Move m .forward l' := by
  unfold forward? at h
  split at h
  · split at h
    · cases h
      exact .discard ‹_› (by simpa using ‹(!l.resultsOpen) = true›)
    · split at h
      · cases h
        exact .forward ‹_› (by simpa using ‹¬(!l.resultsOpen) = true›) ‹_›
      · cases h
  · cases h

/-- Nothing else can happen. -/
theorem move_of_step? {e : LaneEvent} (h : l.step? m e = some l') : l.Move m e l' := by
  cases e with
  | enter i => exact move_of_enter? h
  | dispatch => exact move_of_dispatch? h
  | complete i => exact move_of_complete? h
  | report i => exact move_of_report? h
  | gather =>
    simp only [step?, gather?] at h
    split at h
    · cases h
      exact .gather ‹_› ‹_›
    · cases h
  | forward => exact move_of_forward? h
  | halt =>
    simp only [step?, halt?] at h
    split at h
    · split at h
      · cases h
        exact .halt ‹_› ‹_›
      · cases h
    · cases h
  | drain =>
    simp only [step?, drain?] at h
    split at h
    · cases h
      exact .drain ‹_› ‹_›
    · cases h
  | announce =>
    simp only [step?, announce?] at h
    split at h
    · cases h
      exact .announce ‹_› ‹_›
    · cases h

/-- What can happen to a lane in a pipeline: it makes a move by itself, one of its deliveries
cancels the program, or the dispatcher hands it a record, takes a result or gives it up. -/
inductive Change (l : Lane) (m : Moment) : Lane → Prop
  | move {e : LaneEvent} {l' : Lane} (h : l.Move m e l') : Change l m l'
  | trip (j : Nat) :
      Change l m { l with running := l.running.modify j fun d => { d with tripped := true } }
  | offer (r : EventRecord) : Change l m (l.offer r)
  | take {r : DeliveryResult} {rest : List DeliveryResult} (hr : l.results = r :: rest) :
      Change l m { l with results := rest }
  | abandon : Change l m l.abandon

/-! ### What never changes -/

/-- What a lane is given at its start. -/
structure Kit where
  sender : Sender
  transport : Nat → EventRecord → Transport Unit
  choice : Nat → Choice
  clock : Instant → String
  capacity : Nat

/-- A lane that is given this and starts at `now`. -/
def Kit.start (k : Kit) (now : Instant) : Lane where
  sender := k.sender
  transport := k.transport
  choice := k.choice
  clock := k.clock
  capacity := k.capacity
  schedule := ⟨k.sender.settings.rateLimit, now⟩

/-- What a lane was given. -/
def kit (l : Lane) : Kit :=
  ⟨l.sender, l.transport, l.choice, l.clock, l.capacity⟩

theorem results_release (l : Lane) (next : AfterForward) :
    (l.release next).results = l.results := by
  cases next <;> rfl

theorem resultsOpen_release (l : Lane) (next : AfterForward) :
    (l.release next).resultsOpen = l.resultsOpen := by
  cases next <;> rfl

/-- Nothing becomes of the deliveries of a lane: it plans with the same schedule, and the same ones
are scheduled, running and over. -/
structure SameDeliveries (l l' : Lane) : Prop where
  kit : l'.kit = l.kit
  schedule : l'.schedule = l.schedule
  scheduled : l'.scheduled = l.scheduled
  running : l'.running = l.running
  concluded : l'.concluded = l.concluded
  calls : l'.calls = l.calls

/-- A worker that goes on has nothing to do with the deliveries. -/
theorem sameDeliveries_release (l : Lane) (next : AfterForward) :
    l.SameDeliveries (l.release next) := by
  cases next with
  | listen => exact ⟨rfl, rfl, rfl, rfl, rfl, rfl⟩
  | drain => exact ⟨rfl, rfl, rfl, rfl, rfl, rfl⟩
  | stop => exact ⟨rfl, rfl, rfl, rfl, rfl, rfl⟩

/-- Only dispatching a record and completing a delivery has anything to do with deliveries. -/
theorem Move.sameDeliveries {e : LaneEvent} (h : l.Move m e l') (hdispatch : e ≠ .dispatch)
    (hcomplete : ∀ i, e ≠ .complete i) : l.SameDeliveries l' := by
  cases h with
  | crash => exact absurd rfl hdispatch
  | lapse => exact absurd rfl hdispatch
  | launch => exact absurd rfl hdispatch
  | complete => exact absurd rfl (hcomplete _)
  | discard => exact sameDeliveries_release l _
  | @forward _ next =>
    obtain ⟨hkit, hschedule, hscheduled, hrunning, hconcluded, hcalls⟩ :=
      sameDeliveries_release l next
    exact ⟨hkit, hschedule, hscheduled, hrunning, hconcluded, hcalls⟩
  | _ => exact ⟨rfl, rfl, rfl, rfl, rfl, rfl⟩

/-- Nothing that happens in a lane changes what it was given. -/
theorem Move.kit_eq {e : LaneEvent} (h : l.Move m e l') : l'.kit = l.kit := by
  cases h with
  | discard => exact (sameDeliveries_release l _).kit
  | @forward _ next => exact (sameDeliveries_release l next).kit
  | _ => rfl

/-- Nothing that happens to a lane changes what it was given. -/
theorem Change.kit_eq (h : l.Change m l') : l'.kit = l.kit := by
  cases h with
  | move h => exact h.kit_eq
  | _ => rfl

/-- Lanes that were given the same have the same channel. -/
theorem channel_of_kit (h : l'.kit = l.kit) : l'.channel = l.channel :=
  congrArg (fun k => k.sender.channel) h

/-- Lanes that were given the same have the same capacity. -/
theorem capacity_of_kit (h : l'.kit = l.kit) : l'.capacity = l.capacity :=
  congrArg Kit.capacity h

/-- Lanes that were given the same let a delivery take the same course. -/
theorem trace_of_kit (h : l'.kit = l.kit) (m : Moment) (d : Delivery) :
    l'.trace m d = l.trace m d := by
  have hsender : l'.sender = l.sender := congrArg Kit.sender h
  have htransport : l'.transport = l.transport := congrArg Kit.transport h
  have hchoice : l'.choice = l.choice := congrArg Kit.choice h
  have hclock : l'.clock = l.clock := congrArg Kit.clock h
  simp only [trace, hsender, htransport, hchoice, hclock]

end Lane

end AlertRelay
