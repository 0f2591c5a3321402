import AlertRelay.Proofs.Lane.Phase
import Mathlib.Data.List.Basic

/-!
# Lanes at rest

A lane that can do nothing by itself, whose results were all taken and whose worker is not on its
way out, has nothing in any of its queues (`Lane.drained_of_rest`), and none of its deliveries is
due (`Lane.lt_of_rest`). So a worker never waits for room that does not come: the results are taken,
then the worker forwards what it holds, then it takes the reports, and then the deliveries can
report.
-/

namespace AlertRelay

/-- Whether a worker waits for something to come, or for nothing any more. -/
def WorkerPhase.isWaiting : WorkerPhase → Bool
  | .listening => true
  | .crashed => true
  | _ => false

theorem WorkerPhase.isWaiting_iff {phase : WorkerPhase} :
    phase.isWaiting = true ↔ phase = .listening ∨ phase = .crashed := by
  cases phase <;> simp [isWaiting]

namespace Lane

/-- Whether nothing can happen in a lane by itself. -/
def AtRest (l : Lane) (m : Moment) : Prop :=
  ∀ e, l.step? m e = none

/-- Nothing is in the queues of a lane or on its way to them, and the worker holds nothing. -/
structure Drained (l : Lane) : Prop where
  waiting : l.waiting = []
  inbound : l.inbound = []
  held : l.phase = .listening ∨ l.phase = .crashed
  reporting : l.reporting = []
  reports : l.reports = []
  results : l.results = []

/-- Every delivery of a lane returns, whatever happens. -/
def Answers (l : Lane) : Prop :=
  ∀ m d, ∃ t r, (l.trace m d).ending = .returns t r

variable {l l' : Lane} {m : Moment}

theorem drained_iff : l.Drained ↔ l.waiting.isEmpty ∧ l.inbound.isEmpty ∧ l.phase.isWaiting ∧
    l.reporting.isEmpty ∧ l.reports.isEmpty ∧ l.results.isEmpty := by
  simp only [List.isEmpty_iff, WorkerPhase.isWaiting_iff]
  constructor
  · intro h
    exact ⟨h.waiting, h.inbound, h.held, h.reporting, h.reports, h.results⟩
  · rintro ⟨hwaiting, hinbound, hheld, hreporting, hreports, hresults⟩
    exact ⟨hwaiting, hinbound, hheld, hreporting, hreports, hresults⟩

instance (l : Lane) : Decidable l.Drained :=
  decidable_of_iff _ drained_iff.symm

/-- A lane answers if no call of its transport hangs. -/
theorem answers_of_transport (h : ∀ k r n, l.transport k r n ≠ .hangs) : l.Answers :=
  fun _ d => Sender.exists_send_returns (h d.number d.record)

/-- Whether deliveries return is decided by what the lane was given. -/
theorem Answers.of_kit (h : l.Answers) (hkit : l'.kit = l.kit) : l'.Answers := by
  intro m d
  rw [trace_of_kit hkit]
  exact h m d

/-- When a delivery returns does not depend on when this is asked. -/
theorem returnsAt?_trace (l : Lane) (now now' : Instant) (cancelledAt : Option Instant)
    (d : Delivery) :
    (l.trace ⟨now, cancelledAt⟩ d).returnsAt? = (l.trace ⟨now', cancelledAt⟩ d).returnsAt? :=
  Sender.returnsAt?_send_clock _ _ _ _ _ _ _ _

/-- What a lane waits for does not depend on when this is asked. -/
theorem timers_eq (l : Lane) (now now' : Instant) (cancelledAt : Option Instant) :
    l.timers ⟨now, cancelledAt⟩ = l.timers ⟨now', cancelledAt⟩ := by
  refine List.flatMap_congr ?_
  intro d _
  have hcancels : (l.trace ⟨now, cancelledAt⟩ d).cancelsAt =
      (l.trace ⟨now', cancelledAt⟩ d).cancelsAt := Sender.cancelsAt_send_clock _ _ _ _ _ _ _ _
  simp only [l.returnsAt?_trace now now' cancelledAt d, hcancels]

/-- A lane waits for its deliveries to return. -/
theorem mem_timers_of_returnsAt? {d : Delivery} (hd : d ∈ l.running) {t : Instant}
    (ht : (l.trace m d).returnsAt? = some t) : t ∈ l.timers m := by
  refine List.mem_flatMap.2 ⟨d, hd, List.mem_append_left _ ?_⟩
  rw [ht]
  exact List.mem_singleton_self t

/-- A delivery has nothing to cancel before its time. -/
theorem mustTrip_of_timers (hdue : ∀ t ∈ l.timers m, m.now < t) {d : Delivery}
    (hd : d ∈ l.running) : l.mustTrip m d = false := by
  have htrips : l.trips m d = false := by
    unfold trips
    split
    · rename_i t ht
      have hmem : t ∈ l.timers m := by
        refine List.mem_flatMap.2 ⟨d, hd, List.mem_append_right _ ?_⟩
        rw [ht]
        exact List.mem_singleton_self t
      exact decide_eq_false (Nat.not_le_of_lt (hdue t hmem))
    · rfl
  rw [mustTrip, htrips, Bool.and_false]

/-- A worker holds nothing if there is room for what it holds. -/
theorem not_holding_of_rest (hrest : l.AtRest m) (hroom : l.results.length < l.capacity)
    (r : DeliveryResult) (next : AfterForward) : l.phase ≠ .holding r next := by
  intro hphase
  have hforward := hrest .forward
  simp only [step?, forward?, hphase, if_pos hroom] at hforward
  split at hforward <;> cases hforward

/-- A worker that is neither leaving nor gone and holds nothing is listening. -/
theorem phase_of_rest (hrest : l.AtRest m) (hroom : l.results.length < l.capacity)
    (hleaving : l.phase.isLeaving = false) : l.phase = .listening ∨ l.phase = .crashed := by
  cases hphase : l.phase with
  | listening => exact .inl rfl
  | crashed => exact .inr rfl
  | holding r next => exact absurd hphase (not_holding_of_rest hrest hroom r next)
  | draining | stopped =>
    rw [hphase] at hleaving
    cases hleaving

/-- Reports wait only as long as there is no room for them. -/
theorem reporting_of_rest (hrest : l.AtRest m) (hroom : l.reports.length < l.capacity) :
    l.reporting = [] := by
  have hreport := hrest (.report 0)
  cases hr : l.reporting with
  | nil => rfl
  | cons r rest =>
    simp only [step?, report?, hr, List.getElem?_cons_zero, Option.bind_some, if_pos hroom] at hreport
    split at hreport <;> cases hreport

/-- Records wait only as long as there is no room for them. -/
theorem waiting_of_rest (hrest : l.AtRest m) (hroom : l.inbound.length < l.capacity) :
    l.waiting = [] := by
  have henter := hrest (.enter 0)
  cases hr : l.waiting with
  | nil => rfl
  | cons r rest =>
    simp only [step?, enter?, hr, List.getElem?_cons_zero, Option.bind_some, if_pos hroom] at henter
    split at henter <;> cases henter

/-- A worker that listens takes what is in its queues. -/
theorem queues_of_rest (hrest : l.AtRest m) (hphase : l.phase = .listening) :
    l.inbound = [] ∧ l.reports = [] := by
  have hdispatch := hrest .dispatch
  have hgather := hrest .gather
  constructor
  · cases hr : l.inbound with
    | nil => rfl
    | cons r rest => simp [step?, dispatch?, hphase, hr] at hdispatch
  · cases hr : l.reports with
    | nil => rfl
    | cons r rest => simp [step?, gather?, hphase, hr] at hgather

/-- A lane at rest whose results were taken has nothing in its queues. -/
theorem drained_of_rest (hrest : l.AtRest m) (hcap : 0 < l.capacity) (htidy : l.Tidy)
    (hleaving : l.phase.isLeaving = false) (hresults : l.results = []) : l.Drained := by
  have hphase := phase_of_rest hrest (by rw [hresults]; exact hcap) hleaving
  have hqueues : l.inbound = [] ∧ l.reports = [] := by
    rcases hphase with hlistening | hcrashed
    · exact queues_of_rest hrest hlistening
    · exact htidy (by rw [hcrashed]; rfl)
  exact
    { waiting := waiting_of_rest hrest (by rw [hqueues.1]; exact hcap)
      inbound := hqueues.1
      held := hphase
      reporting := reporting_of_rest hrest (by rw [hqueues.2]; exact hcap)
      reports := hqueues.2
      results := hresults }

/-- No delivery is due in a lane at rest, unless it has the program to cancel first. -/
theorem lt_of_rest (hrest : l.AtRest m) {d : Delivery} (hd : d ∈ l.running)
    (htrip : l.mustTrip m d = false) {t : Instant} (ht : (l.trace m d).returnsAt? = some t) :
    m.now < t := by
  obtain ⟨i, hi⟩ := List.mem_iff_getElem?.1 hd
  obtain ⟨r, hend⟩ := Trace.returnsAt?_eq_some.1 ht
  have hcomplete := hrest (.complete i)
  refine Nat.lt_of_not_le ?_
  intro hle
  simp only [step?, complete?, hi, Option.bind_some, hend, htrip] at hcomplete
  simp [hle] at hcomplete

/-- A lane with nothing in its queues has nothing to do before the time of its deliveries, as long
as the program is not cancelled. -/
theorem Drained.atRest (hl : l.Drained) (hdue : ∀ t ∈ l.timers m, m.now < t)
    (hcancel : m.isCancelled = false) : l.AtRest m := by
  intro e
  cases e with
  | enter i => simp [step?, enter?, hl.waiting]
  | dispatch => simp [step?, dispatch?, hl.inbound]
  | complete i =>
    cases hd : l.running[i]? with
    | none => simp [step?, complete?, hd]
    | some d =>
      simp only [step?, complete?, hd, Option.bind_some]
      split
      · rename_i t result hend
        have ht := mem_timers_of_returnsAt? (List.mem_of_getElem? hd)
          (Trace.returnsAt?_eq_some.2 ⟨result, hend⟩)
        simp [Nat.not_le_of_lt (hdue t ht)]
      · rfl
  | report i => simp [step?, report?, hl.reporting]
  | gather => simp [step?, gather?, hl.reports]
  | forward => rcases hl.held with h | h <;> simp [step?, forward?, h]
  | halt => rcases hl.held with h | h <;> simp [step?, halt?, h, hcancel]
  | drain => simp [step?, drain?, hl.reports]
  | announce => rcases hl.held with h | h <;> simp [step?, announce?, h]

end Lane

end AlertRelay
