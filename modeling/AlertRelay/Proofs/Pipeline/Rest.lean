import AlertRelay.Proofs.Lane.Rest
import AlertRelay.Proofs.Pipeline.Books
import AlertRelay.Proofs.Pipeline.Run

/-!
# Pipelines at rest

No record is lost, duplicated or stuck. A pipeline that is not cancelled and can do nothing more by
itself, now or later, has delivered every record that it accepted once on every channel, and its
counters say so (`Pipeline.delivered_of_quiescent`). The bounded queues may have been full at any
time and the parts of the pipeline may have taken turns in any order.

The argument has two halves. At rest nothing is left on its way, for the waits of the parts for one
another form no circle: the dispatcher waits for records and results only, so that results are
taken, so that workers forward what they hold, so that reports and records leave the queues, so that
deliveries return (`Pipeline.Quiescent.idle`). And when nothing is on its way, the books say that
everything has arrived (`Pipeline.Idle.delivered`).
-/

namespace AlertRelay

/-- Whether the dispatcher waits for something to come. -/
def DispatcherPhase.isListening : DispatcherPhase → Bool
  | .listening => true
  | _ => false

theorem DispatcherPhase.isListening_iff {phase : DispatcherPhase} :
    phase.isListening = true ↔ phase = .listening := by
  cases phase <;> simp [isListening]

/-- Whether an event happens without anybody from outside: no record comes in, nobody cancels the
program, the clock stands still and no summary is written. -/
def PipelineEvent.isInternal : PipelineEvent → Bool
  | .accept _ => false
  | .cancel => false
  | .pass _ => false
  | .ledger .summarise => false
  | _ => true

namespace Pipeline

/-- Nothing can happen at this instant. -/
def AtRest (p : Pipeline) : Prop :=
  ∀ e, e.isInternal = true → p.step? e = none

/-- Nothing can happen, however long one waits. -/
def Quiescent (p : Pipeline) : Prop :=
  ∀ t, p.now ≤ t → (p.wait t).AtRest

/-- Nothing is on its way. -/
structure Idle (p : Pipeline) : Prop where
  phase : p.phase = .listening
  inbound : p.inbound = []
  drained : ∀ l ∈ p.lanes, l.Drained
  running : ∀ l ∈ p.lanes, l.running = []
  queue : p.ledger.queue = []
  overflow : p.ledger.overflow = []

/-- Nothing is on its way but deliveries. -/
structure Calm (p : Pipeline) : Prop where
  phase : p.phase = .listening
  inbound : p.inbound = []
  drained : ∀ l ∈ p.lanes, l.Drained
  queue : p.ledger.queue = []
  overflow : p.ledger.overflow = []

theorem Idle.calm {p : Pipeline} (h : p.Idle) : p.Calm :=
  ⟨h.phase, h.inbound, h.drained, h.queue, h.overflow⟩

/-- Every accepted record was delivered once on every channel, and counted so. -/
structure Delivered (p : Pipeline) : Prop where
  received : p.ledger.snapshot.received = p.accepted.length
  sent : ∀ l ∈ p.lanes, (p.ledger.snapshot.channel l.channel).sent = p.accepted.length
  resolved : ∀ l ∈ p.lanes, (p.ledger.snapshot.channel l.channel).resolved = p.accepted.length
  /-- The worker took each record once. -/
  scheduled : ∀ l ∈ p.lanes,
    (l.scheduled.map Delivery.record).Perm (p.accepted.map Prod.snd)
  /-- Each delivery came to one end. -/
  concluded : ∀ l ∈ p.lanes, (l.concluded.map fun c => c.delivery.planned).Perm l.scheduled
  /-- The result of each delivery was taken once, and no other result was. -/
  tallied : ∀ l ∈ p.lanes,
    ((p.taken l.channel).filter fun r => !r.isNotice).Perm (l.concluded.map Conclusion.result)
  unused : ∀ ch, ch ∉ p.channels → p.ledger.snapshot.channel ch = {}

variable {p p₀ : Pipeline}

/-! ### What rest means -/

namespace AtRest

/-- Nothing can happen in any lane. -/
theorem lane (h : p.AtRest) : ∀ l ∈ p.lanes, l.AtRest p.moment := by
  intro l hl e
  obtain ⟨i, hi⟩ := List.mem_iff_getElem?.1 hl
  have hstep : p.laneStep? i e = none := h (.lane i e) rfl
  simpa [laneStep?, hi] using hstep

/-- No delivery has the program to cancel. -/
theorem mustTrip (h : p.AtRest) {l : Lane} (hl : l ∈ p.lanes) {d : Delivery}
    (hd : d ∈ l.running) : l.mustTrip p.moment d = false := by
  obtain ⟨i, hi⟩ := List.mem_iff_getElem?.1 hl
  obtain ⟨j, hj⟩ := List.mem_iff_getElem?.1 hd
  have hstep : p.trip? i j = none := h (.trip i j) rfl
  cases hmust : l.mustTrip p.moment d with
  | false => rfl
  | true => simp [trip?, hi, Lane.trip?, hj, hmust] at hstep

/-- The dispatcher of a pipeline that is not cancelled waits for something to come. -/
theorem phase_eq (h : p.AtRest) (hs : p.Staged) (hun : p.moment.cancelledAt = none) :
    p.phase = .listening := by
  have hopen := hs.isOpen_eq hun
  cases hphase : p.phase with
  | listening => rfl
  | fanning r i =>
    have hfan := h .fan rfl
    simp only [step?, fan?, hphase] at hfan
    split at hfan <;> cases hfan
  | closing | settling | stopped =>
    rw [isOpen, hphase] at hopen
    cases hopen

/-- All records are taken. -/
theorem inbound_eq (h : p.AtRest) (hphase : p.phase = .listening) : p.inbound = [] := by
  have htake := h .take rfl
  cases hin : p.inbound with
  | nil => rfl
  | cons r rest => simp [step?, take?, hphase, hin] at htake

/-- All results are taken. -/
theorem results_eq (h : p.AtRest) (hphase : p.phase = .listening) {l : Lane} (hl : l ∈ p.lanes) :
    l.results = [] := by
  obtain ⟨i, hi⟩ := List.mem_iff_getElem?.1 hl
  have htally := h (.tally i) rfl
  cases hr : l.results with
  | nil => rfl
  | cons r rest =>
    simp [step?, tally?, hphase, takeResult?, hi, Lane.takeResult?, hr] at htally

/-- Every increment is counted. -/
theorem ledger_eq (h : p.AtRest) (hl : p.ledger.Coherent) (hcap : 0 < p.ledger.capacity) :
    p.ledger.queue = [] ∧ p.ledger.overflow = [] := by
  have hstep : ∀ e : LedgerEvent, e.isOwn = true → (PipelineEvent.ledger e).isInternal = true →
      p.ledger.step? e = none := by
    intro e he hinternal
    have hnone : p.ledgerStep? e = none := h (.ledger e) hinternal
    simpa [ledgerStep?, he] using hnone
  exact hl.eq_nil_of_rest hcap (hstep .apply rfl rfl) (hstep (.enter 0) rfl rfl)

end AtRest

/-- A worker that is gone leaves nothing in its queues. -/
theorem Reaches.tidy (h : p₀.Reaches p) (hp : p₀.Fresh) : ∀ l ∈ p.lanes, l.Tidy := by
  refine h.keeps_lanes (fun l hl hgone => ?_) fun hchange hl => hl.change hchange
  obtain ⟨-, t, ht⟩ := hp.lanes_start l hl
  rw [ht] at hgone
  cases hgone

/-- Each lane was given what the lane in its place was given at the start. -/
theorem Reaches.exists_kit_getElem? (h : p₀.Reaches p) {k : Nat} {l : Lane}
    (hl : p.lanes[k]? = some l) : ∃ l₀, p₀.lanes[k]? = some l₀ ∧ l.kit = l₀.kit := by
  have hkit : (p.lanes.map Lane.kit)[k]? = some l.kit := by rw [List.getElem?_map, hl]; rfl
  rw [h.kits_eq, List.getElem?_map] at hkit
  obtain ⟨l₀, hl₀, hkit⟩ := Option.map_eq_some_iff.1 hkit
  exact ⟨l₀, hl₀, hkit.symm⟩

theorem Reaches.exists_kit (h : p₀.Reaches p) {l : Lane} (hl : l ∈ p.lanes) :
    ∃ l₀ ∈ p₀.lanes, l.kit = l₀.kit := by
  obtain ⟨k, hk⟩ := List.mem_iff_getElem?.1 hl
  obtain ⟨l₀, hl₀, hkit⟩ := h.exists_kit_getElem? hk
  exact ⟨l₀, List.mem_of_getElem? hl₀, hkit⟩

theorem Fresh.capacity_of_mem (hp : p₀.Fresh) (h : p₀.Reaches p) {l : Lane} (hl : l ∈ p.lanes) :
    0 < l.capacity := by
  obtain ⟨l₀, hl₀, hkit⟩ := h.exists_kit hl
  rw [Lane.capacity_of_kit hkit, (hp.lanes_start l₀ hl₀).1]
  exact hp.capacity_pos

theorem Fresh.ledger_capacity (hp : p₀.Fresh) (h : p₀.Reaches p) : 0 < p.ledger.capacity := by
  rw [h.capacity_eq.2, hp.ledger_eq]
  exact hp.capacity_pos

/-- At rest the queues of all lanes are empty. -/
theorem AtRest.drained (hrest : p.AtRest) (hp : p₀.Fresh) (h : p₀.Reaches p)
    (hun : p.moment.cancelledAt = none) : ∀ l ∈ p.lanes, l.Drained := by
  intro l hl
  have hs := h.staged hp
  exact Lane.drained_of_rest (hrest.lane l hl) (hp.capacity_of_mem h hl) (h.tidy hp l hl)
    (hs.isLeaving_eq hun hl) (hrest.results_eq (hrest.phase_eq hs hun) hl)

/-! ### Quiescence -/

/-- If every delivery returns, none is running when nothing more will happen. -/
theorem Quiescent.running_eq_nil (hq : p.Quiescent) {l : Lane} (hl : l ∈ p.lanes)
    (hanswers : l.Answers) : l.running = [] := by
  cases hrunning : l.running with
  | nil => rfl
  | cons d rest =>
    exfalso
    have hd : d ∈ l.running := by rw [hrunning]; exact List.mem_cons_self
    obtain ⟨t, r, hend⟩ := hanswers p.moment d
    have ht : (l.trace p.moment d).returnsAt? = some t := Trace.returnsAt?_eq_some.2 ⟨r, hend⟩
    -- At the time at which the delivery returns there would be something to do.
    have hlater : (p.wait (max p.now t)).AtRest := hq _ (Nat.le_max_left _ _)
    have hsame : (l.trace (p.wait (max p.now t)).moment d).returnsAt? = some t :=
      (l.returnsAt?_trace _ p.now _ d).trans ht
    have hlt := Lane.lt_of_rest (hlater.lane l hl) hd (hlater.mustTrip hl hd) hsame
    exact absurd (Nat.le_max_right p.now t) (Nat.not_le_of_lt hlt)

/-- When nothing more will happen, nothing is on its way. -/
theorem Quiescent.idle (hq : p.Quiescent) (hp : p₀.Fresh) (h : p₀.Reaches p)
    (hun : p.moment.cancelledAt = none) (hanswers : ∀ l ∈ p₀.lanes, l.Answers) : p.Idle := by
  have hrest : p.AtRest := hq p.now (Nat.le_refl _)
  have hs := h.staged hp
  have hphase := hrest.phase_eq hs hun
  have hledger := hrest.ledger_eq hs.coherent (hp.ledger_capacity h)
  exact
    { phase := hphase
      inbound := hrest.inbound_eq hphase
      drained := hrest.drained hp h hun
      running := by
        intro l hl
        obtain ⟨l₀, hl₀, hkit⟩ := h.exists_kit hl
        exact hq.running_eq_nil hl ((hanswers l₀ hl₀).of_kit hkit)
      queue := hledger.1
      overflow := hledger.2 }

/-! ### Books that are closed -/

/-- When nothing is on its way to it, a lane has scheduled every accepted record. -/
theorem Calm.scheduled_perm (hi : p.Calm) {done : List EventRecord} (hb : p.Books done) {l : Lane}
    (hl : l ∈ p.lanes) (hcrashed : l.phase ≠ .crashed) :
    (l.scheduled.map Delivery.record).Perm (p.accepted.map Prod.snd) := by
  obtain ⟨k, hk⟩ := List.mem_iff_getElem?.1 hl
  have hd := hi.drained l hl
  have haccounts := hb.accounts (by rw [isOpen, hi.phase])
  have hlistening : l.phase = .listening := hd.held.resolve_right hcrashed
  obtain ⟨lost, hsum, hnone⟩ := hb.carries k l hk
  rw [hnone (by rw [hlistening]; rfl), Lane.ashore, hd.inbound, hd.waiting, hi.phase] at hsum
  rw [hi.phase, hi.inbound] at haccounts
  simp only [DispatcherPhase.current, DispatcherPhase.handed, List.append_nil, Multiset.coe_nil,
    add_zero] at haccounts hsum
  rw [haccounts]
  exact (Multiset.coe_eq_coe.1 hsum).symm

namespace Idle

/-- When no delivery is running, every delivery came to one end. -/
theorem concluded_perm (hi : p.Idle) {l : Lane} (hl : l ∈ p.lanes) (ht : l.Tracks) :
    (l.concluded.map fun c => c.delivery.planned).Perm l.scheduled := by
  rw [Lane.Tracks, hi.running l hl, List.map_nil, Multiset.coe_nil, zero_add] at ht
  exact (Multiset.coe_eq_coe.1 ht).symm

/-- When no result is on its way, the results of all deliveries were taken. -/
theorem tallied_perm (hi : p.Idle) (hs : p.Staged) (ht : p.Tallies) {l : Lane} (hl : l ∈ p.lanes)
    (hcrashed : l.phase ≠ .crashed) :
    ((p.taken l.channel).filter fun r => !r.isNotice).Perm
      (l.concluded.map Conclusion.result) := by
  obtain ⟨k, hk⟩ := List.mem_iff_getElem?.1 hl
  have hd := hi.drained l hl
  have hlistening : l.phase = .listening := hd.held.resolve_right hcrashed
  have hopen : l.resultsOpen = true := by
    by_contra hclosed
    have hpast := hs.givenUp k l hk (Bool.eq_false_iff.2 hclosed)
    rw [hi.phase] at hpast
    exact hpast
  obtain ⟨lost, hsum, hnone⟩ := ht.balances l hl
  rw [hnone ⟨by rw [hlistening]; rfl, hopen⟩, Lane.afloat, hd.reporting, hd.reports, hlistening,
    hd.results] at hsum
  simp only [WorkerPhase.held, genuine_nil, add_zero] at hsum
  exact (Multiset.coe_eq_coe.1 hsum).symm

/-- When nothing is on its way to the counters, they are what was submitted. -/
theorem count_eq (hi : p.Idle) (hs : p.Staged) (u : Update) :
    p.ledger.snapshot.count u = p.ledger.submitted u := by
  rw [hs.coherent.snapshot_eq]
  exact Ledger.Coherent.count_eq_submitted hi.queue hi.overflow u

/-- When nothing is on its way, everything has arrived. -/
theorem delivered (hi : p.Idle) (hp : p₀.Fresh) (h : p₀.Reaches p)
    (hcrashed : ∀ l ∈ p.lanes, l.phase ≠ .crashed) : p.Delivered := by
  obtain ⟨done, hb⟩ := h.books hp
  have hs := h.staged hp
  have ht := h.tallies hp
  have haccounts := hb.accounts (by rw [isOpen, hi.phase])
  rw [hi.phase, hi.inbound] at haccounts
  simp only [DispatcherPhase.current, List.append_nil] at haccounts
  have hlength : done.length = p.accepted.length := by rw [← haccounts, List.length_map]
  have hscheduled := fun l hl => hi.calm.scheduled_perm hb hl (hcrashed l hl)
  have hconcluded := fun l hl => hi.concluded_perm hl (h.tracks hp l hl)
  have htallied := fun l hl => hi.tallied_perm hs ht hl (hcrashed l hl)
  exact
    { received := (hi.count_eq hs .received).trans (hb.received.trans hlength)
      sent := by
        intro l hl
        obtain ⟨k, hk⟩ := List.mem_iff_getElem?.1 hl
        have hch : p.channels[k]? = some l.channel := getElem?_channels hk
        refine (hi.count_eq hs (.sent l.channel)).trans ?_
        rw [hb.sent k _ hch, hi.phase, hlength]
        rfl
      resolved := by
        intro l hl
        rw [Counters.resolved_channel, hi.count_eq hs, hi.count_eq hs, hi.count_eq hs,
          ht.submitted_resolved]
        calc (genuine (p.taken l.channel)).card
            = (l.concluded.map Conclusion.result).length := (htallied l hl).length_eq
          _ = (l.concluded.map fun c => c.delivery.planned).length := by
            rw [List.length_map, List.length_map]
          _ = l.scheduled.length := (hconcluded l hl).length_eq
          _ = (l.scheduled.map Delivery.record).length := (List.length_map _).symm
          _ = p.accepted.length := by rw [(hscheduled l hl).length_eq, List.length_map]
      scheduled := hscheduled
      concluded := hconcluded
      tallied := htallied
      unused := by
        intro ch hch
        have hresolved := ht.submitted_resolved ch
        rw [ht.taken_eq_nil hch, genuine_nil, Multiset.card_zero] at hresolved
        have hsent := hb.unsent ch hch
        refine Counters.channel_eq_empty ?_ ?_ ?_ ?_ <;> rw [hi.count_eq hs] <;> omega }

end Idle

/-- When nothing is on its way but deliveries, nothing happens before the time of one of them. -/
theorem Calm.atRest (hi : p.Calm) (hs : p.Staged) (hun : p.moment.cancelledAt = none) {t : Instant}
    (hdue : ∀ l ∈ p.lanes, ∀ u ∈ l.timers p.moment, t < u) : (p.wait t).AtRest := by
  intro e he
  have hphase : (p.wait t).phase = .listening := hi.phase
  have hmoment : (p.wait t).moment = ⟨t, none⟩ := by
    rw [← hun]
    rfl
  have hcancel : (p.wait t).moment.isCancelled = false := by rw [hmoment]; rfl
  have hopen : p.ledger.isOpen = true := by rw [hs.recorders, hi.phase]; rfl
  have hlane : ∀ {i : Nat} {l : Lane}, (p.wait t).lanes[i]? = some l → l ∈ p.lanes :=
    fun hl => List.mem_of_getElem? hl
  have hlater : ∀ l ∈ p.lanes, ∀ u ∈ l.timers (p.wait t).moment, (p.wait t).moment.now < u := by
    intro l hl u hu
    rw [hmoment, l.timers_eq t p.now, ← moment_eq hun] at hu
    exact hdue l hl u hu
  cases e with
  | accept | cancel | pass => cases he
  | lane i e =>
    cases hl : (p.wait t).lanes[i]? with
    | none => simp [step?, laneStep?, hl]
    | some l =>
      have hstep := (hi.drained l (hlane hl)).atRest (hlater l (hlane hl)) hcancel e
      simp [step?, laneStep?, hl, hstep]
  | trip i j =>
    cases hl : (p.wait t).lanes[i]? with
    | none => simp [step?, trip?, hl]
    | some l =>
      cases hd : l.running[j]? with
      | none => simp [step?, trip?, hl, Lane.trip?, hd]
      | some d =>
        have hmust := Lane.mustTrip_of_timers (hlater l (hlane hl)) (List.mem_of_getElem? hd)
        simp [step?, trip?, hl, Lane.trip?, hd, hmust]
  | ledger e =>
    have hq : (p.wait t).ledger.queue = [] := hi.queue
    have ho : (p.wait t).ledger.overflow = [] := hi.overflow
    have hrec : (p.wait t).ledger.isOpen = true := hopen
    cases e with
    | record | close => rfl
    | enter i => simp [step?, ledgerStep?, LedgerEvent.isOwn, Ledger.step?, Ledger.enter?, ho]
    | apply => simp [step?, ledgerStep?, LedgerEvent.isOwn, Ledger.step?, Ledger.take?, hq]
    | summarise => cases he
    | finish => simp [step?, ledgerStep?, LedgerEvent.isOwn, Ledger.step?, Ledger.finish?, hrec]
  | take =>
    have hin : (p.wait t).inbound = [] := hi.inbound
    simp [step?, take?, hphase, hin]
  | fan => simp [step?, fan?, hphase]
  | tally i =>
    cases hl : (p.wait t).lanes[i]? with
    | none => simp [step?, tally?, takeResult?, hphase, hl]
    | some l =>
      have hr := (hi.drained l (hlane hl)).results
      simp [step?, tally?, takeResult?, Lane.takeResult?, hphase, hl, hr]
  | halt => simp [step?, halt?, hphase, hcancel]
  | collect => simp [step?, collect?, hphase]
  | advance => simp [step?, advance?, hphase]
  | abandon => simp [step?, abandon?, hphase]
  | close => simp [step?, close?, hphase]
  | finish => simp [step?, finish?, hphase]

/-- When nothing is on its way, nothing more will happen. -/
theorem Idle.quiescent (hi : p.Idle) (hs : p.Staged) (hun : p.moment.cancelledAt = none) :
    p.Quiescent := fun _ _ => hi.calm.atRest hs hun fun l hl _ hu => by
  rw [Lane.timers, hi.running l hl] at hu
  cases hu

/-- No record is lost, duplicated or stuck: when nothing more will happen in a pipeline that is not
cancelled, every record that it accepted was delivered once on every channel and counted so. No
worker may have died of an instant that does not exist, and every delivery has to return. -/
theorem delivered_of_quiescent (hp : p₀.Fresh) (h : p₀.Reaches p)
    (hun : p.moment.cancelledAt = none) (hinstants : ∀ l ∈ p.lanes, l.phase ≠ .crashed)
    (hanswers : ∀ l ∈ p₀.lanes, l.Answers) (hq : p.Quiescent) : p.Idle ∧ p.Delivered := by
  have hi := hq.idle hp h hun hanswers
  exact ⟨hi, hi.delivered hp h hinstants⟩

theorem calm_iff : p.Calm ↔ p.phase.isListening = true ∧ p.inbound.isEmpty ∧
    (∀ l ∈ p.lanes, l.Drained) ∧ p.ledger.queue = [] ∧ p.ledger.overflow = [] := by
  simp only [List.isEmpty_iff, DispatcherPhase.isListening_iff]
  constructor
  · intro h
    exact ⟨h.phase, h.inbound, h.drained, h.queue, h.overflow⟩
  · rintro ⟨hphase, hinbound, hdrained, hqueue, hoverflow⟩
    exact ⟨hphase, hinbound, hdrained, hqueue, hoverflow⟩

instance (p : Pipeline) : Decidable p.Calm :=
  decidable_of_iff _ calm_iff.symm

theorem idle_iff : p.Idle ↔ p.Calm ∧ ∀ l ∈ p.lanes, l.running.isEmpty := by
  simp only [List.isEmpty_iff]
  constructor
  · intro h
    exact ⟨h.calm, h.running⟩
  · rintro ⟨h, hrunning⟩
    exact ⟨h.phase, h.inbound, h.drained, hrunning, h.queue, h.overflow⟩

instance (p : Pipeline) : Decidable p.Idle :=
  decidable_of_iff _ idle_iff.symm

/-- Two records on both channels, with queues for one item each and transports that fail at
first. -/
theorem sample_delivered :
    let p₀ := Sample.pipeline fun _ _ => Sample.failingOnce
    let p := Clockwork.runOut (p₀.play [(0, .submit Sample.record), (5, .submit Sample.record)]).1
    p.accepted.length = 2 ∧ p.Idle ∧ p.Delivered := by
  intro p₀ p
  have hp : p₀.Fresh := Sample.fresh_pipeline _
  have h : p₀.Reaches p := (reaches_play _ _).trans (reaches_runOut _)
  have hun : p.moment.cancelledAt = none := by decide +kernel
  have hi : p.Idle := by decide +kernel
  refine ⟨by decide +kernel, delivered_of_quiescent hp h hun ?_ ?_ (hi.quiescent (h.staged hp) hun)⟩
  · have hgone : ∀ l ∈ p.lanes, l.phase.isGone = false := by decide +kernel
    intro l hl hcrashed
    have hl' := hgone l hl
    rw [hcrashed] at hl'
    cases hl'
  · intro l hl
    obtain ⟨s, -, rfl⟩ := List.mem_map.1 hl
    exact Lane.answers_of_transport fun _ _ _ h => nomatch h

end Pipeline

end AlertRelay
