import AlertRelay.Proofs.Delivery.Budget
import AlertRelay.Proofs.Lane.Slots
import AlertRelay.Proofs.Lane.Timeline

/-!
# Fairness of deadlines

The deadline that a worker plans for a delivery lies behind its slot by the time for one attempt and
for all pauses. So as long as the program is not cancelled (`Lane.Undisturbed`), a delivery that has
a destination is attempted from its slot on (`Lane.Steady.trace_eq`), and it is given up for its
deadline only if its calls took the time for one attempt already (`Lane.Steady.latestStart_add_le`).
`Lane.Fair` collects what a delivery may count on, and `Lane.Kit.Reaches.fair` says that every lane
is fair, whatever its settings are and whatever it has gone through.
-/

namespace AlertRelay

/-- The time for a record is not over when the record is taken, if the program is not cancelled. -/
theorem Sender.live_of_plan? {s : Sender} {schedule schedule' : Schedule} {now deadline : Instant}
    (hbase : 0 < s.settings.baseTimeout.toNanos)
    (h : s.plan? schedule now = some (schedule', deadline)) :
    (Context.mk deadline none).doneReason? now = none := by
  obtain ⟨-, hlast, hdeadline⟩ := Sender.eq_of_plan? h
  have hahead : now < deadline := by
    unfold Instant at *
    omega
  exact Context.doneReason?_eq_none_iff.2 ⟨(fun _ ht => nomatch ht), hahead⟩

/-- What came of all attempts is a success or a failure. -/
theorem Sender.outcome_resultOf_ne (s : Sender) (clock : String)
    (outcome : Except DeliveryError Unit) : (s.resultOf clock outcome).outcome ≠ .cancelled := by
  cases outcome with
  | ok value =>
    intro h
    cases h
  | error e =>
    intro h
    cases h

namespace Lane

variable {k : Kit} {start m : Moment} {l l' : Lane} {e : LaneEvent} {s : Sender}
  {since now : Instant} {d : Delivery}

/-! ### Lanes in a program that is not cancelled -/

/-- No delivery has cancelled the program, and those that are over have returned by themselves. -/
structure Undisturbed (l : Lane) (now : Instant) : Prop where
  running : ∀ d ∈ l.running, d.tripped = false
  concluded : ∀ c ∈ l.concluded, c.delivery.tripped = false ∧ c.time ≤ now ∧
    ∃ t ≤ c.time, (l.trace ⟨c.time, none⟩ c.delivery).ending = .returns t c.result
  calls : l.calls = l.concluded.flatMap fun c => l.everyCallOf c.delivery

namespace Undisturbed

/-- What does not touch the deliveries does not disturb them. -/
theorem congr (hl : l.Undisturbed now) (h : l.SameDeliveries l') : l'.Undisturbed now where
  running := by
    rw [h.running]
    exact hl.running
  concluded := by
    intro c hc
    rw [trace_of_kit h.kit]
    exact hl.concluded c (by rwa [h.concluded] at hc)
  calls := by
    simp only [h.calls, h.concluded, everyCallOf_of_kit h.kit]
    exact hl.calls

/-- What happens in a lane does not disturb its deliveries. -/
theorem move (h : l.Move m e l') (hm : m.cancelledAt = none)
    (hbase : 0 < l.sender.settings.baseTimeout.toNanos) (hl : l.Undisturbed m.now) :
    l'.Undisturbed m.now := by
  obtain ⟨now, cancelledAt⟩ := m
  obtain rfl : cancelledAt = none := hm
  have hsame := h.sameDeliveries
  cases h with
  | lapse hphase hin hplan hdone =>
    rw [Sender.live_of_plan? hbase hplan] at hdone
    cases hdone
  | launch hphase hin hplan hdone =>
    exact
      { running := by
          intro d hd
          rcases List.mem_append.1 hd with hd | hd
          · exact hl.running d hd
          · rw [List.mem_singleton.1 hd]
        concluded := hl.concluded
        calls := hl.calls }
  | @complete i d t result hd hend ht htrip =>
    have hmem : d ∈ l.running := List.mem_of_getElem? hd
    have hreturns : (l.trace {} d).returnsAt? = some t :=
      (l.returnsAt?_trace 0 now none d).trans (Trace.returnsAt?_eq_some.2 ⟨result, hend⟩)
    exact
      { running := fun d hd => hl.running d (List.mem_of_mem_eraseIdx hd)
        concluded := by
          intro c hc
          rcases List.mem_append.1 hc with hc | hc
          · exact hl.concluded c hc
          · rw [List.mem_singleton.1 hc]
            exact ⟨hl.running d hmem, Nat.le_refl _, t, ht, hend⟩
        calls := by
          rw [List.flatMap_append, List.flatMap_singleton]
          exact congrArg₂ _ hl.calls (callsOf_of_returned hreturns ht) }
  | crash hphase hin hplan => exact hl.congr ⟨rfl, rfl, rfl, rfl, rfl, rfl⟩
  | _ => exact hl.congr (hsame (fun he => nomatch he) fun _ he => nomatch he)

/-- The clock does not disturb deliveries. -/
theorem wait (hl : l.Undisturbed now) {t : Instant} (ht : now ≤ t) : l.Undisturbed t where
  running := hl.running
  concluded := by
    intro c hc
    obtain ⟨htripped, htime, hend⟩ := hl.concluded c hc
    exact ⟨htripped, Nat.le_trans htime ht, hend⟩
  calls := hl.calls

end Undisturbed

/-- Nothing disturbs the deliveries of a lane in a program that is not cancelled. -/
theorem Kit.Reaches.undisturbed (h : k.Reaches start m l) (hm : m.cancelledAt = none)
    (hbase : 0 < k.sender.settings.baseTimeout.toNanos) : l.Undisturbed m.now := by
  induction h with
  | start => exact ⟨(fun _ hd => nomatch hd), (fun _ hc => nomatch hc), rfl⟩
  | turn h hturn ih =>
    have hl := ih (hturn.uncancelled hm)
    cases hturn with
    | step hstep =>
      have hsender := congrArg Kit.sender h.kit_eq
      rw [← hsender] at hbase
      exact hl.move (move_of_step? hstep) hm hbase
    | trip htrip => cases hm
    | cancel => cases hm
    | offer => exact hl.congr ⟨rfl, rfl, rfl, rfl, rfl, rfl⟩
    | take htake =>
      obtain ⟨rest, -, rfl⟩ := eq_of_takeResult? htake
      exact hl.congr ⟨rfl, rfl, rfl, rfl, rfl, rfl⟩
    | abandon => exact hl.congr ⟨rfl, rfl, rfl, rfl, rfl, rfl⟩
    | pass ht => exact hl.wait ht

/-! ### The calls of a delivery -/

/-- Of several lists of calls, each made for another delivery, those made for one delivery are its
own. -/
theorem filter_flatMap_of_nodup {f : Delivery → List Call}
    (hf : ∀ d, ∀ c ∈ f d, c.delivery = d.number) {ds : List Delivery}
    (hnodup : (ds.map Delivery.number).Nodup) (hd : d ∈ ds) :
    (ds.flatMap f).filter (fun c => c.delivery == d.number) = f d := by
  have hown : ∀ d', d'.number = d.number → (f d').filter (fun c => c.delivery == d.number) = f d' :=
    fun d' hsame => List.filter_eq_self.2 fun c hc => by rw [hf d' c hc, hsame, beq_self_eq_true]
  have hother : ∀ d', d'.number ≠ d.number → (f d').filter (fun c => c.delivery == d.number) = [] :=
    fun d' hne => List.filter_eq_nil_iff.2 fun c hc => by
      rw [hf d' c hc, beq_iff_eq]
      exact hne
  induction ds with
  | nil => cases hd
  | cons d' ds ih =>
    rw [List.map_cons, List.nodup_cons] at hnodup
    rw [List.flatMap_cons, List.filter_append]
    rcases List.mem_cons.1 hd with rfl | hd
    · have hrest : (ds.flatMap f).filter (fun c => c.delivery == d.number) = [] := by
        refine List.filter_eq_nil_iff.2 fun c hc hnumber => hnodup.1 ?_
        obtain ⟨d', hd', hc⟩ := List.mem_flatMap.1 hc
        rw [← beq_iff_eq.1 hnumber, hf d' c hc]
        exact List.mem_map_of_mem hd'
      rw [hown d rfl, hrest, List.append_nil]
    · have hne : d'.number ≠ d.number := by
        intro hsame
        rw [hsame] at hnodup
        exact hnodup.1 (List.mem_map_of_mem hd)
      rw [hother d' hne, List.nil_append]
      exact ih hnodup.2 hd

namespace Undisturbed

/-- Each delivery that was scheduled is over or running. -/
theorem scheduled_perm (hl : l.Undisturbed now) (ht : l.Tracks) :
    l.scheduled.Perm (l.concluded.map Conclusion.delivery ++ l.running) :=
  (ht.scheduled_perm hl.running fun c hc => (hl.concluded c hc).1).trans List.perm_append_comm

theorem mem_scheduled (hl : l.Undisturbed now) (ht : l.Tracks) {c : Conclusion}
    (hc : c ∈ l.concluded) : c.delivery ∈ l.scheduled :=
  (hl.scheduled_perm ht).mem_iff.2 (List.mem_append_left _ (List.mem_map_of_mem hc))

/-- The calls up to now are those that each delivery made by now. -/
theorem allCalls_eq (hl : l.Undisturbed now) :
    l.allCalls ⟨now, none⟩ = (l.concluded.map Conclusion.delivery ++ l.running).flatMap
      (l.callsOf ⟨now, none⟩) := by
  have hover : l.calls = l.concluded.flatMap fun c => l.callsOf ⟨now, none⟩ c.delivery := by
    rw [hl.calls]
    refine List.flatMap_congr fun c hc => ?_
    obtain ⟨-, htime, t, ht, hend⟩ := hl.concluded c hc
    have hreturns : (l.trace {} c.delivery).returnsAt? = some t :=
      (l.returnsAt?_trace 0 c.time none c.delivery).trans
        (Trace.returnsAt?_eq_some.2 ⟨c.result, hend⟩)
    exact (callsOf_of_returned hreturns (Nat.le_trans ht htime)).symm
  rw [allCalls, hover, List.flatMap_append, List.flatMap_map]

/-- The calls up to now that are made for a delivery are its own. -/
theorem callsFor_eq (hl : l.Undisturbed now) (hs : l.OnSchedule s since) (ht : l.Tracks)
    (hd : d ∈ l.scheduled) : l.callsFor ⟨now, none⟩ d.number = l.callsOf ⟨now, none⟩ d := by
  have hperm := hl.scheduled_perm ht
  have hnodup : (l.scheduled.map Delivery.number).Nodup := by
    rw [hs.numbers]
    exact List.nodup_range
  have hown : ∀ d, ∀ c ∈ l.callsOf ⟨now, none⟩ d, c.delivery = d.number := by
    intro d c hc
    obtain ⟨call, -, rfl⟩ := List.mem_map.1 hc
    rfl
  rw [callsFor, hl.allCalls_eq]
  exact filter_flatMap_of_nodup hown ((hperm.map _).nodup_iff.1 hnodup) (hperm.mem_iff.1 hd)

end Undisturbed

/-! ### The attempts of a delivery -/

/-- A lane in a program that is not cancelled, the sender of which has a destination and some time
for an attempt. -/
structure Steady (l : Lane) (since now : Instant) : Prop where
  undisturbed : l.Undisturbed now
  onSchedule : l.OnSchedule l.sender since
  tracks : l.Tracks
  base_pos : 0 < l.sender.settings.baseTimeout.toNanos
  has_destination : l.sender.lacksDestination = false

/-- The attempts of a delivery from its slot on. -/
def trial (l : Lane) (d : Delivery) : Trace (Except DeliveryError Unit) :=
  attempts l.sender.policy (l.transport d.number d.record) ⟨d.deadline, none⟩ d.slot

theorem attempting_trial (l : Lane) (d : Delivery) :
    Attempting l.sender.policy (l.transport d.number d.record) (l.sender.policy.attempts - 1)
      ⟨d.deadline, none⟩ 1 d.slot none (l.trial d) :=
  attempting_attempts _ _ _ _

namespace Steady

/-- An attempt that is allowed and begins as late as possible begins before the deadline, unless the
calls before it take the time for one attempt. -/
theorem latestStart_add_le (hl : l.Steady since now) (hd : d ∈ l.scheduled)
    (transport : Transport Unit) {n : Nat} (hn : n ≤ l.sender.policy.attempts - 1) :
    latestStart l.sender.policy transport 1 d.slot n + l.sender.settings.baseTimeout.toNanos ≤
      d.deadline + transport.took 1 n := by
  have hdeadline := hl.onSchedule.deadlines d hd
  have hpauses : n * l.sender.policy.delay.toNanos ≤
      l.sender.settings.retryDelay.toNanos * l.sender.settings.retries := by
    rw [Nat.mul_comm]
    exact Nat.mul_le_mul_left _ (Nat.le_trans hn l.sender.policy.attempts_sub_one_le)
  unfold latestStart
  unfold Instant at *
  omega

/-- The time of a delivery is not over at its slot. -/
theorem live_at_slot (hl : l.Steady since now) (hd : d ∈ l.scheduled) :
    (Context.mk d.deadline none).doneReason? d.slot = none := by
  have hdeadline := hl.onSchedule.deadlines d hd
  have hbase := hl.base_pos
  have hahead : d.slot < d.deadline := by
    unfold Instant at *
    omega
  exact Context.doneReason?_eq_none_iff.2 ⟨(fun _ ht => nomatch ht), hahead⟩

/-- A delivery is attempted from its slot on. -/
theorem trace_eq (hl : l.Steady since now) (hd : d ∈ l.scheduled) (t : Instant) :
    l.trace ⟨t, none⟩ d = (l.trial d).map (l.sender.resultOf (l.clock t)) := by
  have hslot : d.launched ≤ d.slot := hl.onSchedule.launched_le_slot hd
  rw [trace]
  dsimp only
  rw [ite_self, Sender.send_of_live hl.has_destination _ _ _ hslot (hl.live_at_slot hd), trial]

theorem mem_scheduled (hl : l.Steady since now) {c : Conclusion} (hc : c ∈ l.concluded) :
    c.delivery ∈ l.scheduled :=
  hl.undisturbed.mem_scheduled hl.tracks hc

/-- The calls that are made for a delivery are those of its attempts. -/
theorem callsFor_eq (hl : l.Steady since now) (hd : d ∈ l.scheduled) :
    l.callsFor ⟨now, none⟩ d.number = ((l.trial d).calls.filter fun call => call.1 ≤ now).map
      fun call => ⟨call.1, d.number, d.record, call.2⟩ := by
  rw [hl.undisturbed.callsFor_eq hl.onSchedule hl.tracks hd, callsOf, hl.trace_eq hd]
  rfl

/-- When all attempts of a delivery are made, their numbers are those of its calls. -/
theorem map_attempt_callsFor (hl : l.Steady since now) (hd : d ∈ l.scheduled)
    (hnow : ∀ call ∈ (l.trial d).calls, call.1 ≤ now) :
    (l.callsFor ⟨now, none⟩ d.number).map Call.attempt = (l.trial d).calls.map Prod.snd := by
  rw [hl.callsFor_eq hd, List.filter_eq_self.2 fun call hcall => decide_eq_true (hnow call hcall),
    List.map_map]
  rfl

/-- The first attempt is made at the slot. -/
theorem mem_calls_trial (hl : l.Steady since now) (hd : d ∈ l.scheduled) :
    (d.slot, 1) ∈ (l.trial d).calls := by
  obtain ⟨rest, hcalls⟩ := (l.attempting_trial d).calls_of_live (hl.live_at_slot hd)
  rw [hcalls]
  exact List.mem_cons_self

/-- What a delivery came to is what its attempts came to. -/
theorem exists_outcome (hl : l.Steady since now) {c : Conclusion} (hc : c ∈ l.concluded) :
    ∃ t ≤ now, ∃ outcome, (l.trial c.delivery).ending = .returns t outcome ∧
      l.sender.resultOf (l.clock c.time) outcome = c.result := by
  obtain ⟨-, htime, t, hle, hend⟩ := hl.undisturbed.concluded c hc
  rw [hl.trace_eq (hl.mem_scheduled hc)] at hend
  obtain ⟨outcome, hend, hresult⟩ := Trace.map_returns_iff.1 hend
  exact ⟨t, Nat.le_trans hle htime, outcome, hend, hresult⟩

/-- A delivery that is over has made all its attempts. -/
theorem calls_le_of_concluded (hl : l.Steady since now) {c : Conclusion} (hc : c ∈ l.concluded) :
    ∀ call ∈ (l.trial c.delivery).calls, call.1 ≤ now := by
  obtain ⟨t, hle, outcome, hend, -⟩ := hl.exists_outcome hc
  have hruns := (l.attempting_trial c.delivery).runsFrom
  intro call hcall
  have hbefore : call.1 ≤ t :=
    hruns.call_le_end call hcall t (Trace.returnsAt?_eq_some.2 ⟨outcome, hend⟩)
  exact Nat.le_trans hbefore hle

end Steady

/-! ### What a delivery may count on -/

/-- What the deliveries of a lane may count on by a moment at which the program is not cancelled. -/
structure Fair (l : Lane) (m : Moment) : Prop where
  /-- No result says that a delivery was given up before anything was known. -/
  reported : ∀ r ∈ l.results, r.outcome ≠ .cancelled
  concluded : ∀ c ∈ l.concluded, c.result.outcome ≠ .cancelled ∧
    ⟨c.delivery.slot, c.delivery.number, c.delivery.record, 1⟩ ∈ l.callsFor m c.delivery.number
  /-- Every delivery makes a call at its slot. -/
  called : ∀ d ∈ l.scheduled, d.slot ≤ m.now →
    ⟨d.slot, d.number, d.record, 1⟩ ∈ l.callsFor m d.number
  /-- A delivery that was given up for its deadline before attempt number `n` made all calls before
  that one, and these took the time for one attempt. -/
  expired : ∀ c ∈ l.concluded, ∀ destination n allowed last,
    c.result.error = some (.delivery destination (.aborted n allowed .deadlineExceeded last)) →
      (l.callsFor m c.delivery.number).map Call.attempt = List.range' 1 (n - 1) ∧
        l.sender.settings.baseTimeout.toNanos ≤
          (l.transport c.delivery.number c.delivery.record).took 1 (n - 1)
  /-- A delivery that fails all the time makes all attempts that are allowed, unless those before
  the last one take the time for one attempt. -/
  exhausted : ∀ d ∈ l.scheduled,
    (l.transport d.number d.record).FailsFor 1 l.sender.policy.attempts →
    (l.transport d.number d.record).took 1 (l.sender.policy.attempts - 1) <
      l.sender.settings.baseTimeout.toNanos →
    d.deadline ≤ m.now ∨ d ∈ l.concluded.map Conclusion.delivery →
      (l.callsFor m d.number).map Call.attempt = List.range' 1 l.sender.policy.attempts

namespace Steady

theorem called (hl : l.Steady since now) (hd : d ∈ l.scheduled) (hnow : d.slot ≤ now) :
    ⟨d.slot, d.number, d.record, 1⟩ ∈ l.callsFor ⟨now, none⟩ d.number := by
  rw [hl.callsFor_eq hd]
  exact List.mem_map.2 ⟨(d.slot, 1),
    List.mem_filter.2 ⟨hl.mem_calls_trial hd, decide_eq_true hnow⟩, rfl⟩

/-- What comes of a delivery is a success or a failure. -/
theorem outcome_ne (hl : l.Steady since now) {c : Conclusion} (hc : c ∈ l.concluded) :
    c.result.outcome ≠ .cancelled := by
  obtain ⟨t, -, outcome, -, hresult⟩ := hl.exists_outcome hc
  rw [← hresult]
  exact l.sender.outcome_resultOf_ne _ _

theorem concluded (hl : l.Steady since now) {c : Conclusion} (hc : c ∈ l.concluded) :
    c.result.outcome ≠ .cancelled ∧
      ⟨c.delivery.slot, c.delivery.number, c.delivery.record, 1⟩ ∈
        l.callsFor ⟨now, none⟩ c.delivery.number := by
  have hd := hl.mem_scheduled hc
  exact ⟨hl.outcome_ne hc,
    hl.called hd (hl.calls_le_of_concluded hc _ (hl.mem_calls_trial hd))⟩

/-- Results that are no notices come from deliveries that are over. -/
theorem reported (hl : l.Steady since now) {taken : Multiset DeliveryResult}
    (hb : l.Balances taken) {r : DeliveryResult} (hr : r ∈ l.results) : r.outcome ≠ .cancelled := by
  cases hnotice : r.isNotice with
  | true => simp [DeliveryResult.outcome, hnotice]
  | false =>
    obtain ⟨lost, hsum, -⟩ := hb
    have hgenuine : r ∈ genuine l.results :=
      Multiset.mem_coe.2 (List.mem_filter.2 ⟨hr, by rw [hnotice]; rfl⟩)
    have hmem : r ∈ l.outcomes := by
      rw [hsum, afloat]
      simp [hgenuine]
    obtain ⟨c, hc, rfl⟩ := List.mem_map.1 (Multiset.mem_coe.1 hmem)
    exact hl.outcome_ne hc

theorem expired (hl : l.Steady since now) {c : Conclusion} (hc : c ∈ l.concluded)
    {destination : String} {n allowed : Nat} {last : Option DeliveryError}
    (herror : c.result.error =
      some (.delivery destination (.aborted n allowed .deadlineExceeded last))) :
    (l.callsFor ⟨now, none⟩ c.delivery.number).map Call.attempt = List.range' 1 (n - 1) ∧
      l.sender.settings.baseTimeout.toNanos ≤
        (l.transport c.delivery.number c.delivery.record).took 1 (n - 1) := by
  have hd := hl.mem_scheduled hc
  obtain ⟨t, -, outcome, hend, hresult⟩ := hl.exists_outcome hc
  rw [← hresult] at herror
  cases outcome with
  | ok value => cases herror
  | error e =>
    cases herror
    obtain ⟨j, hj, rfl, hnumbers, hspent⟩ := (l.attempting_trial c.delivery).of_expired hend
    rw [Nat.add_sub_cancel_left]
    constructor
    · rw [hl.map_attempt_callsFor hd (hl.calls_le_of_concluded hc), hnumbers]
    · have hlate := hl.latestStart_add_le hd
        (l.transport c.delivery.number c.delivery.record) hj
      exact Nat.add_le_add_iff_left.1 (Nat.le_trans (Nat.add_le_add_right hspent _) hlate)

theorem exhausted (hl : l.Steady since now) (hd : d ∈ l.scheduled)
    (hfails : (l.transport d.number d.record).FailsFor 1 l.sender.policy.attempts)
    (htook : (l.transport d.number d.record).took 1 (l.sender.policy.attempts - 1) <
      l.sender.settings.baseTimeout.toNanos)
    (hover : d.deadline ≤ now ∨ d ∈ l.concluded.map Conclusion.delivery) :
    (l.callsFor ⟨now, none⟩ d.number).map Call.attempt =
      List.range' 1 l.sender.policy.attempts := by
  have hallowed : l.sender.policy.attempts - 1 + 1 = l.sender.policy.attempts :=
    Nat.sub_add_cancel l.sender.policy.attempts_pos
  have htime : latestStart l.sender.policy (l.transport d.number d.record) 1 d.slot
      (l.sender.policy.attempts - 1) < d.deadline := by
    have hearly := hl.latestStart_add_le hd (l.transport d.number d.record) (Nat.le_refl _)
    unfold Instant at *
    omega
  rw [← hallowed] at hfails
  obtain ⟨hnumbers, hearly⟩ := (l.attempting_trial d).of_failing rfl hfails htime
  have hnow : ∀ call ∈ (l.trial d).calls, call.1 ≤ now := by
    rcases hover with hover | hover
    · exact fun call hcall => Nat.le_trans (Nat.le_of_lt (hearly call hcall)) hover
    · obtain ⟨c, hc, rfl⟩ := List.mem_map.1 hover
      exact hl.calls_le_of_concluded hc
  rw [hl.map_attempt_callsFor hd hnow, hnumbers, hallowed]

end Steady

/-- Whatever becomes of a lane whose sender has a destination and some time for an attempt, it is
fair to its deliveries as long as the program is not cancelled. -/
theorem Kit.Reaches.fair (h : k.Reaches start m l) (hm : m.cancelledAt = none)
    (hbase : 0 < k.sender.settings.baseTimeout.toNanos)
    (hdest : k.sender.lacksDestination = false) : l.Fair m := by
  obtain ⟨taken, hb⟩ := h.exists_balances
  have hundisturbed := h.undisturbed hm hbase
  have hschedule := h.onSchedule
  obtain rfl := h.kit_eq
  obtain ⟨now, cancelledAt⟩ := m
  obtain rfl : cancelledAt = none := hm
  have hl : l.Steady start.now now := ⟨hundisturbed, hschedule, h.tracks, hbase, hdest⟩
  exact
    { reported := fun r hr => hl.reported hb hr
      concluded := fun c hc => hl.concluded hc
      called := fun d hd hslot => hl.called hd hslot
      expired := fun c hc _ _ _ _ herror => hl.expired hc herror
      exhausted := fun d hd hfails htook hover => hl.exhausted hd hfails htook hover }

/-- A record that cannot be delivered is tried three times, as often as it is allowed. -/
theorem sample_fair :
    let s := (Sample.solo Sample.failing).play [(0, .submit Sample.record)]
    s.moment.cancelledAt = none ∧ s.lane.Fair s.moment ∧ s.lane.concluded.length = 1 ∧
      (s.lane.callsFor s.moment 0).map Call.attempt = [1, 2, 3] := by
  intro s
  have hreach : (Sample.solo Sample.failing).lane.kit.Reaches {} s.moment s.lane :=
    Sample.reaches_solo _ _
  have hun : s.moment.cancelledAt = none := by decide +kernel
  have hbase : 0 < Sample.settings.baseTimeout.toNanos := by decide
  refine ⟨hun, hreach.fair hun hbase (by decide +kernel), ?_, ?_⟩
  · decide +kernel
  · decide +kernel

end Lane

end AlertRelay
