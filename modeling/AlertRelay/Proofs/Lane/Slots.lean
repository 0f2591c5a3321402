import AlertRelay.Proofs.Delivery.Course
import AlertRelay.Proofs.Delivery.Schedule
import AlertRelay.Proofs.Lane.Run

/-!
# The pace of a lane

The worker of a lane gives each record that it takes the next slot, and a deadline that lies the
time for one attempt and for all pauses behind the slot (`Lane.OnSchedule`). No call of a delivery
comes before its slot, and if there are any then the first one comes right at the slot
(`Lane.Punctual`), whatever the other deliveries do and whenever the program is cancelled. So the
first calls of different records keep the rate limit (`Lane.Kit.Reaches.firstCalls_spaced`).
-/

namespace AlertRelay

/-- What a sender plans for a record: the next slot, and behind it the time for one attempt and all
pauses. -/
theorem Sender.eq_of_plan? {s : Sender} {schedule schedule' : Schedule} {now deadline : Instant}
    (h : s.plan? schedule now = some (schedule', deadline)) :
    schedule'.delay = schedule.delay ∧
      schedule'.last = max schedule.last now + schedule.delay.toNanos ∧
      deadline = schedule'.last + s.settings.baseTimeout.toNanos +
        s.settings.retryDelay.toNanos * s.settings.retries := by
  obtain ⟨next, hnext, h⟩ := Option.bind_eq_some_iff.1 h
  obtain ⟨later, hafter, hsame⟩ := Option.map_eq_some_iff.1 h
  obtain ⟨rfl, rfl⟩ := Prod.mk.inj hsame
  obtain ⟨hdelay, hlast⟩ := Schedule.eq_of_next? hnext
  obtain ⟨hlimit, hlater⟩ := Instant.after?_eq_some.1 hafter
  refine ⟨hdelay, hlast, ?_⟩
  have hslot : now ≤ next.last := by
    rw [hlast]
    exact Nat.le_trans (Nat.le_max_right _ _) (Nat.le_add_right _ _)
  rw [toNanos_deliveryTimeout] at hlimit hlater
  -- The sum is not cut off, because no instant lies as far ahead as the longest span.
  have hlongest := Instant.limit_le_longest
  unfold Instant at *
  omega

namespace Lane

/-- What the worker of a lane has planned for this sender since it started. -/
structure OnSchedule (s : Sender) (start : Instant) (l : Lane) : Prop where
  delay : l.schedule.delay = s.settings.rateLimit
  last : l.schedule.last = (l.scheduled.map Delivery.slot).getLastD start
  slots : l.scheduled.map Delivery.slot =
    slotsFrom s.settings.rateLimit.toNanos start (l.scheduled.map Delivery.launched)
  numbers : l.scheduled.map Delivery.number = List.range l.scheduled.length
  deadlines : ∀ d ∈ l.scheduled, d.deadline = d.slot + s.settings.baseTimeout.toNanos +
    s.settings.retryDelay.toNanos * s.settings.retries

variable {k : Kit} {start m : Moment} {l l' : Lane} {s : Sender} {since : Instant} {d : Delivery}

namespace OnSchedule

/-- What does not touch the schedule keeps it. -/
theorem congr (hl : l.OnSchedule s since) (hschedule : l'.schedule = l.schedule)
    (hscheduled : l'.scheduled = l.scheduled) : l'.OnSchedule s since where
  delay := by rw [hschedule, hl.delay]
  last := by rw [hschedule, hscheduled, hl.last]
  slots := by rw [hscheduled, hl.slots]
  numbers := by rw [hscheduled, hl.numbers]
  deadlines := by
    rw [hscheduled]
    exact hl.deadlines

/-- A record that is planned for goes behind those that were planned for before. -/
theorem plan (hl : l.OnSchedule s since) (hsender : l.sender = s) {r : EventRecord}
    {now deadline : Instant} {schedule : Schedule} (hplan : l.plan? now = some (schedule, deadline))
    (hschedule : l'.schedule = schedule)
    (hscheduled : l'.scheduled = l.scheduled ++
      [⟨l.scheduled.length, r, now, schedule.last, deadline, false⟩]) : l'.OnSchedule s since := by
  rw [plan?, hsender] at hplan
  obtain ⟨hdelay, hlast, hdeadline⟩ := Sender.eq_of_plan? hplan
  rw [hl.delay, hl.last, hl.slots] at hlast
  exact
    { delay := by rw [hschedule, hdelay, hl.delay]
      last := by
        rw [hschedule, hscheduled, List.map_append, List.map_singleton, List.getLastD_concat]
      slots := by
        rw [hscheduled, List.map_append, List.map_append, List.map_singleton, List.map_singleton,
          slotsFrom_concat, ← hlast, hl.slots]
      numbers := by
        rw [hscheduled, List.map_append, List.map_singleton, hl.numbers, List.length_append,
          List.length_singleton, List.range_succ]
      deadlines := by
        rw [hscheduled]
        intro d hd
        rcases List.mem_append.1 hd with hd | hd
        · exact hl.deadlines d hd
        · rw [List.mem_singleton.1 hd]
          exact hdeadline }

/-- What happens to a lane keeps its schedule. -/
theorem change (h : l.Change m l') (hsender : l.sender = s) (hl : l.OnSchedule s since) :
    l'.OnSchedule s since := by
  cases h with
  | move h =>
    have hsame := h.sameDeliveries
    cases h with
    | lapse hphase hin hplan hdone => exact hl.plan hsender hplan rfl rfl
    | launch hphase hin hplan hdone => exact hl.plan hsender hplan rfl rfl
    | crash hphase hin hplan => exact hl.congr rfl rfl
    | complete hd hend htime htrip => exact hl.congr rfl rfl
    | _ =>
      have h := hsame (fun he => nomatch he) fun _ he => nomatch he
      exact hl.congr h.schedule h.scheduled
  | _ => exact hl.congr rfl rfl

/-- A delivery bears the number of records that were taken before. -/
theorem number_eq (hl : l.OnSchedule s since) {n : Nat} (hd : l.scheduled[n]? = some d) :
    d.number = n := by
  have hn : (l.scheduled.map Delivery.number)[n]? = some d.number := by
    rw [List.getElem?_map, hd]
    rfl
  rw [hl.numbers] at hn
  obtain ⟨hlt, hn⟩ := List.getElem?_eq_some_iff.1 hn
  rw [← hn, List.getElem_range]

/-- A slot is no earlier than the record that it is for. -/
theorem launched_le_slot (hl : l.OnSchedule s since) (hd : d ∈ l.scheduled) :
    d.launched ≤ d.slot := by
  obtain ⟨n, hn⟩ := List.mem_iff_getElem?.1 hd
  have hlaunched : (l.scheduled.map Delivery.launched)[n]? = some d.launched := by
    rw [List.getElem?_map, hn]
    rfl
  have hslot : (l.scheduled.map Delivery.slot)[n]? = some d.slot := by
    rw [List.getElem?_map, hn]
    rfl
  rw [hl.slots] at hslot
  exact Nat.le_trans (Nat.le_add_right _ _) (request_add_le_of_slotsFrom hlaunched hslot)

end OnSchedule

theorem Kit.Reaches.onSchedule (h : k.Reaches start m l) : l.OnSchedule k.sender start.now := by
  induction h with
  | start => exact ⟨rfl, rfl, rfl, rfl, fun d hd => nomatch hd⟩
  | turn h hturn ih =>
    rcases hturn.change with rfl | hchange
    · exact ih
    · exact ih.change hchange (congrArg Kit.sender h.kit_eq)

/-! ### Calls -/

/-- Each of the calls is made for one of the deliveries, not before its slot, and one of them is
made for that delivery right at the slot. -/
def Punctual (ds : List Delivery) (calls : List Call) : Prop :=
  ∀ c ∈ calls, ∃ d ∈ ds, c.delivery = d.number ∧ d.slot ≤ c.time ∧
    ⟨d.slot, d.number, d.record, 1⟩ ∈ calls

theorem Punctual.append {ds : List Delivery} {calls more : List Call} (h : Punctual ds calls)
    (hmore : Punctual ds more) : Punctual ds (calls ++ more) := by
  intro c hc
  rcases List.mem_append.1 hc with hc | hc
  · obtain ⟨d, hd, hnumber, hle, hfirst⟩ := h c hc
    exact ⟨d, hd, hnumber, hle, List.mem_append_left _ hfirst⟩
  · obtain ⟨d, hd, hnumber, hle, hfirst⟩ := hmore c hc
    exact ⟨d, hd, hnumber, hle, List.mem_append_right _ hfirst⟩

theorem Punctual.mono {ds ds' : List Delivery} {calls : List Call} (h : Punctual ds calls)
    (hsub : ds ⊆ ds') : Punctual ds' calls := by
  intro c hc
  obtain ⟨d, hd, hc⟩ := h c hc
  exact ⟨d, hsub hd, hc⟩

/-- A delivery is punctual for as long as it runs. -/
theorem punctual_callsOf (l : Lane) (m : Moment) (hle : d.launched ≤ d.slot) :
    Punctual [d.planned] (l.callsOf m d) := by
  intro c hc
  obtain ⟨call, hcall, rfl⟩ := List.mem_map.1 hc
  obtain ⟨hcall, hnow⟩ := List.mem_filter.1 hcall
  rcases Sender.calls_send l.sender (l.clock m.now) (l.choice d.number)
    (l.transport d.number d.record) ⟨d.deadline, if d.tripped then none else m.cancelledAt⟩ hle
    with hnone | ⟨rest, hcalls, hlater⟩
  · rw [trace, hnone] at hcall
    cases hcall
  · have hslot : d.slot ≤ call.1 := by
      rw [trace, hcalls] at hcall
      rcases List.mem_cons.1 hcall with rfl | hcall
      · exact Nat.le_refl _
      · exact hlater call hcall
    have hfirst : (d.slot, 1) ∈ (l.trace m d).calls.filter fun c => c.1 ≤ m.now := by
      rw [trace, hcalls]
      exact List.mem_filter.2 ⟨List.mem_cons_self,
        decide_eq_true (Nat.le_trans hslot (of_decide_eq_true hnow))⟩
    exact ⟨d.planned, List.mem_singleton_self _, rfl, hslot, List.mem_map.2 ⟨_, hfirst, rfl⟩⟩

/-- Deliveries that run are punctual. -/
theorem punctual_of_running (hl : l.OnSchedule s since) (ht : l.Tracks) (m : Moment)
    (hd : d ∈ l.running) : Punctual l.scheduled (l.callsOf m d) := by
  have hplanned : d.planned ∈ l.scheduled := ht.planned_mem hd
  have hle : d.launched ≤ d.slot := hl.launched_le_slot (d := d.planned) hplanned
  exact (punctual_callsOf l m hle).mono (List.cons_subset.2 ⟨hplanned, List.nil_subset _⟩)

/-- Deliveries that are over have been punctual. -/
theorem Punctual.change (h : l.Change m l') (hl : l.OnSchedule s since) (ht : l.Tracks)
    (hcalls : Punctual l.scheduled l.calls) : Punctual l'.scheduled l'.calls := by
  cases h with
  | move h =>
    have hsame := h.sameDeliveries
    cases h with
    | lapse hphase hin hplan hdone => exact hcalls.mono (List.subset_append_left _ _)
    | launch hphase hin hplan hdone => exact hcalls.mono (List.subset_append_left _ _)
    | crash hphase hin hplan => exact hcalls
    | complete hd hend htime htrip =>
      exact hcalls.append (punctual_of_running hl ht m (List.mem_of_getElem? hd))
    | _ =>
      have h := hsame (fun he => nomatch he) fun _ he => nomatch he
      rw [h.scheduled, h.calls]
      exact hcalls
  | _ => exact hcalls

theorem Kit.Reaches.punctual (h : k.Reaches start m l) : Punctual l.scheduled l.calls := by
  induction h with
  | start => exact fun c hc => nomatch hc
  | turn h hturn ih =>
    rcases hturn.change with rfl | hchange
    · exact ih
    · exact ih.change hchange h.onSchedule h.tracks

/-- All calls up to now are punctual. -/
theorem Kit.Reaches.punctual_allCalls (h : k.Reaches start m l) :
    Punctual l.scheduled (l.allCalls m) := by
  have hrunning : Punctual l.scheduled (l.running.flatMap (l.callsOf m)) := by
    intro c hc
    obtain ⟨d, hd, hc⟩ := List.mem_flatMap.1 hc
    obtain ⟨d', hd', hnumber, hle, hfirst⟩ :=
      punctual_of_running h.onSchedule h.tracks m hd c hc
    exact ⟨d', hd', hnumber, hle, List.mem_flatMap.2 ⟨d, hd, hfirst⟩⟩
  exact h.punctual.append hrunning

/-- The calls up to now that are made for the delivery with this number. -/
def callsFor (l : Lane) (m : Moment) (number : Nat) : List Call :=
  (l.allCalls m).filter fun c => c.delivery == number

/-- When the delivery with this number made its first call, if it has made one by now. -/
def firstCall? (l : Lane) (m : Moment) (number : Nat) : Option Instant :=
  ((l.callsFor m number).map Call.time).min?

/-- A delivery that has made a call by now made the first one at its slot. -/
theorem Kit.Reaches.firstCall?_eq (h : k.Reaches start m l) {n : Nat} {t : Instant}
    (ht : l.firstCall? m n = some t) : (l.scheduled.map Delivery.slot)[n]? = some t := by
  obtain ⟨hmem, hleast⟩ := List.min?_eq_some_iff.1 ht
  obtain ⟨c, hc, rfl⟩ := List.mem_map.1 hmem
  obtain ⟨hc, hnumber⟩ := List.mem_filter.1 hc
  obtain ⟨d, hd, hdelivery, hle, hfirst⟩ := h.punctual_allCalls c hc
  obtain ⟨i, hi⟩ := List.mem_iff_getElem?.1 hd
  have hn : i = n := by
    rw [← h.onSchedule.number_eq hi, ← hdelivery]
    exact beq_iff_eq.1 hnumber
  subst hn
  have hslot : c.time ≤ d.slot := by
    refine hleast d.slot (List.mem_map.2 ⟨_, List.mem_filter.2 ⟨hfirst, ?_⟩, rfl⟩)
    rw [← hdelivery]
    exact hnumber
  rw [List.getElem?_map, hi, Nat.le_antisymm hslot hle]
  rfl

/-- Whatever becomes of a lane, whenever records come and the program is cancelled and whatever the
transport does, the slots of its deliveries are decided by the times at which the records were
taken. A delivery makes its first call exactly at its slot, or it has made none. So the first calls
of two deliveries are apart by the rate limit, once for each record that was taken since the first
one of them. -/
theorem Kit.Reaches.firstCalls_spaced (h : k.Reaches start m l) :
    l.scheduled.map Delivery.slot = slotsFrom k.sender.settings.rateLimit.toNanos start.now
        (l.scheduled.map Delivery.launched) ∧
      (∀ n, l.firstCall? m n = none ∨
        l.firstCall? m n = (l.scheduled.map Delivery.slot)[n]?) ∧
      ∀ i j t u, i < j → l.firstCall? m i = some t → l.firstCall? m j = some u →
        t + (j - i) * k.sender.settings.rateLimit.toNanos ≤ u := by
  refine ⟨h.onSchedule.slots, fun n => ?_, fun i j t u hij hi hj => ?_⟩
  · cases hn : l.firstCall? m n with
    | none => exact .inl rfl
    | some t => exact .inr (h.firstCall?_eq hn).symm
  · have hti := h.firstCall?_eq hi
    have huj := h.firstCall?_eq hj
    rw [h.onSchedule.slots] at hti huj
    exact add_le_of_slotsFrom hij hti huj

/-- Of three records two come at once and one after a while, and all deliveries fail once and are
tried again. The first calls of the first record and of the last one are two slots apart or more. -/
theorem sample_firstCalls :
    let s := (Sample.solo Sample.failingOnce).play
      [(0, .submit Sample.record), (0, .submit Sample.record), (5000000000, .submit Sample.record),
        (6200000000, .cancel)]
    s.lane.firstCall? s.moment 0 = some 1000000000 ∧
      s.lane.firstCall? s.moment 2 = some 6000000000 ∧
      1000000000 + (2 - 0) * Sample.settings.rateLimit.toNanos ≤ 6000000000 := by
  intro s
  have hreach : (Sample.solo Sample.failingOnce).lane.kit.Reaches {} s.moment s.lane :=
    Sample.reaches_solo _ _
  have hfirst : s.lane.firstCall? s.moment 0 = some 1000000000 := by decide +kernel
  have hlast : s.lane.firstCall? s.moment 2 = some 6000000000 := by decide +kernel
  exact ⟨hfirst, hlast, hreach.firstCalls_spaced.2.2 0 2 _ _ (by decide) hfirst hlast⟩

end Lane

end AlertRelay
