import AlertRelay.Proofs.Lane.Balance
import AlertRelay.Proofs.Lane.Rest

/-!
# The timeline of a lane

What a delivery comes to in a program that is not cancelled, and when, is decided by its slot and by
the behaviour of the transport towards it (`Lane.fate?`, `Lane.everyCallOf`). Neither the other
deliveries nor the queues have a part in this. A lane that has made no delivery wait is
`Lane.OnCourse`; every move keeps it so (`Lane.OnCourse.move`), and so does the clock if it moves
only while the lane is at rest (`Lane.OnCourse.wait`).

So two lanes on course that launched the same deliveries show the same of all those that they treat
in the same way (`Lane.OnCourse.agreesBefore`), whatever becomes of the others.
-/

namespace AlertRelay

/-- Why the time of a delivery was over when its record was taken, if it was. -/
def Delivery.lateReason? (d : Delivery) : Option DoneReason :=
  (Context.mk d.deadline none).doneReason? d.launched

namespace Lane

variable {l l' : Lane} {m : Moment} {e : LaneEvent} {now : Instant}

/-! ### What a delivery comes to -/

/-- All calls that a delivery makes if the program is not cancelled. -/
def everyCallOf (l : Lane) (d : Delivery) : List Call :=
  (l.trace {} d).calls.map fun c => ⟨c.1, d.number, d.record, c.2⟩

/-- What a delivery comes to if the program is not cancelled, unless it hangs. -/
def fate? (l : Lane) (d : Delivery) : Option Conclusion :=
  match d.lateReason? with
  | some reason => some ⟨d.launched, d, .cancelled l.channel (lateNotice reason l.channel)⟩
  | none =>
    (l.trace {} d).returnsAt?.bind fun t =>
      (l.trace ⟨t, none⟩ d).value?.map fun result => ⟨t, d, result⟩

/-- Lanes that treat a delivery in the same way let it take the same course. -/
theorem trace_congr (m : Moment) {d : Delivery} (hsender : l'.sender = l.sender)
    (hchoice : l'.choice d.number = l.choice d.number) (hclock : l'.clock = l.clock)
    (htransport : l'.transport d.number d.record = l.transport d.number d.record) :
    l'.trace m d = l.trace m d := by
  simp only [trace, hsender, hchoice, hclock, htransport]

theorem everyCallOf_congr {d : Delivery} (htrace : ∀ m, l'.trace m d = l.trace m d) :
    l'.everyCallOf d = l.everyCallOf d := by
  rw [everyCallOf, everyCallOf, htrace]

theorem fate?_congr {d : Delivery} (hchannel : l'.channel = l.channel)
    (htrace : ∀ m, l'.trace m d = l.trace m d) : l'.fate? d = l.fate? d := by
  simp only [fate?, hchannel, htrace]

theorem everyCallOf_of_kit (h : l'.kit = l.kit) (d : Delivery) :
    l'.everyCallOf d = l.everyCallOf d :=
  everyCallOf_congr fun m => trace_of_kit h m d

theorem fate?_of_kit (h : l'.kit = l.kit) (d : Delivery) : l'.fate? d = l.fate? d :=
  fate?_congr (channel_of_kit h) fun m => trace_of_kit h m d

/-- The calls of a delivery do not depend on when this is asked. -/
theorem calls_trace (l : Lane) (now : Instant) (d : Delivery) :
    (l.trace ⟨now, none⟩ d).calls = (l.trace {} d).calls := by
  simp only [trace, ite_self]
  exact Sender.calls_send_clock _ _ _ _ _ _ _ _

/-- Nothing is seen of a delivery before it is launched. -/
theorem trace_runsFrom (l : Lane) (m : Moment) (d : Delivery) :
    (l.trace m d).RunsFrom d.launched :=
  Sender.send_runsFrom _ _ _ _ _ _ _

/-- The calls up to now are those of all calls that come up to now. -/
theorem callsOf_eq (l : Lane) (now : Instant) (d : Delivery) :
    l.callsOf ⟨now, none⟩ d = (l.everyCallOf d).filter fun c => c.time ≤ now := by
  rw [callsOf, everyCallOf, calls_trace, List.filter_map]
  rfl

/-- No call comes before the delivery is launched. -/
theorem le_time_of_mem_everyCallOf {d : Delivery} {c : Call} (hc : c ∈ l.everyCallOf d) :
    d.launched ≤ c.time := by
  obtain ⟨call, hcall, rfl⟩ := List.mem_map.1 hc
  exact (l.trace_runsFrom {} d).le_call call hcall

/-- A call bears the number of its delivery. -/
theorem delivery_of_mem_everyCallOf {d : Delivery} {c : Call} (hc : c ∈ l.everyCallOf d) :
    c.delivery = d.number := by
  obtain ⟨call, -, rfl⟩ := List.mem_map.1 hc
  rfl

/-- All calls of a delivery are made when it has returned. -/
theorem callsOf_of_returned {d : Delivery} {now t : Instant}
    (ht : (l.trace {} d).returnsAt? = some t) (hle : t ≤ now) :
    l.callsOf ⟨now, none⟩ d = l.everyCallOf d := by
  rw [callsOf_eq, List.filter_eq_self]
  intro c hc
  obtain ⟨call, hcall, rfl⟩ := List.mem_map.1 hc
  have hend := (l.trace_runsFrom {} d).call_le_end call hcall t ht
  exact decide_eq_true (Nat.le_trans hend hle)

/-- A delivery whose time was over makes no calls. -/
theorem everyCallOf_of_late {d : Delivery} {reason : DoneReason}
    (hlate : d.lateReason? = some reason) : l.everyCallOf d = [] := by
  have hcalls : (l.trace {} d).calls = [] := by
    simp only [trace, ite_self]
    exact Sender.calls_send_of_done hlate
  rw [everyCallOf, hcalls]
  rfl

/-- A delivery whose time was over when its record was taken comes to its end at once. -/
theorem fate?_of_late {d : Delivery} {reason : DoneReason} (hlate : d.lateReason? = some reason) :
    l.fate? d = some ⟨d.launched, d, .cancelled l.channel (lateNotice reason l.channel)⟩ := by
  rw [fate?, hlate]

/-- A delivery that returns comes to what it returns. -/
theorem fate?_of_returns {d : Delivery} {t : Instant} {result : DeliveryResult}
    (hlate : d.lateReason? = none) (ht : (l.trace {} d).returnsAt? = some t)
    (hend : (l.trace ⟨t, none⟩ d).ending = .returns t result) :
    l.fate? d = some ⟨t, d, result⟩ := by
  rw [fate?, hlate, ht]
  simp only [Option.bind_some, Trace.value?, hend, Option.map_some]

/-- What a delivery comes to, it comes to at the time at which it returns. -/
theorem eq_of_fate? {d : Delivery} {c : Conclusion} (h : l.fate? d = some c)
    (hlate : d.lateReason? = none) :
    c.delivery = d ∧ (l.trace {} d).returnsAt? = some c.time := by
  rw [fate?, hlate] at h
  obtain ⟨t, ht, h⟩ := Option.bind_eq_some_iff.1 h
  obtain ⟨result, -, rfl⟩ := Option.map_eq_some_iff.1 h
  exact ⟨rfl, ht⟩

/-- A conclusion is about its delivery. -/
theorem delivery_of_fate? {d : Delivery} {c : Conclusion} (h : l.fate? d = some c) :
    c.delivery = d := by
  cases hlate : d.lateReason? with
  | none => exact (eq_of_fate? h hlate).1
  | some reason =>
    rw [fate?_of_late hlate] at h
    cases h
    rfl

/-- Nothing comes of a delivery before it is launched. -/
theorem launched_le_of_fate? {d : Delivery} {c : Conclusion} (h : l.fate? d = some c) :
    d.launched ≤ c.time := by
  cases hlate : d.lateReason? with
  | none => exact (l.trace_runsFrom {} d).le_end c.time (eq_of_fate? h hlate).2
  | some reason =>
    rw [fate?_of_late hlate] at h
    cases h
    exact Nat.le_refl _

/-- A delivery whose time was not over comes to something if it returns. -/
theorem exists_fate? {d : Delivery} {t : Instant} (hlate : d.lateReason? = none)
    (ht : (l.trace {} d).returnsAt? = some t) : ∃ result, l.fate? d = some ⟨t, d, result⟩ := by
  have hsame : (l.trace ⟨t, none⟩ d).returnsAt? = some t := (l.returnsAt?_trace t 0 none d).trans ht
  obtain ⟨result, hend⟩ := Trace.returnsAt?_eq_some.1 hsame
  exact ⟨result, fate?_of_returns hlate ht hend⟩

/-! ### Lanes on course -/

/-- No delivery of a lane has waited for anything but its transport and its slot: the deliveries
that are over came to their ends in time, and the time of the others has not come yet. -/
structure OnCourse (l : Lane) (now : Instant) : Prop where
  running : ∀ d ∈ l.running, d.lateReason? = none ∧ d.tripped = false
  pending : ∀ d ∈ l.running, ∀ c, l.fate? d = some c → now ≤ c.time
  concluded : ∀ c ∈ l.concluded, l.fate? c.delivery = some c ∧ c.delivery.tripped = false
  calls : l.calls.Perm (l.concluded.flatMap fun c => l.everyCallOf c.delivery)

namespace OnCourse

/-- What does not touch the deliveries keeps a lane on course. -/
theorem congr (hl : l.OnCourse now) (h : l.SameDeliveries l') : l'.OnCourse now where
  running d hd := hl.running d (by rwa [h.running] at hd)
  pending d hd c hc := by
    rw [fate?_of_kit h.kit] at hc
    exact hl.pending d (by rwa [h.running] at hd) c hc
  concluded c hc := by
    rw [fate?_of_kit h.kit]
    exact hl.concluded c (by rwa [h.concluded] at hc)
  calls := by
    simp only [h.calls, h.concluded, everyCallOf_of_kit h.kit]
    exact hl.calls

/-- A delivery that comes to its end in time keeps a lane on course. -/
theorem conclude {c : Conclusion} (hl : l.OnCourse now) (hkit : l'.kit = l.kit)
    (hrunning : ∀ d ∈ l'.running, d ∈ l.running) (hconcluded : l'.concluded = l.concluded ++ [c])
    (hcalls : l'.calls = l.calls ++ l.everyCallOf c.delivery)
    (hfate : l.fate? c.delivery = some c) (htripped : c.delivery.tripped = false) :
    l'.OnCourse now where
  running d hd := hl.running d (hrunning d hd)
  pending d hd c hc := by
    rw [fate?_of_kit hkit] at hc
    exact hl.pending d (hrunning d hd) c hc
  concluded c' hc' := by
    rw [fate?_of_kit hkit]
    rw [hconcluded] at hc'
    rcases List.mem_append.1 hc' with hc' | hc'
    · exact hl.concluded c' hc'
    · rw [List.mem_singleton.1 hc']
      exact ⟨hfate, htripped⟩
  calls := by
    simp only [hcalls, hconcluded, everyCallOf_of_kit hkit, List.flatMap_append,
      List.flatMap_singleton]
    exact hl.calls.append_right _

/-- A delivery that is launched keeps a lane on course. -/
theorem launch {d : Delivery} (hl : l.OnCourse now) (hkit : l'.kit = l.kit)
    (hrunning : l'.running = l.running ++ [d]) (hconcluded : l'.concluded = l.concluded)
    (hcalls : l'.calls = l.calls) (hlate : d.lateReason? = none) (htripped : d.tripped = false)
    (hlaunched : d.launched = now) : l'.OnCourse now where
  running d' hd' := by
    rw [hrunning] at hd'
    rcases List.mem_append.1 hd' with hd' | hd'
    · exact hl.running d' hd'
    · rw [List.mem_singleton.1 hd']
      exact ⟨hlate, htripped⟩
  pending d' hd' c hc := by
    rw [fate?_of_kit hkit] at hc
    rw [hrunning] at hd'
    rcases List.mem_append.1 hd' with hd' | hd'
    · exact hl.pending d' hd' c hc
    · rw [List.mem_singleton.1 hd'] at hc
      rw [← hlaunched]
      exact launched_le_of_fate? hc
  concluded c hc := by
    rw [fate?_of_kit hkit]
    exact hl.concluded c (by rwa [hconcluded] at hc)
  calls := by
    simp only [hcalls, hconcluded, everyCallOf_of_kit hkit]
    exact hl.calls

/-- What happens in a lane keeps it on course. -/
theorem move (h : l.Move m e l') (hm : m.cancelledAt = none) (hl : l.OnCourse m.now) :
    l'.OnCourse m.now := by
  obtain ⟨now, cancelledAt⟩ := m
  obtain rfl : cancelledAt = none := hm
  have hsame := h.sameDeliveries
  cases h with
  | @lapse r rest schedule deadline reason hphase hin hplan hdone =>
    have hlate : (Delivery.mk l.scheduled.length r now schedule.last deadline false).lateReason? =
        some reason := hdone
    have hcalls := everyCallOf_of_late (l := l) hlate
    exact hl.conclude rfl (fun _ hd => hd) rfl (by rw [hcalls, List.append_nil])
      (fate?_of_late hlate) rfl
  | launch hphase hin hplan hdone => exact hl.launch rfl rfl rfl rfl hdone rfl rfl
  | @complete i d t result hd hend ht htrip =>
    have hmem := List.mem_of_getElem? hd
    obtain ⟨hlate, htripped⟩ := hl.running d hmem
    have hreturns : (l.trace {} d).returnsAt? = some t :=
      (l.returnsAt?_trace 0 now none d).trans (Trace.returnsAt?_eq_some.2 ⟨result, hend⟩)
    -- The delivery returns when its time has come, and its time has not come before.
    obtain ⟨_, hfate⟩ := exists_fate? hlate hreturns
    obtain rfl : t = now := Nat.le_antisymm ht (hl.pending d hmem _ hfate)
    exact hl.conclude rfl (fun _ hd => List.mem_of_mem_eraseIdx hd) rfl
      (by rw [callsOf_of_returned hreturns (Nat.le_refl _)])
      (fate?_of_returns hlate hreturns hend) htripped
  | crash hphase hin hplan => exact hl.congr ⟨rfl, rfl, rfl, rfl, rfl, rfl⟩
  | _ => exact hl.congr (hsame (fun he => nomatch he) fun _ he => nomatch he)

/-- A lane stays on course while the clock moves, if it is at rest all the time. -/
theorem wait {t : Instant} (hl : l.OnCourse now)
    (hrest : ∀ u, now ≤ u → u < t → l.AtRest ⟨u, none⟩)
    (htrip : ∀ u, now ≤ u → u < t → ∀ d ∈ l.running, l.mustTrip ⟨u, none⟩ d = false) :
    l.OnCourse t where
  running := hl.running
  pending d hd c hc := by
    by_contra hlt
    have hbefore : c.time < t := Nat.lt_of_not_le hlt
    have hnow := hl.pending d hd c hc
    have hreturns : (l.trace ⟨c.time, none⟩ d).returnsAt? = some c.time :=
      (l.returnsAt?_trace _ 0 none d).trans (eq_of_fate? hc (hl.running d hd).1).2
    exact absurd (lt_of_rest (hrest _ hnow hbefore) hd (htrip _ hnow hbefore d hd) hreturns)
      (Nat.lt_irrefl _)
  concluded := hl.concluded
  calls := hl.calls

end OnCourse

/-! ### What can be seen before an instant -/

/-- The deliveries that were launched before `t`. -/
def scheduledBefore (l : Lane) (t : Instant) : List Delivery :=
  l.scheduled.filter fun d => d.launched < t

/-- What came of deliveries before `t`. -/
def concludedBefore (l : Lane) (t : Instant) : List Conclusion :=
  l.concluded.filter fun c => c.time < t

/-- The calls that were made before `t`. -/
def callsBefore (l : Lane) (m : Moment) (t : Instant) : List Call :=
  (l.allCalls m).filter fun c => c.time < t

/-- Two lanes show the same before `t`: they launched the same deliveries with the same slots, and
the deliveries with the given numbers made the same calls and came to the same ends. -/
structure AgreesBefore (t : Instant) (numbers : Nat → Bool) (l l' : Lane) (m m' : Moment) :
    Prop where
  scheduled : l.scheduledBefore t = l'.scheduledBefore t
  calls : ((l.callsBefore m t).filter fun c => numbers c.delivery).Perm
    ((l'.callsBefore m' t).filter fun c => numbers c.delivery)
  concluded : ((l.concludedBefore t).filter fun c => numbers c.delivery.number).Perm
    ((l'.concludedBefore t).filter fun c => numbers c.delivery.number)

/-- The deliveries of a lane on course were planned as they are, and each is running or over. -/
theorem OnCourse.scheduled_perm {now : Instant} (hl : l.OnCourse now) (ht : l.Tracks) :
    l.scheduled.Perm (l.running ++ l.concluded.map Conclusion.delivery) :=
  ht.scheduled_perm (fun d hd => (hl.running d hd).2) fun c hc => (hl.concluded c hc).2

/-- Elements of which nothing comes may be left out. -/
theorem flatMap_filter_of_nil {α β : Type} {f : α → List β} {keep : α → Bool} (as : List α)
    (hnil : ∀ a, keep a = false → f a = []) : (as.filter keep).flatMap f = as.flatMap f := by
  induction as with
  | nil => rfl
  | cons a as ih =>
    cases hkeep : keep a with
    | false => rw [List.filter_cons_of_neg (by simp [hkeep]), ih, List.flatMap_cons, hnil a hkeep,
        List.nil_append]
    | true => rw [List.filter_cons_of_pos hkeep, List.flatMap_cons, List.flatMap_cons, ih]

/-- What came of deliveries before `t` is what the deliveries launched before `t` come to by then.
-/
theorem OnCourse.concludedBefore_perm {now t : Instant} (hl : l.OnCourse now) (ht : l.Tracks)
    (hle : t ≤ now) :
    (l.concludedBefore t).Perm ((l.scheduledBefore t).filterMap fun d =>
      (l.fate? d).filter fun c => c.time < t) := by
  have hlaunched : ((l.scheduledBefore t).filterMap fun d =>
      (l.fate? d).filter fun c => c.time < t) =
      l.scheduled.filterMap fun d => (l.fate? d).filter fun c => c.time < t := by
    rw [scheduledBefore, List.filterMap_filter]
    refine List.filterMap_congr ?_
    intro d _
    split
    · rfl
    · rename_i hlate
      rw [decide_eq_true_iff] at hlate
      refine (Option.filter_eq_none_iff.2 fun c hc hbefore => hlate ?_).symm
      exact Nat.lt_of_le_of_lt (launched_le_of_fate? hc) (of_decide_eq_true hbefore)
  have hrunning : (l.running.filterMap fun d => (l.fate? d).filter fun c => c.time < t) = [] := by
    refine List.filterMap_eq_nil_iff.2 fun d hd => Option.filter_eq_none_iff.2 fun c hc hbefore => ?_
    have hlt : c.time < t := of_decide_eq_true hbefore
    exact absurd (Nat.le_trans hle (hl.pending d hd c hc)) (Nat.not_le_of_lt hlt)
  have hconcluded : ((l.concluded.map Conclusion.delivery).filterMap fun d =>
      (l.fate? d).filter fun c => c.time < t) = l.concludedBefore t := by
    rw [List.filterMap_map, concludedBefore, ← List.filterMap_eq_filter]
    refine List.filterMap_congr ?_
    intro c hc
    rw [Function.comp_apply, (hl.concluded c hc).1]
    rfl
  have hperm := (hl.scheduled_perm ht).filterMap fun d => (l.fate? d).filter fun c => c.time < t
  rw [List.filterMap_append, hrunning, List.nil_append, hconcluded] at hperm
  rw [hlaunched]
  exact hperm.symm

/-- The calls made before `t` are those that the deliveries launched before `t` make by then. -/
theorem OnCourse.callsBefore_perm {now t : Instant} (hl : l.OnCourse now) (ht : l.Tracks)
    (hle : t ≤ now) :
    (l.callsBefore ⟨now, none⟩ t).Perm ((l.scheduledBefore t).flatMap fun d =>
      (l.everyCallOf d).filter fun c => c.time < t) := by
  have hlaunched : ((l.scheduledBefore t).flatMap fun d =>
      (l.everyCallOf d).filter fun c => c.time < t) =
      l.scheduled.flatMap fun d => (l.everyCallOf d).filter fun c => c.time < t := by
    refine flatMap_filter_of_nil _ fun d hd => List.filter_eq_nil_iff.2 fun c hc hbefore => ?_
    have hlt := Nat.lt_of_le_of_lt (le_time_of_mem_everyCallOf hc) (of_decide_eq_true hbefore)
    exact of_decide_eq_false hd hlt
  have hrunning : (l.running.flatMap (l.callsOf ⟨now, none⟩)).filter (fun c => c.time < t) =
      l.running.flatMap fun d => (l.everyCallOf d).filter fun c => c.time < t := by
    rw [List.filter_flatMap]
    refine List.flatMap_congr ?_
    intro d _
    rw [callsOf_eq, List.filter_filter]
    refine List.filter_congr ?_
    intro c _
    rw [Bool.and_eq_left_iff_imp, decide_eq_true_iff, decide_eq_true_iff]
    intro hlt
    exact Nat.le_trans (Nat.le_of_lt hlt) hle
  have hreturned : (l.calls.filter fun c => c.time < t).Perm
      ((l.concluded.map Conclusion.delivery).flatMap fun d =>
        (l.everyCallOf d).filter fun c => c.time < t) := by
    rw [List.flatMap_map, ← List.filter_flatMap]
    exact hl.calls.filter _
  have hperm := (hl.scheduled_perm ht).flatMap_right fun d =>
    (l.everyCallOf d).filter fun c => c.time < t
  rw [List.flatMap_append] at hperm
  rw [hlaunched, callsBefore, allCalls, List.filter_append, hrunning]
  exact ((hreturned.append_right _).trans List.perm_append_comm).trans hperm.symm

/-- Lanes on course that launched the same deliveries show the same of those that they treat in the
same way, whatever else differs. -/
theorem OnCourse.agreesBefore {now now' t : Instant} {numbers : Nat → Bool} (hl : l.OnCourse now)
    (hl' : l'.OnCourse now') (ht : l.Tracks) (ht' : l'.Tracks) (hle : t ≤ now) (hle' : t ≤ now')
    (hscheduled : l.scheduledBefore t = l'.scheduledBefore t) (hchannel : l'.channel = l.channel)
    (htrace : ∀ m d, numbers d.number = true → l'.trace m d = l.trace m d) :
    AgreesBefore t numbers l l' ⟨now, none⟩ ⟨now', none⟩ where
  scheduled := hscheduled
  calls := by
    have hcalls := (hl.callsBefore_perm ht hle).filter fun c => numbers c.delivery
    have hcalls' := (hl'.callsBefore_perm ht' hle').filter fun c => numbers c.delivery
    refine hcalls.trans (.trans (.of_eq ?_) hcalls'.symm)
    rw [hscheduled, List.filter_flatMap, List.filter_flatMap]
    refine List.flatMap_congr ?_
    intro d _
    cases hd : numbers d.number with
    | true => rw [everyCallOf_congr fun m => htrace m d hd]
    | false =>
      have hnone : ∀ k : Lane, ((k.everyCallOf d).filter fun c => c.time < t).filter
          (fun c => numbers c.delivery) = [] := fun k =>
        List.filter_eq_nil_iff.2 fun c hc => by
          rw [delivery_of_mem_everyCallOf (List.mem_of_mem_filter hc), hd]
          exact Bool.false_ne_true
      rw [hnone, hnone]
  concluded := by
    have hends := (hl.concludedBefore_perm ht hle).filter fun c => numbers c.delivery.number
    have hends' := (hl'.concludedBefore_perm ht' hle').filter fun c => numbers c.delivery.number
    refine hends.trans (.trans (.of_eq ?_) hends'.symm)
    rw [hscheduled, List.filter_filterMap, List.filter_filterMap]
    refine List.filterMap_congr ?_
    intro d _
    cases hd : numbers d.number with
    | true => rw [fate?_congr hchannel fun m => htrace m d hd]
    | false =>
      have hnone : ∀ k : Lane, ((k.fate? d).filter fun c => c.time < t).filter
          (fun c => numbers c.delivery.number) = none := fun k =>
        Option.filter_eq_none_iff.2 fun c hc => by
          rw [delivery_of_fate? (Option.filter_eq_some_iff.1 hc).1, hd]
          exact Bool.false_ne_true
      rw [hnone, hnone]

end Lane

end AlertRelay
