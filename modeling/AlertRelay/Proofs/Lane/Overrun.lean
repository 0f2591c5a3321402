import AlertRelay.Proofs.Delivery.Budget
import AlertRelay.Proofs.Lane.Slots

/-!
# How late a delivery can be

A delivery is not cut off at its deadline, since a call that has begun is never interrupted. But no
call begins when the deadline has passed, and no pause goes beyond it. So a delivery whose calls all
return within some time returns less than this time after its deadline, however many attempts its
policy allows and whenever it is cancelled (`Sender.exists_returns_lt`). The deadline lies the time
for one attempt and all pauses behind the slot; so if every call keeps within the time for one
attempt, the delivery is over before the time for two attempts and all pauses has gone by
(`Sender.latestReturn`).

`Lane.Kit.Runs` are the runs of a lane in which the clock stops whenever a delivery returns. In
these no delivery is seen running after that time, and none is concluded later (`Lane.NoneLate`).
-/

namespace AlertRelay

/-! ### One delivery -/

section Attempts

variable {α : Type} {policy : RetryPolicy} {transport : Transport α} {left number limit : Nat}
  {c : Context} {now : Instant} {last : Option DeliveryError} {t : Trace (Except DeliveryError α)}

/-- All of these calls return, and none of them takes longer than the limit. -/
def Transport.KeepsWithin (transport : Transport α) (limit : Nat) (calls : List (Instant × Nat)) :
    Prop :=
  ∀ call ∈ calls, transport call.2 ≠ .hangs ∧ (transport call.2).took ≤ limit

/-- The end of a context lies no farther than its deadline. -/
theorem Context.doneAt_le (c : Context) (now : Instant) : c.doneAt now ≤ max now c.deadline := by
  unfold doneAt
  split
  · exact max_le_max (Nat.le_refl _) (Nat.min_le_right _ _)
  · exact Nat.le_refl _

/-- A pause does not go beyond the deadline. -/
theorem pauseEnd_le_deadline (c : Context) (delay : Span) (now : Instant) :
    pauseEnd c delay now ≤ max now c.deadline := by
  unfold pauseEnd
  split
  · exact Nat.le_max_left _ _
  · exact Nat.le_trans (Nat.min_le_right _ _) (c.doneAt_le now)

/-- Nor does a wait for a slot that comes before it. -/
theorem time_waitForSlot_le (c : Context) (choice : Choice) (ch : Channel) (slot now : Instant) :
    (waitForSlot c choice ch slot now).time ≤ max (max now slot) c.deadline := by
  have hready : max now slot ≤ max (max now slot) c.deadline := Nat.le_max_left _ _
  unfold waitForSlot
  dsimp only
  split
  · exact Nat.le_trans (c.doneAt_le now) (max_le_max (Nat.le_max_left _ _) (Nat.le_refl _))
  · split
    · exact hready
    · exact hready

/-- Attempts that begin before the limit after the deadline return before it, if their calls keep
within the limit. -/
theorem Attempting.exists_returns_lt (h : Attempting policy transport left c number now last t)
    (hlimit : 0 < limit) (hnow : now < c.deadline + limit)
    (hkeeps : transport.KeepsWithin limit t.calls) :
    ∃ u r, t.ending = .returns u r ∧ u < c.deadline + limit := by
  -- A call begins before the deadline, so that it is over before the limit after it.
  have hover {c : Context} {now number after : Nat} {cancelsRoot : Bool}
      {outcome : Except DeliveryError α} (hlive : c.doneReason? now = none)
      (hcall : transport number = .returns after cancelsRoot outcome)
      (htook : (transport number).took ≤ limit) : now + after < c.deadline + limit := by
    have hbefore : now < c.deadline := (Context.doneReason?_eq_none_iff.1 hlive).2
    rw [hcall] at htook
    exact Nat.add_lt_add_of_lt_of_le hbefore htook
  induction h with
  | abort hdone => exact ⟨_, _, rfl, hnow⟩
  | hang hlive hcall => exact absurd hcall (hkeeps _ List.mem_cons_self).1
  | succeed hlive hcall | exhaust hlive hcall =>
    exact ⟨_, _, rfl, hover hlive hcall (hkeeps _ List.mem_cons_self).2⟩
  | @retry left number after c now last cancelsRoot e rest hlive hcall hrest ih =>
    have hend : now + after < c.deadline + limit :=
      hover hlive hcall (hkeeps _ List.mem_cons_self).2
    have hnext : pauseEnd (c.afterCall cancelsRoot (now + after)) policy.delay (now + after) <
        c.deadline + limit := by
      have hpause := pauseEnd_le_deadline (c.afterCall cancelsRoot (now + after)) policy.delay
        (now + after)
      rw [Context.deadline_afterCall] at hpause
      exact Nat.lt_of_le_of_lt hpause (Nat.max_lt.2 ⟨hend, Nat.lt_add_of_pos_right hlimit⟩)
    have hrests := ih (by rwa [Context.deadline_afterCall])
      fun call hmem => hkeeps call (List.mem_cons_of_mem _ hmem)
    rwa [Context.deadline_afterCall] at hrests

/-- A delivery whose slot comes before its deadline returns within the limit after the deadline, if
its calls keep within the limit. -/
theorem Sender.exists_returns_lt {s : Sender} {clock : String} {choice : Choice}
    {transport : Transport Unit} {slot : Instant} (hlimit : 0 < limit)
    (hslot : max now slot ≤ c.deadline)
    (hkeeps : transport.KeepsWithin limit (s.send clock choice transport c slot now).calls) :
    ∃ u r, (s.send clock choice transport c slot now).ending = .returns u r ∧
      u < c.deadline + limit := by
  have hbefore {u : Instant} (hu : u ≤ c.deadline) : u < c.deadline + limit :=
    Nat.lt_of_le_of_lt hu (Nat.lt_add_of_pos_right hlimit)
  have hwait : (waitForSlot c choice s.channel slot now).time ≤ c.deadline :=
    Nat.le_trans (time_waitForSlot_le _ _ _ _ _) (Nat.max_le.2 ⟨hslot, Nat.le_refl _⟩)
  obtain ⟨-, hsend⟩ | ⟨-, message, -, hsend⟩ | ⟨-, -, hsend⟩ :=
    s.send_cases clock choice transport c slot now
  · rw [hsend]
    exact ⟨_, _, rfl, hbefore (Nat.le_trans (Nat.le_max_left _ _) hslot)⟩
  · rw [hsend]
    exact ⟨_, _, rfl, hbefore hwait⟩
  · rw [hsend] at hkeeps ⊢
    obtain ⟨u, r, hend, hu⟩ := (attempting_attempts s.policy transport c
      (max now slot)).exists_returns_lt hlimit (hbefore hslot) hkeeps
    exact ⟨u, s.resultOf clock r, Trace.map_returns_iff.2 ⟨r, hend, rfl⟩, hu⟩

end Attempts

/-- The time for two attempts and all pauses, from a slot on. -/
def Sender.latestReturn (s : Sender) (slot : Instant) : Instant :=
  slot + 2 * s.settings.baseTimeout.toNanos + s.settings.retries * s.settings.retryDelay.toNanos

namespace Lane

variable {k : Kit} {start m m' : Moment} {l l' : Lane} {d : Delivery}

/-! ### The deliveries of a lane -/

/-- All calls of a delivery keep within the time for one attempt, whenever the program is
cancelled. -/
def Brief (l : Lane) (d : Delivery) : Prop :=
  ∀ m, (l.transport d.number d.record).KeepsWithin l.sender.settings.baseTimeout.toNanos
    (l.trace m d.planned).calls

/-- A delivery that is scheduled may take the time for one attempt beyond its deadline. -/
theorem OnSchedule.latestReturn_eq {s : Sender} {since : Instant} (hl : l.OnSchedule s since)
    (hd : d ∈ l.scheduled) :
    s.latestReturn d.slot = d.deadline + s.settings.baseTimeout.toNanos := by
  have hdeadline := hl.deadlines d hd
  rw [Sender.latestReturn, Nat.mul_comm s.settings.retries]
  unfold Instant at *
  omega

/-- A delivery whose calls keep within the time for one attempt returns in time. -/
theorem OnSchedule.exists_returns_lt {since : Instant} (hl : l.OnSchedule l.sender since)
    (hbase : 0 < l.sender.settings.baseTimeout.toNanos) (hd : d ∈ l.scheduled) (m : Moment)
    (hkeeps : (l.transport d.number d.record).KeepsWithin l.sender.settings.baseTimeout.toNanos
      (l.trace m d).calls) :
    ∃ u r, (l.trace m d).ending = .returns u r ∧ u < l.sender.latestReturn d.slot := by
  have hdeadline := hl.deadlines d hd
  have hslot : max d.launched d.slot ≤ d.deadline := by
    have hlaunched := hl.launched_le_slot hd
    unfold Instant at *
    omega
  rw [hl.latestReturn_eq hd]
  exact Sender.exists_returns_lt hbase hslot hkeeps

/-! ### Runs on a clock that stops for deliveries -/

/-- The clock may go on to `t` without leaving behind a delivery that returns before. -/
def MayPass (m : Moment) (l : Lane) (t : Instant) : Prop :=
  ∀ d ∈ l.running, ∀ u, (l.trace m d).returnsAt? = some u → t ≤ max m.now u

/-- What may become of a lane if the clock stops whenever a delivery returns. -/
inductive Kit.Runs (k : Kit) (start : Moment) : Moment → Lane → Prop
  | start : k.Runs start start (k.start start.now)
  | turn {m m' : Moment} {l l' : Lane} (h : k.Runs start m l) (hturn : Turn m l m' l')
      (hclock : l.MayPass m m'.now) : k.Runs start m' l'

/-- By now no delivery with short calls has been running too long, and none was concluded too
late. -/
structure NoneLate (now : Instant) (l : Lane) : Prop where
  running : ∀ d ∈ l.running, l.Brief d → now < l.sender.latestReturn d.slot
  concluded : ∀ c ∈ l.concluded, l.Brief c.delivery →
    c.time < l.sender.latestReturn c.delivery.slot

theorem Kit.Runs.reaches (h : k.Runs start m l) : k.Reaches start m l := by
  induction h with
  | start => exact .start
  | turn _ hturn _ ih => exact ih.turn hturn

theorem brief_of_kit (h : l'.kit = l.kit) (d : Delivery) : l'.Brief d ↔ l.Brief d := by
  have hsender : l'.sender = l.sender := congrArg Kit.sender h
  have htransport : l'.transport = l.transport := congrArg Kit.transport h
  unfold Brief
  simp only [hsender, htransport, trace_of_kit h]

/-- A delivery is launched before its slot. -/
theorem OnSchedule.launched_lt_latestReturn {s : Sender} {since : Instant}
    (hl : l.OnSchedule s since) (hbase : 0 < s.settings.baseTimeout.toNanos)
    (hd : d ∈ l.scheduled) : d.launched < s.latestReturn d.slot := by
  have hlaunched := hl.launched_le_slot hd
  unfold Sender.latestReturn
  unfold Instant at *
  omega

/-- A delivery that runs returns in time if its calls are short. -/
theorem OnSchedule.exists_returnsAt?_lt {since : Instant} (hl : l.OnSchedule l.sender since)
    (ht : l.Tracks) (hbase : 0 < l.sender.settings.baseTimeout.toNanos) (hd : d ∈ l.running)
    (hbrief : l.Brief d) :
    ∃ u, (l.trace m d).returnsAt? = some u ∧ u < l.sender.latestReturn d.slot := by
  -- A delivery that has cancelled the program goes on as if nobody had.
  have htrace : l.trace m d =
      l.trace ⟨m.now, if d.tripped then none else m.cancelledAt⟩ d.planned := by
    cases htripped : d.tripped <;> simp [trace, Delivery.planned, htripped]
  obtain ⟨u, r, hend, hu⟩ := hl.exists_returns_lt hbase (ht.planned_mem hd)
    ⟨m.now, if d.tripped then none else m.cancelledAt⟩ (hbrief _)
  rw [htrace]
  exact ⟨u, Trace.returnsAt?_eq_some.2 ⟨r, hend⟩, hu⟩

namespace NoneLate

variable {now : Instant}

/-- What leaves the deliveries as they were planned leaves them in time. -/
theorem congr (hl : l.NoneLate now) (hkit : l'.kit = l.kit)
    (hrunning : l'.running.map Delivery.planned = l.running.map Delivery.planned)
    (hconcluded : l'.concluded = l.concluded) : l'.NoneLate now where
  running d hd hbrief := by
    have hmem : d.planned ∈ l.running.map Delivery.planned :=
      hrunning ▸ List.mem_map_of_mem hd
    obtain ⟨d₀, hd₀, hplanned⟩ := List.mem_map.1 hmem
    have hbrief₀ : l.Brief d₀ := by
      have hsame : l.Brief d₀.planned ↔ l.Brief d.planned := by rw [hplanned]
      exact hsame.2 ((brief_of_kit hkit d).1 hbrief)
    have hslot : d₀.slot = d.slot := (congrArg Delivery.slot hplanned :)
    rw [show l'.sender = l.sender from congrArg Kit.sender hkit, ← hslot]
    exact hl.running d₀ hd₀ hbrief₀
  concluded c hc hbrief := by
    rw [show l'.sender = l.sender from congrArg Kit.sender hkit]
    exact hl.concluded c (hconcluded ▸ hc) ((brief_of_kit hkit c.delivery).1 hbrief)

/-- A step keeps the deliveries in time. -/
theorem step {e : LaneEvent} (hl : l.NoneLate m.now) (h : l.step? m e = some l')
    (hnew : ∀ d ∈ l'.scheduled, d.launched < l'.sender.latestReturn d.slot) :
    l'.NoneLate m.now := by
  have hmove := move_of_step? h
  have hsame := hmove.sameDeliveries
  cases hmove with
  | lapse =>
    refine ⟨hl.running, fun c hc hbrief => ?_⟩
    rcases List.mem_append.1 hc with hc | hc
    · exact hl.concluded c hc hbrief
    · obtain rfl := List.mem_singleton.1 hc
      exact hnew _ (List.mem_append_right _ (List.mem_singleton_self _))
  | launch =>
    refine ⟨fun d hd hbrief => ?_, hl.concluded⟩
    rcases List.mem_append.1 hd with hd | hd
    · exact hl.running d hd hbrief
    · obtain rfl := List.mem_singleton.1 hd
      exact hnew _ (List.mem_append_right _ (List.mem_singleton_self _))
  | complete hd =>
    refine ⟨fun d hd hbrief => hl.running d (List.mem_of_mem_eraseIdx hd) hbrief,
      fun c hc hbrief => ?_⟩
    rcases List.mem_append.1 hc with hc | hc
    · exact hl.concluded c hc hbrief
    · obtain rfl := List.mem_singleton.1 hc
      exact hl.running _ (List.mem_of_getElem? hd) hbrief
  | crash => exact hl.congr rfl rfl rfl
  | _ =>
    have hsame := hsame (fun he => nomatch he) fun _ he => nomatch he
    exact hl.congr hsame.kit (congrArg _ hsame.running) hsame.concluded

/-- Whatever happens to a lane keeps the deliveries in time, if the clock leaves none behind. -/
theorem turn {since : Instant} (hl : l.NoneLate m.now) (hs : l.OnSchedule l.sender since)
    (ht : l.Tracks) (hbase : 0 < l.sender.settings.baseTimeout.toNanos) (hturn : Turn m l m' l')
    (hclock : l.MayPass m m'.now) : l'.NoneLate m'.now := by
  cases hturn with
  | step hstep =>
    have hchange : l.Change m l' := .move (move_of_step? hstep)
    have hsender : l'.sender = l.sender := congrArg Kit.sender hchange.kit_eq
    refine hl.step hstep fun d hd => ?_
    rw [hsender]
    exact (hs.change hchange rfl).launched_lt_latestReturn hbase hd
  | trip htrip =>
    rw [eq_of_trip? htrip]
    exact hl.congr rfl (map_planned_modify _ _) rfl
  | cancel => exact hl
  | offer => exact hl.congr rfl rfl rfl
  | take htake =>
    obtain ⟨rest, hresults, rfl⟩ := eq_of_takeResult? htake
    exact hl.congr rfl rfl rfl
  | abandon => exact hl.congr rfl rfl rfl
  | pass hle =>
    refine ⟨fun d hd hbrief => ?_, hl.concluded⟩
    obtain ⟨u, hu, hlt⟩ := hs.exists_returnsAt?_lt (m := m) ht hbase hd hbrief
    exact Nat.lt_of_le_of_lt (hclock d hd u hu) (Nat.max_lt.2 ⟨hl.running d hd hbrief, hlt⟩)

end NoneLate

theorem Kit.Reaches.onSchedule_sender (h : k.Reaches start m l) :
    l.OnSchedule l.sender start.now := by
  rw [show l.sender = k.sender from congrArg Kit.sender h.kit_eq]
  exact h.onSchedule

theorem Kit.Runs.noneLate (h : k.Runs start m l)
    (hbase : 0 < k.sender.settings.baseTimeout.toNanos) : l.NoneLate m.now := by
  induction h with
  | start => exact ⟨(fun d hd => nomatch hd), (fun c hc => nomatch hc)⟩
  | @turn m m' l l' h hturn hclock ih =>
    have hreach := h.reaches
    have hsender : l.sender = k.sender := congrArg Kit.sender hreach.kit_eq
    refine ih.turn hreach.onSchedule_sender hreach.tracks ?_ hturn hclock
    rw [hsender]
    exact hbase

end Lane

namespace Lane

end Lane

end AlertRelay
