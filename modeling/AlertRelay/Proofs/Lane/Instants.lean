import AlertRelay.Proofs.Lane.Slots

/-!
# Instants that exist

A worker dies when there is no instant for the deadline of a record (`Lane.Turn.of_crashed`), and
there is one as long as the sum of the parts of the deadline stays below the limit of all instants
(`Sender.isSome_plan?_iff`). The slot of the next record is never further ahead than one rate limit
for each record that was taken (`Lane.Paced`), and what was planned has a deadline that exists
(`Lane.Dated`).
-/

namespace AlertRelay

/-- A deadline that is planned for is an instant. -/
theorem Sender.deadline_lt_of_plan? {s : Sender} {schedule schedule' : Schedule}
    {now deadline : Instant} (h : s.plan? schedule now = some (schedule', deadline)) :
    deadline < Instant.limit := by
  obtain ⟨next, -, hdated⟩ := Option.bind_eq_some_iff.1 h
  obtain ⟨later, hafter, hsame⟩ := Option.map_eq_some_iff.1 hdated
  obtain ⟨-, rfl⟩ := Prod.mk.inj hsame
  obtain ⟨hlimit, hlater⟩ := Instant.after?_eq_some.1 hafter
  rw [← hlater]
  exact hlimit

/-- A record can be planned for if the deadline behind its slot is an instant. -/
theorem Sender.isSome_plan?_iff {s : Sender} {schedule : Schedule} {now : Instant} :
    (s.plan? schedule now).isSome = true ↔
      max schedule.last now + schedule.delay.toNanos + s.settings.baseTimeout.toNanos +
        s.settings.retryDelay.toNanos * s.settings.retries < Instant.limit := by
  constructor
  · intro h
    obtain ⟨⟨next, deadline⟩, hplan⟩ := Option.isSome_iff_exists.1 h
    obtain ⟨-, hlast, hdeadline⟩ := eq_of_plan? hplan
    rw [← hlast, ← hdeadline]
    exact deadline_lt_of_plan? hplan
  · intro h
    have hslot : max schedule.last now + schedule.delay.toNanos < Instant.limit :=
      Nat.lt_of_le_of_lt (Nat.le_trans (Nat.le_add_right _ _) (Nat.le_add_right _ _)) h
    have hlimit := Instant.limit_le_longest
    have htimeout := toNanos_deliveryTimeout now s.settings.baseTimeout
      (max schedule.last now + schedule.delay.toNanos) s.settings.retries s.settings.retryDelay
    have hdeadline : now + (deliveryTimeout now s.settings.baseTimeout
        (max schedule.last now + schedule.delay.toNanos) s.settings.retries
        s.settings.retryDelay).toNanos < Instant.limit := by
      unfold Instant at *
      omega
    simp only [plan?, Schedule.next?_eq hslot, Option.bind_some,
      Instant.after?_eq_some.2 ⟨hdeadline, rfl⟩, Option.map_some, Option.isSome_some]

namespace Lane

variable {m m' : Moment} {l l' : Lane} {since : Instant}

/-- What a worker plans when it takes a record is put on record, and nothing else changes the
plan. -/
theorem Turn.planned (h : Turn m l m' l') :
    (m.now ≤ m'.now ∧ l'.schedule = l.schedule ∧ l'.scheduled = l.scheduled) ∨
      ∃ r schedule deadline, m' = m ∧ l.plan? m.now = some (schedule, deadline) ∧
        l'.schedule = schedule ∧ l'.scheduled = l.scheduled ++
          [⟨l.scheduled.length, r, m.now, schedule.last, deadline, false⟩] := by
  cases h with
  | step h =>
    have hmove := move_of_step? h
    have hsame := hmove.sameDeliveries
    cases hmove with
    | lapse hphase hin hplan | launch hphase hin hplan =>
      exact .inr ⟨_, _, _, rfl, hplan, rfl, rfl⟩
    | crash | complete => exact .inl ⟨Nat.le_refl _, rfl, rfl⟩
    | _ =>
      have h := hsame (fun he => nomatch he) fun _ he => nomatch he
      exact .inl ⟨Nat.le_refl _, h.schedule, h.scheduled⟩
  | trip h =>
    rw [eq_of_trip? h]
    exact .inl ⟨Nat.le_refl _, rfl, rfl⟩
  | take h =>
    obtain ⟨rest, -, rfl⟩ := eq_of_takeResult? h
    exact .inl ⟨Nat.le_refl _, rfl, rfl⟩
  | pass h => exact .inl ⟨h, rfl, rfl⟩
  | cancel | offer | abandon => exact .inl ⟨Nat.le_refl _, rfl, rfl⟩

/-- A worker dies only when it takes a record that cannot be planned for. -/
theorem Turn.of_crashed (h : Turn m l m' l') (hcrashed : l'.phase = .crashed) :
    l.phase = .crashed ∨
      m' = m ∧ l.phase = .listening ∧ l.inbound ≠ [] ∧ l.plan? m.now = none := by
  cases h with
  | step h =>
    cases move_of_step? h with
    | crash hphase hin hplan =>
      refine .inr ⟨rfl, hphase, ?_, hplan⟩
      rw [hin]
      exact List.cons_ne_nil _ _
    | @discard _ next | @forward _ next =>
      cases next <;> cases hcrashed
    | lapse | gather | halt | drain | announce => cases hcrashed
    | _ => exact .inl hcrashed
  | trip h =>
    rw [eq_of_trip? h] at hcrashed
    exact .inl hcrashed
  | take h =>
    obtain ⟨rest, -, rfl⟩ := eq_of_takeResult? h
    exact .inl hcrashed
  | _ => exact .inl hcrashed

/-- The clock does not go back. -/
theorem Turn.now_le (h : Turn m l m' l') : m.now ≤ m'.now := by
  rcases h.planned with ⟨hnow, -⟩ | ⟨_, _, _, rfl, -⟩
  · exact hnow
  · exact Nat.le_refl _

/-- A turn leaves a lane what it was given. -/
theorem Turn.sender_eq (h : Turn m l m' l') : l'.sender = l.sender := by
  rcases h.change with rfl | hchange
  · rfl
  · exact congrArg Kit.sender hchange.kit_eq

/-- The last slot is ahead of the time by no more than the rate limit for each record. -/
structure Paced (m : Moment) (l : Lane) : Prop where
  delay : l.schedule.delay = l.sender.settings.rateLimit
  last : l.schedule.last ≤ m.now + l.scheduled.length * l.sender.settings.rateLimit.toNanos

theorem Paced.turn (h : Turn m l m' l') (hl : l.Paced m) : l'.Paced m' := by
  obtain ⟨hdelay, hlast⟩ := hl
  rcases h.planned with ⟨hnow, hschedule, hscheduled⟩ |
    ⟨r, schedule, deadline, rfl, hplan, hschedule, hscheduled⟩
  · refine ⟨by rw [hschedule, h.sender_eq, hdelay], ?_⟩
    rw [hschedule, hscheduled, h.sender_eq]
    exact Nat.le_trans hlast (Nat.add_le_add_right hnow _)
  · obtain ⟨hdelay', hlast', -⟩ := Sender.eq_of_plan? hplan
    refine ⟨by rw [hschedule, h.sender_eq, hdelay', hdelay], ?_⟩
    rw [hschedule, hscheduled, h.sender_eq, hlast', hdelay, List.length_append,
      List.length_singleton, Nat.add_mul, Nat.one_mul, ← Nat.add_assoc]
    exact Nat.add_le_add_right (Nat.max_le.2 ⟨hlast, Nat.le_add_right _ _⟩) _

/-- Every delivery was launched at or after an instant, and its deadline exists. -/
structure Dated (since : Instant) (l : Lane) : Prop where
  launched : ∀ d ∈ l.scheduled, since ≤ d.launched
  deadline : ∀ d ∈ l.scheduled, d.deadline < Instant.limit

theorem Dated.turn (h : Turn m l m' l') (hnow : since ≤ m.now) (hl : l.Dated since) :
    l'.Dated since := by
  rcases h.planned with ⟨-, -, hscheduled⟩ | ⟨r, schedule, deadline, -, hplan, -, hscheduled⟩
  · exact ⟨by rw [hscheduled]; exact hl.launched, by rw [hscheduled]; exact hl.deadline⟩
  · have hlimit : deadline < Instant.limit := Sender.deadline_lt_of_plan? hplan
    constructor <;> rw [hscheduled] <;> intro d hd <;> rcases List.mem_append.1 hd with hd | hd
    · exact hl.launched d hd
    · rw [List.mem_singleton.1 hd]
      exact hnow
    · exact hl.deadline d hd
    · rw [List.mem_singleton.1 hd]
      exact hlimit

/-- If no record of a lane was taken before some time, the last one of `n` has a slot at least `n`
rate limits after that. -/
theorem OnSchedule.add_le_slot (hl : l.OnSchedule l.sender since) {t : Instant}
    (ht : ∀ d ∈ l.scheduled, t ≤ d.launched) {n : Nat} {d : Delivery}
    (hd : l.scheduled[n]? = some d) :
    t + (n + 1) * l.sender.settings.rateLimit.toNanos ≤ d.slot := by
  have hslot : (l.scheduled.map Delivery.slot)[n]? = some d.slot := by
    rw [List.getElem?_map, hd]
    rfl
  rw [hl.slots] at hslot
  refine time_add_le_of_slotsFrom (fun now hnow => ?_) hslot
  obtain ⟨d, hd, rfl⟩ := List.mem_map.1 hnow
  exact ht d hd

end Lane

end AlertRelay
