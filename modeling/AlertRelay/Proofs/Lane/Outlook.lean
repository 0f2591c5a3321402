import AlertRelay.Proofs.Lane.Phase

/-!
# What a lane will schedule

The deliveries that a worker launches are those that its sender plans for the records that come to
it, one after the other and at the times at which it takes them (`Sender.plans`). What is on the way
to a worker is part of what its lane will have scheduled (`Lane.foresees`). Nothing that happens in
a lane changes that as long as the program is not cancelled (`Lane.Move.foresees_eq`): the queues
keep the order of the records, and what becomes of the deliveries does not matter.
-/

namespace AlertRelay

namespace Sender

/-- The deliveries of records that are taken at the given times, numbered from `number` on. The
worker dies of the first record that there is no instant for. -/
def plans (s : Sender) (schedule : Schedule) (number : Nat) :
    List (Instant × EventRecord) → List Delivery
  | [] => []
  | (now, r) :: rest =>
    match s.plan? schedule now with
    | none => []
    | some (schedule, deadline) =>
      ⟨number, r, now, schedule.last, deadline, false⟩ :: s.plans schedule (number + 1) rest

variable {s : Sender} {schedule : Schedule} {number : Nat}

/-- A delivery is launched when its record is taken. -/
theorem exists_launched_of_mem_plans {arrivals : List (Instant × EventRecord)} {d : Delivery}
    (hd : d ∈ s.plans schedule number arrivals) : ∃ a ∈ arrivals, d.launched = a.1 := by
  induction arrivals generalizing schedule number with
  | nil => cases hd
  | cons a rest ih =>
    obtain ⟨now, r⟩ := a
    rw [plans] at hd
    split at hd
    · cases hd
    · rcases List.mem_cons.1 hd with rfl | hd
      · exact ⟨(now, r), List.mem_cons_self, rfl⟩
      · obtain ⟨a, ha, hlaunched⟩ := ih hd
        exact ⟨a, List.mem_cons_of_mem _ ha, hlaunched⟩

/-- The deliveries that are launched before `t` are those of the records taken before `t`. -/
theorem filter_plans {arrivals : List (Instant × EventRecord)}
    (hsorted : arrivals.Pairwise fun a b => a.1 ≤ b.1) (t : Instant) :
    (s.plans schedule number arrivals).filter (fun d => d.launched < t) =
      s.plans schedule number (arrivals.filter fun a => a.1 < t) := by
  induction arrivals generalizing schedule number with
  | nil => rfl
  | cons a rest ih =>
    obtain ⟨now, r⟩ := a
    obtain ⟨hfirst, hsorted⟩ := List.pairwise_cons.1 hsorted
    by_cases hnow : now < t
    · rw [List.filter_cons_of_pos (by simpa using hnow), plans, plans]
      split
      · rfl
      · rw [List.filter_cons_of_pos (by simpa using hnow), ih hsorted]
    · -- Nothing that comes later is taken before `t` either.
      have hlater : ∀ a ∈ (now, r) :: rest, ¬a.1 < t := by
        intro a ha
        rcases List.mem_cons.1 ha with rfl | ha
        · exact hnow
        · intro hlt
          exact hnow (Nat.lt_of_le_of_lt (hfirst a ha) hlt)
      have hnone : ((now, r) :: rest).filter (fun a => a.1 < t) = [] :=
        List.filter_eq_nil_iff.2 fun a ha => by simpa using hlater a ha
      rw [hnone]
      refine List.filter_eq_nil_iff.2 ?_
      intro d hd
      obtain ⟨a, ha, hlaunched⟩ := exists_launched_of_mem_plans hd
      rw [hlaunched]
      simpa using hlater a ha

end Sender

namespace Lane

variable {l l' : Lane} {m : Moment} {e : LaneEvent} {now : Instant}

/-- The deliveries of the records that a worker takes from now on, at the given times. -/
def outlook (l : Lane) (arrivals : List (Instant × EventRecord)) : List Delivery :=
  match l.phase with
  | .crashed => []
  | _ => l.sender.plans l.schedule l.scheduled.length arrivals

/-- All that a lane will have scheduled if its worker takes now what is on the way to it, and others
at the given times. -/
def foresees (l : Lane) (now : Instant) (later : List (Instant × EventRecord)) : List Delivery :=
  l.scheduled ++ l.outlook ((l.inbound ++ l.waiting).map (now, ·) ++ later)

theorem outlook_of_crashed (hphase : l.phase = .crashed) (arrivals : List (Instant × EventRecord)) :
    l.outlook arrivals = [] := by
  rw [outlook, hphase]

theorem outlook_of_ne_crashed (hphase : l.phase ≠ .crashed)
    (arrivals : List (Instant × EventRecord)) :
    l.outlook arrivals = l.sender.plans l.schedule l.scheduled.length arrivals := by
  unfold outlook
  split
  · contradiction
  · rfl

/-- What a lane schedules before `t` is what it schedules of the records that come before `t`. -/
theorem filter_outlook {arrivals : List (Instant × EventRecord)}
    (hsorted : arrivals.Pairwise fun a b => a.1 ≤ b.1) (t : Instant) :
    (l.outlook arrivals).filter (fun d => d.launched < t) =
      l.outlook (arrivals.filter fun a => a.1 < t) := by
  by_cases hphase : l.phase = .crashed
  · rw [outlook_of_crashed hphase, outlook_of_crashed hphase]
    rfl
  · rw [outlook_of_ne_crashed hphase, outlook_of_ne_crashed hphase, Sender.filter_plans hsorted]

/-- What comes from `t` on is not scheduled before `t`. -/
theorem filter_foresees {t : Instant} {later : List (Instant × EventRecord)} (hle : t ≤ now)
    (hlater : ∀ a ∈ later, t ≤ a.1) :
    (l.foresees now later).filter (fun d => d.launched < t) =
      l.scheduled.filter fun d => d.launched < t := by
  rw [foresees, List.filter_append, List.append_right_eq_self, List.filter_eq_nil_iff]
  intro d hd
  have hd' : d ∈ l.sender.plans l.schedule l.scheduled.length
      ((l.inbound ++ l.waiting).map (now, ·) ++ later) := by
    unfold outlook at hd
    split at hd
    · cases hd
    · exact hd
  obtain ⟨a, ha, hlaunched⟩ := Sender.exists_launched_of_mem_plans hd'
  have hlate : t ≤ a.1 := by
    rcases List.mem_append.1 ha with ha | ha
    · obtain ⟨r, -, rfl⟩ := List.mem_map.1 ha
      exact hle
    · exact hlater a ha
  rw [decide_eq_true_iff, hlaunched]
  exact Nat.not_lt_of_le hlate

/-- A lane foresees the same if the worker has not died and what is on the way to it, and what it
has scheduled, is the same. -/
theorem foresees_congr {later : List (Instant × EventRecord)} (hphase : l.phase ≠ .crashed)
    (hphase' : l'.phase ≠ .crashed) (hkit : l'.kit = l.kit) (hschedule : l'.schedule = l.schedule)
    (hscheduled : l'.scheduled = l.scheduled)
    (hahead : l'.inbound ++ l'.waiting = l.inbound ++ l.waiting) :
    l'.foresees now later = l.foresees now later := by
  have hsender : l'.sender = l.sender := congrArg Kit.sender hkit
  rw [foresees, foresees, outlook_of_ne_crashed hphase, outlook_of_ne_crashed hphase', hsender,
    hschedule, hscheduled, hahead]

/-- A worker that died schedules nothing more. -/
theorem foresees_of_crashed (hphase : l.phase = .crashed)
    (later : List (Instant × EventRecord)) : l.foresees now later = l.scheduled := by
  rw [foresees, outlook_of_crashed hphase, List.append_nil]

/-- A record that is handed over is the next one to come. -/
theorem foresees_offer (l : Lane) (r : EventRecord) (now : Instant)
    (later : List (Instant × EventRecord)) :
    (l.offer r).foresees now later = l.foresees now ((now, r) :: later) := by
  simp [foresees, outlook, offer]

/-- A delivery that is scheduled was foreseen. -/
theorem foresees_dispatch {r : EventRecord} {rest : List EventRecord} {schedule : Schedule}
    {deadline : Instant} {later : List (Instant × EventRecord)} (hphase : l.phase = .listening)
    (hin : l.inbound = r :: rest)
    (hplan : l.plan? now = some (schedule, deadline)) (hphase' : l'.phase ≠ .crashed)
    (hkit : l'.kit = l.kit) (hschedule : l'.schedule = schedule)
    (hscheduled : l'.scheduled =
      l.scheduled ++ [⟨l.scheduled.length, r, now, schedule.last, deadline, false⟩])
    (hinbound : l'.inbound = rest) (hwaiting : l'.waiting = l.waiting) :
    l'.foresees now later = l.foresees now later := by
  have hsender : l'.sender = l.sender := congrArg Kit.sender hkit
  have hplan' : l.sender.plan? l.schedule now = some (schedule, deadline) := hplan
  have hthere : l.phase ≠ .crashed := by
    intro h
    rw [hphase] at h
    cases h
  rw [foresees, foresees, outlook_of_ne_crashed hthere, outlook_of_ne_crashed hphase', hsender,
    hschedule, hscheduled, hinbound, hwaiting, hin, List.cons_append, List.map_cons, List.cons_append, Sender.plans, hplan', List.length_append,
    List.length_singleton, List.append_assoc, List.singleton_append]

/-- A worker that goes on listening when it has forwarded a result foresees the same. -/
theorem foresees_release {r : DeliveryResult} {next : AfterForward}
    (hphase : l.phase = .holding r next) (hleaving : l.phase.isLeaving = false)
    (later : List (Instant × EventRecord)) :
    (l.release next).foresees now later = l.foresees now later := by
  cases next with
  | listen =>
    have hthere : l.phase ≠ .crashed := by
      intro h
      rw [hphase] at h
      cases h
    exact foresees_congr hthere (fun h => nomatch h) rfl rfl rfl rfl
  | drain | stop =>
    rw [hphase] at hleaving
    cases hleaving

/-- What happens in a lane was foreseen, as long as the program is not cancelled and records enter
the queue in the order in which they were handed over. -/
theorem Move.foresees_eq (h : l.Move m e l') (hm : m.cancelledAt = none)
    (hleaving : l.phase.isLeaving = false) (hfirst : ∀ i, e = .enter i → i = 0)
    (later : List (Instant × EventRecord)) :
    l'.foresees m.now later = l.foresees m.now later := by
  have hgone : l.phase.isGone = true → l.phase = .crashed := by
    intro hgone
    cases hphase : l.phase with
    | crashed => rfl
    | stopped =>
      rw [hphase] at hleaving
      cases hleaving
    | listening | holding | draining =>
      rw [hphase] at hgone
      cases hgone
  have hlistening : l.phase = .listening → l.phase ≠ .crashed := by
    intro hphase h
    rw [hphase] at h
    cases h
  cases h with
  | lose hr hgone' =>
    have hcrashed := hgone hgone'
    refine (foresees_of_crashed ?_ later).trans (foresees_of_crashed hcrashed later).symm
    exact hcrashed
  | @enter i r hr hgone' hroom =>
    obtain rfl := hfirst i rfl
    have hthere : l.phase ≠ .crashed := by
      intro hphase
      rw [hphase] at hgone'
      cases hgone'
    refine foresees_congr hthere hthere rfl rfl rfl ?_
    cases hwaiting : l.waiting with
    | nil =>
      rw [hwaiting] at hr
      cases hr
    | cons first rest =>
      rw [hwaiting] at hr
      cases hr
      simp
  | @crash r rest hphase hin hplan =>
    have hplan' : l.sender.plan? l.schedule m.now = none := hplan
    rw [foresees_of_crashed rfl, foresees, outlook_of_ne_crashed (hlistening hphase), hin,
      List.cons_append, List.map_cons, List.cons_append, Sender.plans, hplan', List.append_nil]
    rfl
  | lapse hphase hin hplan hdone =>
    exact foresees_dispatch hphase hin hplan (fun h => nomatch h) rfl rfl rfl rfl rfl
  | launch hphase hin hplan hdone =>
    exact foresees_dispatch hphase hin hplan (hlistening hphase) rfl rfl rfl rfl rfl
  | complete => rfl
  | drop => rfl
  | report => rfl
  | gather hphase hr =>
    exact foresees_congr (hlistening hphase) (fun h => nomatch h) rfl rfl rfl rfl
  | @discard r next hphase hopen =>
    exact foresees_release hphase hleaving _
  | @forward r next hphase hopen hroom => exact foresees_release hphase hleaving _
  | halt hphase hcancel =>
    rw [Moment.isCancelled, hm] at hcancel
    cases hcancel
  | drain hphase hr =>
    rw [hphase] at hleaving
    cases hleaving
  | announce hphase hr =>
    rw [hphase] at hleaving
    cases hleaving

end Lane

end AlertRelay
