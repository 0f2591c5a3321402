import AlertRelay.Proofs.Pipeline.Rest

/-!
# The work that is left

A pipeline does not act forever at one instant. Every item in it counts for the hops that it has
before it, and so does everything that the parts of the program have to do themselves
(`Pipeline.work`). Whatever happens without anybody from outside makes this less
(`Pipeline.Move.work_lt`), and it is never more than the steps that a pipeline on a clock may take
(`Pipeline.work_le_effort`). So a pipeline that settles has really done everything that it can do at
this instant (`Pipeline.Reaches.act?_settle`).
-/

namespace AlertRelay

/-! ### Lanes -/

/-- The work that a worker has to do itself. -/
def WorkerPhase.work : WorkerPhase → Nat
  | .listening => 6
  | .holding _ .listen => 10
  | .holding _ .drain => 9
  | .holding _ .stop => 4
  | .draining => 5
  | .stopped => 0
  | .crashed => 0

namespace Lane

/-- The work that is left in a lane. -/
def work (l : Lane) : Nat :=
  10 * l.waiting.length + 9 * l.inbound.length + 7 * l.running.length + 6 * l.reporting.length +
    5 * l.reports.length + 3 * l.results.length + l.phase.work

variable {l l' : Lane} {m : Moment} {e : LaneEvent}

theorem length_eraseIdx_of_getElem? {α : Type} {as : List α} {i : Nat} {a : α}
    (h : as[i]? = some a) : (as.eraseIdx i).length + 1 = as.length :=
  List.length_eraseIdx_add_one (List.getElem?_eq_some_iff.1 h).1

/-- A result that is forwarded is work for the dispatcher, but the worker has less to do. -/
theorem work_release {r : DeliveryResult} {next : AfterForward}
    (hphase : l.phase = .holding r next) : (l.release next).work + 4 ≤ l.work := by
  unfold work
  rw [hphase]
  cases next with
  | listen | drain | stop =>
    simp only [release, AfterForward.phase, WorkerPhase.work, List.length_nil]
    omega

/-- Whatever happens in a lane by itself leaves less to do. -/
theorem Move.work_lt (h : l.Move m e l') : l'.work < l.work := by
  cases h with
  | lose hr | drop hr | complete hr =>
    have hlength := length_eraseIdx_of_getElem? hr
    simp only [work, List.length_append, List.length_singleton]
    omega
  | enter hr | report hr =>
    have hlength := length_eraseIdx_of_getElem? hr
    simp only [work, List.length_append, List.length_singleton]
    omega
  | crash hphase hin =>
    simp only [work, Lane.crash, hphase, hin, WorkerPhase.work, List.length_cons, List.length_nil]
    omega
  | lapse hphase hin | launch hphase hin =>
    simp only [work, hphase, hin, WorkerPhase.work, List.length_append, List.length_cons,
      List.length_nil]
    omega
  | gather hphase hr | drain hphase hr =>
    simp only [work, hphase, hr, WorkerPhase.work, List.length_cons]
    omega
  | discard hphase =>
    have hrelease := work_release hphase
    omega
  | @forward r next hphase =>
    have hrelease := work_release hphase
    have hforward : ({ l.release next with results := l.results ++ [r] } : Lane).work =
        (l.release next).work + 3 := by
      simp only [work, results_release, List.length_append, List.length_singleton]
      omega
    omega
  | halt hphase | announce hphase =>
    simp only [work, hphase, WorkerPhase.work]
    omega

/-- A lane in which nothing is preferred is at rest. -/
theorem atRest_of_preference (h : ∀ e ∈ l.preference, l.step? m e = none) : l.AtRest m := by
  intro e
  cases e with
  | enter i =>
    have hfirst : l.enter? 0 = none := h (.enter 0) (by simp [preference])
    cases hwaiting : l.waiting with
    | nil => simp [step?, enter?, hwaiting]
    | cons r rest =>
      simp only [enter?, hwaiting, List.getElem?_cons_zero, Option.bind_some] at hfirst
      split at hfirst
      · cases hfirst
      · rename_i hthere
        split at hfirst
        · cases hfirst
        · rename_i hfull
          simp [step?, enter?, hthere, hfull]
  | complete i =>
    by_cases hi : i < l.running.length
    · exact h _ (by simp [preference, hi])
    · have hd : l.running[i]? = none := List.getElem?_eq_none (Nat.le_of_not_lt hi)
      simp [step?, complete?, hd]
  | report i =>
    have hfirst : l.report? 0 = none := h (.report 0) (by simp [preference])
    cases hreporting : l.reporting with
    | nil => simp [step?, report?, hreporting]
    | cons r rest =>
      simp only [report?, hreporting, List.getElem?_cons_zero, Option.bind_some] at hfirst
      split at hfirst
      · cases hfirst
      · rename_i hthere
        split at hfirst
        · cases hfirst
        · rename_i hfull
          simp [step?, report?, hthere, hfull]
  | _ => exact h _ (by simp [preference])

/-- A lane has a bounded number of steps to make, with one more for each delivery. -/
theorem work_add_running_le (l : Lane) : l.work + l.running.length ≤ 3 * l.effort := by
  have hphase : l.phase.work ≤ 10 := by
    cases l.phase with
    | holding r next => cases next <;> simp [WorkerPhase.work]
    | _ => simp [WorkerPhase.work]
  unfold work effort
  omega

end Lane

/-! ### The ledger -/

namespace Ledger

/-- The work that is left for the bookkeeper. -/
def work (l : Ledger) : Nat :=
  l.queue.length + 2 * l.overflow.length + l.final.isNone.toNat

variable {l l' : Ledger}

theorem work_record_le (l : Ledger) (u : Update) : (l.record u).work ≤ l.work + 2 := by
  unfold work
  rw [final_record, record]
  split <;> simp only [List.length_append, List.length_singleton] <;> omega

theorem work_tally_le (l : Ledger) (r : DeliveryResult) : (l.tally r).work ≤ l.work + 2 := by
  unfold tally
  split
  · exact l.work_record_le _
  · exact Nat.le_add_right _ _

/-- If the increment that waits first cannot enter the queue, no other one can. -/
theorem enter?_eq_none (h : l.enter? 0 = none) (i : Nat) : l.enter? i = none := by
  unfold enter? at h ⊢
  split
  · rename_i hroom
    rw [if_pos hroom] at h
    have hempty : l.overflow = [] := by simpa using h
    simp [hempty]
  · rfl

/-- Whatever the bookkeeper does leaves less to do, but for the summaries. -/
theorem work_lt_of_step? {e : LedgerEvent} (he : e.isOwn = true) (hsummary : e ≠ .summarise)
    (h : l.step? e = some l') : l'.work < l.work := by
  cases e with
  | record | close => cases he
  | summarise => exact absurd rfl hsummary
  | enter i =>
    obtain ⟨u, hu, -, rfl⟩ := eq_of_enter? h
    have hlength := Lane.length_eraseIdx_of_getElem? hu
    simp only [work, List.length_append, List.length_singleton]
    omega
  | apply =>
    obtain ⟨u, rest, hqueue, -, rfl⟩ := eq_of_take? h
    simp only [work, hqueue, List.length_cons]
    omega
  | finish =>
    obtain ⟨hfinal, -, -, -, rfl⟩ := eq_of_finish? h
    simp [work, hfinal]

theorem work_le_effort (l : Ledger) : l.work ≤ l.effort := by
  have hfinal := l.final.isNone.toNat_le
  unfold work effort
  omega

end Ledger

/-! ### The pipeline -/

/-- The work that the dispatcher has to do itself when there are this many lanes. -/
def DispatcherPhase.work (lanes : Nat) : DispatcherPhase → Nat
  | .listening => lanes + 3
  | .fanning _ i => 13 * (lanes - i) + lanes + 6
  | .closing i _ => lanes - i + 2
  | .settling => 1
  | .stopped => 0

namespace Pipeline

/-- What some lanes count for together. -/
def sumLanes (f : Lane → Nat) (lanes : List Lane) : Nat :=
  (lanes.map f).foldr (· + ·) 0

/-- The work that is left in a pipeline. A record that nobody took yet counts for all lanes. -/
def work (p : Pipeline) : Nat :=
  p.inbound.length * (13 * p.lanes.length + 4) + p.phase.work p.lanes.length +
    sumLanes Lane.work p.lanes + p.ledger.work + p.moment.cancelledAt.isNone.toNat

variable {p₀ p q : Pipeline} {e : PipelineEvent}

/-- Only the lane that changes makes a difference. -/
theorem sumLanes_set (f : Lane → Nat) {lanes : List Lane} {i : Nat} {l : Lane} (l' : Lane)
    (hl : lanes[i]? = some l) :
    sumLanes f (lanes.set i l') + f l = sumLanes f lanes + f l' := by
  induction lanes generalizing i with
  | nil => cases hl
  | cons first lanes ih =>
    cases i with
    | zero =>
      obtain rfl : first = l := Option.some.inj hl
      simp only [sumLanes, List.set_cons_zero, List.map_cons, List.foldr_cons]
      omega
    | succ i =>
      have hrest := ih (i := i) hl
      simp only [sumLanes, List.set_cons_succ, List.map_cons, List.foldr_cons] at hrest ⊢
      omega

theorem sumLanes_set_eq {f : Lane → Nat} {lanes : List Lane} {i : Nat} {l l' : Lane}
    (hl : lanes[i]? = some l) (hsame : f l' = f l) :
    sumLanes f (lanes.set i l') = sumLanes f lanes := by
  have hset := sumLanes_set f l' hl
  omega

theorem sumLanes_le {f g : Lane → Nat} {lanes : List Lane} (h : ∀ l ∈ lanes, f l ≤ g l) :
    sumLanes f lanes ≤ sumLanes g lanes := by
  induction lanes with
  | nil => exact Nat.le_refl _
  | cons l lanes ih =>
    have hl := h l List.mem_cons_self
    have hrest := ih fun l hl => h l (List.mem_cons_of_mem _ hl)
    simp only [sumLanes, List.map_cons, List.foldr_cons] at hrest ⊢
    omega

theorem sumLanes_lt {f g : Lane → Nat} {lanes : List Lane} (h : ∀ l ∈ lanes, f l ≤ g l)
    {l : Lane} (hl : l ∈ lanes) (hlt : f l < g l) : sumLanes f lanes < sumLanes g lanes := by
  obtain ⟨before, after, rfl⟩ := List.append_of_mem hl
  induction before with
  | nil =>
    have hrest := sumLanes_le fun l (hl : l ∈ after) => h l (List.mem_cons_of_mem _ hl)
    simp only [sumLanes, List.nil_append, List.map_cons, List.foldr_cons] at hrest ⊢
    omega
  | cons first before ih =>
    have hfirst := h first List.mem_cons_self
    have hrest := ih (fun l hl => h l (List.mem_cons_of_mem _ hl))
      (List.mem_append_right _ List.mem_cons_self)
    simp only [sumLanes, List.cons_append, List.map_cons, List.foldr_cons] at hrest ⊢
    omega

theorem sumLanes_add (f g : Lane → Nat) (lanes : List Lane) :
    sumLanes (fun l => f l + g l) lanes = sumLanes f lanes + sumLanes g lanes := by
  induction lanes with
  | nil => rfl
  | cons l lanes ih =>
    simp only [sumLanes, List.map_cons, List.foldr_cons] at ih ⊢
    omega

theorem sumLanes_mul (k : Nat) (f : Lane → Nat) (lanes : List Lane) :
    sumLanes (fun l => k * f l) lanes = k * sumLanes f lanes := by
  induction lanes with
  | nil => rfl
  | cons l lanes ih =>
    simp only [sumLanes, List.map_cons, List.foldr_cons, Nat.mul_add] at ih ⊢
    rw [ih]

/-- What is done in one lane changes the work that is left there. -/
theorem work_setLane {i : Nat} {l : Lane} (l' : Lane) (hl : p.lanes[i]? = some l) :
    (p.setLane i l').work + l.work = p.work + l'.work := by
  have hsum := sumLanes_set Lane.work l' hl
  simp only [work, setLane, List.length_set]
  omega

/-- A cancellation leaves one thing less that can happen. -/
theorem work_cancel (hun : p.moment.cancelledAt = none) : p.cancel.work + 1 = p.work := by
  simp only [work, cancel, hun, Option.isNone_some, Option.isNone_none, Bool.toNat_false,
    Bool.toNat_true]

/-- A result that is taken is less work for the dispatcher than it was. -/
theorem work_receive_lt {i : Nat} {l : Lane} {r : DeliveryResult} {rest : List DeliveryResult}
    (hl : p.lanes[i]? = some l) (hr : l.results = r :: rest) :
    (p.receive i { l with results := rest } r).work < p.work := by
  have hset := work_setLane { l with results := rest } hl
  have htaken : ({ l with results := rest } : Lane).work + 3 = l.work := by
    simp only [Lane.work, hr, List.length_cons]
    omega
  have hledger := p.ledger.work_tally_le r
  simp only [work, receive, setLane, List.length_set] at hset ⊢
  omega

/-- A pipeline has a bounded number of steps to make, with one more for each delivery. -/
theorem work_add_running_le (p : Pipeline) :
    p.work + sumLanes (fun l => l.running.length) p.lanes ≤ p.effort := by
  have hlanes : sumLanes Lane.work p.lanes + sumLanes (fun l => l.running.length) p.lanes ≤
      3 * sumLanes Lane.effort p.lanes := by
    rw [← sumLanes_mul, ← sumLanes_add]
    exact sumLanes_le fun l _ => l.work_add_running_le
  have hledger := p.ledger.work_le_effort
  have hinbound : p.inbound.length * (13 * p.lanes.length + 4) ≤
      p.inbound.length * (p.lanes.length * laneLoad + 4) := by
    refine Nat.mul_le_mul (Nat.le_refl _) ?_
    unfold laneLoad
    omega
  have huncancelled := p.moment.cancelledAt.isNone.toNat_le
  unfold work effort
  unfold sumLanes at hlanes ⊢
  cases p.phase <;> simp only [DispatcherPhase.work, laneLoad] at hinbound ⊢ <;> omega

theorem work_le_effort (p : Pipeline) : p.work ≤ p.effort :=
  Nat.le_trans (Nat.le_add_right _ _) p.work_add_running_le

/-- Whatever happens without anybody from outside leaves less to do. -/
theorem Move.work_lt (h : p.Move e q) (he : e.isInternal = true) (hp : p.moment.Timely) :
    q.work < p.work := by
  cases h with
  | accept | cancel | pass => cases he
  | @lane i l l' e hl h =>
    have hlane := (Lane.move_of_step? h).work_lt
    have hset := work_setLane (p := p) l' hl
    omega
  | @trip i j l d hl hd hmust =>
    -- Only a program that is not cancelled can be cancelled by a delivery.
    have hun : p.moment.cancelledAt = none := by
      cases hc : p.moment.cancelledAt with
      | none => rfl
      | some t =>
        rw [Lane.mustTrip, hp.isCancelled hc] at hmust
        cases hmust
    have hset := work_setLane
      { l with running := l.running.modify j fun d => { d with tripped := true } } hl
    have hsame : ({ l with running := l.running.modify j fun d => { d with tripped := true } } :
        Lane).work = l.work := by simp only [Lane.work, List.length_modify]
    have hcancel := work_cancel (p := p.setLane i
      { l with running := l.running.modify j fun d => { d with tripped := true } }) hun
    omega
  | @ledger event ledger hown h =>
    have hsummary : event ≠ .summarise := by
      rintro rfl
      cases he
    have hledger := Ledger.work_lt_of_step? hown hsummary h
    simp only [work]
    omega
  | take hphase hin =>
    simp only [work, hphase, hin, DispatcherPhase.work, List.length_cons, Nat.add_mul]
    omega
  | @hand r i l hphase hl =>
    have hi : i < p.lanes.length := (List.getElem?_eq_some_iff.1 hl).1
    have hsum := sumLanes_set Lane.work (l.offer r) hl
    have hoffer : (l.offer r).work = l.work + 10 := by
      simp only [Lane.work, Lane.offer, List.length_append, List.length_singleton]
      omega
    have hledger := p.ledger.work_record_le (.sent l.channel)
    simp only [work, setLane, List.length_set, hphase, DispatcherPhase.work]
    omega
  | count hphase hl =>
    have hledger := p.ledger.work_record_le .received
    simp only [work, hphase, DispatcherPhase.work]
    omega
  | tally hphase hl hr | collect hphase hl hr => exact work_receive_lt hl hr
  | halt hphase =>
    simp only [work, hphase, DispatcherPhase.work, List.length_nil]
    omega
  | advance hphase hl =>
    have hi := (List.getElem?_eq_some_iff.1 hl).1
    simp only [work, hphase, DispatcherPhase.work]
    omega
  | @abandon i since l hphase hl =>
    have hi := (List.getElem?_eq_some_iff.1 hl).1
    have hsum := sumLanes_set Lane.work l.abandon hl
    have hless : l.abandon.work ≤ l.work := by
      simp only [Lane.work, Lane.abandon, List.length_nil]
      omega
    simp only [work, setLane, List.length_set, hphase, DispatcherPhase.work]
    omega
  | close hphase =>
    simp only [work, hphase, DispatcherPhase.work, Ledger.work]
    omega
  | finish hphase =>
    simp only [work, hphase, DispatcherPhase.work]
    omega

/-! ### Settling -/

/-- What lanes do is done by one of them, or one of them cancels the program. -/
theorem eq_of_mem_lanePreference (h : e ∈ p.lanePreference) :
    (∃ i j, e = .trip i j) ∨ ∃ i event, e = .lane i event := by
  rcases List.mem_append.1 h with htrip | hevent
  · obtain ⟨i, -, hi⟩ := List.mem_flatMap.1 htrip
    split at hi
    · obtain ⟨j, -, rfl⟩ := List.mem_map.1 hi
      exact .inl ⟨i, j, rfl⟩
    · cases hi
  · obtain ⟨i, -, hi⟩ := List.mem_flatMap.1 hevent
    split at hi
    · obtain ⟨event, -, rfl⟩ := List.mem_map.1 hi
      exact .inr ⟨i, event, rfl⟩
    · cases hi

/-- What the program prefers to do needs nobody from outside. -/
theorem isInternal_of_nextEvent? (h : p.nextEvent? = some e) : e.isInternal = true := by
  rcases List.mem_append.1 (List.mem_of_find?_eq_some h) with hlane | hdispatcher
  · rcases eq_of_mem_lanePreference hlane with ⟨i, j, rfl⟩ | ⟨i, event, rfl⟩
    · rfl
    · rfl
  · cases e with
    | accept | cancel | pass => simp [dispatcherPreference] at hdispatcher
    | ledger e =>
      cases e with
      | summarise => simp [dispatcherPreference] at hdispatcher
      | _ => rfl
    | _ => rfl

/-- What the program prefers to do leaves less to do. -/
theorem work_lt_of_act? (h : p.act? = some q) (hp : p.moment.Timely) : q.work < p.work := by
  obtain ⟨-, e, he, hstep⟩ := exists_of_act? h
  exact (move_of_step? hstep).work_lt (isInternal_of_nextEvent? he) hp

theorem lane_mem_lanePreference {i : Nat} {l : Lane} (hl : p.lanes[i]? = some l) {e : LaneEvent}
    (he : e ∈ l.preference) : PipelineEvent.lane i e ∈ p.lanePreference := by
  refine List.mem_append_right _ (List.mem_flatMap.2 ⟨i, ?_, ?_⟩)
  · exact List.mem_range.2 (List.getElem?_eq_some_iff.1 hl).1
  · rw [hl]
    exact List.mem_map_of_mem he

theorem trip_mem_lanePreference {i j : Nat} {l : Lane} (hl : p.lanes[i]? = some l)
    (hj : j < l.running.length) : PipelineEvent.trip i j ∈ p.lanePreference := by
  refine List.mem_append_left _ (List.mem_flatMap.2 ⟨i, ?_, ?_⟩)
  · exact List.mem_range.2 (List.getElem?_eq_some_iff.1 hl).1
  · rw [hl]
    exact List.mem_map_of_mem (List.mem_range.2 hj)

/-- A pipeline in which nothing is preferred is at rest. -/
theorem atRest_of_nextEvent? (h : p.nextEvent? = none) : p.AtRest := by
  have hnone : ∀ e ∈ p.lanePreference ++ p.dispatcherPreference, p.step? e = none := fun e he =>
    Option.not_isSome_iff_eq_none.1 (List.find?_eq_none.1 h e he)
  have hlanes : ∀ e ∈ p.lanePreference, p.step? e = none := fun e he =>
    hnone e (List.mem_append_left _ he)
  have hdispatcher : ∀ e ∈ p.dispatcherPreference, p.step? e = none := fun e he =>
    hnone e (List.mem_append_right _ he)
  intro e he
  cases e with
  | accept | cancel | pass => cases he
  | lane i e =>
    cases hl : p.lanes[i]? with
    | none => simp [step?, laneStep?, hl]
    | some l =>
      have hrest : l.AtRest p.moment := by
        refine Lane.atRest_of_preference fun e he => ?_
        have hstep : p.laneStep? i e = none := hlanes _ (lane_mem_lanePreference hl he)
        simpa [laneStep?, hl] using hstep
      simp [step?, laneStep?, hl, hrest e]
  | trip i j =>
    cases hl : p.lanes[i]? with
    | none => simp [step?, trip?, hl]
    | some l =>
      by_cases hj : j < l.running.length
      · exact hlanes _ (trip_mem_lanePreference hl hj)
      · have hd : l.running[j]? = none := List.getElem?_eq_none (Nat.le_of_not_lt hj)
        simp [step?, trip?, hl, Lane.trip?, hd]
  | tally i =>
    by_cases hi : i < p.lanes.length
    · refine hdispatcher _ ?_
      simp [dispatcherPreference, hi]
    · have hl : p.lanes[i]? = none := List.getElem?_eq_none (Nat.le_of_not_lt hi)
      simp only [step?, tally?, takeResult?, hl, Option.bind_none]
      cases p.phase <;> rfl
  | ledger e =>
    cases e with
    | record | close => rfl
    | summarise => cases he
    | enter i =>
      have hfirst := hdispatcher (.ledger (.enter 0)) (by simp [dispatcherPreference])
      have hledger : p.ledger.enter? 0 = none := Option.map_eq_none_iff.1 hfirst
      have henter : p.ledger.step? (.enter i) = none := Ledger.enter?_eq_none hledger i
      simp [step?, ledgerStep?, henter]
    | _ => exact hdispatcher _ (by simp [dispatcherPreference])
  | _ => exact hdispatcher _ (by simp [dispatcherPreference])

/-- A pipeline that does nothing is at rest, unless it has stopped. -/
theorem atRest_of_act? (h : p.act? = none) (hstopped : p.isStopped = false) : p.AtRest := by
  refine atRest_of_nextEvent? ?_
  unfold act? at h
  rw [hstopped] at h
  cases hnext : p.nextEvent? with
  | none => rfl
  | some e =>
    have hsome := List.find?_some hnext
    have hnone : p.step? e = none := by simpa [hnext] using h
    rw [hnone] at hsome
    cases hsome

/-- A pipeline that has settled can do nothing more at this instant. -/
theorem Reaches.act?_settle (h : p₀.Reaches p) (hp : p₀.Fresh) :
    (Clockwork.settle p).act? = none :=
  Clockwork.act?_settleFor (P := p₀.Reaches) (f := work)
    (fun _ _ hact h => h.trans (reaches_of_act? hact))
    (fun _ _ hact h => work_lt_of_act? hact (h.timely hp)) h p.work_le_effort

end Pipeline

end AlertRelay
