import AlertRelay.Proofs.Delivery.Course
import AlertRelay.Proofs.Lane.Move
import Mathlib.Algebra.Order.Group.Multiset
import Mathlib.Tactic.Abel

/-!
# Conservation in a lane

A lane passes on records, deliveries and results. Nothing that happens in it makes one of them
appear twice, and none gets lost as long as the worker is there and somebody takes its results.

* A record that was handed over waits, is in the queue or is scheduled (`Lane.Carries`).
* A delivery that was scheduled is running or concluded (`Lane.Tracks`).
* A result with which a delivery was concluded was taken or is still on its way
  (`Lane.Balances`).

Each is an equation between multisets, with a term for what is lost that is nothing in a lane that
works.
-/

namespace AlertRelay

/-- The result that a worker holds. -/
def WorkerPhase.held : WorkerPhase → List DeliveryResult
  | .holding r _ => [r]
  | _ => []

/-- The delivery as it was scheduled. -/
def Delivery.planned (d : Delivery) : Delivery :=
  { d with tripped := false }

section Multiset

variable {α : Type}

theorem coe_append (l₁ l₂ : List α) : (↑(l₁ ++ l₂) : Multiset α) = ↑l₁ + ↑l₂ :=
  (Multiset.coe_add l₁ l₂).symm

theorem coe_cons (a : α) (l : List α) : (↑(a :: l) : Multiset α) = {a} + ↑l := rfl

/-- Taking an element out of a list. -/
theorem coe_eq_add_eraseIdx {l : List α} {i : Nat} {a : α} (h : l[i]? = some a) :
    (l : Multiset α) = {a} + ↑(l.eraseIdx i) := by
  obtain ⟨hi, rfl⟩ := List.getElem?_eq_some_iff.1 h
  rw [← coe_cons]
  exact (Multiset.coe_eq_coe.2 (List.getElem_cons_eraseIdx_perm hi)).symm

end Multiset

/-- The results of deliveries among some results: the notices are left out. -/
def genuine (rs : List DeliveryResult) : Multiset DeliveryResult :=
  ↑(rs.filter fun r => !r.isNotice)

@[simp] theorem genuine_nil : genuine [] = 0 := rfl

theorem genuine_append (rs ss : List DeliveryResult) :
    genuine (rs ++ ss) = genuine rs + genuine ss := by
  rw [genuine, List.filter_append, coe_append]
  rfl

theorem genuine_cons (r : DeliveryResult) (rs : List DeliveryResult) :
    genuine (r :: rs) = genuine [r] + genuine rs :=
  genuine_append [r] rs

theorem genuine_eraseIdx {rs : List DeliveryResult} {i : Nat} {r : DeliveryResult}
    (h : rs[i]? = some r) : genuine rs = genuine [r] + genuine (rs.eraseIdx i) := by
  obtain ⟨hi, rfl⟩ := List.getElem?_eq_some_iff.1 h
  rw [← genuine_cons]
  exact (Multiset.coe_eq_coe.2 ((List.getElem_cons_eraseIdx_perm hi).filter _)).symm

/-- The result of a delivery is no notice. -/
theorem genuine_of_isAbout {r : DeliveryResult} {ch : Channel} (h : r.IsAbout ch) :
    genuine [r] = {r} := by
  simp [genuine, h.2]

@[simp] theorem genuine_notice (ch : Channel) (message : String) :
    genuine [.notice ch message] = 0 := rfl

namespace Lane

/-- Whether what comes into a lane comes out of it: the worker is there, and somebody takes what it
reports. -/
def Works (l : Lane) : Prop :=
  l.phase.isGone = false ∧ l.resultsOpen = true

/-- The results on their way from the deliveries to whoever takes them. -/
def afloat (l : Lane) : Multiset DeliveryResult :=
  genuine l.reporting + genuine l.reports + genuine l.phase.held + genuine l.results

/-- The records that were handed over and are not scheduled yet. -/
def ashore (l : Lane) : Multiset EventRecord :=
  ↑(l.inbound ++ l.waiting)

/-- The results of all deliveries that are over. -/
def outcomes (l : Lane) : Multiset DeliveryResult :=
  ↑(l.concluded.map Conclusion.result)

/-- Every record that was handed over is on its way to the worker, scheduled or lost, and none is
lost while the worker is there. -/
def Carries (l : Lane) (handed : Multiset EventRecord) : Prop :=
  ∃ lost, handed = ↑(l.scheduled.map Delivery.record) + l.ashore + lost ∧
    (l.phase.isGone = false → lost = 0)

/-- Every delivery is either running or over. -/
def Tracks (l : Lane) : Prop :=
  (l.scheduled : Multiset Delivery) =
    ↑(l.running.map Delivery.planned) + ↑(l.concluded.map fun c => c.delivery.planned)

/-- Every result of a delivery was taken, is on its way or is lost, and none is lost while the lane
works. -/
def Balances (l : Lane) (taken : Multiset DeliveryResult) : Prop :=
  ∃ lost, l.outcomes = taken + l.afloat + lost ∧ (l.Works → lost = 0)

variable {l l' : Lane} {m : Moment} {e : LaneEvent}

/-! ### Records -/

/-- What does not touch the records before the worker, and brings no worker back, keeps them. -/
theorem Carries.congr {handed : Multiset EventRecord} (hl : l.Carries handed)
    (hwaiting : l'.waiting = l.waiting) (hinbound : l'.inbound = l.inbound)
    (hscheduled : l'.scheduled = l.scheduled)
    (hgone : l'.phase.isGone = false → l.phase.isGone = false) : l'.Carries handed := by
  obtain ⟨lost, hsum, hnone⟩ := hl
  refine ⟨lost, ?_, fun hthere => hnone (hgone hthere)⟩
  rw [hsum, ashore, ashore, hwaiting, hinbound, hscheduled]

/-- A worker that stops takes the records in its queue with it. -/
theorem Carries.release {handed : Multiset EventRecord} (hl : l.Carries handed)
    (hthere : l.phase.isGone = false) (next : AfterForward) : (l.release next).Carries handed := by
  cases next with
  | stop =>
    obtain ⟨lost, hsum, hnone⟩ := hl
    refine ⟨l.inbound + lost, ?_, fun hgone => nomatch hgone⟩
    rw [hsum, ashore, ashore, coe_append]
    simp only [Lane.release, List.nil_append]
    abel
  | listen => exact hl.congr rfl rfl rfl fun _ => hthere
  | drain => exact hl.congr rfl rfl rfl fun _ => hthere

/-- No record gets lost before a worker that is there. -/
theorem Carries.move {handed : Multiset EventRecord} (h : l.Move m e l')
    (hl : l.Carries handed) : l'.Carries handed := by
  cases h with
  | @lose _ r hr hgone =>
    obtain ⟨lost, hsum, hnone⟩ := hl
    refine ⟨{r} + lost, ?_, fun hthere => ?_⟩
    · rw [hsum, ashore, ashore, coe_append, coe_append, coe_eq_add_eraseIdx hr]
      abel
    · rw [hgone] at hthere
      cases hthere
  | enter hr hgone hroom =>
    obtain ⟨lost, hsum, hnone⟩ := hl
    refine ⟨lost, ?_, hnone⟩
    rw [hsum, ashore, ashore, coe_append, coe_append, coe_append, coe_eq_add_eraseIdx hr,
      Multiset.coe_singleton]
    abel
  | crash hphase hin hplan =>
    obtain ⟨lost, hsum, hnone⟩ := hl
    refine ⟨l.inbound + lost, ?_, fun hthere => nomatch hthere⟩
    rw [hsum, ashore, ashore, coe_append]
    simp only [crash, List.nil_append]
    abel
  | lapse hphase hin hplan hdone =>
    obtain ⟨lost, hsum, hnone⟩ := hl
    refine ⟨lost, ?_, fun _ => hnone (by rw [hphase]; rfl)⟩
    rw [hsum, ashore, ashore, hin, List.map_append, coe_append, coe_append, coe_append, coe_cons]
    simp only [List.map_cons, List.map_nil, Multiset.coe_singleton]
    abel
  | launch hphase hin hplan hdone =>
    obtain ⟨lost, hsum, hnone⟩ := hl
    refine ⟨lost, ?_, hnone⟩
    rw [hsum, ashore, ashore, hin, List.map_append, coe_append, coe_append, coe_append, coe_cons]
    simp only [List.map_cons, List.map_nil, Multiset.coe_singleton]
    abel
  | discard hphase hopen => exact hl.release (by rw [hphase]; rfl) _
  | forward hphase hopen hroom =>
    exact (hl.release (by rw [hphase]; rfl) _).congr rfl rfl rfl id
  | complete hd hend ht htrip => exact hl.congr rfl rfl rfl id
  | drop hr hgone => exact hl.congr rfl rfl rfl id
  | report hr hgone hroom => exact hl.congr rfl rfl rfl id
  | gather hphase hr => exact hl.congr rfl rfl rfl fun _ => by rw [hphase]; rfl
  | halt hphase hcancel => exact hl.congr rfl rfl rfl fun _ => by rw [hphase]; rfl
  | drain hphase hr => exact hl.congr rfl rfl rfl fun _ => by rw [hphase]; rfl
  | announce hphase hr => exact hl.congr rfl rfl rfl fun _ => by rw [hphase]; rfl

/-- A record that is handed over is carried from then on. -/
theorem Carries.offer {handed : Multiset EventRecord} (hl : l.Carries handed) (r : EventRecord) :
    (l.offer r).Carries (handed + {r}) := by
  obtain ⟨lost, hsum, hnone⟩ := hl
  refine ⟨lost, ?_, hnone⟩
  rw [hsum, ashore, ashore, coe_append, coe_append]
  simp only [Lane.offer, coe_append, Multiset.coe_singleton]
  abel

/-! ### Deliveries -/

/-- A delivery runs until it is over. -/
theorem Tracks.move (h : l.Move m e l') (hl : l.Tracks) : l'.Tracks := by
  unfold Tracks at hl ⊢
  have hsame := h.sameDeliveries
  cases h with
  | lapse hphase hin hplan hdone =>
    simp only [List.map_append, coe_append, hl, List.map_cons, List.map_nil, Delivery.planned]
    abel
  | launch hphase hin hplan hdone =>
    simp only [List.map_append, coe_append, hl, List.map_cons, List.map_nil, Delivery.planned]
    abel
  | @complete i d _ _ hd hend ht htrip =>
    have hplanned : (l.running.map Delivery.planned)[i]? = some d.planned := by
      rw [List.getElem?_map, hd]
      rfl
    rw [hl, coe_eq_add_eraseIdx hplanned, List.eraseIdx_map]
    simp only [List.map_append, coe_append, List.map_cons, List.map_nil, Multiset.coe_singleton]
    abel
  | crash hphase hin hplan => exact hl
  | _ =>
    have h := hsame (fun he => nomatch he) fun _ he => nomatch he
    rw [h.scheduled, h.running, h.concluded]
    exact hl

/-- A delivery that cancels the program is still the one that was scheduled. -/
theorem map_planned_modify (ds : List Delivery) (j : Nat) :
    (ds.modify j fun d => { d with tripped := true }).map Delivery.planned =
      ds.map Delivery.planned := by
  refine List.ext_getElem? ?_
  intro i
  rw [List.getElem?_map, List.getElem?_map, List.getElem?_modify]
  cases ds[i]? with
  | none => rfl
  | some d => by_cases hij : j = i <;> simp [hij, Delivery.planned]

/-- The dispatcher has no part in what becomes of deliveries. -/
theorem Tracks.change (h : l.Change m l') (hl : l.Tracks) : l'.Tracks := by
  cases h with
  | move h => exact hl.move h
  | trip j =>
    unfold Tracks at hl ⊢
    rw [map_planned_modify]
    exact hl
  | _ => exact hl

/-- A delivery that runs was planned. -/
theorem Tracks.planned_mem {d : Delivery} (ht : l.Tracks) (hd : d ∈ l.running) :
    d.planned ∈ l.scheduled := by
  have hmem : d.planned ∈ (l.scheduled : Multiset Delivery) := by
    rw [ht]
    exact Multiset.mem_add.2 (.inl (Multiset.mem_coe.2 (List.mem_map_of_mem hd)))
  exact Multiset.mem_coe.1 hmem

/-- If no delivery has cancelled the program, then all were planned as they are, and each is running
or over. -/
theorem Tracks.scheduled_perm (ht : l.Tracks) (hrunning : ∀ d ∈ l.running, d.tripped = false)
    (hconcluded : ∀ c ∈ l.concluded, c.delivery.tripped = false) :
    l.scheduled.Perm (l.running ++ l.concluded.map Conclusion.delivery) := by
  have hplanned : ∀ d : Delivery, d.tripped = false → d.planned = d := by
    rintro ⟨number, r, launched, slot, deadline, tripped⟩ rfl
    rfl
  have hsame : l.running.map Delivery.planned = l.running := by
    rw [List.map_congr_left fun d hd => hplanned d (hrunning d hd), List.map_id']
  have hover : (l.concluded.map fun c => c.delivery.planned) =
      l.concluded.map Conclusion.delivery :=
    List.map_congr_left fun c hc => hplanned c.delivery (hconcluded c hc)
  rw [Tracks, hsame, hover, ← coe_append] at ht
  exact Multiset.coe_eq_coe.1 ht

/-! ### Results -/

/-- What does not touch the results, and sets no lane to work, keeps them. -/
theorem Balances.congr {taken : Multiset DeliveryResult} (hl : l.Balances taken)
    (hafloat : l'.afloat = l.afloat) (hconcluded : l'.concluded = l.concluded)
    (hworks : l'.Works → l.Works) : l'.Balances taken := by
  obtain ⟨lost, hsum, hnone⟩ := hl
  refine ⟨lost, ?_, fun hw => hnone (hworks hw)⟩
  rw [outcomes, hconcluded, hafloat, ← hsum, outcomes]

/-- The lane without the result that its worker holds. -/
theorem afloat_of_holding {r : DeliveryResult} {next : AfterForward}
    (hphase : l.phase = .holding r next) :
    l.afloat = genuine [r] + (genuine l.reporting + genuine l.reports + genuine l.results) := by
  rw [afloat, hphase, WorkerPhase.held]
  abel

/-- A worker that stops takes the results in its queue with it. -/
theorem afloat_release (l : Lane) (next : AfterForward) :
    ∃ lost, genuine l.reporting + genuine l.reports + genuine l.results =
      (l.release next).afloat + lost ∧ ((l.release next).phase.isGone = false → lost = 0) := by
  cases next with
  | stop =>
    refine ⟨genuine l.reports, ?_, fun hgone => nomatch hgone⟩
    simp only [afloat, release, WorkerPhase.held, genuine_nil]
    abel
  | listen =>
    refine ⟨0, ?_, fun _ => rfl⟩
    simp only [afloat, release, AfterForward.phase, WorkerPhase.held, genuine_nil]
    abel
  | drain =>
    refine ⟨0, ?_, fun _ => rfl⟩
    simp only [afloat, release, AfterForward.phase, WorkerPhase.held, genuine_nil]
    abel

/-- A result that nobody takes is lost. -/
theorem Balances.discard {taken : Multiset DeliveryResult} {r : DeliveryResult}
    {next : AfterForward} (hl : l.Balances taken) (hphase : l.phase = .holding r next)
    (hopen : l.resultsOpen = false) : (l.release next).Balances taken := by
  obtain ⟨lost, hsum, -⟩ := hl
  obtain ⟨left, hleft, -⟩ := l.afloat_release next
  refine ⟨genuine [r] + left + lost, ?_, fun hworks => ?_⟩
  · rw [outcomes, (sameDeliveries_release l next).concluded, ← outcomes, hsum,
      afloat_of_holding hphase, hleft]
    abel
  · rw [Works, resultsOpen_release, hopen] at hworks
    cases hworks.2

/-- A result that is forwarded is in the queue of results. -/
theorem Balances.forward {taken : Multiset DeliveryResult} {r : DeliveryResult}
    {next : AfterForward} (hl : l.Balances taken) (hphase : l.phase = .holding r next) :
    ({ l.release next with results := l.results ++ [r] } : Lane).Balances taken := by
  obtain ⟨lost, hsum, hnone⟩ := hl
  obtain ⟨left, hleft, hstays⟩ := l.afloat_release next
  refine ⟨left + lost, ?_, fun hworks => ?_⟩
  · have hafloat : ({ l.release next with results := l.results ++ [r] } : Lane).afloat =
        genuine [r] + (l.release next).afloat := by
      simp only [afloat, genuine_append, results_release]
      abel
    rw [hafloat]
    simp only [outcomes, (sameDeliveries_release l next).concluded] at hsum ⊢
    rw [hsum,
      afloat_of_holding hphase, hleft]
    abel
  · have hopen : l.resultsOpen = true := by
      rw [← resultsOpen_release l next]
      exact hworks.2
    rw [hstays hworks.1, hnone ⟨by rw [hphase]; rfl, hopen⟩]
    rfl

/-- No result gets lost in a lane that works. -/
theorem Balances.move {taken : Multiset DeliveryResult} (h : l.Move m e l')
    (hl : l.Balances taken) : l'.Balances taken := by
  cases h with
  | lose hr hgone => exact hl.congr rfl rfl id
  | enter hr hgone hroom => exact hl.congr rfl rfl id
  | crash hphase hin hplan =>
    obtain ⟨lost, hsum, hnone⟩ := hl
    refine ⟨genuine l.reports + lost, ?_, fun hworks => nomatch hworks.1⟩
    simp only [outcomes, afloat, crash, hphase, WorkerPhase.held, genuine_nil] at hsum ⊢
    rw [hsum]
    abel
  | @lapse _ _ _ _ reason hphase hin hplan hdone =>
    obtain ⟨lost, hsum, hnone⟩ := hl
    refine ⟨lost, ?_, fun hworks => hnone ⟨by rw [hphase]; rfl, hworks.2⟩⟩
    have hone := genuine_of_isAbout
      (DeliveryResult.isAbout_cancelled l.channel (lateNotice reason l.channel))
    simp only [outcomes, afloat, hphase, WorkerPhase.held, genuine_nil, List.map_append,
      coe_append, List.map_cons, List.map_nil, Multiset.coe_singleton, hone] at hsum ⊢
    rw [hsum]
    abel
  | launch hphase hin hplan hdone => exact hl.congr rfl rfl id
  | complete hd hend ht htrip =>
    obtain ⟨lost, hsum, hnone⟩ := hl
    refine ⟨lost, ?_, hnone⟩
    have hone := genuine_of_isAbout (Sender.send_isAbout hend)
    simp only [outcomes, afloat, List.map_append, coe_append, List.map_cons, List.map_nil,
      Multiset.coe_singleton, genuine_append, hone] at hsum ⊢
    rw [hsum]
    abel
  | @drop _ r hr hgone =>
    obtain ⟨lost, hsum, hnone⟩ := hl
    refine ⟨genuine [r] + lost, ?_, fun hworks => ?_⟩
    · simp only [outcomes, afloat] at hsum ⊢
      rw [hsum, genuine_eraseIdx hr]
      abel
    · have hthere : l.phase.isGone = false := hworks.1
      rw [hgone] at hthere
      cases hthere
  | report hr hgone hroom =>
    refine hl.congr ?_ rfl id
    rw [afloat, afloat, genuine_append, genuine_eraseIdx hr]
    abel
  | gather hphase hr =>
    refine hl.congr ?_ rfl fun hworks => ⟨by rw [hphase]; rfl, hworks.2⟩
    rw [afloat, afloat, hphase, hr, genuine_cons]
    simp only [WorkerPhase.held, genuine_nil]
    abel
  | discard hphase hopen => exact hl.discard hphase hopen
  | forward hphase hopen hroom => exact hl.forward hphase
  | halt hphase hcancel =>
    refine hl.congr ?_ rfl fun hworks => ⟨by rw [hphase]; rfl, hworks.2⟩
    rw [afloat, afloat, hphase]
    rfl
  | drain hphase hr =>
    refine hl.congr ?_ rfl fun hworks => ⟨by rw [hphase]; rfl, hworks.2⟩
    rw [afloat, afloat, hphase, hr, genuine_cons]
    simp only [WorkerPhase.held, genuine_nil]
    abel
  | announce hphase hr =>
    refine hl.congr ?_ rfl fun hworks => ⟨by rw [hphase]; rfl, hworks.2⟩
    rw [afloat, afloat, hphase]
    simp only [WorkerPhase.held, genuine_nil, genuine_notice]

/-- A result that is taken off the lane was taken. -/
theorem Balances.take {taken : Multiset DeliveryResult} {r : DeliveryResult}
    {rest : List DeliveryResult} (hl : l.Balances taken) (hr : l.results = r :: rest) :
    ({ l with results := rest } : Lane).Balances (taken + genuine [r]) := by
  obtain ⟨lost, hsum, hnone⟩ := hl
  refine ⟨lost, ?_, hnone⟩
  simp only [outcomes, afloat, hr] at hsum ⊢
  rw [hsum, genuine_cons]
  abel

/-- A lane that is given up loses what is in its queue of results. -/
theorem Balances.abandon {taken : Multiset DeliveryResult} (hl : l.Balances taken) :
    l.abandon.Balances taken := by
  obtain ⟨lost, hsum, -⟩ := hl
  refine ⟨genuine l.results + lost, ?_, fun hworks => nomatch hworks.2⟩
  simp only [outcomes, afloat, Lane.abandon, genuine_nil] at hsum ⊢
  rw [hsum]
  abel

end Lane

end AlertRelay
