import AlertRelay.Proofs.Delivery.Course
import AlertRelay.Proofs.Lane.Move

/-!
# What a lane holds in each phase

Everything on its way through a lane is about the channel of the lane, and a notice is only there
once the worker has begun to stop (`Lane.Labelled`). A worker that is gone stays gone and leaves
nothing in its queues (`Lane.Tidy`), and only a cancellation sets it on its way out
(`Lane.Move.isLeaving`).
-/

namespace AlertRelay

/-- Whether a worker has noticed that the program is cancelled. -/
def WorkerPhase.isLeaving : WorkerPhase → Bool
  | .holding _ .listen => false
  | .holding _ _ => true
  | .draining => true
  | .stopped => true
  | _ => false

namespace Lane

/-- A worker that is gone leaves nothing in its queues. -/
def Tidy (l : Lane) : Prop :=
  l.phase.isGone = true → l.inbound = [] ∧ l.reports = []

/-- What is on its way through a lane is about its channel. A notice is only held by a worker that
is about to stop, and forwarded by one that has stopped. -/
structure Labelled (l : Lane) : Prop where
  reporting : ∀ r ∈ l.reporting, r.IsAbout l.channel
  reports : ∀ r ∈ l.reports, r.IsAbout l.channel
  held : ∀ r next, l.phase = .holding r next →
    r.channel = l.channel ∧ (next ≠ .stop → r.isNotice = false)
  results : ∀ r ∈ l.results, r.channel = l.channel
  notice : l.phase ≠ .stopped → ∀ r ∈ l.results, r.isNotice = false

variable {l l' : Lane} {m : Moment} {e : LaneEvent}

/-! ### Workers that leave -/

/-- A worker that is gone stays gone. -/
theorem Move.isGone (h : l.Move m e l') (hgone : l.phase.isGone = true) :
    l'.phase.isGone = true := by
  cases h with
  | crash => rfl
  | lapse hphase | gather hphase | discard hphase | forward hphase | halt hphase | drain hphase
  | announce hphase => rw [hphase] at hgone; cases hgone
  | _ => exact hgone

/-- A worker is only on its way out when the program is cancelled. -/
theorem Move.isLeaving (h : l.Move m e l') (hleaving : l'.phase.isLeaving = true) :
    l.phase.isLeaving = true ∨ m.isCancelled = true := by
  cases h with
  | crash => cases hleaving
  | lapse => cases hleaving
  | gather => cases hleaving
  | @discard r next hphase =>
    cases next with
    | listen => cases hleaving
    | drain => exact .inl (by rw [hphase]; rfl)
    | stop => exact .inl (by rw [hphase]; rfl)
  | @forward r next hphase =>
    cases next with
    | listen => cases hleaving
    | drain => exact .inl (by rw [hphase]; rfl)
    | stop => exact .inl (by rw [hphase]; rfl)
  | halt hphase hcancel => exact .inr hcancel
  | drain hphase => exact .inl (by rw [hphase]; rfl)
  | announce hphase => exact .inl (by rw [hphase]; rfl)
  | _ => exact .inl hleaving

theorem Change.isGone (h : l.Change m l') (hgone : l.phase.isGone = true) :
    l'.phase.isGone = true := by
  cases h with
  | move h => exact h.isGone hgone
  | _ => exact hgone

/-- Only a cancellation sets a worker on its way out. -/
theorem Change.isLeaving (h : l.Change m l') (hleaving : l'.phase.isLeaving = true) :
    l.phase.isLeaving = true ∨ m.isCancelled = true := by
  cases h with
  | move h => exact h.isLeaving hleaving
  | _ => exact .inl hleaving

/-- A worker that goes takes what is in its queues with it, and nothing comes in behind it. -/
theorem Tidy.move (h : l.Move m e l') (hl : l.Tidy) : l'.Tidy := by
  intro hgone
  cases h with
  | lose hr hgone' => exact hl hgone
  | enter hr hthere =>
    rw [show l.phase.isGone = true from hgone] at hthere
    cases hthere
  | crash => exact ⟨rfl, rfl⟩
  | lapse => cases hgone
  | launch hphase =>
    have hgone' : l.phase.isGone = true := hgone
    rw [hphase] at hgone'
    cases hgone'
  | complete => exact hl hgone
  | drop => exact hl hgone
  | report hr hthere =>
    rw [show l.phase.isGone = true from hgone] at hthere
    cases hthere
  | gather => cases hgone
  | @discard r next =>
    cases next with
    | stop => exact ⟨rfl, rfl⟩
    | listen => cases hgone
    | drain => cases hgone
  | @forward r next =>
    cases next with
    | stop => exact ⟨rfl, rfl⟩
    | listen => cases hgone
    | drain => cases hgone
  | halt => cases hgone
  | drain => cases hgone
  | announce => cases hgone

theorem Tidy.change (h : l.Change m l') (hl : l.Tidy) : l'.Tidy := by
  cases h with
  | move h => exact hl.move h
  | _ => exact hl

/-! ### Lanes that are finished or given up -/

/-- A lane is finished when its worker is gone and all results were taken. -/
theorem isFinished_iff : l.isFinished = true ↔ l.phase.isGone = true ∧ l.results = [] := by
  rw [isFinished, Bool.and_eq_true, List.isEmpty_iff]

/-- A worker that is gone forwards nothing. -/
theorem Move.results_eq (h : l.Move m e l') (hgone : l.phase.isGone = true) :
    l'.results = l.results := by
  cases h with
  | @discard r next => exact results_release l next
  | forward hphase =>
    rw [hphase] at hgone
    cases hgone
  | _ => rfl

/-- A finished lane stays finished. -/
theorem Change.isFinished (h : l.Change m l') (hl : l.isFinished = true) :
    l'.isFinished = true := by
  obtain ⟨hgone, hresults⟩ := isFinished_iff.1 hl
  refine isFinished_iff.2 ⟨h.isGone hgone, ?_⟩
  cases h with
  | move h => exact (h.results_eq hgone).trans hresults
  | trip => exact hresults
  | offer => exact hresults
  | take hr =>
    rw [hresults] at hr
    cases hr
  | abandon => rfl

/-- Only the dispatcher gives a lane up. -/
theorem Move.resultsOpen_eq (h : l.Move m e l') : l'.resultsOpen = l.resultsOpen := by
  cases h with
  | @discard r next => exact resultsOpen_release l next
  | @forward r next => exact resultsOpen_release l next
  | _ => rfl

/-- A lane that was given up stays so. -/
theorem Change.resultsOpen (h : l.Change m l') (hl : l.resultsOpen = false) :
    l'.resultsOpen = false := by
  cases h with
  | move h => exact h.resultsOpen_eq.trans hl
  | abandon => rfl
  | _ => exact hl

/-! ### Labels -/

/-- A worker that has forwarded its result holds nothing. -/
theorem Labelled.release {r : DeliveryResult} {next : AfterForward} (hl : l.Labelled)
    (hphase : l.phase = .holding r next) : (l.release next).Labelled := by
  have hstopped : l.phase ≠ .stopped := by
    rw [hphase]
    intro h
    cases h
  cases next with
  | stop =>
    exact
      { reporting := hl.reporting
        reports := fun r hr => nomatch hr
        held := fun r next h => nomatch h
        results := hl.results
        notice := fun h => absurd rfl h }
  | listen =>
    exact
      { reporting := hl.reporting
        reports := hl.reports
        held := fun r next h => nomatch h
        results := hl.results
        notice := fun _ => hl.notice hstopped }
  | drain =>
    exact
      { reporting := hl.reporting
        reports := hl.reports
        held := fun r next h => nomatch h
        results := hl.results
        notice := fun _ => hl.notice hstopped }

/-- A result that is forwarded keeps its label. -/
theorem Labelled.forward {r : DeliveryResult} {next : AfterForward} (hl : l.Labelled)
    (hphase : l.phase = .holding r next) :
    ({ l.release next with results := l.results ++ [r] } : Lane).Labelled := by
  have hkept := hl.release hphase
  have hheld := hl.held r next hphase
  have hchannel : (l.release next).channel = l.channel :=
    channel_of_kit (sameDeliveries_release l next).kit
  refine { hkept with results := fun s hs => ?_, notice := fun hphase' s hs => ?_ }
  · rcases List.mem_append.1 hs with hs | hs
    · exact (hl.results s hs).trans hchannel.symm
    · rw [List.mem_singleton.1 hs]
      exact hheld.1.trans hchannel.symm
  · rcases List.mem_append.1 hs with hs | hs
    · exact hl.notice (by rw [hphase]; exact fun h => nomatch h) s hs
    · rw [List.mem_singleton.1 hs]
      refine hheld.2 fun hstop => hphase' ?_
      rw [hstop]
      rfl

/-- Every result that comes up in a lane is about its channel. -/
theorem Labelled.move (h : l.Move m e l') (hl : l.Labelled) : l'.Labelled := by
  cases h with
  | lose | enter | launch => exact { hl with }
  | crash hphase =>
    exact
      { reporting := hl.reporting
        reports := fun r hr => nomatch hr
        held := fun r next h => nomatch h
        results := hl.results
        notice := fun _ => hl.notice (by rw [hphase]; exact fun h => nomatch h) }
  | lapse hphase =>
    refine { hl with held := fun r next hr => ?_, notice := fun _ => ?_ }
    · cases hr
      exact ⟨rfl, fun _ => rfl⟩
    · exact hl.notice (by rw [hphase]; exact fun h => nomatch h)
  | complete hd hend =>
    refine { hl with reporting := fun r hr => ?_ }
    rcases List.mem_append.1 hr with hr | hr
    · exact hl.reporting r hr
    · rw [List.mem_singleton.1 hr]
      exact Sender.send_isAbout hend
  | drop hr hgone =>
    exact { hl with reporting := fun r hr => hl.reporting r (List.mem_of_mem_eraseIdx hr) }
  | report hr hgone hroom =>
    refine
      { hl with
        reporting := fun r hr => hl.reporting r (List.mem_of_mem_eraseIdx hr)
        reports := fun s hs => ?_ }
    rcases List.mem_append.1 hs with hs | hs
    · exact hl.reports s hs
    · rw [List.mem_singleton.1 hs]
      exact hl.reporting _ (List.mem_of_getElem? hr)
  | gather hphase hr | drain hphase hr =>
    refine
      { hl with
        reports := fun s hs => hl.reports s (by rw [hr]; exact List.mem_cons_of_mem _ hs)
        held := fun s next hs => ?_
        notice := fun _ => hl.notice (by rw [hphase]; exact fun h => nomatch h) }
    have habout := hl.reports _ (by rw [hr]; exact List.mem_cons_self)
    cases hs
    exact ⟨habout.1, fun _ => habout.2⟩
  | discard hphase => exact hl.release hphase
  | forward hphase => exact hl.forward hphase
  | halt hphase =>
    exact
      { hl with
        held := fun r next h => nomatch h
        notice := fun _ => hl.notice (by rw [hphase]; exact fun h => nomatch h) }
  | announce hphase =>
    refine
      { hl with
        held := fun r next hr => ?_
        notice := fun _ => hl.notice (by rw [hphase]; exact fun h => nomatch h) }
    cases hr
    exact ⟨rfl, fun h => absurd rfl h⟩

theorem Labelled.change (h : l.Change m l') (hl : l.Labelled) : l'.Labelled := by
  cases h with
  | move h => exact hl.move h
  | trip => exact { hl with }
  | offer => exact { hl with }
  | take hr =>
    exact
      { hl with
        results := fun s hs => hl.results s (by rw [hr]; exact List.mem_cons_of_mem _ hs)
        notice := fun hphase s hs =>
          hl.notice hphase s (by rw [hr]; exact List.mem_cons_of_mem _ hs) }
  | abandon =>
    exact
      { hl with
        results := fun s hs => nomatch hs
        notice := fun _ s hs => nomatch hs }

end Lane

end AlertRelay
