import AlertRelay.Proofs.Lane.Output
import AlertRelay.Proofs.Lane.Slots

/-!
# Where results come from

What a worker sends, but for its notice, is what came of the deliveries of the records that it took.
The results of all deliveries that are over were sent, are on their way to the worker or were lost,
and none is lost while the worker is there (`Lane.Sends.accounts`). No two deliveries are for the
same record (`Lane.Kit.Reaches.nodup_numbers`), and a result is what the delivery returned, or says
that the time of the record was over when the worker took it; then nothing was ever called for it
(`Lane.Kit.Reaches.sound`).
-/

namespace AlertRelay

namespace Lane

/-- The results that are on their way to the worker, or that it holds. -/
def underway (l : Lane) : Multiset DeliveryResult :=
  genuine l.reporting + genuine l.reports + genuine l.phase.held

/-- The results of all deliveries that are over were sent, are on their way or are lost, and none is
lost while the worker is there. -/
def Accounts (l : Lane) (out : List DeliveryResult) : Prop :=
  ∃ lost, l.outcomes = genuine out + l.underway + lost ∧ (l.phase.isGone = false → lost = 0)

variable {k : Kit} {m m' m₀ start : Moment} {l l' l₀ : Lane} {e : LaneEvent}
  {out : List DeliveryResult} {c : Conclusion} {d : Delivery}

/-! ### Conservation -/

/-- What comes to the outcomes comes on its way or is lost, and only a worker that is gone loses
anything. -/
theorem Accounts.keep (gained lost : Multiset DeliveryResult) (hl : l.Accounts out)
    (hsent : l.sent l' = []) (houtcomes : l'.outcomes = l.outcomes + gained)
    (hunderway : l.underway + gained = l'.underway + lost)
    (hthere : l'.phase.isGone = false → l.phase.isGone = false ∧ lost = 0) :
    l'.Accounts (out ++ l.sent l') := by
  obtain ⟨before, hsum, hnone⟩ := hl
  rw [hsent, List.append_nil]
  refine ⟨before + lost, ?_, fun hgone => ?_⟩
  · calc l'.outcomes = genuine out + (l.underway + gained) + before := by
          rw [houtcomes, hsum]
          abel
      _ = genuine out + l'.underway + (before + lost) := by
          rw [hunderway]
          abel
  · obtain ⟨hwas, hlost⟩ := hthere hgone
    rw [hnone hwas, hlost, add_zero]

/-- What touches neither the results nor the worker keeps them. -/
theorem Accounts.congr (hl : l.Accounts out) (hphase : l'.phase = l.phase)
    (hreporting : l'.reporting = l.reporting) (hreports : l'.reports = l.reports)
    (hconcluded : l'.concluded = l.concluded) : l'.Accounts (out ++ l.sent l') := by
  refine hl.keep 0 0 (sent_of_phase_eq hphase) ?_ ?_ fun hgone => ⟨hphase ▸ hgone, rfl⟩
  · rw [outcomes, outcomes, hconcluded, add_zero]
  · rw [underway, underway, hphase, hreporting, hreports]

/-- A result that the worker lets go of was sent. -/
theorem Accounts.release {r : DeliveryResult} {next : AfterForward} (hl : l.Accounts out)
    (hphase : l.phase = .holding r next) (hphase' : l'.phase = next.phase)
    (hreporting : l'.reporting = l.reporting)
    (hreports : l'.reports = if next = .stop then [] else l.reports)
    (hconcluded : l'.concluded = l.concluded) : l'.Accounts (out ++ l.sent l') := by
  obtain ⟨lost, hsum, hnone⟩ := hl
  have hzero : lost = 0 := hnone (by rw [hphase]; rfl)
  rw [sent_release hphase hphase']
  simp only [outcomes, underway, hphase, hzero] at hsum
  cases next with
  | stop =>
    refine ⟨genuine l.reports, ?_, fun hthere => ?_⟩
    · simp only [outcomes, underway, hphase', hreporting, hreports, hconcluded, hsum,
        genuine_append, WorkerPhase.held, AfterForward.phase, genuine_nil, if_pos]
      abel
    · rw [hphase'] at hthere
      cases hthere
  | listen | drain =>
    refine ⟨0, ?_, fun _ => rfl⟩
    simp only [outcomes, underway, hphase', hreporting, hreports, hconcluded, hsum,
      genuine_append, WorkerPhase.held, AfterForward.phase, genuine_nil]
    simp only [reduceCtorEq, if_false]
    abel

/-- No result gets lost before a worker that is there. -/
theorem Accounts.move (h : l.Move m e l') (hl : l.Accounts out) :
    l'.Accounts (out ++ l.sent l') := by
  have hidle : ∀ {phase : WorkerPhase}, l.phase = phase → phase.held = [] → l.sent l' = [] := by
    rintro phase rfl hheld
    exact sent_of_held_eq_nil hheld l'
  cases h with
  | lose | enter | launch => exact hl.congr rfl rfl rfl rfl
  | crash hphase =>
    refine hl.keep 0 (genuine l.reports) (hidle hphase rfl) (add_zero _).symm ?_
      fun hgone => nomatch hgone
    simp only [underway, Lane.crash, hphase, WorkerPhase.held, genuine_nil, add_zero]
  | @lapse _ _ _ _ reason hphase =>
    have hone := genuine_of_isAbout
      (DeliveryResult.isAbout_cancelled l.channel (lateNotice reason l.channel))
    refine hl.keep {.cancelled l.channel (lateNotice reason l.channel)} 0 (hidle hphase rfl) ?_ ?_
      fun _ => ⟨by rw [hphase]; rfl, rfl⟩
    · simp only [outcomes, List.map_append, coe_append, List.map_cons, List.map_nil,
        Multiset.coe_singleton]
    · simp only [underway, hphase, WorkerPhase.held, genuine_nil, hone, add_zero]
  | @complete i d t result hd hend =>
    have hone := genuine_of_isAbout (Sender.send_isAbout hend)
    refine hl.keep {result} 0 (sent_of_phase_eq rfl) ?_ ?_ fun hgone => ⟨hgone, rfl⟩
    · simp only [outcomes, List.map_append, coe_append, List.map_cons, List.map_nil,
        Multiset.coe_singleton]
    · simp only [underway, genuine_append, hone]
      abel
  | @drop i r hr hgone =>
    refine hl.keep 0 (genuine [r]) (sent_of_phase_eq rfl) (add_zero _).symm ?_ fun hthere => ?_
    · simp only [underway, genuine_eraseIdx hr]
      abel
    · rw [show l.phase.isGone = false from hthere] at hgone
      cases hgone
  | @report i r hr =>
    refine hl.keep 0 0 (sent_of_phase_eq rfl) (add_zero _).symm ?_ fun hgone => ⟨hgone, rfl⟩
    simp only [underway, genuine_append, genuine_eraseIdx hr]
    abel
  | gather hphase hr | drain hphase hr =>
    refine hl.keep 0 0 (hidle hphase rfl) (add_zero _).symm ?_ fun _ => ⟨by rw [hphase]; rfl, rfl⟩
    simp only [underway, hphase, hr, WorkerPhase.held, genuine_nil]
    rw [genuine_cons]
    abel
  | @discard r next hphase =>
    exact hl.release hphase (l.phase_release next) (by cases next <;> rfl) (l.reports_release next)
      (sameDeliveries_release l next).concluded
  | @forward r next hphase =>
    exact hl.release hphase (l.phase_release next) (by cases next <;> rfl) (l.reports_release next)
      (sameDeliveries_release l next).concluded
  | halt hphase =>
    refine hl.keep 0 0 (hidle hphase rfl) (add_zero _).symm ?_ fun _ => ⟨by rw [hphase]; rfl, rfl⟩
    simp only [underway, hphase, WorkerPhase.held]
  | announce hphase =>
    refine hl.keep 0 0 (hidle hphase rfl) (add_zero _).symm ?_ fun _ => ⟨by rw [hphase]; rfl, rfl⟩
    simp only [underway, hphase, WorkerPhase.held, genuine_nil, genuine_notice]

theorem Sends.accounts (h : Sends start (k.start start.now) out m l) : l.Accounts out := by
  induction h with
  | start => exact ⟨0, rfl, fun _ => rfl⟩
  | turn _ hturn ih =>
    cases hturn with
    | step h => exact ih.move (move_of_step? h)
    | trip h =>
      obtain rfl := eq_of_trip? h
      exact ih.congr rfl rfl rfl rfl
    | take h =>
      obtain ⟨rest, -, rfl⟩ := eq_of_takeResult? h
      exact ih.congr rfl rfl rfl rfl
    | _ => exact ih.congr rfl rfl rfl rfl

/-! ### One delivery for each record -/

/-- The deliveries that run and those that are over have different numbers. -/
theorem Kit.Reaches.nodup_numbers (h : k.Reaches start m l) :
    (l.running.map Delivery.number ++ l.concluded.map fun c => c.delivery.number).Nodup := by
  have hnumbers : (l.scheduled.map Delivery.number).Nodup := by
    rw [h.onSchedule.numbers]
    exact List.nodup_range
  have hperm : (l.scheduled.map Delivery.number).Perm
      (l.running.map Delivery.number ++ l.concluded.map fun c => c.delivery.number) := by
    refine Multiset.coe_eq_coe.1 ?_
    have htracks := congrArg (Multiset.map Delivery.number) h.tracks
    rw [Multiset.map_add, Multiset.map_coe, Multiset.map_coe, Multiset.map_coe, List.map_map,
      List.map_map] at htracks
    rw [← Multiset.coe_add]
    exact htracks
  exact hperm.nodup_iff.1 hnumbers

/-- A delivery that is over was planned, and it bears the number of its record. -/
theorem Kit.Reaches.getElem?_scheduled (h : k.Reaches start m l) (hc : c ∈ l.concluded) :
    l.scheduled[c.delivery.number]? = some c.delivery.planned := by
  have hmem : c.delivery.planned ∈ l.scheduled := by
    refine Multiset.mem_coe.1 ?_
    rw [h.tracks]
    exact Multiset.mem_add.2 (.inr (List.mem_map_of_mem (f := fun c => c.delivery.planned) hc))
  obtain ⟨n, hn⟩ := List.mem_iff_getElem?.1 hmem
  have hnumber : c.delivery.planned.number = n := h.onSchedule.number_eq hn
  obtain rfl : c.delivery.number = n := hnumber
  exact hn

/-- A delivery that runs bears a number that was given. -/
theorem Kit.Reaches.number_lt (h : k.Reaches start m l) (hd : d ∈ l.running) :
    d.number < l.scheduled.length := by
  obtain ⟨n, hn⟩ := List.mem_iff_getElem?.1 (h.tracks.planned_mem hd)
  have hnumber : d.planned.number = n := h.onSchedule.number_eq hn
  obtain rfl : d.number = n := hnumber
  exact (List.getElem?_eq_some_iff.1 hn).1

/-! ### Origin of a result -/

/-- The delivery returned this result while it ran. -/
def Kit.Returned (k : Kit) (start : Moment) (c : Conclusion) : Prop :=
  ∃ m l t, k.Reaches start m l ∧ c.delivery ∈ l.running ∧ m.now = c.time ∧ t ≤ c.time ∧
    (l.trace m c.delivery).ending = .returns t c.result

/-- The time of the record was over when the worker took it. -/
def Kit.Lapsed (k : Kit) (start : Moment) (c : Conclusion) : Prop :=
  ∃ m l reason, k.Reaches start m l ∧ m.now = c.time ∧ c.delivery.launched = c.time ∧
    (Context.mk c.delivery.deadline m.cancelledAt).doneReason? c.time = some reason ∧
    c.result = .cancelled k.sender.channel (lateNotice reason k.sender.channel)

/-- Nothing was called for the delivery with this number, and nothing will be. -/
def Uncalled (l : Lane) (number : Nat) : Prop :=
  (∀ call ∈ l.calls, call.delivery ≠ number) ∧ ∀ d ∈ l.running, d.number ≠ number

/-- Every result is what a delivery returned, or that of a record that came too late and for which
nothing was called. -/
structure Sound (l : Lane) (k : Kit) (start : Moment) : Prop where
  origin : ∀ c ∈ l.concluded,
    k.Returned start c ∨ k.Lapsed start c ∧ l.Uncalled c.delivery.number
  calls : ∀ call ∈ l.calls, call.delivery < l.scheduled.length

/-- Nothing is called for a delivery that is not made. -/
theorem Uncalled.allCalls {n : Nat} (hl : l.Uncalled n) (m : Moment) :
    ∀ call ∈ l.allCalls m, call.delivery ≠ n := by
  intro call hcall
  rcases List.mem_append.1 hcall with hcall | hcall
  · exact hl.1 call hcall
  · obtain ⟨d, hd, hcall⟩ := List.mem_flatMap.1 hcall
    obtain ⟨c, -, rfl⟩ := List.mem_map.1 hcall
    exact hl.2 d hd

/-- What leaves the deliveries alone, but for who of them cancels the program, keeps their
origin. -/
theorem Sound.congr (hl : l.Sound k start)
    (hrunning : l'.running.map Delivery.number = l.running.map Delivery.number)
    (hconcluded : l'.concluded = l.concluded) (hcalls : l'.calls = l.calls)
    (hscheduled : l'.scheduled = l.scheduled) : l'.Sound k start := by
  refine ⟨fun c hc => ?_, by rw [hcalls, hscheduled]; exact hl.calls⟩
  rw [hconcluded] at hc
  refine (hl.origin c hc).imp_right fun hlapsed => ?_
  obtain ⟨hlapsed, huncalled⟩ := hlapsed
  refine ⟨hlapsed, by rw [hcalls]; exact huncalled.1, fun d hd hsame => ?_⟩
  have hnumber : c.delivery.number ∈ l.running.map Delivery.number := by
    rw [← hrunning, ← hsame]
    exact List.mem_map_of_mem hd
  obtain ⟨d', hd', hsame'⟩ := List.mem_map.1 hnumber
  exact huncalled.2 d' hd' hsame'

theorem Sound.move (h : l.Move m e l') (hr : k.Reaches start m l) (hl : l.Sound k start) :
    l'.Sound k start := by
  have hsame := h.sameDeliveries
  have hchannel : l.channel = k.sender.channel := congrArg (fun k => k.sender.channel) hr.kit_eq
  cases h with
  | @lapse r rest schedule deadline reason hphase hin hplan hdone =>
    refine ⟨fun c hc => ?_, fun call hcall => ?_⟩
    · rcases List.mem_append.1 hc with hc | hc
      · exact hl.origin c hc
      · rw [List.mem_singleton.1 hc]
        refine .inr ⟨⟨m, l, reason, hr, rfl, rfl, hdone, by rw [hchannel]⟩, ?_, ?_⟩
        · exact fun call hcall => Nat.ne_of_lt (hl.calls call hcall)
        · exact fun d hd => Nat.ne_of_lt (hr.number_lt hd)
    · rw [List.length_append]
      exact Nat.lt_add_right _ (hl.calls call hcall)
  | @launch r rest schedule deadline hphase hin hplan hdone =>
    refine ⟨fun c hc => ?_, fun call hcall => ?_⟩
    · refine (hl.origin c hc).imp_right fun hlapsed => ?_
      refine ⟨hlapsed.1, hlapsed.2.1, fun d hd => ?_⟩
      rcases List.mem_append.1 hd with hd | hd
      · exact hlapsed.2.2 d hd
      · -- The number of the new delivery was not given before.
        have hgiven := (List.getElem?_eq_some_iff.1 (hr.getElem?_scheduled hc)).1
        rw [List.mem_singleton.1 hd]
        exact (Nat.ne_of_lt hgiven).symm
    · rw [List.length_append]
      exact Nat.lt_add_right _ (hl.calls call hcall)
  | @complete i d t result hd hend ht =>
    have hmem := List.mem_of_getElem? hd
    refine ⟨fun c hc => ?_, fun call hcall => ?_⟩
    · rcases List.mem_append.1 hc with hc | hc
      · refine (hl.origin c hc).imp_right fun hlapsed => ?_
        refine ⟨hlapsed.1, fun call hcall => ?_, fun d hd => ?_⟩
        · rcases List.mem_append.1 hcall with hcall | hcall
          · exact hlapsed.2.1 call hcall
          · obtain ⟨c', -, rfl⟩ := List.mem_map.1 hcall
            exact hlapsed.2.2 d hmem
        · exact hlapsed.2.2 d (List.mem_of_mem_eraseIdx hd)
      · rw [List.mem_singleton.1 hc]
        exact .inl ⟨m, l, t, hr, hmem, rfl, ht, hend⟩
    · rcases List.mem_append.1 hcall with hcall | hcall
      · exact hl.calls call hcall
      · obtain ⟨c, -, rfl⟩ := List.mem_map.1 hcall
        exact hr.number_lt hmem
  | crash => exact hl.congr rfl rfl rfl rfl
  | _ =>
    have h := hsame (fun he => nomatch he) fun _ he => nomatch he
    exact hl.congr (by rw [h.running]) h.concluded h.calls h.scheduled

/-- Every result of a lane has its origin. -/
theorem Kit.Reaches.sound (h : k.Reaches start m l) : l.Sound k start := by
  induction h with
  | start =>
    exact
      { origin := fun c hc => nomatch hc
        calls := fun c hc => nomatch hc }
  | @turn m m' l l' h hturn ih =>
    cases hturn with
    | step hstep => exact ih.move (move_of_step? hstep) h
    | @trip _ _ j htrip =>
      obtain rfl := eq_of_trip? htrip
      refine ih.congr ?_ rfl rfl rfl
      have hplanned := congrArg (List.map Delivery.number) (map_planned_modify l.running j)
      rwa [List.map_map, List.map_map] at hplanned
    | take htake =>
      obtain ⟨rest, -, rfl⟩ := eq_of_takeResult? htake
      exact ih.congr rfl rfl rfl rfl
    | _ => exact ih.congr rfl rfl rfl rfl

end Lane

end AlertRelay
