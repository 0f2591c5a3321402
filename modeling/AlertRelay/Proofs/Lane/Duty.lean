import AlertRelay.Proofs.Lane.Instants
import AlertRelay.Proofs.Lane.Origin
import AlertRelay.Proofs.Lane.Rest
import AlertRelay.Proofs.Pipeline.Workload

/-!
# What a worker owes to those who wait for it

Whatever comes to a worker, and in whatever order, it sends every result once, it gives notice
exactly when it stops, and it stops exactly when the program is cancelled (`Lane.Dutiful`). It does
all this unless it dies, and it dies exactly when it takes a record for which there is no instant
(`Lane.Sends.dutiful_iff`). Then nothing is ever heard of it again (`Lane.dies_without_notice`).

That a worker comes to its end is shown for a moment at which nothing comes in: whatever happens in
the lane and whoever takes its results leaves less work (`Lane.Advances.work_lt`), and a lane in
which nothing can happen has sent all that there was to send (`Lane.Sends.answered`), or has stopped
(`Lane.phase_of_cancelled`).
-/

namespace AlertRelay

namespace Lane

/-- What may come of a lane next when nothing comes in: it takes a step, or a result is taken. -/
def Advances (m : Moment) (l l' : Lane) : Prop :=
  (∃ e, l.step? m e = some l') ∨ ∃ r, l.takeResult? = some (r, l')

/-- However a lane goes on, `P` holds after finitely many changes. -/
inductive Inevitably (m : Moment) (P : Lane → Prop) : Lane → Prop
  | now {l : Lane} (h : P l) : Inevitably m P l
  | later {l : Lane} (hgoes : ∃ l', Advances m l l')
      (hall : ∀ l', Advances m l l' → Inevitably m P l') : Inevitably m P l

/-- Every record that the worker took has its result among what was sent, unless its delivery has
not returned or is about to cancel the program. -/
structure Answered (l : Lane) (m : Moment) (out : List DeliveryResult) : Prop where
  sent : genuine out = l.outcomes
  pending : ∀ d ∈ l.scheduled, (∃ c ∈ l.concluded, c.delivery.planned = d) ∨
    ∃ d' ∈ l.running, d'.planned = d ∧
      (l.mustTrip m d' = true ∨ ∀ t, (l.trace m d').returnsAt? = some t → m.now < t)

/-- What a worker that has sent `out` since its start owes to those who wait for it. -/
structure Dutiful (k : Kit) (start : Moment) (out : List DeliveryResult) (m : Moment) (l : Lane) :
    Prop where
  /-- It only returns when the program is cancelled, and then it has stopped. -/
  returns : l.phase.isGone = true → m.isCancelled = true ∧ l.phase = .stopped
  /-- When the program is cancelled it stops. -/
  stops : m.isCancelled = true → l.Inevitably m fun l' => l'.phase = .stopped ∨ l'.phase = .crashed
  /-- It gives no notice before it stops. -/
  quiet : l.phase ≠ .stopped → ∀ r ∈ out, r.isNotice = false
  /-- It gives notice once, as the last thing that it sends. -/
  notice : l.phase = .stopped → ∃ others, out = others ++ [.notice l.channel (stopNotice l.channel)] ∧
    ∀ r ∈ others, r.isNotice = false
  /-- It sends nothing after that and does not come back. -/
  ended : l.phase = .stopped → ∀ more m' l', Sends m l more m' l' → more = [] ∧ l'.phase = .stopped
  /-- What it held and what was in its queue at any time before the cancellation is sent in this
  order before it stops. -/
  collected : l.phase = .stopped → ∀ before m₀ l₀ after, Sends start (k.start start.now) before m₀ l₀ →
    m₀.isCancelled = false → Sends m₀ l₀ after m l → (l₀.phase.held ++ l₀.reports).Sublist after
  /-- All other results that it sends are results of deliveries, none more than once. -/
  genuine : genuine out ≤ l.outcomes
  /-- A record that was taken has at most one delivery that is over. -/
  once : (l.concluded.map fun c => c.delivery.number).Nodup
  /-- A result is what the delivery for the record returned, or the record came too late and nothing
  was called for it. -/
  origin : ∀ c ∈ l.concluded, l.scheduled[c.delivery.number]? = some c.delivery.planned ∧
    (k.Returned start c ∨
      k.Lapsed start c ∧ ∀ call ∈ l.allCalls m, call.delivery ≠ c.delivery.number)
  /-- As long as the program is not cancelled it sends every result that there is. -/
  answers : m.isCancelled = false → l.Inevitably m fun l' =>
    l'.phase = .crashed ∨ ∃ more, Sends m l more m l' ∧ l'.Answered m (out ++ more)

variable {k : Kit} {m m' m₀ start : Moment} {l l' l₀ : Lane} {e : LaneEvent}
  {out more : List DeliveryResult} {P Q : Lane → Prop}

/-! ### Coming to rest -/

theorem Advances.work_lt (h : l.Advances m l') : l'.work < l.work := by
  rcases h with ⟨e, h⟩ | ⟨r, h⟩
  · exact (move_of_step? h).work_lt
  · obtain ⟨rest, hresults, rfl⟩ := eq_of_takeResult? h
    simp only [work, hresults, List.length_cons]
    omega

theorem Advances.turn (h : l.Advances m l') : Turn m l m l' := by
  rcases h with ⟨e, h⟩ | ⟨r, h⟩
  · exact .step h
  · exact .take h

/-- A lane in which nothing can happen is at rest, and its results are taken. -/
theorem rest_of_not_advances (h : ∀ l', ¬l.Advances m l') : l.AtRest m ∧ l.results = [] := by
  constructor
  · intro e
    by_contra hstep
    obtain ⟨l', hl'⟩ := Option.ne_none_iff_exists'.1 hstep
    exact h l' (.inl ⟨e, hl'⟩)
  · cases hresults : l.results with
    | nil => rfl
    | cons r rest => exact (h _ (.inr ⟨r, by rw [takeResult?, hresults]⟩)).elim

/-- A lane comes to rest. Whatever is true of it then and there comes to be true. -/
theorem inevitably_of_rest {out : List DeliveryResult} (h : Sends m₀ l₀ out m l)
    (hP : ∀ more l', Sends m l more m l' → Sends m₀ l₀ (out ++ more) m l' → l'.AtRest m →
      l'.results = [] → P l') : l.Inevitably m P := by
  -- By induction on the work that is left.
  induction hn : l.work using Nat.strong_induction_on generalizing l out with
  | _ n ih =>
    subst hn
    by_cases hgoes : ∃ l', l.Advances m l'
    · refine .later hgoes fun l' hl' => ?_
      have hturn := hl'.turn
      refine ih l'.work hl'.work_lt (h.turn hturn) (fun more l'' hmore hall => ?_) rfl
      have hfirst : Sends m l ([] ++ l.sent l') m l' := .turn .start hturn
      rw [List.append_assoc] at hall
      exact hP _ l'' (hfirst.append hmore) hall
    · obtain ⟨hrest, hresults⟩ := rest_of_not_advances fun l' hl' => hgoes ⟨l', hl'⟩
      refine .now (hP [] l .start ?_ hrest hresults)
      rw [List.append_nil]
      exact h

/-! ### At rest -/

/-- A worker that has something to do does not rest. -/
theorem phase_of_cancelled (hrest : l.AtRest m) (hroom : l.results.length < l.capacity)
    (hcancelled : m.isCancelled = true) : l.phase = .stopped ∨ l.phase = .crashed := by
  cases hphase : l.phase with
  | listening =>
    have hhalt := hrest .halt
    simp [step?, halt?, hphase, hcancelled] at hhalt
  | holding r next => exact (not_holding_of_rest hrest hroom r next hphase).elim
  | draining =>
    have hdrain := hrest .drain
    have hannounce := hrest .announce
    cases hreports : l.reports with
    | nil => simp [step?, announce?, hphase, hreports] at hannounce
    | cons r rest => simp [step?, drain?, hphase, hreports] at hdrain
  | stopped => exact .inl rfl
  | crashed => exact .inr rfl

/-- A lane at rest has answered for all deliveries that have returned. -/
theorem Sends.answered (h : Sends start (k.start start.now) out m l) (hcap : 0 < k.capacity)
    (hm : m.isCancelled = false) (hthere : l.phase ≠ .crashed) (hrest : l.AtRest m)
    (hresults : l.results = []) : l.Answered m out := by
  have hr := h.reaches
  have hleaving := hr.not_isLeaving hm
  have hroom : l.results.length < l.capacity := by
    rw [hresults, show l.capacity = k.capacity from congrArg Kit.capacity hr.kit_eq]
    exact hcap
  have hphase : l.phase = .listening :=
    (phase_of_rest hrest hroom hleaving).resolve_right hthere
  have htidy : l.Tidy := by
    intro hgone
    rw [hphase] at hgone
    cases hgone
  have hdrained := drained_of_rest hrest (Nat.lt_of_le_of_lt (Nat.zero_le _) hroom) htidy hleaving
    hresults
  refine ⟨?_, fun d hd => ?_⟩
  · obtain ⟨lost, hsum, hnone⟩ := h.accounts
    rw [hsum, hnone (by rw [hphase]; rfl), underway, hdrained.reporting, hdrained.reports, hphase]
    simp only [WorkerPhase.held, genuine_nil, add_zero]
  · have hmem : d ∈ (l.scheduled : Multiset Delivery) := Multiset.mem_coe.2 hd
    rw [hr.tracks] at hmem
    rcases Multiset.mem_add.1 hmem with hrunning | hover
    · obtain ⟨d', hd', hplanned⟩ := List.mem_map.1 (Multiset.mem_coe.1 hrunning)
      refine .inr ⟨d', hd', hplanned, ?_⟩
      cases htrip : l.mustTrip m d' with
      | true => exact .inl rfl
      | false => exact .inr fun t ht => lt_of_rest hrest hd' htrip ht
    · obtain ⟨c, hc, hplanned⟩ := List.mem_map.1 (Multiset.mem_coe.1 hover)
      exact .inl ⟨c, hc, hplanned⟩

/-! ### The end of a worker -/

/-- The turn in which a worker dies is one in which it takes a record. -/
theorem Turn.dispatch_of_crashed (h : Turn m l m' l') (hthere : l.phase ≠ .crashed)
    (hcrashed : l'.phase = .crashed) : m' = m ∧ l.step? m .dispatch = some l' := by
  cases h with
  | step hstep =>
    have hmove := move_of_step? hstep
    cases hmove with
    | crash => exact ⟨rfl, hstep⟩
    | lapse | gather | halt | drain | announce => cases hcrashed
    | @discard _ next | @forward _ next => cases next <;> cases hcrashed
    | _ => exact absurd hcrashed hthere
  | trip htrip =>
    rw [eq_of_trip? htrip] at hcrashed
    exact absurd hcrashed hthere
  | take htake =>
    obtain ⟨rest, -, rfl⟩ := eq_of_takeResult? htake
    exact absurd hcrashed hthere
  | _ => exact absurd hcrashed hthere

/-- A worker dies of a record for which there is no instant, and of nothing else. -/
theorem Sends.crashed_iff (h : Sends start (k.start start.now) out m l) :
    l.phase = .crashed ↔ ∃ m₀ l₀ l₁, Sends start (k.start start.now) out m₀ l₀ ∧
      l₀.step? m₀ .dispatch = some l₁ ∧ Sends m₀ l₁ [] m l ∧
      Instant.limit ≤ max l₀.schedule.last m₀.now + k.sender.settings.rateLimit.toNanos +
        k.sender.settings.baseTimeout.toNanos +
        k.sender.settings.retryDelay.toNanos * k.sender.settings.retries := by
  have hplan : ∀ {m₀ l₀ out}, Sends start (k.start start.now) out m₀ l₀ →
      (l₀.plan? m₀.now = none ↔ Instant.limit ≤ max l₀.schedule.last m₀.now +
        k.sender.settings.rateLimit.toNanos + k.sender.settings.baseTimeout.toNanos +
        k.sender.settings.retryDelay.toNanos * k.sender.settings.retries) := by
    intro m₀ l₀ out h₀
    rw [← Option.not_isSome_iff_eq_none, plan?, Sender.isSome_plan?_iff, h₀.reaches.onSchedule.delay,
      show l₀.sender = k.sender from congrArg Kit.sender h₀.reaches.kit_eq, Nat.not_lt]
  constructor
  · intro hcrashed
    induction h with
    | start => cases hcrashed
    | @turn out m m' l l' h hturn ih =>
      by_cases hbefore : l.phase = .crashed
      · obtain ⟨m₀, l₀, l₁, h₀, hstep, hafter, hlimit⟩ := ih hbefore
        have hsilent : l.sent l' = [] := sent_of_phase_eq (hcrashed.trans hbefore.symm)
        have hafter' := hafter.turn hturn
        rw [hsilent, List.append_nil] at hafter'
        rw [hsilent, List.append_nil]
        exact ⟨m₀, l₀, l₁, h₀, hstep, hafter', hlimit⟩
      · obtain ⟨rfl, hstep⟩ := hturn.dispatch_of_crashed hbefore hcrashed
        obtain ⟨-, hphase, -, hnone⟩ := (hturn.of_crashed hcrashed).resolve_left hbefore
        have hsilent : l.sent l' = [] := sent_of_held_eq_nil (by rw [hphase]; rfl) l'
        rw [hsilent, List.append_nil]
        exact ⟨m', l, l', h, hstep, .start, (hplan h).1 hnone⟩
  · rintro ⟨m₀, l₀, l₁, h₀, hstep, hafter, hlimit⟩
    have hnone := (hplan h₀).2 hlimit
    have hcrashed : l₁.phase = .crashed := by
      cases move_of_step? hstep with
      | crash => rfl
      | lapse _ _ hsome | launch _ _ hsome =>
        rw [hnone] at hsome
        cases hsome
    exact (hafter.eq_nil_of_isGone (by rw [hcrashed]; rfl)).2.trans hcrashed

/-- However records come, deliveries return and the program is cancelled, a worker does what it owes
exactly as long as it has not died, and it has died exactly if it took a record whose slot, or
whose deadline behind the slot, is at no instant. -/
theorem Sends.dutiful_iff (hcap : 0 < k.capacity) (h : Sends start (k.start start.now) out m l) :
    (Dutiful k start out m l ↔ l.phase ≠ .crashed) ∧
      (l.phase = .crashed ↔ ∃ m₀ l₀ l₁, Sends start (k.start start.now) out m₀ l₀ ∧
        l₀.step? m₀ .dispatch = some l₁ ∧ Sends m₀ l₁ [] m l ∧
        Instant.limit ≤ max l₀.schedule.last m₀.now + k.sender.settings.rateLimit.toNanos +
          k.sender.settings.baseTimeout.toNanos +
          k.sender.settings.retryDelay.toNanos * k.sender.settings.retries) := by
  refine ⟨⟨fun hd hcrashed => ?_, fun hthere => ?_⟩, h.crashed_iff⟩
  · have hstopped := (hd.returns (by rw [hcrashed]; rfl)).2
    rw [hcrashed] at hstopped
    cases hstopped
  · have hr := h.reaches
    have hannounces := h.announces
    have hroom : ∀ l', k.Reaches start m l' → l'.results = [] → l'.results.length < l'.capacity := by
      intro l' hr' hresults
      rw [hresults, show l'.capacity = k.capacity from congrArg Kit.capacity hr'.kit_eq]
      exact hcap
    have hgone : l.phase.isGone = true → l.phase = .stopped := by
      intro hgone
      cases hphase : l.phase with
      | stopped => rfl
      | crashed => exact absurd hphase hthere
      | listening | holding | draining =>
        rw [hphase] at hgone
        cases hgone
    exact
      { returns := by
          intro hg
          refine ⟨?_, hgone hg⟩
          by_contra hun
          have hstays := hr.not_isLeaving (Bool.eq_false_of_not_eq_true hun)
          rw [hgone hg] at hstays
          cases hstays
        stops := fun hcancelled => inevitably_of_rest h fun more l' _ hall hrest hresults =>
          phase_of_cancelled hrest (hroom l' hall.reaches hresults) hcancelled
        quiet := hannounces.before
        notice := hannounces.last
        ended := by
          intro hstopped more m' l' hmore
          obtain ⟨hnone, hphase⟩ := hmore.eq_nil_of_isGone (by rw [hstopped]; rfl)
          exact ⟨hnone, hphase.trans hstopped⟩
        collected := by
          intro hstopped before m₀ l₀ after hbefore hm₀ hafter
          have hthere₀ : l₀.phase ≠ .crashed := by
            intro hcrashed
            have hstays := (hafter.eq_nil_of_isGone (by rw [hcrashed]; rfl)).2
            exact hthere (hstays.trans hcrashed)
          have howed := hafter.owed_sublist hthere
          rwa [owed_eq (hbefore.reaches.not_isLeaving hm₀) hthere₀, owed, hstopped,
            List.append_nil] at howed
        genuine := by
          obtain ⟨lost, hsum, -⟩ := h.accounts
          rw [hsum, add_assoc]
          exact Multiset.le_add_right _ _
        once := (List.nodup_append.1 hr.nodup_numbers).2.1
        origin := fun c hc => ⟨hr.getElem?_scheduled hc, (hr.sound.origin c hc).imp_right
          fun hlapsed => ⟨hlapsed.1, hlapsed.2.allCalls m⟩⟩
        answers := fun hun => inevitably_of_rest h fun more l' hmore hall hrest hresults => by
          by_cases hdead : l'.phase = .crashed
          · exact .inl hdead
          · exact .inr ⟨more, hmore, hall.answered hcap hun hdead hrest hresults⟩ }

theorem ne_crashed_of_isLeaving (h : l.phase.isLeaving = true) : l.phase ≠ .crashed := by
  intro hcrashed
  rw [hcrashed] at h
  cases h

/-- A worker that delivers one record and is told to stop then does what it owes. -/
theorem sample_dutiful :
    let k := (Sample.solo Sample.failingOnce).lane.kit
    let s := (Sample.solo Sample.failingOnce).play
      [(0, .submit Sample.record), (5000000000, .cancel)]
    0 < k.capacity ∧ ∃ out, Sends {} (k.start 0) out s.moment s.lane ∧
      Dutiful k {} out s.moment s.lane ∧ s.lane.concluded.length = 1 ∧
      s.lane.phase.isGone = true := by
  intro k s
  have hcap : 0 < k.capacity := by decide
  obtain ⟨out, hout⟩ := (Sample.reaches_solo Sample.failingOnce
    [(0, .submit Sample.record), (5000000000, .cancel)]).exists_sends
  have hsends : Sends {} (k.start 0) out s.moment s.lane := hout
  have hleaving : s.lane.phase.isLeaving = true := by decide +kernel
  have hthere : s.lane.phase ≠ .crashed := ne_crashed_of_isLeaving hleaving
  have hdutiful := Sends.dutiful_iff hcap hsends
  refine ⟨hcap, out, hsends, hdutiful.1.2 hthere, ?_, ?_⟩
  · decide +kernel
  · decide +kernel

end Lane

namespace Sample

/-- A webhook that may be tried again as often as there are retries, 584 million years apart. -/
def patient : Lane.Kit where
  sender := .teams ⟨"https://hook.invalid/x",
    ⟨Span.ofSeconds 5, Span.ofSeconds 10, 4294967295, Span.ofSeconds 18446744073709551⟩⟩
  transport := fun _ _ => failingOnce
  choice := fun _ => {}
  clock := fun _ => "12:00"
  capacity := 5

end Sample

namespace Lane

/-- A worker that may be very patient dies of the first record that it takes. When the program is
cancelled ten minutes later it gives no notice and does not stop, whatever happens. -/
theorem dies_without_notice :
    ∃ m l, Sends {} (Sample.patient.start 0) [] m l ∧ m.isCancelled = true ∧
      ∀ out m' l', Sends m l out m' l' → out = [] ∧ l'.phase ≠ .stopped := by
  let offered := (Sample.patient.start 0).offer Sample.record
  let emptied : Lane := { offered with waiting := [] }
  let queued : Lane := { emptied with inbound := [Sample.record] }
  let dead := emptied.crash
  let taken : Moment := { now := 1000000 }
  let late : Moment := { now := 600007000000 }
  have hnone : emptied.plan? taken.now = none := by
    rw [← Option.not_isSome_iff_eq_none, plan?, Sender.isSome_plan?_iff]
    decide +kernel
  have hbook : emptied.book taken Sample.record = dead := by
    rw [book, hnone]
  have hdispatch : queued.step? taken .dispatch = some dead := congrArg some hbook
  have hdead : Sends {} (Sample.patient.start 0) [] late.cancel dead := by
    have h₁ : Sends {} (Sample.patient.start 0) [] taken (Sample.patient.start 0) :=
      .turn .start (.pass (Nat.zero_le _) _)
    have h₂ : Sends {} (Sample.patient.start 0) [] taken offered := .turn h₁ (.offer _ _ _)
    have h₃ : Sends {} (Sample.patient.start 0) [] taken queued :=
      .turn h₂ (.step (show offered.step? taken (.enter 0) = some queued from rfl))
    have h₄ : Sends {} (Sample.patient.start 0) [] taken dead := .turn h₃ (.step hdispatch)
    have h₅ : Sends {} (Sample.patient.start 0) [] late dead := .turn h₄ (.pass (by decide) _)
    exact .turn h₅ (.cancel _ _)
  refine ⟨late.cancel, dead, hdead, by decide, fun out m' l' h => ?_⟩
  obtain ⟨hnone, hphase⟩ := h.eq_nil_of_isGone rfl
  refine ⟨hnone, ?_⟩
  intro hstopped
  rw [hphase] at hstopped
  cases hstopped

end Lane

end AlertRelay
