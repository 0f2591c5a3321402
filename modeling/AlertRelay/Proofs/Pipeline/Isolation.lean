import AlertRelay.Proofs.Lane.Outlook
import AlertRelay.Proofs.Lane.Timeline
import AlertRelay.Proofs.Pipeline.Prompt

/-!
# Deliveries do not wait for each other

Two prompt runs in which the transport behaves differently towards one delivery, and nothing else
differs, show the same of all other deliveries, on the same channel and on the others: the same
slots, the same calls at the same times, and the same outcomes at the same times
(`Pipeline.agreesBefore_of_divert`). The delivery in question may be slow, fail or never return, and
the queues may be as short as they like.

Both runs are compared with what is decided by the arrivals of the records alone. Records that were
accepted are on the way to the workers and nothing holds them up, so that each lane schedules them
as if they had come to it at once (`Pipeline.InTime.foreseen`), and what becomes of a delivery then
is a matter between it and its transport (`Lane.OnCourse`).
-/

namespace AlertRelay

/-- The record that the dispatcher has not yet handed to lane number `k`. -/
def DispatcherPhase.coming : DispatcherPhase → Nat → List EventRecord
  | .fanning r i, k => if k < i then [] else [r]
  | _, _ => []

/-- The lane with another behaviour of its transport towards the delivery number `k`. -/
def Lane.divert (l : Lane) (k : Nat) (behaviour : EventRecord → Transport Unit) : Lane :=
  { l with transport := Function.update l.transport k behaviour }

/-- The other deliveries take the same course. -/
theorem Lane.trace_divert {l : Lane} {k : Nat} (behaviour : EventRecord → Transport Unit) (m : Moment)
    {d : Delivery} (hne : d.number ≠ k) : (l.divert k behaviour).trace m d = l.trace m d :=
  trace_congr m rfl rfl rfl (congrFun (Function.update_of_ne hne _ _) d.record)

namespace Pipeline

/-- The pipeline with another behaviour of the transport of lane number `i` towards the delivery
number `k` of this lane. -/
def divert (p : Pipeline) (i k : Nat) (behaviour : EventRecord → Transport Unit) : Pipeline :=
  { p with lanes := p.lanes.modify i fun l => l.divert k behaviour }

/-- The records that were accepted before `t`, with the times at which they were. -/
def acceptedBefore (p : Pipeline) (t : Instant) : List (Instant × EventRecord) :=
  p.accepted.filter fun a => a.1 < t

/-- The accepted records that are on the way to lane number `k`. -/
def ahead (p : Pipeline) (k : Nat) : List (Instant × EventRecord) :=
  (p.phase.coming k ++ p.inbound).map (p.now, ·)

/-- A pipeline in which nothing has waited for a delivery. -/
structure InTime (p₀ p : Pipeline) : Prop where
  sorted : p.accepted.Pairwise fun a b => a.1 ≤ b.1
  past : ∀ a ∈ p.accepted, a.1 ≤ p.now
  course : ∀ l ∈ p.lanes, l.OnCourse p.now
  /-- What a lane was to schedule from the start is what it has scheduled and will schedule. -/
  foreseen : ∀ (k : Nat) (l₀ l : Lane), p₀.lanes[k]? = some l₀ → p.lanes[k]? = some l →
    ∀ more, l₀.outlook (p.accepted ++ more) = l.foresees p.now (p.ahead k ++ more)

variable {p₀ p q : Pipeline} {e : PipelineEvent}

/-! ### Steps -/

/-- Records are accepted in the order of their times. -/
theorem Move.accepted_sorted (h : p.Move e q)
    (hp : (p.accepted.Pairwise fun a b => a.1 ≤ b.1) ∧ ∀ a ∈ p.accepted, a.1 ≤ p.now) :
    (q.accepted.Pairwise fun a b => a.1 ≤ b.1) ∧ ∀ a ∈ q.accepted, a.1 ≤ q.now := by
  obtain ⟨hsorted, hpast⟩ := hp
  cases h with
  | @accept r hopen hroom =>
    constructor
    · refine List.pairwise_append.2 ⟨hsorted, List.pairwise_singleton _ _, fun a ha b hb => ?_⟩
      rw [List.mem_singleton.1 hb]
      exact hpast a ha
    · intro a ha
      rcases List.mem_append.1 ha with ha | ha
      · exact hpast a ha
      · rw [List.mem_singleton.1 ha]
        exact Nat.le_refl p.now
  | pass ht => exact ⟨hsorted, fun a ha => Nat.le_trans (hpast a ha) ht⟩
  | _ => exact ⟨hsorted, hpast⟩

/-- Every lane stays on course. -/
theorem Move.onCourse (h : p.Move e q) (hprompt : p.IsPrompt e)
    (hq : q.moment.cancelledAt = none) (hp : ∀ l ∈ p.lanes, l.OnCourse p.now) :
    ∀ l ∈ q.lanes, l.OnCourse q.now := by
  have hun := h.uncancelled hq
  have hset : ∀ {i : Nat} {l l₁ : Lane}, p.lanes[i]? = some l →
      (l.OnCourse p.now → l₁.OnCourse p.now) → ∀ l' ∈ p.lanes.set i l₁, l'.OnCourse p.now := by
    intro i l l₁ hl hkeeps l' hl'
    rcases List.mem_or_eq_of_mem_set hl' with hl' | rfl
    · exact hp l' hl'
    · exact hkeeps (hp l (List.mem_of_getElem? hl))
  cases h with
  | cancel => cases hq
  | trip => cases hq
  | @pass t ht =>
    intro l hl
    have hrest : ∀ u, p.now ≤ u → u < t → (p.wait u).AtRest := hprompt
    have hmoment : ∀ u, (p.wait u).moment = ⟨u, none⟩ := by
      intro u
      rw [← hun]
      rfl
    refine (hp l hl).wait (fun u hu hut => ?_) fun u hu hut d hd => ?_
    · rw [← hmoment u]
      exact (hrest u hu hut).lane l hl
    · rw [← hmoment u]
      exact (hrest u hu hut).mustTrip hl hd
  | lane hl h => exact hset hl fun hcourse => hcourse.move (Lane.move_of_step? h) hun
  | hand hphase hl => exact hset hl fun hcourse => hcourse.congr ⟨rfl, rfl, rfl, rfl, rfl, rfl⟩
  | tally hphase hl hr => exact hset hl fun hcourse => hcourse.congr ⟨rfl, rfl, rfl, rfl, rfl, rfl⟩
  | collect hphase hl hr =>
    exact hset hl fun hcourse => hcourse.congr ⟨rfl, rfl, rfl, rfl, rfl, rfl⟩
  | abandon hphase hl hlate =>
    exact hset hl fun hcourse => hcourse.congr ⟨rfl, rfl, rfl, rfl, rfl, rfl⟩
  | _ => exact hp

/-- At rest nothing is on the way to a worker, so it does not matter when it would arrive. -/
theorem AtRest.foresees_wait (hrest : p.AtRest) (hp₀ : p₀.Fresh) (hr : p₀.Reaches p)
    (hun : p.moment.cancelledAt = none) {l : Lane} (hl : l ∈ p.lanes) (t : Instant) (k : Nat)
    (more : List (Instant × EventRecord)) :
    l.foresees t ((p.wait t).ahead k ++ more) = l.scheduled ++ l.outlook more := by
  have hphase := hrest.phase_eq (hr.staged hp₀) hun
  have hdrained := hrest.drained hp₀ hr hun l hl
  have hahead : (p.wait t).ahead k = [] := by
    change (p.phase.coming k ++ p.inbound).map (t, ·) = []
    rw [hphase, hrest.inbound_eq hphase]
    rfl
  rw [hahead, Lane.foresees, hdrained.inbound, hdrained.waiting]
  rfl

/-- Whatever happens was foreseen. -/
theorem Move.foreseen (h : p.Move e q) (hprompt : p.IsPrompt e) (hp₀ : p₀.Fresh)
    (hr : p₀.Reaches p) (hq : q.moment.cancelledAt = none) (hi : InTime p₀ p) {k : Nat}
    {l₀ l' : Lane} (hl₀ : p₀.lanes[k]? = some l₀) (hk : q.lanes[k]? = some l')
    (more : List (Instant × EventRecord)) :
    l₀.outlook (q.accepted ++ more) = l'.foresees q.now (q.ahead k ++ more) := by
  have hs := hr.staged hp₀
  have hun := h.uncancelled hq
  have hopen := hs.isOpen_eq hun
  cases h with
  | @accept r hroom =>
    have hmore := hi.foreseen k l₀ l' hl₀ hk ((p.now, r) :: more)
    have hahead : (p.phase.coming k ++ (p.inbound ++ [r])).map (p.now, ·) ++ more =
        p.ahead k ++ (p.now, r) :: more := by
      simp [ahead]
    change l₀.outlook (p.accepted ++ [(p.now, r)] ++ more) =
      l'.foresees p.now ((p.phase.coming k ++ (p.inbound ++ [r])).map (p.now, ·) ++ more)
    rw [hahead, List.append_assoc]
    exact hmore
  | cancel => cases hq
  | trip => cases hq
  | @pass t ht =>
    have hsame := hi.foreseen k l₀ l' hl₀ hk more
    rcases Nat.eq_or_lt_of_le ht with rfl | hlt
    · exact hsame
    · have hrest : p.AtRest := hprompt p.now (Nat.le_refl _) hlt
      have hmem := List.mem_of_getElem? hk
      have hnow := hrest.foresees_wait hp₀ hr hun hmem p.now k more
      have hlater := hrest.foresees_wait hp₀ hr hun hmem t k more
      exact hsame.trans (hnow.trans hlater.symm)
  | @lane i l l₁ e hl h =>
    rcases getElem?_setLane hl hk with ⟨rfl, rfl⟩ | ⟨-, hk⟩
    · have hleaving := hs.isLeaving_eq hun (List.mem_of_getElem? hl)
      have hfirst : ∀ j, e = .enter j → j = 0 := by
        rintro j rfl
        exact hprompt
      have hsame := (Lane.move_of_step? h).foresees_eq hun hleaving hfirst (p.ahead k ++ more)
      exact (hi.foreseen k l₀ l hl₀ hl more).trans hsame.symm
    · exact hi.foreseen k l₀ l' hl₀ hk more
  | ledger he h => exact hi.foreseen k l₀ l' hl₀ hk more
  | @take r rest hphase hin =>
    have hsame := hi.foreseen k l₀ l' hl₀ hk more
    rw [ahead, hphase, hin] at hsame
    exact hsame
  | @hand r i l hphase hl =>
    rcases getElem?_setLane hl hk with ⟨rfl, rfl⟩ | ⟨hne, hk⟩
    · have hsame := hi.foreseen k l₀ l hl₀ hl more
      rw [ahead, hphase, DispatcherPhase.coming, if_neg (Nat.lt_irrefl k)] at hsame
      change l₀.outlook (p.accepted ++ more) =
        (l.offer r).foresees p.now
          (((DispatcherPhase.fanning r (k + 1)).coming k ++ p.inbound).map (p.now, ·) ++ more)
      rw [DispatcherPhase.coming, if_pos (Nat.lt_succ_self k), Lane.foresees_offer]
      exact hsame
    · have hahead : (DispatcherPhase.fanning r (i + 1)).coming k = p.phase.coming k := by
        have hlt : k < i + 1 ↔ k < i := by omega
        simp only [hphase, DispatcherPhase.coming, hlt]
      have hsame := hi.foreseen k l₀ l' hl₀ hk more
      rw [ahead, ← hahead] at hsame
      exact hsame
  | @count r i hphase hl =>
    have hlt : k < i := by
      have hk' : k < p.lanes.length := (List.getElem?_eq_some_iff.1 hk).1
      exact Nat.lt_of_lt_of_le hk' (List.getElem?_eq_none_iff.1 hl)
    have hsame := hi.foreseen k l₀ l' hl₀ hk more
    rw [ahead, hphase, DispatcherPhase.coming, if_pos hlt] at hsame
    exact hsame
  | @tally i l r rest hphase hl hr' =>
    rcases getElem?_setLane hl hk with ⟨rfl, rfl⟩ | ⟨-, hk⟩
    · exact hi.foreseen k l₀ l hl₀ hl more
    · exact hi.foreseen k l₀ l' hl₀ hk more
  | halt hphase hcancel =>
    rw [Moment.isCancelled, hun] at hcancel
    cases hcancel
  | collect hphase | advance hphase | abandon hphase | close hphase | finish hphase =>
    rw [Pipeline.isOpen, hphase] at hopen
    cases hopen

/-- What happens promptly to a pipeline that is not cancelled makes nothing wait for a delivery. -/
theorem InTime.move (hi : InTime p₀ p) (h : p.Move e q) (hprompt : p.IsPrompt e) (hp₀ : p₀.Fresh)
    (hr : p₀.Reaches p) (hq : q.moment.cancelledAt = none) : InTime p₀ q where
  sorted := (h.accepted_sorted ⟨hi.sorted, hi.past⟩).1
  past := (h.accepted_sorted ⟨hi.sorted, hi.past⟩).2
  course := h.onCourse hprompt hq hi.course
  foreseen _ _ _ hl₀ hk more := h.foreseen hprompt hp₀ hr hq hi hl₀ hk more

/-- At the start nothing has waited for anything. -/
theorem Fresh.inTime (hp : p.Fresh) : InTime p p := by
  have haccepted : p.accepted = [] := by
    rw [hp.eq_start]
    rfl
  have hahead : ∀ k, p.ahead k = [] := by
    intro k
    rw [hp.eq_start]
    rfl
  have hcourse : ∀ l ∈ p.lanes, l.OnCourse p.now := by
    intro l hl
    obtain ⟨-, t, ht⟩ := hp.lanes_start l hl
    rw [ht]
    exact
      { running := fun _ hd => nomatch hd
        pending := fun _ hd => nomatch hd
        concluded := fun _ hc => nomatch hc
        calls := .nil }
  refine ⟨?_, ?_, hcourse, fun k l₀ l hl₀ hl more => ?_⟩
  · rw [haccepted]
    exact .nil
  · rw [haccepted]
    intro _ ha
    exact nomatch ha
  · obtain rfl : l₀ = l := Option.some.inj (hl₀.symm.trans hl)
    obtain ⟨-, t, ht⟩ := hp.lanes_start l₀ (List.mem_of_getElem? hl)
    rw [haccepted, hahead, ht]
    rfl

/-! ### Runs -/

/-- In a pipeline that unfolds promptly and is not cancelled nothing waits for a delivery. -/
theorem Unfolds.inTime (hp : p₀.Fresh) (h : p₀.Unfolds p) (hun : p.moment.cancelledAt = none) :
    InTime p₀ p := by
  induction h with
  | refl => exact hp.inTime
  | @tail p q hreach hstep ih =>
    obtain ⟨e, hprompt, he⟩ := hstep
    have hmove := move_of_step? he
    exact (ih (hmove.uncancelled hun)).move hmove hprompt hp (Unfolds.reaches hreach) hun

/-- What a lane launched before `t` is decided by what was accepted before `t`. -/
theorem InTime.scheduledBefore_eq (hi : InTime p₀ p) {k : Nat} {l₀ l : Lane}
    (hl₀ : p₀.lanes[k]? = some l₀) (hl : p.lanes[k]? = some l) {t : Instant} (hle : t ≤ p.now) :
    l.scheduledBefore t = l₀.outlook (p.acceptedBefore t) := by
  have hsame := hi.foreseen k l₀ l hl₀ hl []
  rw [List.append_nil, List.append_nil] at hsame
  have hlater : ∀ a ∈ p.ahead k, t ≤ a.1 := by
    intro a ha
    obtain ⟨r, -, rfl⟩ := List.mem_map.1 ha
    exact hle
  rw [Lane.scheduledBefore, ← Lane.filter_foresees hle hlater, ← hsame,
    Lane.filter_outlook hi.sorted, acceptedBefore]

/-- A record is accepted at once when nothing else can happen: nobody waits for room. -/
theorem AtRest.accept?_isSome (hrest : p.AtRest) (hp : p₀.Fresh) (h : p₀.Reaches p)
    (hun : p.moment.cancelledAt = none) (r : EventRecord) : (p.accept? r).isSome = true := by
  have hs := h.staged hp
  have hroom : p.inbound.length < p.capacity := by
    rw [hrest.inbound_eq (hrest.phase_eq hs hun), h.capacity_eq.1]
    exact hp.capacity_pos
  simp [accept?, hs.isOpen_eq hun, hroom]

/-! ### Two runs -/

/-- The lanes of a pipeline in which the transport behaves differently towards one delivery. -/
theorem getElem?_divert {i k j : Nat} {behaviour : EventRecord → Transport Unit} {l : Lane}
    (hl : p.lanes[j]? = some l) :
    (p.divert i k behaviour).lanes[j]? = some (if i = j then l.divert k behaviour else l) := by
  rw [divert, List.getElem?_modify, hl]
  split <;> rfl

/-- A fresh pipeline is fresh whatever its transports do. -/
theorem Fresh.divert (hp : p.Fresh) (i k : Nat) (behaviour : EventRecord → Transport Unit) :
    (p.divert i k behaviour).Fresh where
  capacity_pos := hp.capacity_pos
  eq_start := by
    conv_lhs => rw [hp.eq_start]
    rfl
  lanes_start l' hl' := by
    obtain ⟨j, hj⟩ := List.mem_iff_getElem?.1 hl'
    cases hl : p.lanes[j]? with
    | none =>
      rw [Pipeline.divert, List.getElem?_modify, hl] at hj
      cases hj
    | some l =>
      rw [getElem?_divert hl, Option.some.injEq] at hj
      obtain ⟨hcap, t, ht⟩ := hp.lanes_start l (List.mem_of_getElem? hl)
      rw [← hj]
      split
      · exact ⟨hcap, t, by rw [ht]; rfl⟩
      · exact ⟨hcap, t, ht⟩
  channels_nodup := by
    have hsame : (p.divert i k behaviour).lanes.map Lane.channel = p.lanes.map Lane.channel := by
      refine List.ext_getElem? ?_
      intro j
      rw [List.getElem?_map, List.getElem?_map]
      cases hl : p.lanes[j]? with
      | none => rw [Pipeline.divert, List.getElem?_modify, hl]; rfl
      | some l =>
        rw [getElem?_divert hl]
        split <;> rfl
    rw [hsame]
    exact hp.channels_nodup

/-- Deliveries do not wait for each other. Two runs that differ in nothing but the behaviour of the
transport towards the delivery number `k` of lane number `i`, and in the order in which things
happen at one instant, show the same of all other deliveries. And whatever that delivery does, a
record that comes in while nothing else can happen is accepted at once, so that every schedule of
arrivals can be kept. -/
theorem agreesBefore_of_divert {i k : Nat} {behaviour : EventRecord → Transport Unit} {t : Instant}
    (hp : p₀.Fresh) (h : p₀.Unfolds p) (h' : (p₀.divert i k behaviour).Unfolds q)
    (hun : p.moment.cancelledAt = none) (hun' : q.moment.cancelledAt = none) (hle : t ≤ p.now)
    (hle' : t ≤ q.now) (haccepted : p.acceptedBefore t = q.acceptedBefore t) :
    (∀ j l l', p.lanes[j]? = some l → q.lanes[j]? = some l' →
      Lane.AgreesBefore t (fun n => j ≠ i ∨ n ≠ k) l l' p.moment q.moment) ∧
    (q.AtRest → ∀ r, (q.accept? r).isSome = true) := by
  have hp' : (p₀.divert i k behaviour).Fresh := hp.divert i k behaviour
  have hi := h.inTime hp hun
  have hi' := h'.inTime hp' hun'
  refine ⟨fun j l l' hl hl' => ?_, fun hrest r => hrest.accept?_isSome hp' h'.reaches hun' r⟩
  obtain ⟨l₀, hl₀, hkit⟩ := h.reaches.exists_kit_getElem? hl
  obtain ⟨l₀', hl₀', hkit'⟩ := h'.reaches.exists_kit_getElem? hl'
  obtain rfl : _ = l₀' := Option.some.inj ((getElem?_divert hl₀).symm.trans hl₀')
  have hscheduled : l.scheduledBefore t = l'.scheduledBefore t := by
    rw [hi.scheduledBefore_eq hl₀ hl hle, hi'.scheduledBefore_eq hl₀' hl' hle', haccepted]
    split <;> rfl
  have hmem := List.mem_of_getElem? hl
  have hmem' := List.mem_of_getElem? hl'
  rw [moment_eq hun, moment_eq hun']
  refine (hi.course l hmem).agreesBefore (hi'.course l' hmem') (h.reaches.tracks hp l hmem)
    (h'.reaches.tracks hp' l' hmem') hle hle' hscheduled ?_ fun m d hd => ?_
  · rw [Lane.channel_of_kit hkit, Lane.channel_of_kit hkit']
    split <;> rfl
  · rw [Lane.trace_of_kit hkit, Lane.trace_of_kit hkit']
    rw [decide_eq_true_iff] at hd
    split
    · rename_i hij
      have hne : d.number ≠ k := hd.resolve_left fun hji => hji hij.symm
      exact Lane.trace_divert behaviour m hne
    · rfl

/-- The delivery of the first record to the webhook hangs in one run and not in the other. The
second record is delivered there all the same, and both are delivered to the mail server. -/
theorem sample_agreesBefore :
    let p₀ := Sample.pipeline fun _ _ => Sample.failingOnce
    let p := (Sample.afterSecond p₀).wait 3000001001
    let q := (Sample.afterSecond (p₀.divert 0 0 fun _ => Sample.silent)).wait 3000001001
    (∀ j l l', p.lanes[j]? = some l → q.lanes[j]? = some l' →
      Lane.AgreesBefore 3000001001 (fun n => j ≠ 0 ∨ n ≠ 0) l l' p.moment q.moment) ∧
    p.lanes.map (fun l => l.concluded.length) = [2, 2] ∧
    q.lanes.map (fun l => l.concluded.length) = [1, 2] := by
  intro p₀ p q
  have hp : p₀.Fresh := Sample.fresh_pipeline _
  have h : p₀.Unfolds p :=
    Sample.unfolds_afterSecond hp (by decide +kernel) (by decide +kernel) (by decide +kernel)
  have h' : (p₀.divert 0 0 fun _ => Sample.silent).Unfolds q :=
    Sample.unfolds_afterSecond (hp.divert 0 0 _) (by decide +kernel) (by decide +kernel)
      (by decide +kernel)
  refine ⟨(agreesBefore_of_divert hp h h' ?_ ?_ ?_ ?_ ?_).1, ?_, ?_⟩
  · decide +kernel
  · decide +kernel
  · decide +kernel
  · decide +kernel
  · decide +kernel
  · decide +kernel
  · decide +kernel

end Pipeline

end AlertRelay
