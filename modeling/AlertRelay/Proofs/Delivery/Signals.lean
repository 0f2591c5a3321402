import AlertRelay.Proofs.Delivery.Verdict
import Mathlib.Order.MinMax

/-!
# Signals at a slot

Who waits for a slot wakes up at the first instant at which there is a signal: the timer of the slot
rings, the context is cancelled, or the timer of its deadline rings. When there are several signals
at once, any of them may be the one that is noticed (`Context.Awaits`), and the choices of
`waitForSlot` are all that can happen (`Context.awaits_waitForSlot`,
`Context.Awaits.exists_choice`).

What is noticed makes a difference to words only. The wait ends when the timer of the slot rings if
the context is not done then, and else it is given up without an error (`Context.Settles`). This
holds because the context is looked at once more when the slot is noticed. It holds for all timers
that never ring early; if they ring exactly at the slot and at the deadline, the wait ends exactly
at the slot or with the context (`Context.Settles.punctual`). The timers of the program ring on
whole milliseconds, so that a delivery whose slot and deadline lie between two of them is given up
although its slot comes first (`slot_missed_between_millis`).
-/

namespace AlertRelay

/-- What a wait for a slot can notice. -/
inductive Signal where
  | slot
  | done (reason : DoneReason)

/-- The signals that are there at the instant `u`. -/
inductive Context.Shows (c : Context) (timers : Timers) (slot u : Instant) : Signal → Prop
  | slot (hslot : timers.ring slot ≤ u) : c.Shows timers slot u .slot
  | cancelled (hcancelled : c.isCancelled u = true) : c.Shows timers slot u (.done .cancelled)
  | expired (hdeadline : timers.ring c.deadline ≤ u) :
      c.Shows timers slot u (.done .deadlineExceeded)

/-- The first instant from `now` on at which there is a signal. -/
structure Context.Wakes (c : Context) (timers : Timers) (slot now u : Instant) : Prop where
  le : now ≤ u
  shows : ∃ signal, c.Shows timers slot u signal
  first : ∀ v signal, now ≤ v → c.Shows timers slot v signal → u ≤ v

/-- What can come of waiting for a slot. One of the signals that are there is noticed. If it is the
slot, the context is looked at once more. -/
inductive Context.Awaits (c : Context) (timers : Timers) (channel : Channel) (slot now : Instant) :
    SlotWait → Prop
  | missed {u : Instant} {reason : DoneReason} (hwakes : c.Wakes timers slot now u)
      (hnoticed : c.Shows timers slot u (.done reason)) :
      c.Awaits timers channel slot now ⟨u, some (.cancelled channel (slotMissed reason channel))⟩
  | late {u : Instant} {reason : DoneReason} (hwakes : c.Wakes timers slot now u)
      (hnoticed : c.Shows timers slot u .slot) (hdone : c.doneReason? u = some reason) :
      c.Awaits timers channel slot now ⟨u, some (.cancelled channel (slotLate reason channel))⟩
  | ready {u : Instant} (hwakes : c.Wakes timers slot now u)
      (hnoticed : c.Shows timers slot u .slot) (hlive : c.doneReason? u = none) :
      c.Awaits timers channel slot now ⟨u, none⟩

/-- How a wait that is given up counts. -/
def SlotWait.outcome? (w : SlotWait) : Option Outcome :=
  w.cancelled.map DeliveryResult.outcome

/-- The context is not cancelled by `u`, and its deadline is still ahead. -/
def Context.LiveAt (c : Context) (u : Instant) : Prop :=
  (∀ t, c.cancelledAt = some t → u < t) ∧ u < c.deadline

/-- What is settled about a wait for a slot, whatever is noticed. -/
structure Context.Settles (c : Context) (timers : Timers) (channel : Channel) (slot now : Instant)
    (w : SlotWait) : Prop where
  /-- It ends when the timer of the slot rings, or at once if that is over, if the context is live
  then. -/
  kept : c.LiveAt (max now (timers.ring slot)) → w = ⟨max now (timers.ring slot), none⟩
  /-- Else it ends then or with the context, or at once, and there is no error. -/
  givenUp : ¬c.LiveAt (max now (timers.ring slot)) →
    w.time = min (max now (timers.ring slot))
        (max now (c.cancelledAt.elim (timers.ring c.deadline) fun t =>
          min t (timers.ring c.deadline))) ∧
      ∃ r, w.cancelled = some r ∧ r.channel = channel ∧ r.outcome = .cancelled ∧ r.error = none
  /-- Nothing is sent before the slot, or when the context is done. -/
  inTime : w.cancelled = none → slot ≤ w.time ∧ c.LiveAt w.time

variable {c : Context} {timers : Timers} {channel : Channel} {choice : Choice}
  {slot now u : Instant} {w w' : SlotWait}

namespace Context

/-! ### Signals -/

/-- The wait for the end of a context is over when it is cancelled or the timer of its deadline
rings. -/
theorem doneAt_le_iff (hle : now ≤ u) :
    c.doneAt now timers ≤ u ↔ c.isCancelled u = true ∨ timers.ring c.deadline ≤ u := by
  unfold doneAt isCancelled
  cases c.cancelledAt with
  | none => simp [hle]
  | some t => simp [hle]

/-- From `now` on, there is a signal of the context when the wait for its end is over. -/
theorem exists_shows_done_iff (hle : now ≤ u) :
    (∃ reason, c.Shows timers slot u (.done reason)) ↔ c.doneAt now timers ≤ u := by
  rw [doneAt_le_iff hle]
  constructor
  · rintro ⟨reason, hshows⟩
    cases hshows with
    | cancelled h => exact .inl h
    | expired h => exact .inr h
  · rintro (h | h)
    · exact ⟨_, .cancelled h⟩
    · exact ⟨_, .expired h⟩

/-- From `now` on, there is a signal when the slot or the end of the context has come. -/
theorem exists_shows_iff (hle : now ≤ u) :
    (∃ signal, c.Shows timers slot u signal) ↔
      min (max now (timers.ring slot)) (c.doneAt now timers) ≤ u := by
  rw [min_le_iff, ← exists_shows_done_iff hle]
  constructor
  · rintro ⟨signal, hshows⟩
    cases signal with
    | slot =>
      obtain ⟨hslot⟩ := hshows
      exact .inl (Nat.max_le.2 ⟨hle, hslot⟩)
    | done reason => exact .inr ⟨reason, hshows⟩
  · rintro (hready | ⟨reason, hshows⟩)
    · exact ⟨_, .slot (Nat.max_le.1 hready).2⟩
    · exact ⟨_, hshows⟩

/-- The wait is over when the slot or the end of the context has come. -/
theorem wakes_iff :
    c.Wakes timers slot now u ↔ u = min (max now (timers.ring slot)) (c.doneAt now timers) := by
  have hnow : now ≤ min (max now (timers.ring slot)) (c.doneAt now timers) :=
    Nat.le_min.2 ⟨Nat.le_max_left _ _, c.le_doneAt now timers⟩
  constructor
  · intro h
    obtain ⟨signal, hshows⟩ := (exists_shows_iff hnow).2 (Nat.le_refl _)
    exact Nat.le_antisymm (h.first _ signal hnow hshows) ((exists_shows_iff h.le).1 h.shows)
  · rintro rfl
    refine ⟨hnow, (exists_shows_iff hnow).2 (Nat.le_refl _), ?_⟩
    intro v signal hv hshows
    exact (exists_shows_iff hv).1 ⟨signal, hshows⟩

/-- If the context is noticed, the wait for its end is over no later than that for the slot. -/
theorem Wakes.doneAt_le {reason : DoneReason} (h : c.Wakes timers slot now u)
    (hdone : c.Shows timers slot u (.done reason)) :
    c.doneAt now timers ≤ max now (timers.ring slot) :=
  Nat.le_trans ((exists_shows_done_iff h.le).1 ⟨reason, hdone⟩)
    (Nat.le_trans (Nat.le_of_eq (wakes_iff.1 h)) (Nat.min_le_left _ _))

/-- If the slot is noticed, the wait for it is over no later than that for the end of the context.
-/
theorem Wakes.le_doneAt (h : c.Wakes timers slot now u) (hslot : c.Shows timers slot u .slot) :
    max now (timers.ring slot) ≤ c.doneAt now timers := by
  obtain ⟨hslot⟩ := hslot
  exact Nat.le_trans (Nat.max_le.2 ⟨h.le, hslot⟩)
    (Nat.le_trans (Nat.le_of_eq (wakes_iff.1 h)) (Nat.min_le_right _ _))

end Context

/-! ### The wait -/

/-- The reason that is noticed at the end of a context is one of its signals. -/
theorem Context.shows_endReason (hend : c.isCancelled u = true ∨ timers.ring c.deadline ≤ u)
    (choice : Choice) : c.Shows timers slot u (.done (c.endReason choice u timers)) := by
  unfold endReason
  split
  · rename_i hcancelled
    exact .cancelled (Bool.and_eq_true_iff.1 hcancelled).1
  · rename_i hother
    refine .expired ?_
    by_cases hcancelled : c.isCancelled u = true
    · rw [hcancelled, Bool.true_and, Bool.not_eq_true', Bool.not_eq_false] at hother
      exact of_decide_eq_true (Bool.and_eq_true_iff.1 hother).2
    · exact hend.resolve_left hcancelled

/-- A signal of the context is noticed when it is chosen. -/
theorem Context.exists_endReason_eq {reason : DoneReason}
    (hnoticed : c.Shows timers slot u (.done reason)) :
    ∃ choice : Choice, choice.slotFirst = false ∧ c.endReason choice u timers = reason := by
  cases hnoticed with
  | cancelled h => exact ⟨{}, rfl, by simp [endReason, h]⟩
  | expired h => exact ⟨{ deadlineFirst := true }, rfl, by simp [endReason, h]⟩

/-- A wait that notices the end of the context is given up. -/
theorem waitForSlot_of_missed (hend : c.doneAt now timers ≤ max now (timers.ring slot))
    (hfirst : c.doneAt now timers < max now (timers.ring slot) ∨ choice.slotFirst = false) :
    waitForSlot c choice channel slot now timers =
      ⟨c.doneAt now timers, some (.cancelled channel
        (slotMissed (c.endReason choice (c.doneAt now timers) timers) channel))⟩ := by
  refine if_pos ?_
  rcases hfirst with hbefore | hnot
  · rw [decide_eq_true hbefore, Bool.true_or]
  · rcases Nat.lt_or_eq_of_le hend with hbefore | htie
    · rw [decide_eq_true hbefore, Bool.true_or]
    · rw [htie, hnot, beq_self_eq_true, Bool.not_false, Bool.and_true, Bool.or_true]

/-- A wait that notices the slot is given up as well if the context is done then. -/
theorem waitForSlot_of_late {reason : DoneReason}
    (hend : max now (timers.ring slot) ≤ c.doneAt now timers)
    (hfirst : max now (timers.ring slot) < c.doneAt now timers ∨ choice.slotFirst = true)
    (hdone : c.doneReason? (max now (timers.ring slot)) = some reason) :
    waitForSlot c choice channel slot now timers =
      ⟨max now (timers.ring slot), some (.cancelled channel (slotLate reason channel))⟩ := by
  have hnoticed : ¬((decide (c.doneAt now timers < max now (timers.ring slot)) ||
      (c.doneAt now timers == max now (timers.ring slot) && !choice.slotFirst)) = true) := by
    rw [decide_eq_false (Nat.not_lt_of_le hend), Bool.false_or]
    rcases hfirst with hbefore | hslot
    · simp [Nat.ne_of_gt hbefore]
    · simp [hslot]
  refine (if_neg hnoticed).trans ?_
  rw [hdone]

/-- Whatever comes of waiting for a slot comes of some choices. -/
theorem Context.Awaits.exists_choice (h : c.Awaits timers channel slot now w) :
    ∃ choice, waitForSlot c choice channel slot now timers = w := by
  cases h with
  | missed hwakes hnoticed =>
    have hend : c.doneAt now timers ≤ max now (timers.ring slot) := hwakes.doneAt_le hnoticed
    obtain ⟨choice, hfirst, hreason⟩ := exists_endReason_eq hnoticed
    obtain rfl := wakes_iff.1 hwakes
    rw [Nat.min_eq_right hend] at hreason ⊢
    refine ⟨choice, ?_⟩
    rw [waitForSlot_of_missed hend (.inr hfirst), hreason]
  | late hwakes hnoticed hdone =>
    have hend := hwakes.le_doneAt hnoticed
    obtain rfl := wakes_iff.1 hwakes
    rw [Nat.min_eq_left hend] at hdone ⊢
    exact ⟨{ slotFirst := true }, waitForSlot_of_late hend (.inr rfl) hdone⟩
  | ready hwakes hnoticed hlive =>
    obtain rfl := wakes_iff.1 hwakes
    rw [Nat.min_eq_left (hwakes.le_doneAt hnoticed)] at hlive ⊢
    exact ⟨{}, waitForSlot_of_live hlive⟩

/-- What comes of some choices comes of waiting for a slot. -/
theorem Context.awaits_waitForSlot (c : Context) (timers : Timers) (choice : Choice)
    (channel : Channel) (slot now : Instant) :
    c.Awaits timers channel slot now (waitForSlot c choice channel slot now timers) := by
  by_cases hslotFirst : max now (timers.ring slot) < c.doneAt now timers ∨
      (max now (timers.ring slot) = c.doneAt now timers ∧ choice.slotFirst = true)
  · -- The slot is noticed.
    have hend : max now (timers.ring slot) ≤ c.doneAt now timers :=
      hslotFirst.elim Nat.le_of_lt fun htie => Nat.le_of_eq htie.1
    have hwakes : c.Wakes timers slot now (max now (timers.ring slot)) :=
      wakes_iff.2 (Nat.min_eq_left hend).symm
    have hnoticed : c.Shows timers slot (max now (timers.ring slot)) .slot :=
      .slot (Nat.le_max_right _ _)
    cases hdone : c.doneReason? (max now (timers.ring slot)) with
    | none =>
      rw [waitForSlot_of_live hdone]
      exact .ready hwakes hnoticed hdone
    | some reason =>
      rw [waitForSlot_of_late hend (hslotFirst.imp_right And.right) hdone]
      exact .late hwakes hnoticed hdone
  · obtain ⟨hnot, htie⟩ := not_or.1 hslotFirst
    have hend : c.doneAt now timers ≤ max now (timers.ring slot) := Nat.le_of_not_lt hnot
    have hfirst : c.doneAt now timers < max now (timers.ring slot) ∨ choice.slotFirst = false := by
      rcases Nat.lt_or_eq_of_le hend with hbefore | heq
      · exact .inl hbefore
      · exact .inr ((Bool.not_eq_true _).mp fun hslot => htie ⟨heq.symm, hslot⟩)
    have hwakes : c.Wakes timers slot now (c.doneAt now timers) :=
      wakes_iff.2 (Nat.min_eq_right hend).symm
    rw [waitForSlot_of_missed hend hfirst]
    exact .missed hwakes
      (shows_endReason ((doneAt_le_iff hwakes.le).1 (Nat.le_refl _)) choice)

/-! ### What is settled -/

/-- The end of a context is its deadline or its cancellation, whichever is earlier. -/
theorem Context.doneAt_eq (c : Context) (now : Instant) (timers : Timers) :
    c.doneAt now timers = max now (c.cancelledAt.elim (timers.ring c.deadline) fun t =>
      min t (timers.ring c.deadline)) := by
  unfold doneAt
  cases c.cancelledAt with
  | none => rfl
  | some t => rfl

/-- A wait that is given up is settled. -/
theorem Context.settles_of_givenUp {r : DeliveryResult}
    (htime : u = min (max now (timers.ring slot)) (c.doneAt now timers))
    (hdone : ¬c.LiveAt (max now (timers.ring slot))) (hchannel : r.channel = channel)
    (houtcome : r.outcome = .cancelled) (herror : r.error = none) :
    c.Settles timers channel slot now ⟨u, some r⟩ where
  kept := by
    intro hlive
    exact absurd hlive hdone
  givenUp := by
    intro _
    refine ⟨?_, r, rfl, hchannel, houtcome, herror⟩
    rw [htime, c.doneAt_eq]
  inTime := by
    intro h
    cases h

/-- Whatever is noticed, the wait is settled. -/
theorem Context.Awaits.settles (h : c.Awaits timers channel slot now w) :
    c.Settles timers channel slot now w := by
  cases h with
  | missed hwakes hnoticed =>
    refine settles_of_givenUp (wakes_iff.1 hwakes) ?_ rfl rfl rfl
    intro hlive
    have hahead : max now (timers.ring slot) < c.doneAt now timers :=
      lt_doneAt_of_live (doneReason?_eq_none_iff.2 hlive)
    exact Nat.not_lt_of_le (hwakes.doneAt_le hnoticed) hahead
  | late hwakes hnoticed hdone =>
    refine settles_of_givenUp (wakes_iff.1 hwakes) ?_ rfl rfl rfl
    intro hlive
    obtain rfl := wakes_iff.1 hwakes
    rw [Nat.min_eq_left (hwakes.le_doneAt hnoticed), doneReason?_eq_none_iff.2 hlive] at hdone
    cases hdone
  | ready hwakes hnoticed hlive =>
    obtain rfl := wakes_iff.1 hwakes
    rw [Nat.min_eq_left (hwakes.le_doneAt hnoticed)] at hlive ⊢
    have hlive' : c.LiveAt (max now (timers.ring slot)) := doneReason?_eq_none_iff.1 hlive
    refine ⟨fun _ => rfl, fun hdone => absurd hlive' hdone, fun _ => ⟨?_, hlive'⟩⟩
    exact Nat.le_trans (timers.le_ring slot) (Nat.le_max_right _ _)

/-- What is settled decides when a wait ends and how it counts. -/
theorem Context.Settles.unique (h : c.Settles timers channel slot now w)
    (h' : c.Settles timers channel slot now w') : w.time = w'.time ∧ w.outcome? = w'.outcome? := by
  by_cases hlive : c.LiveAt (max now (timers.ring slot))
  · rw [h.kept hlive, h'.kept hlive]
    exact ⟨rfl, rfl⟩
  · obtain ⟨htime, r, hr, -, houtcome, -⟩ := h.givenUp hlive
    obtain ⟨htime', r', hr', -, houtcome', -⟩ := h'.givenUp hlive
    refine ⟨htime.trans htime'.symm, ?_⟩
    rw [SlotWait.outcome?, SlotWait.outcome?, hr, hr', Option.map_some, Option.map_some, houtcome,
      houtcome']

/-- A context that is not live any more has come to its end. -/
theorem Context.doneAt_le_of_not_liveAt (hle : now ≤ u)
    (hdeadline : timers.ring c.deadline = c.deadline) (hdone : ¬c.LiveAt u) :
    c.doneAt now timers ≤ u := by
  rw [doneAt_le_iff hle, hdeadline]
  by_contra hnot
  obtain ⟨hcancelled, hahead⟩ := not_or.1 hnot
  refine hdone ⟨fun t ht => Nat.lt_of_not_le fun htu => hcancelled ?_, Nat.lt_of_not_le hahead⟩
  rw [isCancelled, ht]
  exact decide_eq_true htu

/-- A wait for a slot and a deadline at which timers ring is punctual: it ends at the slot, or at
once if that is over, if the context is live then, and else with the context, or at once. -/
theorem Context.Settles.punctual (h : c.Settles timers channel slot now w)
    (hslot : timers.ring slot = slot) (hdeadline : timers.ring c.deadline = c.deadline) :
    (c.LiveAt (max now slot) → w = ⟨max now slot, none⟩) ∧
      (¬c.LiveAt (max now slot) →
        w.time = max now (c.cancelledAt.elim c.deadline fun t => min t c.deadline)) := by
  obtain ⟨hkept, hgivenUp, -⟩ := h
  rw [hslot] at hkept hgivenUp
  refine ⟨hkept, fun hdone => ?_⟩
  have hend := doneAt_le_of_not_liveAt (Nat.le_max_left now slot) hdeadline hdone
  rw [c.doneAt_eq] at hend
  rw [(hgivenUp hdone).1, Nat.min_eq_right hend, hdeadline]

/-- Which signals a wait for a slot notices makes a difference to its words only, whatever the
timers are. The choices of `waitForSlot` are all that can happen, and whatever happens, the wait
ends at the same time and counts in the same way: it ends when the timer of the slot rings if the
context is live then, and else it is given up. If timers ring exactly at the slot and at the
deadline, it ends at the slot or with the context. -/
theorem waitForSlot_settled (timers : Timers) (c : Context) (channel : Channel)
    (slot now : Instant) :
    (∀ w, c.Awaits timers channel slot now w ↔
        ∃ choice, waitForSlot c choice channel slot now timers = w) ∧
      ∀ choice, c.Settles timers channel slot now
          (waitForSlot c choice channel slot now timers) ∧
        (timers.ring slot = slot → timers.ring c.deadline = c.deadline →
          (c.LiveAt (max now slot) →
            waitForSlot c choice channel slot now timers = ⟨max now slot, none⟩) ∧
          (¬c.LiveAt (max now slot) → (waitForSlot c choice channel slot now timers).time =
            max now (c.cancelledAt.elim c.deadline fun t => min t c.deadline))) ∧
        ∀ choice', (waitForSlot c choice channel slot now timers).time =
            (waitForSlot c choice' channel slot now timers).time ∧
          (waitForSlot c choice channel slot now timers).outcome? =
            (waitForSlot c choice' channel slot now timers).outcome? := by
  have hsettles (choice : Choice) : c.Settles timers channel slot now
      (waitForSlot c choice channel slot now timers) :=
    (c.awaits_waitForSlot timers choice channel slot now).settles
  constructor
  · intro w
    constructor
    · intro h
      exact h.exists_choice
    · rintro ⟨choice, rfl⟩
      exact c.awaits_waitForSlot timers choice channel slot now
  · intro choice
    refine ⟨hsettles choice, (hsettles choice).punctual, ?_⟩
    intro choice'
    exact (hsettles choice).unique (hsettles choice')

/-- When all signals come at once, the words tell which one was noticed. -/
example :
    let wait (choice : Choice) := waitForSlot ⟨5, some 5⟩ choice .teams 5 3
    let words (choice : Choice) := (wait choice).cancelled.map DeliveryResult.message
    words {} = some "context cancelled while waiting for scheduled teams send" ∧
      words { deadlineFirst := true } =
        some "context deadline exceeded while waiting for scheduled teams send" ∧
      words { slotFirst := true } = some "context cancelled at scheduled teams send time" := by
  decide

/-- A slot at 0.3 ms and a deadline at 0.7 ms are both noticed at 1 ms, so that the delivery is
given up then although the context is live at the slot. -/
theorem slot_missed_between_millis :
    Context.LiveAt ⟨700000, none⟩ (max 0 300000) ∧
      ∀ choice, (waitForSlot ⟨700000, none⟩ choice .teams 300000 0 .millis).time = 1000000 ∧
        (waitForSlot ⟨700000, none⟩ choice .teams 300000 0 .millis).outcome? = some .cancelled ∧
        waitForSlot ⟨700000, none⟩ choice .teams 300000 0 .millis ≠ ⟨max 0 300000, none⟩ := by
  have hlive : Context.LiveAt ⟨700000, none⟩ (max 0 300000) :=
    Context.doneReason?_eq_none_iff.1 rfl
  have hdone : ¬Context.LiveAt ⟨700000, none⟩ (max 0 (Timers.millis.ring 300000)) :=
    fun h => absurd h.2 (by decide)
  refine ⟨hlive, fun choice => ?_⟩
  obtain ⟨htime, r, hr, -, houtcome, -⟩ :=
    (Context.awaits_waitForSlot ⟨700000, none⟩ .millis choice .teams 300000 0).settles.givenUp hdone
  refine ⟨htime.trans (by decide), ?_, ?_⟩
  · rw [SlotWait.outcome?, hr, Option.map_some, houtcome]
  · intro h
    rw [h] at hr
    cases hr

end AlertRelay
