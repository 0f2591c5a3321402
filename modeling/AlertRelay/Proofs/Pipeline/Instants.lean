import AlertRelay.Proofs.Lane.Instants
import AlertRelay.Proofs.Pipeline.Reception

/-!
# Instants of a pipeline

A pipeline that has accepted `n` records up to some time needs an instant that lies `n` rate limits,
the time for one attempt and the time for all pauses behind that time, for each of its lanes
(`Sender.Spans`). If these instants exist then no worker dies, in whatever order things happen
(`Pipeline.Reaches.not_crashed`). And if one of them does not exist, the records may come so that a
worker dies (`Pipeline.spans_of_not_crashed`).
-/

namespace AlertRelay

/-- The deadline of the last one of `n` records that come at a time is an instant. -/
def Sender.Spans (s : Sender) (last n : Nat) : Prop :=
  last + n * s.settings.rateLimit.toNanos + s.settings.baseTimeout.toNanos +
    s.settings.retryDelay.toNanos * s.settings.retries < Instant.limit

instance (s : Sender) (last n : Nat) : Decidable (s.Spans last n) :=
  inferInstanceAs (Decidable (_ < _))

namespace Pipeline

variable {p₀ p q : Pipeline} {e : PipelineEvent} {l : Lane} {n : Nat} {last : Instant}

/-! ### Enough instants -/

/-- A lane has got no more records than were accepted. -/
theorem Reaches.length_scheduled_le (h : p₀.Reaches p) (hp : p₀.Fresh) (hl : l ∈ p.lanes) :
    l.scheduled.length + l.inbound.length ≤ p.accepted.length := by
  obtain ⟨done, hb⟩ := h.books hp
  obtain ⟨k, hk⟩ := List.mem_iff_getElem?.1 hl
  obtain ⟨lost, hsum, -⟩ := hb.carries k l hk
  have hcard := congrArg Multiset.card hsum
  simp only [Lane.ashore, Multiset.card_add, Multiset.coe_card, List.length_map,
    List.length_append] at hcard
  have hhanded : done.length + (p.phase.handed k).length ≤ p.accepted.length := by
    cases hphase : p.phase with
    | fanning r i =>
      have haccounts := congrArg List.length (hb.accounts (by rw [isOpen, hphase]))
      simp only [hphase, DispatcherPhase.current, List.length_map, List.length_append,
        List.length_singleton] at haccounts
      have hone : (DispatcherPhase.handed (.fanning r i) k).length ≤ 1 := by
        by_cases hk : k < i <;> simp [DispatcherPhase.handed, hk]
      omega
    | _ =>
      have hdone := hb.accepted.length_le
      rw [List.length_map] at hdone
      exact hdone
  omega

/-- What a worker plans for a record exists if there are instants enough. -/
theorem Reaches.isSome_plan? (h : p₀.Reaches p) (hp : p₀.Fresh)
    (hpaced : ∀ l ∈ p₀.lanes, l.Paced p₀.moment) (hl : l ∈ p.lanes) (hin : l.inbound ≠ [])
    (hspans : n ≠ 0 → l.sender.Spans last n) (hn : p.accepted.length ≤ n) (hnow : p.now ≤ last) :
    (l.plan? p.now).isSome = true := by
  obtain ⟨hdelay, hslot⟩ := h.keeps_turns (P := fun m l => l.Paced m) hpaced
    (fun hturn hl => hl.turn hturn) l hl
  have hcount := h.length_scheduled_le hp hl
  have hpos : 0 < l.inbound.length := List.length_pos_iff.2 hin
  have hrecords : (l.scheduled.length + 1) * l.sender.settings.rateLimit.toNanos ≤
      n * l.sender.settings.rateLimit.toNanos := Nat.mul_le_mul_right _ (by omega)
  have hspans := hspans (by omega)
  rw [Lane.plan?, Sender.isSome_plan?_iff, hdelay]
  unfold Sender.Spans at hspans
  rw [Nat.add_mul, Nat.one_mul] at hrecords
  have hmax : max l.schedule.last p.now ≤ last +
      l.scheduled.length * l.sender.settings.rateLimit.toNanos :=
    Nat.max_le.2 ⟨Nat.le_trans hslot (Nat.add_le_add_right hnow _),
      Nat.le_trans hnow (Nat.le_add_right _ _)⟩
  unfold Instant at *
  omega

/-- If there are instants enough no worker dies. -/
theorem Reaches.not_crashed (h : p₀.Reaches p) (hp : p₀.Fresh)
    (hpaced : ∀ l ∈ p₀.lanes, l.Paced p₀.moment)
    (hspans : n ≠ 0 → ∀ l ∈ p₀.lanes, l.sender.Spans last n) (hn : p.accepted.length ≤ n)
    (hnow : p.now ≤ last) : ∀ l ∈ p.lanes, l.phase ≠ .crashed := by
  refine h.keeps (P := fun p => p.accepted.length ≤ n → p.now ≤ last →
    ∀ l ∈ p.lanes, l.phase ≠ .crashed) ?_ ?_ hn hnow
  · intro _ _ l hl hcrashed
    obtain ⟨-, t, ht⟩ := hp.lanes_start l hl
    rw [ht] at hcrashed
    cases hcrashed
  · intro p q e hreach ih hmove hn hnow l' hl' hcrashed
    have hn' := Nat.le_trans hmove.accepted_length_le hn
    have hnow' := Nat.le_trans hmove.now_le hnow
    obtain ⟨k, hk⟩ := List.mem_iff_getElem?.1 hl'
    obtain ⟨l, hk, hturn⟩ := hmove.turn hk
    have hl := List.mem_of_getElem? hk
    have halive := ih hn' hnow' l hl
    rcases hturn with ⟨-, rfl⟩ | hturn
    · exact halive hcrashed
    · rcases hturn.of_crashed hcrashed with hdead | ⟨-, -, hin, hplan⟩
      · exact halive hdead
      · obtain ⟨l₀, hl₀, hkit⟩ := hreach.exists_kit hl
        have hsender : l.sender = l₀.sender := congrArg Lane.Kit.sender hkit
        have hsome := hreach.isSome_plan? hp hpaced hl hin
          (fun hpos => hsender ▸ hspans hpos l₀ hl₀) hn' hnow'
        change (l.plan? p.moment.now).isSome = true at hsome
        rw [hplan] at hsome
        cases hsome

/-! ### Too few instants -/

/-- A pipeline in which nothing has happened yet may wait. -/
theorem Fresh.wait (hp : p.Fresh) (t : Instant) : (p.wait t).Fresh where
  capacity_pos := hp.capacity_pos
  eq_start := by
    conv_lhs => rw [hp.eq_start]
    rfl
  lanes_start := hp.lanes_start
  channels_nodup := hp.channels_nodup

/-- Nothing is planned in a fresh pipeline. -/
theorem Fresh.scheduled_eq_nil (hp : p.Fresh) (hl : l ∈ p.lanes) : l.scheduled = [] := by
  obtain ⟨-, t, ht⟩ := hp.lanes_start l hl
  rw [ht]
  rfl

/-- All lanes go by their schedules. -/
theorem Reaches.onSchedule (h : p₀.Reaches p) (hp : p₀.Fresh) :
    ∀ l ∈ p.lanes, ∃ since, l.OnSchedule l.sender since := by
  refine h.keeps_lanes (P := fun l => ∃ since, l.OnSchedule l.sender since) (fun l hl => ?_) ?_
  · obtain ⟨-, t, ht⟩ := hp.lanes_start l hl
    refine ⟨t, ?_⟩
    rw [ht]
    exact ⟨rfl, rfl, rfl, rfl, fun d hd => nomatch hd⟩
  · rintro m l l' hchange ⟨since, hl⟩
    have hsender : l'.sender = l.sender := congrArg Lane.Kit.sender hchange.kit_eq
    rw [hsender]
    exact ⟨since, hl.change hchange rfl⟩

/-- What a pipeline plans from now on is launched from now on, and its deadlines exist. -/
theorem Reaches.dated (h : p₀.Reaches p) (hp : p₀.Fresh) : ∀ l ∈ p.lanes, l.Dated p₀.now := by
  have hkeeps := h.keeps_turns (P := fun m l => p₀.now ≤ m.now ∧ l.Dated p₀.now) ?_ ?_
  · exact fun l hl => (hkeeps l hl).2
  · intro l hl
    have hnone := hp.scheduled_eq_nil hl
    exact ⟨Nat.le_refl _, by simp [hnone], by simp [hnone]⟩
  · rintro m m' l l' hturn ⟨hnow, hl⟩
    exact ⟨Nat.le_trans hnow hturn.now_le, hl.turn hturn hnow⟩

/-- If no worker dies when some records come at once, there are instants enough for them. -/
theorem spans_of_not_crashed (hp : p₀.Fresh) (hharmless : ∀ l ∈ p₀.lanes, l.IsHarmless)
    {records : List EventRecord} (hsome : records ≠ [])
    (halive : ∀ l ∈ (p₀.takeIn records).lanes, l.phase ≠ .crashed) :
    ∀ l ∈ p₀.lanes, l.sender.Spans p₀.now records.length := by
  obtain ⟨hreach, hattends, hact, hnow⟩ := hp.attends.takeIn hp hharmless .refl records
  have hcalm := hattends.calm hp hreach hact
  obtain ⟨done, hb⟩ := hreach.books hp
  intro l₀ hl₀
  -- The lane that has become of this one has planned for all records.
  obtain ⟨l, hl, hkit⟩ : ∃ l ∈ (p₀.takeIn records).lanes, l.kit = l₀.kit := by
    have hmem := List.mem_map_of_mem (f := Lane.kit) hl₀
    rw [← hreach.kits_eq] at hmem
    exact List.mem_map.1 hmem
  have hsender : l.sender = l₀.sender := congrArg Lane.Kit.sender hkit
  have hlength : l.scheduled.length = records.length := by
    have hperm := (hcalm.scheduled_perm hb hl (halive l hl)).length_eq
    rwa [List.length_map, hattends.accepted, List.nil_append] at hperm
  obtain ⟨since, hschedule⟩ := hreach.onSchedule hp l hl
  have hdated := hreach.dated hp l hl
  obtain ⟨n, hn⟩ : ∃ n, records.length = n + 1 :=
    Nat.exists_eq_succ_of_ne_zero fun h => hsome (List.length_eq_zero_iff.1 h)
  have hlt : n < l.scheduled.length := by omega
  have hslot := hschedule.add_le_slot hdated.launched (List.getElem?_eq_getElem hlt)
  have hmem := List.getElem_mem hlt
  have hdeadline := hdated.deadline _ hmem
  rw [hschedule.deadlines _ hmem] at hdeadline
  rw [hn, ← hsender]
  refine Nat.lt_of_le_of_lt ?_ hdeadline
  exact Nat.add_le_add_right (Nat.add_le_add_right hslot _) _

end Pipeline

end AlertRelay
