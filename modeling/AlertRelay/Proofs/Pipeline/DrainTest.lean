import AlertRelay.Proofs.Ledger.Order
import AlertRelay.Proofs.Pipeline.Books

/-!
# When the drain test is sound

At the end of its input the program waits until the counters show that all records were received and
nothing is pending, and then it cancels itself. This is sound if the counters cannot show that
before every record is delivered on every channel (`Pipeline.DrainTestSound`).

A record is counted as received after it was counted as sent on every channel, but an increment that
finds the queue of the ledger full waits outside and may be overtaken. As long as every increment
for a record that is sent finds room, the order is kept (`Pipeline.Reaches.ordered`), and there is
room for all of them if the queue holds what may be submitted before the last one: for each of the
earlier records one increment for its arrival and two for each channel, and for the last record one
for each other channel.
-/

namespace AlertRelay

/-- How many lanes have the record already that the dispatcher is handing out. -/
def DispatcherPhase.progress : DispatcherPhase → Nat
  | .fanning _ i => i
  | _ => 0

/-- Results that are no notices are counted. -/
theorem DeliveryResult.length_filterMap_update? (rs : List DeliveryResult) :
    (rs.filterMap update?).length = (rs.filter fun r => !r.isNotice).length := by
  induction rs with
  | nil => rfl
  | cons r rs ih =>
    have hstatus := r.outcome_eq_status
    rw [List.filterMap_cons, List.filter_cons]
    cases hn : r.isNotice with
    | true =>
      have hup : r.update? = none := by rw [update?, hstatus.2 hn]
      simp [hup, ih]
    | false =>
      have hup : ∃ u, r.update? = some u := by
        unfold update?
        cases ho : r.outcome <;> simp_all
      obtain ⟨u, hu⟩ := hup
      simp [hu, ih]

/-- If no channel has more than `n` of some things, there are at most `n` for each channel. -/
theorem length_le_mul {α : Type} (channel : α → Channel) (n : Nat) (channels : List Channel)
    (xs : List α) (hmem : ∀ x ∈ xs, channel x ∈ channels)
    (hle : ∀ ch ∈ channels, (xs.filter fun x => channel x == ch).length ≤ n) :
    xs.length ≤ channels.length * n := by
  induction channels generalizing xs with
  | nil =>
    cases xs with
    | nil => exact Nat.zero_le _
    | cons x xs => exact absurd (hmem x List.mem_cons_self) List.not_mem_nil
  | cons ch channels ih =>
    have hsplit := List.length_eq_length_filter_add (l := xs) fun x => channel x == ch
    have hfirst := hle ch List.mem_cons_self
    have hrest : (xs.filter fun x => !(channel x == ch)).length ≤ channels.length * n := by
      refine ih _ (fun x hx => ?_) fun c hc => ?_
      · obtain ⟨hx, hne⟩ := List.mem_filter.1 hx
        refine (List.mem_cons.1 (hmem x hx)).resolve_left ?_
        intro heq
        simp [heq] at hne
      · refine Nat.le_trans ?_ (hle c (List.mem_cons_of_mem ch hc))
        rw [List.filter_filter]
        refine List.Sublist.length_le (List.monotone_filter_right xs fun x hx => ?_)
        exact (Bool.and_eq_true_iff.1 hx).1
    rw [List.length_cons, Nat.succ_mul]
    omega

namespace Pipeline

/-- When `n` records were accepted, were received by the counters, and nothing is pending by the
counters, then `n` results were taken from every channel, in every run that is not cancelled. -/
def DrainTestSound (capacity : Nat) (channels : List Channel) (n : Nat) : Prop :=
  ∀ p₀ p : Pipeline, p₀.Fresh → p₀.capacity = capacity → p₀.channels = channels → p₀.Reaches p →
    p.moment.cancelledAt = none → p.accepted.length = n → n ≤ p.ledger.snapshot.received →
    p.ledger.snapshot.totalPending = 0 → ∀ ch ∈ channels, (genuine (p.taken ch)).card = n

/-- How many increments were submitted, and what for. -/
structure Paced (p : Pipeline) : Prop where
  progress : p.phase.progress ≤ p.channels.length
  total : p.ledger.total = (p.channels.length + 1) * p.ledger.submitted .received +
    p.phase.progress + (p.received.filterMap fun r => r.2.update?).length

variable {p q p₀ : Pipeline} {e : PipelineEvent} {done : List EventRecord}

/-! ### How much is submitted -/

/-- A result that is taken is submitted once, or not at all if it is a notice. -/
theorem Paced.receive (hp : p.Paced) {i : Nat} {l : Lane} {r : DeliveryResult}
    {rest : List DeliveryResult} (hl : p.lanes[i]? = some l) :
    (p.receive i { l with results := rest } r).Paced := by
  have hch : (p.receive i { l with results := rest } r).channels = p.channels :=
    channels_of_kits (kits_of_set hl rfl)
  have hreceived : (p.ledger.tally r).submitted .received = p.ledger.submitted .received :=
    Books.submitted_tally rfl
  have hcount : [(p.now, r)].filterMap (fun r => r.2.update?) = r.update?.toList := by
    rw [List.filterMap_cons]
    cases r.update? <;> rfl
  refine ⟨?_, ?_⟩
  · rw [hch]
    exact hp.progress
  · have htotal := hp.total
    simp only [Pipeline.receive, setLane, Ledger.total_tally, hreceived, List.filterMap_append,
      List.length_append, hcount] at hch ⊢
    rw [hch]
    omega

/-- Every event submits what it has to submit. -/
theorem Paced.move (hp : p.Paced) (h : p.Move e q) : q.Paced := by
  have hch : q.channels.length = p.channels.length := by rw [channels_of_kits h.kits_eq]
  obtain ⟨hprogress, htotal⟩ := hp
  cases h with
  | lane | trip =>
    refine ⟨hch ▸ hprogress, ?_⟩
    rw [hch]
    exact htotal
  | ledger he h =>
    refine ⟨hprogress, ?_⟩
    rw [Ledger.total_step he h, Ledger.submitted_step he h]
    exact htotal
  | take hphase =>
    refine ⟨Nat.zero_le _, ?_⟩
    rw [hphase] at htotal
    exact htotal
  | @hand r i l hphase hl =>
    have hlt : i < p.channels.length := (List.getElem?_eq_some_iff.1 (getElem?_channels hl)).1
    refine ⟨by rw [hch]; exact hlt, ?_⟩
    have hreceived : (p.ledger.record (.sent l.channel)).submitted .received =
        p.ledger.submitted .received := by
      rw [Ledger.submitted_record, if_neg (fun h => nomatch h), Nat.add_zero]
    rw [hphase] at htotal
    rw [hch, Ledger.total_record, hreceived, htotal]
    simp only [DispatcherPhase.progress, setLane]
    omega
  | @count r i hphase hl =>
    have hlanes : p.channels.length ≤ i := by
      rw [channels, List.length_map]
      exact List.getElem?_eq_none_iff.1 hl
    rw [hphase] at hprogress htotal
    simp only [DispatcherPhase.progress] at hprogress htotal
    refine ⟨Nat.zero_le _, ?_⟩
    rw [hch, Ledger.total_record, Ledger.submitted_record, htotal, if_pos rfl, Nat.mul_succ]
    simp only [DispatcherPhase.progress]
    omega
  | tally hphase hl hr => exact Paced.receive ⟨hprogress, htotal⟩ hl
  | collect hphase hl hr => exact Paced.receive ⟨hprogress, htotal⟩ hl
  | halt hphase | advance hphase | close hphase | finish hphase =>
    refine ⟨Nat.zero_le _, ?_⟩
    rw [hphase] at htotal
    exact htotal
  | abandon hphase hl =>
    refine ⟨Nat.zero_le _, ?_⟩
    rw [hphase] at htotal
    rw [hch]
    exact htotal
  | _ => exact ⟨hprogress, htotal⟩

theorem Reaches.paced (h : p₀.Reaches p) (hp : p₀.Fresh) : p.Paced := by
  refine h.keeps ?_ fun _ hpaced hmove => hpaced.move hmove
  rw [hp.eq_start]
  exact ⟨Nat.zero_le _, by rw [start, Ledger.submitted_empty]; rfl⟩

/-- While no record is handed out, no more results were taken than records went to all lanes. -/
theorem length_tallied_le {done : List EventRecord} (hb : p.Books done) (ht : p.Tallies)
    (hd : ∀ l ∈ p.lanes, l.Tracks) (hhanded : ∀ k, p.phase.handed k = []) :
    (p.received.filterMap fun r => r.2.update?).length ≤ p.channels.length * done.length := by
  have hrs : (p.received.filterMap fun r => r.2.update?) =
      (p.received.map Prod.snd).filterMap DeliveryResult.update? := by
    rw [List.filterMap_map]
    rfl
  rw [hrs, DeliveryResult.length_filterMap_update?]
  refine length_le_mul DeliveryResult.channel _ _ _ (fun r hr => ?_) fun ch hch => ?_
  · obtain ⟨s, hs, rfl⟩ := List.mem_map.1 (List.mem_of_mem_filter hr)
    exact ht.labelled s hs
  · obtain ⟨l, hl, rfl⟩ := List.mem_map.1 hch
    obtain ⟨k, hk⟩ := List.mem_iff_getElem?.1 hl
    have hcarries := hb.carries k l hk
    rw [hhanded, List.append_nil] at hcarries
    have hle := card_taken_le (ht.balances l hl) (hd l hl) hcarries
    rwa [genuine, taken, Multiset.coe_card, List.filter_filter, List.filter_congr fun r _ =>
      Bool.and_comm _ _, ← List.filter_filter] at hle

/-- While a record is handed out, no result is taken and no record is counted as received. -/
theorem Move.fanning (h : p.Move e q) {r : EventRecord} {i : Nat} (hq : q.phase = .fanning r i) :
    q.received = p.received ∧ q.ledger.submitted .received = p.ledger.submitted .received := by
  cases h with
  | ledger he h => exact ⟨rfl, Ledger.submitted_step he h _⟩
  | hand hphase =>
    refine ⟨rfl, ?_⟩
    rw [Ledger.submitted_record, if_neg (fun h => nomatch h), Nat.add_zero]
  | count => cases hq
  | tally hphase | collect hphase =>
    rw [show p.phase = .fanning r i from hq] at hphase
    cases hphase
  | _ => exact ⟨rfl, rfl⟩

/-- No more results were taken than records were counted as received, channel by channel. -/
theorem Reaches.length_tallied_le (h : p₀.Reaches p) (hp : p₀.Fresh) :
    (p.received.filterMap fun r => r.2.update?).length ≤
      p.channels.length * p.ledger.submitted .received := by
  have hother : ∀ p : Pipeline, p₀.Reaches p → (∀ r i, p.phase ≠ .fanning r i) →
      (p.received.filterMap fun r => r.2.update?).length ≤
        p.channels.length * p.ledger.submitted .received := by
    intro p h hphase
    obtain ⟨done, hb⟩ := h.books hp
    rw [hb.received]
    refine Pipeline.length_tallied_le hb (h.tallies hp) (h.tracks hp) ?_
    intro k
    cases hq : p.phase with
    | fanning r i => exact absurd hq (hphase r i)
    | _ => rfl
  -- While a record is handed out, it is as it was when the record was taken.
  induction h with
  | refl =>
    refine hother _ .refl ?_
    intro r i hphase
    rw [hp.phase_eq] at hphase
    cases hphase
  | @tail p q hreach hstep ih =>
    cases hq : q.phase with
    | fanning r i =>
      obtain ⟨e, he⟩ := hstep
      have hmove := move_of_step? he
      obtain ⟨hreceived, hsubmitted⟩ := hmove.fanning hq
      rw [hreceived, hsubmitted, channels_of_kits hmove.kits_eq]
      exact ih
    | _ =>
      refine hother q (Relation.ReflTransGen.tail hreach hstep) ?_
      intro r i hphase
      rw [hq] at hphase
      cases hphase

/-! ### The order of the increments -/

/-- Every record is counted as sent everywhere before it is counted as received. -/
structure Ordered (p : Pipeline) : Prop where
  waits : ∀ ch, .sent ch ∉ p.ledger.overflow
  ahead : ∀ ch ∈ p.channels, p.ledger.Ahead .received (.sent ch)

/-- No more records were submitted as received than as sent. -/
theorem Books.received_le_sent (hb : p.Books done) {ch : Channel} (hch : ch ∈ p.channels) :
    p.ledger.submitted .received ≤ p.ledger.submitted (.sent ch) := by
  obtain ⟨k, hk⟩ := List.mem_iff_getElem?.1 hch
  rw [hb.received, hb.sent k ch hk]
  exact Nat.le_add_right _ _

/-- A queue that holds all that may be submitted before has room for the last increment for a record
that is sent. -/
theorem room_of_fanning {n : Nat} (hb : p.Books done) (hp : p.Paced)
    (htallied : (p.received.filterMap fun r => r.2.update?).length ≤
      p.channels.length * p.ledger.submitted .received)
    (hcap : (2 * p.channels.length + 1) * (n - 1) + p.channels.length ≤ p.ledger.capacity)
    (hn : p.accepted.length ≤ n) {r : EventRecord} {i : Nat} {l : Lane}
    (hphase : p.phase = .fanning r i) (hl : p.lanes[i]? = some l) :
    p.ledger.queue.length < p.ledger.capacity := by
  have hi : i < p.channels.length := (List.getElem?_eq_some_iff.1 (getElem?_channels hl)).1
  have hdone : done.length ≤ n - 1 := by
    have haccounts := congrArg List.length (hb.accounts (by rw [isOpen, hphase]))
    simp only [hphase, DispatcherPhase.current, List.length_map, List.length_append,
      List.length_singleton] at haccounts
    omega
  have htotal : p.ledger.total < (2 * p.channels.length + 1) * done.length + p.channels.length := by
    have hsplit : (2 * p.channels.length + 1) * done.length =
        (p.channels.length + 1) * done.length + p.channels.length * done.length := by
      rw [← Nat.add_mul]
      congr 1
      omega
    rw [hp.total, hsplit, hphase, DispatcherPhase.progress]
    rw [hb.received] at htallied ⊢
    omega
  calc p.ledger.queue.length
      ≤ p.ledger.total := by
        rw [Ledger.total]
        omega
    _ < (2 * p.channels.length + 1) * done.length + p.channels.length := htotal
    _ ≤ (2 * p.channels.length + 1) * (n - 1) + p.channels.length :=
        Nat.add_le_add_right (Nat.mul_le_mul_left _ hdone) _
    _ ≤ p.ledger.capacity := hcap

/-- If increments for records that are sent find room, none of them ever waits. -/
theorem waits_move (hp : ∀ ch, .sent ch ∉ p.ledger.overflow) (h : p.Move e q)
    (hroom : ∀ r i l, p.phase = .fanning r i → p.lanes[i]? = some l →
      p.ledger.queue.length < p.ledger.capacity) : ∀ ch, .sent ch ∉ q.ledger.overflow := by
  intro ch hmem
  cases h with
  | ledger he h => exact hp ch (Ledger.mem_overflow_step he h hmem)
  | hand hphase hl =>
    rw [Ledger.overflow_record_of_room (hroom _ _ _ hphase hl)] at hmem
    exact hp ch hmem
  | count =>
    rcases Ledger.mem_overflow_record hmem with hmem | hsame
    · exact hp ch hmem
    · cases hsame
  | tally | collect =>
    rcases Ledger.mem_overflow_tally hmem with hmem | hsame
    · exact hp ch hmem
    · cases DeliveryResult.isResolution_of_update? hsame
  | _ => exact hp ch hmem

/-- The order is kept as long as no increment for a record that is sent waits. -/
theorem ahead_move {ch : Channel} (hp : p.ledger.Ahead .received (.sent ch)) (h : p.Move e q)
    (hsubmitted : p.ledger.submitted .received ≤ p.ledger.submitted (.sent ch))
    (hsubmitted' : q.ledger.submitted .received ≤ q.ledger.submitted (.sent ch))
    (hwaits : .sent ch ∉ p.ledger.overflow) (hwaits' : .sent ch ∉ q.ledger.overflow) :
    q.ledger.Ahead .received (.sent ch) := by
  cases h with
  | ledger he h => exact hp.step he h hsubmitted hwaits
  | hand => exact hp.record _ hsubmitted' hwaits'
  | count => exact hp.record _ hsubmitted' hwaits'
  | tally => exact hp.tally _ hsubmitted' hwaits'
  | collect => exact hp.tally _ hsubmitted' hwaits'
  | _ => exact hp

/-- With a queue that is long enough for `n` records, a record is always counted as sent before it
is counted as received. -/
theorem Reaches.ordered (h : p₀.Reaches p) (hp : p₀.Fresh) {n : Nat}
    (hcap : (2 * p₀.channels.length + 1) * (n - 1) + p₀.channels.length ≤ p₀.capacity)
    (hn : p.accepted.length ≤ n) : p.Ordered := by
  induction h with
  | refl =>
    refine ⟨fun ch => ?_, fun ch _ us hus => ?_⟩
    · rw [hp.ledger_eq]
      exact List.not_mem_nil
    · rw [hp.ledger_eq] at hus ⊢
      rw [List.prefix_nil.1 hus, Counters.count_empty, Counters.count_empty]
      exact Nat.le_refl _
  | @tail p q hreach hstep ih =>
    have hq : p₀.Reaches q := Relation.ReflTransGen.tail hreach hstep
    obtain ⟨e, he⟩ := hstep
    have hmove := move_of_step? he
    have hn' := Nat.le_trans hmove.accepted_length_le hn
    obtain ⟨hwaits, hahead⟩ := ih hn'
    obtain ⟨done, hb⟩ := Reaches.books hreach hp
    obtain ⟨done', hb'⟩ := hq.books hp
    have hch : p.channels = p₀.channels := channels_of_kits (Reaches.kits_eq hreach)
    have hcap' : (2 * p.channels.length + 1) * (n - 1) + p.channels.length ≤
        p.ledger.capacity := by
      rw [hch, (Reaches.capacity_eq hreach).2, hp.ledger_eq]
      exact hcap
    have hwaits' := waits_move hwaits hmove fun r i l hphase hl =>
      room_of_fanning hb (Reaches.paced hreach hp) (Reaches.length_tallied_le hreach hp) hcap' hn'
        hphase hl
    refine ⟨hwaits', ?_⟩
    intro ch hch'
    rw [channels_of_kits hmove.kits_eq] at hch'
    exact ahead_move (hahead ch hch') hmove (hb.received_le_sent hch')
      (hb'.received_le_sent (by rwa [channels_of_kits hmove.kits_eq])) (hwaits ch) (hwaits' ch)

/-! ### Soundness -/

/-- While records are taken, no more were handed to a lane than were accepted. -/
theorem Books.length_handed_le (hb : p.Books done) (hopen : p.isOpen = true) (k : Nat) :
    (done ++ p.phase.handed k).length ≤ p.accepted.length := by
  have haccounts := congrArg List.length (hb.accounts hopen)
  have hhanded : (p.phase.handed k).length ≤ p.phase.current.length := by
    cases p.phase with
    | fanning r i =>
      simp only [DispatcherPhase.handed, DispatcherPhase.current]
      split
      · exact Nat.le_refl _
      · exact Nat.zero_le _
    | _ => exact Nat.le_refl _
  simp only [List.length_map, List.length_append] at haccounts ⊢
  omega

/-- No more results are taken from a channel than records were accepted. -/
theorem Reaches.card_taken_le_accepted (h : p₀.Reaches p) (hp : p₀.Fresh)
    (hun : p.moment.cancelledAt = none) {ch : Channel} (hch : ch ∈ p.channels) :
    (genuine (p.taken ch)).card ≤ p.accepted.length := by
  obtain ⟨done, hb⟩ := h.books hp
  obtain ⟨l, hl, rfl⟩ := List.mem_map.1 hch
  obtain ⟨k, hk⟩ := List.mem_iff_getElem?.1 hl
  have hopen := (h.staged hp).isOpen_eq hun
  calc (genuine (p.taken l.channel)).card
      ≤ (done ++ p.phase.handed k).length :=
        card_taken_le ((h.tallies hp).balances l hl) (h.tracks hp l hl)
          (hb.carries k l hk)
    _ ≤ p.accepted.length := hb.length_handed_le hopen k

/-- No more resolutions are counted for a channel than results were taken from it. -/
theorem Tallies.resolved_le (ht : p.Tallies) (ch : Channel) :
    (p.ledger.counters.channel ch).resolved ≤ (genuine (p.taken ch)).card := by
  have hle : ∀ u, p.ledger.counters.count u ≤ p.ledger.submitted u := by
    intro u
    rw [Ledger.submitted]
    omega
  rw [← ht.submitted_resolved, Counters.resolved_channel]
  exact Nat.add_le_add (Nat.add_le_add (hle _) (hle _)) (hle _)

/-- Nothing is pending on a channel if nothing is pending at all. -/
theorem sent_le_resolved {c : Counters} (h : c.totalPending = 0) (ch : Channel) :
    (c.channel ch).sent ≤ (c.channel ch).resolved := by
  have hpending : (c.channel ch).pending = 0 := by
    rw [Counters.totalPending] at h
    cases ch with
    | teams => exact (Nat.add_eq_zero_iff.1 h).1
    | email => exact (Nat.add_eq_zero_iff.1 h).2
  exact Nat.le_of_sub_eq_zero hpending

/-- The drain test is sound if the queue of the ledger is long enough. -/
theorem drainTestSound_of_le {capacity n : Nat} {channels : List Channel}
    (hcap : (2 * channels.length + 1) * (n - 1) + channels.length ≤ capacity) :
    DrainTestSound capacity channels n := by
  intro p₀ p hp hcapacity hchannels h hun hn hreceived hpending ch hch
  have hch' : ch ∈ p.channels := by
    rw [channels_of_kits h.kits_eq, hchannels]
    exact hch
  have hordered : p.Ordered := by
    refine h.ordered hp ?_ (Nat.le_of_eq hn)
    rw [hchannels, hcapacity]
    exact hcap
  have hle := h.card_taken_le_accepted hp hun hch'
  rw [hn] at hle
  refine Nat.le_antisymm hle ?_
  rw [(h.staged hp).coherent.snapshot_eq] at hreceived hpending
  calc n
      ≤ p.ledger.counters.count .received := hreceived
    _ ≤ p.ledger.counters.count (.sent ch) := hordered.ahead ch hch' [] List.nil_prefix
    _ ≤ (p.ledger.counters.channel ch).resolved := sent_le_resolved hpending ch
    _ ≤ (genuine (p.taken ch)).card := (h.tallies hp).resolved_le ch

end Pipeline

end AlertRelay
