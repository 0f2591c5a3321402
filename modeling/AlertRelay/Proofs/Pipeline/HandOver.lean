import AlertRelay.Proofs.Pipeline.Books
import AlertRelay.Proofs.Pipeline.Run

/-!
# Records that are handed over

`Pipeline.Hands` is a run of a pipeline together with a log of the records that the dispatcher hands
to the lanes, each with the channel of the lane. What a channel has got is the beginning of what was
accepted, and as much of it as the ledger has as sent there (`Pipeline.Handed`): no record is left
out, and none comes twice.

A dispatcher that is built by any sequence of registrations starts one worker for each channel that
came up, so this holds of every run of it (`Pipeline.served_once`).
-/

namespace AlertRelay

namespace Pipeline

variable {p q p₀ : Pipeline} {e : PipelineEvent} {log : List (Channel × EventRecord)}
  {ch : Channel} {done : List EventRecord} {senders : List Sender}

/-! ### The log -/

/-- The record that an event hands to a lane, with the channel of the lane. -/
def handOver (p : Pipeline) : PipelineEvent → List (Channel × EventRecord)
  | .fan =>
    match p.phase with
    | .fanning r i => p.lanes[i]?.toList.map fun l => (l.channel, r)
    | _ => []
  | _ => []

/-- What can become of a pipeline, with all records that are handed over meanwhile. -/
inductive Hands (p₀ : Pipeline) : List (Channel × EventRecord) → Pipeline → Prop
  | start : Hands p₀ [] p₀
  | step {p q : Pipeline} {e : PipelineEvent} {log : List (Channel × EventRecord)}
      (h : Hands p₀ log p) (he : p.step? e = some q) : Hands p₀ (log ++ p.handOver e) q

/-- The records that were handed to a channel. -/
def handedTo (log : List (Channel × EventRecord)) (ch : Channel) : List EventRecord :=
  (log.filter fun entry => entry.1 == ch).map Prod.snd

theorem Hands.reaches (h : Hands p₀ log p) : p₀.Reaches p := by
  induction h with
  | start => exact .refl
  | step _ he ih => exact ih.step he

/-- Every run has a log. -/
theorem Reaches.exists_hands (h : p₀.Reaches p) : ∃ log, Hands p₀ log p := by
  induction h with
  | refl => exact ⟨[], .start⟩
  | tail _ hstep ih =>
    obtain ⟨log, hlog⟩ := ih
    obtain ⟨e, he⟩ := hstep
    exact ⟨_, hlog.step he⟩

theorem handedTo_append (log more : List (Channel × EventRecord)) (ch : Channel) :
    handedTo (log ++ more) ch = handedTo log ch ++ handedTo more ch := by
  rw [handedTo, List.filter_append, List.map_append]
  rfl

theorem handedTo_singleton (ch ch' : Channel) (r : EventRecord) :
    handedTo [(ch', r)] ch = if ch' = ch then [r] else [] := by
  by_cases h : ch' = ch
  · simp [handedTo, h]
  · simp [handedTo, h]

/-! ### What the log says -/

/-- Each channel has got the beginning of what was accepted, as much as the ledger says. -/
structure Handed (log : List (Channel × EventRecord)) (p : Pipeline) : Prop where
  inOrder : ∀ ch, handedTo log ch <+: p.accepted.map Prod.snd
  counted : ∀ ch, (handedTo log ch).length = p.ledger.submitted (.sent ch)

/-- What is handed over is sent, and nothing else is. -/
theorem Move.handOver (h : p.Move e q) :
    (p.handOver e = [] ∧ p.accepted <+: q.accepted ∧
      ∀ ch, q.ledger.submitted (.sent ch) = p.ledger.submitted (.sent ch)) ∨
    ∃ r i l, p.phase = .fanning r i ∧ p.lanes[i]? = some l ∧ p.handOver e = [(l.channel, r)] ∧
      q.accepted = p.accepted ∧ q.ledger = p.ledger.record (.sent l.channel) := by
  cases h with
  | accept => exact .inl ⟨rfl, List.prefix_append _ _, fun _ => rfl⟩
  | ledger he h => exact .inl ⟨rfl, List.prefix_rfl, fun _ => Ledger.submitted_step he h _⟩
  | @hand r i l hphase hl =>
    refine .inr ⟨r, i, l, hphase, hl, ?_, rfl, rfl⟩
    simp [Pipeline.handOver, hphase, hl]
  | count hphase hl =>
    refine .inl ⟨?_, List.prefix_rfl, fun ch => ?_⟩
    · simp [Pipeline.handOver, hphase, hl]
    · rw [Ledger.submitted_record]
      rfl
  | tally | collect =>
    exact .inl ⟨rfl, List.prefix_rfl, fun _ => Books.submitted_tally rfl⟩
  | _ => exact .inl ⟨rfl, List.prefix_rfl, fun _ => rfl⟩

/-- A lane that is about to get a record has got everything in front of it. -/
theorem Handed.handedTo_eq (hlog : Handed log p) (hb : p.Books done) {r : EventRecord} {i : Nat}
    {l : Lane} (hphase : p.phase = .fanning r i) (hl : p.lanes[i]? = some l) :
    handedTo log l.channel = done := by
  have hlength : (handedTo log l.channel).length = done.length := by
    rw [hlog.counted, hb.sent i _ (getElem?_channels hl), hphase]
    simp [DispatcherPhase.handed]
  have hprefix : handedTo log l.channel <+: done :=
    List.prefix_of_prefix_length_le (hlog.inOrder _) hb.accepted (Nat.le_of_eq hlength)
  exact hprefix.eq_of_length hlength

theorem Handed.move (hlog : Handed log p) (hb : p.Books done) (h : p.Move e q) :
    Handed (log ++ p.handOver e) q := by
  rcases h.handOver with ⟨hnone, haccepted, hledger⟩ |
    ⟨r, i, l, hphase, hl, hentry, haccepted, hledger⟩
  · rw [hnone, List.append_nil]
    exact
      { inOrder := fun ch => (hlog.inOrder ch).trans (haccepted.map Prod.snd)
        counted := fun ch => (hlog.counted ch).trans (hledger ch).symm }
  · rw [hentry]
    refine ⟨fun ch => ?_, fun ch => ?_⟩ <;> rw [handedTo_append, handedTo_singleton]
    · rw [haccepted]
      split
      · -- The record that is handed out is the next one.
        rename_i hch
        subst hch
        have haccounts := hb.accounts (by rw [isOpen, hphase])
        rw [hphase] at haccounts
        rw [hlog.handedTo_eq hb hphase hl, haccounts]
        exact List.prefix_append _ _
      · rw [List.append_nil]
        exact hlog.inOrder ch
    · rw [hledger, Ledger.submitted_record, List.length_append, hlog.counted]
      by_cases hch : l.channel = ch
      · simp [hch]
      · simp [hch]

/-- What was handed over in a run. -/
theorem Hands.handed (h : Hands p₀ log p) (hp : p₀.Fresh) : Handed log p := by
  induction h with
  | start =>
    refine ⟨fun ch => List.nil_prefix, fun ch => ?_⟩
    rw [hp.ledger_eq, Ledger.submitted_empty]
    rfl
  | step h he ih =>
    obtain ⟨done, hb⟩ := h.reaches.books hp
    exact ih.move hb (move_of_step? he)

/-! ### Lanes -/

/-- There is one lane for each channel that came up, and no other lane. -/
theorem Launched.count_channels (h : Launched senders p) (ch : Channel) :
    p.channels.count ch = if ch ∈ senders.map Sender.channel then 1 else 0 := by
  have hregisters := registers_registerAll senders
  have hchannels : p.channels = (registerAll senders).map Sender.channel := by
    rw [← h.senders_eq, List.map_map]
    rfl
  rw [hchannels]
  split
  · rename_i hch
    exact List.count_eq_one_of_mem hregisters.nodup (hregisters.mem_channels_iff.2 hch)
  · rename_i hch
    exact List.count_eq_zero.2 (mt hregisters.mem_channels_iff.1 hch)

/-- Any registrations leave one sender for each channel, the last one, in the order in which the
channels came up first. In every run that is built from them there is one lane for each of these
senders, one lane for each channel, and what is handed to a channel is the beginning of what was
accepted, so that each accepted record is handed to it at most once. -/
theorem served_once (senders : List Sender) :
    Registers senders (registerAll senders) ∧
      ∀ p₀, Launched senders p₀ → ∀ log p, Hands p₀ log p →
        p.lanes.map Lane.sender = registerAll senders ∧
        (∀ ch, p.channels.count ch = if ch ∈ senders.map Sender.channel then 1 else 0) ∧
        ∀ ch, handedTo log ch <+: p.accepted.map Prod.snd := by
  refine ⟨registers_registerAll senders, fun p₀ hp log p h => ⟨?_, fun ch => ?_, ?_⟩⟩
  · exact h.reaches.senders_eq.trans hp.senders_eq
  · rw [channels, h.reaches.channels_eq]
    exact hp.count_channels ch
  · exact (h.handed hp.fresh).inOrder

/-- Two senders for one channel are registered, and one record comes in and is handed over. -/
theorem sample_served_once :
    let senders := [.teams ⟨"https://old.example", Sample.settings⟩] ++ Sample.senders.reverse
    let p₀ := Sample.pipeline fun _ _ => Sample.silent
    Launched senders p₀ ∧ ∃ log p, Hands p₀ log p ∧ log.length = 2 ∧
      p.lanes.map Lane.sender = Sample.senders ∧ p.channels.count .teams = 1 ∧
      handedTo log .teams <+: [Sample.record] := by
  intro senders p₀
  have hlaunched : Launched senders p₀ :=
    launched_start (by decide) (Span.ofSeconds 2) senders (fun _ _ => Sample.silent)
      (fun _ => "12:00") 0
  have hands : Hands p₀ _ _ :=
    ((((Hands.start.step (e := .accept Sample.record) rfl).step (e := .take) rfl).step
      (e := .fan) rfl).step (e := .fan) rfl).step (e := .fan) rfl
  obtain ⟨hsenders, hcount, hhanded⟩ := (served_once senders).2 p₀ hlaunched _ _ hands
  exact ⟨hlaunched, _, _, hands, rfl, hsenders, hcount .teams, hhanded .teams⟩

end Pipeline

end AlertRelay
