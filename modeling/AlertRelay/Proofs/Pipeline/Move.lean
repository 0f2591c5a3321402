import AlertRelay.Pipeline.Basic
import AlertRelay.Proofs.Delivery.Registration
import AlertRelay.Proofs.Lane.Move
import AlertRelay.Proofs.Ledger
import Mathlib.Logic.Relation

/-!
# What can happen in a pipeline

`Pipeline.Move` lists everything that an event can do to a pipeline, and `Pipeline.move_of_step?`
says that the list is complete. `Pipeline.Reaches` relates a pipeline to what can become of it by
any sequence of events, and `Pipeline.Fresh` describes one in which nothing has happened yet, such
as one that was just started for some senders (`Pipeline.Launched`). A property of fresh pipelines
that every move keeps holds of all pipelines that can be reached (`Pipeline.Reaches.keeps`).

Most of what is proved about pipelines is about one lane at a time. A lane takes part in a move of
the pipeline or stays as it is (`Pipeline.Move.lane_change`), and the lanes are given what they are
given once and for all (`Pipeline.Reaches.kits_eq`).
-/

namespace AlertRelay

namespace Pipeline

/-- A result was taken, which left a lane behind. -/
def receive (p : Pipeline) (i : Nat) (l : Lane) (r : DeliveryResult) : Pipeline :=
  { p.setLane i l with received := p.received ++ [(p.now, r)], ledger := p.ledger.tally r }

/-- What an event does to a pipeline. -/
inductive Move (p : Pipeline) : PipelineEvent → Pipeline → Prop
  | accept {r : EventRecord} (hopen : p.isOpen = true) (hroom : p.inbound.length < p.capacity) :
      Move p (.accept r)
        { p with inbound := p.inbound ++ [r], accepted := p.accepted ++ [(p.now, r)] }
  | cancel : Move p .cancel p.cancel
  | pass {t : Instant} (ht : p.now ≤ t) :
      Move p (.pass t) { p with moment := { p.moment with now := t } }
  | lane {i : Nat} {l l' : Lane} {e : LaneEvent} (hl : p.lanes[i]? = some l)
      (h : l.step? p.moment e = some l') : Move p (.lane i e) (p.setLane i l')
  | trip {i j : Nat} {l : Lane} {d : Delivery} (hl : p.lanes[i]? = some l)
      (hd : l.running[j]? = some d) (hmust : l.mustTrip p.moment d = true) :
      Move p (.trip i j)
        (p.setLane i
          { l with running := l.running.modify j fun d => { d with tripped := true } }).cancel
  | ledger {e : LedgerEvent} {ledger : Ledger} (he : e.isOwn = true)
      (h : p.ledger.step? e = some ledger) : Move p (.ledger e) { p with ledger }
  | take {r : EventRecord} {rest : List EventRecord} (hphase : p.phase = .listening)
      (hin : p.inbound = r :: rest) : Move p .take { p with phase := .fanning r 0, inbound := rest }
  /-- A record goes to the next lane. -/
  | hand {r : EventRecord} {i : Nat} {l : Lane} (hphase : p.phase = .fanning r i)
      (hl : p.lanes[i]? = some l) :
      Move p .fan
        { p.setLane i (l.offer r) with
          phase := .fanning r (i + 1)
          ledger := p.ledger.record (.sent l.channel) }
  /-- A record went to all lanes. -/
  | count {r : EventRecord} {i : Nat} (hphase : p.phase = .fanning r i)
      (hl : p.lanes[i]? = none) :
      Move p .fan { p with phase := .listening, ledger := p.ledger.record .received }
  | tally {i : Nat} {l : Lane} {r : DeliveryResult} {rest : List DeliveryResult}
      (hphase : p.phase = .listening) (hl : p.lanes[i]? = some l) (hr : l.results = r :: rest) :
      Move p (.tally i) (p.receive i { l with results := rest } r)
  | halt (hphase : p.phase = .listening) (hcancel : p.moment.isCancelled = true) :
      Move p .halt { p with phase := .closing 0 p.now, inbound := [] }
  | collect {i : Nat} {since : Instant} {l : Lane} {r : DeliveryResult}
      {rest : List DeliveryResult} (hphase : p.phase = .closing i since)
      (hl : p.lanes[i]? = some l) (hr : l.results = r :: rest) :
      Move p .collect (p.receive i { l with results := rest } r)
  | advance {i : Nat} {since : Instant} {l : Lane} (hphase : p.phase = .closing i since)
      (hl : p.lanes[i]? = some l) (hfinished : l.isFinished = true) :
      Move p .advance { p with phase := .closing (i + 1) p.now }
  | abandon {i : Nat} {since : Instant} {l : Lane} (hphase : p.phase = .closing i since)
      (hl : p.lanes[i]? = some l) (hlate : p.patienceEnd since ≤ p.now) :
      Move p .abandon { p.setLane i l.abandon with phase := .closing (i + 1) p.now }
  | close {i : Nat} {since : Instant} (hphase : p.phase = .closing i since)
      (hlanes : p.lanes.length ≤ i) :
      Move p .close { p with phase := .settling, ledger := { p.ledger with isOpen := false } }
  | finish (hphase : p.phase = .settling) (hfinal : p.ledger.final.isSome = true) :
      Move p .finish { p with phase := .stopped }

variable {p q : Pipeline} {e : PipelineEvent}

/-- Taking a result takes the first one. -/
theorem eq_of_takeResult? {i : Nat} (h : p.takeResult? i = some q) :
    ∃ l r rest, p.lanes[i]? = some l ∧ l.results = r :: rest ∧
      q = p.receive i { l with results := rest } r := by
  obtain ⟨l, hl, h⟩ := Option.bind_eq_some_iff.1 h
  obtain ⟨⟨r, l'⟩, htake, h⟩ := Option.map_eq_some_iff.1 h
  unfold Lane.takeResult? at htake
  split at htake
  · rename_i first rest hr
    cases htake
    exact ⟨l, r, rest, hl, hr, h.symm⟩
  · cases htake

theorem move_of_trip? {i j : Nat} (h : p.trip? i j = some q) : p.Move (.trip i j) q := by
  obtain ⟨l, hl, h⟩ := Option.bind_eq_some_iff.1 h
  obtain ⟨l', htrip, h⟩ := Option.map_eq_some_iff.1 h
  obtain ⟨d, hd, htrip⟩ := Option.bind_eq_some_iff.1 htrip
  split at htrip
  · cases htrip
    cases h
    exact .trip hl hd ‹_›
  · cases htrip

theorem move_of_fan? (h : p.fan? = some q) : p.Move .fan q := by
  unfold fan? at h
  split at h
  · split at h
    · cases h
      exact .hand ‹_› ‹_›
    · cases h
      exact .count ‹_› ‹_›
  · cases h

theorem move_of_tally? {i : Nat} (h : p.tally? i = some q) : p.Move (.tally i) q := by
  unfold tally? at h
  split at h
  · obtain ⟨l, r, rest, hl, hr, rfl⟩ := eq_of_takeResult? h
    exact .tally ‹_› hl hr
  · cases h

theorem move_of_collect? (h : p.collect? = some q) : p.Move .collect q := by
  unfold collect? at h
  split at h
  · obtain ⟨l, r, rest, hl, hr, rfl⟩ := eq_of_takeResult? h
    exact .collect ‹_› hl hr
  · cases h

theorem move_of_advance? (h : p.advance? = some q) : p.Move .advance q := by
  unfold advance? at h
  split at h
  · obtain ⟨l, hl, h⟩ := Option.bind_eq_some_iff.1 h
    split at h
    · cases h
      exact .advance ‹_› hl ‹_›
    · cases h
  · cases h

theorem move_of_abandon? (h : p.abandon? = some q) : p.Move .abandon q := by
  unfold abandon? at h
  split at h
  · obtain ⟨l, hl, h⟩ := Option.bind_eq_some_iff.1 h
    split at h
    · cases h
      exact .abandon ‹_› hl ‹_›
    · cases h
  · cases h

/-- Nothing else can happen. -/
theorem move_of_step? (h : p.step? e = some q) : p.Move e q := by
  cases e with
  | accept r =>
    simp only [step?, accept?] at h
    split at h
    · rename_i hguard
      rw [Bool.and_eq_true, decide_eq_true_iff] at hguard
      cases h
      exact .accept hguard.1 hguard.2
    · cases h
  | cancel =>
    cases h
    exact .cancel
  | pass t =>
    simp only [step?, pass?] at h
    split at h
    · cases h
      exact .pass ‹_›
    · cases h
  | lane i e =>
    obtain ⟨l, hl, h⟩ := Option.bind_eq_some_iff.1 h
    obtain ⟨l', hstep, rfl⟩ := Option.map_eq_some_iff.1 h
    exact .lane hl hstep
  | trip i j => exact move_of_trip? h
  | ledger e =>
    simp only [step?, ledgerStep?] at h
    split at h
    · obtain ⟨ledger, hstep, rfl⟩ := Option.map_eq_some_iff.1 h
      exact .ledger ‹_› hstep
    · cases h
  | take =>
    simp only [step?, take?] at h
    split at h
    · cases h
      exact .take ‹_› ‹_›
    · cases h
  | fan => exact move_of_fan? h
  | tally i => exact move_of_tally? h
  | halt =>
    simp only [step?, halt?] at h
    split at h
    · split at h
      · cases h
        exact .halt ‹_› ‹_›
      · cases h
    · cases h
  | collect => exact move_of_collect? h
  | advance => exact move_of_advance? h
  | abandon => exact move_of_abandon? h
  | close =>
    simp only [step?, close?] at h
    split at h
    · split at h
      · cases h
        exact .close ‹_› ‹_›
      · cases h
    · cases h
  | finish =>
    simp only [step?, finish?] at h
    split at h
    · split at h
      · cases h
        exact .finish ‹_› ‹_›
      · cases h
    · cases h

/-! ### One lane at a time -/

/-- A lane of a pipeline after another one was put in place of one of them. -/
theorem getElem?_setLane {lanes : List Lane} {i k : Nat} {l l₁ l₂ : Lane}
    (hl : lanes[i]? = some l) (hk : (lanes.set i l₁)[k]? = some l₂) :
    (k = i ∧ l₂ = l₁) ∨ (k ≠ i ∧ lanes[k]? = some l₂) := by
  have hi : i < lanes.length := (List.getElem?_eq_some_iff.1 hl).1
  by_cases hki : k = i
  · rw [hki, List.getElem?_set_self hi] at hk
    exact .inl ⟨hki, (Option.some.inj hk).symm⟩
  · rw [List.getElem?_set_ne (Ne.symm hki)] at hk
    exact .inr ⟨hki, hk⟩

/-- When one lane changes, each lane has changed or stayed. -/
theorem change_of_set {m : Moment} {lanes : List Lane} {i k : Nat} {l l₁ l₂ : Lane}
    (hl : lanes[i]? = some l) (hchange : l.Change m l₁) (hk : (lanes.set i l₁)[k]? = some l₂) :
    ∃ l, lanes[k]? = some l ∧ (l₂ = l ∨ l.Change m l₂) := by
  rcases getElem?_setLane hl hk with ⟨rfl, rfl⟩ | ⟨-, hk⟩
  · exact ⟨l, hl, .inr hchange⟩
  · exact ⟨l₂, hk, .inl rfl⟩

/-- A lane takes part in a move of the pipeline or stays as it is. -/
theorem Move.lane_change (h : p.Move e q) {k : Nat} {l' : Lane} (hk : q.lanes[k]? = some l') :
    ∃ l, p.lanes[k]? = some l ∧ (l' = l ∨ l.Change p.moment l') := by
  cases h with
  | lane hl h => exact change_of_set hl (.move (Lane.move_of_step? h)) hk
  | @trip i j l d hl hd hmust => exact change_of_set hl (.trip j) hk
  | @hand r i l hphase hl => exact change_of_set hl (.offer r) hk
  | tally hphase hl hr => exact change_of_set hl (.take hr) hk
  | collect hphase hl hr => exact change_of_set hl (.take hr) hk
  | abandon hphase hl hlate => exact change_of_set hl .abandon hk
  | _ => exact ⟨l', hk, .inl rfl⟩

/-- A lane that was given the same may take the place of another one. -/
theorem kits_of_set {lanes : List Lane} {i : Nat} {l l' : Lane} (hl : lanes[i]? = some l)
    (hkit : l'.kit = l.kit) : (lanes.set i l').map Lane.kit = lanes.map Lane.kit := by
  obtain ⟨hi, rfl⟩ := List.getElem?_eq_some_iff.1 hl
  have hi' : i < (lanes.map Lane.kit).length := by
    rw [List.length_map]
    exact hi
  have hget : lanes[i].kit = (lanes.map Lane.kit)[i] := (List.getElem_map Lane.kit).symm
  rw [List.map_set, hkit, hget, List.set_getElem_self]

/-- The lanes keep what they were given. -/
theorem Move.kits_eq (h : p.Move e q) : q.lanes.map Lane.kit = p.lanes.map Lane.kit := by
  cases h with
  | lane hl h => exact kits_of_set hl (Lane.move_of_step? h).kit_eq
  | trip hl hd hmust => exact kits_of_set hl rfl
  | hand hphase hl => exact kits_of_set hl rfl
  | tally hphase hl hr => exact kits_of_set hl rfl
  | collect hphase hl hr => exact kits_of_set hl rfl
  | abandon hphase hl hlate => exact kits_of_set hl rfl
  | _ => rfl

/-- Whatever is read off what the lanes were given is the same if they were given the same. -/
theorem map_of_kits {α : Type} (f : Lane.Kit → α)
    (h : q.lanes.map Lane.kit = p.lanes.map Lane.kit) :
    (q.lanes.map fun l => f l.kit) = p.lanes.map fun l => f l.kit := by
  have hmap := congrArg (List.map f) h
  rwa [List.map_map, List.map_map] at hmap

/-- The queues keep their capacities. -/
theorem Move.capacity_eq (h : p.Move e q) :
    q.capacity = p.capacity ∧ q.ledger.capacity = p.ledger.capacity := by
  cases h with
  | ledger he h => exact ⟨rfl, (Ledger.frame_step he h).1⟩
  | hand | count => exact ⟨rfl, Ledger.capacity_record _ _⟩
  | tally | collect => exact ⟨rfl, Ledger.capacity_tally _ _⟩
  | _ => exact ⟨rfl, rfl⟩

/-- No record that was accepted is forgotten. -/
theorem Move.accepted_length_le (h : p.Move e q) : p.accepted.length ≤ q.accepted.length := by
  cases h with
  | accept => rw [List.length_append]; exact Nat.le_add_right _ _
  | _ => exact Nat.le_refl _

/-- The clock does not go back. -/
theorem Move.now_le (h : p.Move e q) : p.now ≤ q.now := by
  cases h with
  | pass ht => exact ht
  | _ => exact Nat.le_refl _

/-! ### Runs -/

/-- What can become of a pipeline by some events, whatever their order. -/
def Reaches : Pipeline → Pipeline → Prop :=
  Relation.ReflTransGen fun p q => ∃ e, p.step? e = some q

/-- What holds at first and is kept by every move holds of all that is reached. -/
theorem Reaches.keeps {P : Pipeline → Prop} {p₀ : Pipeline} (h : p₀.Reaches p) (hp : P p₀)
    (hmove : ∀ {p q : Pipeline} {e : PipelineEvent}, p₀.Reaches p → P p → p.Move e q → P q) :
    P p := by
  induction h with
  | refl => exact hp
  | tail hreach hstep ih =>
    obtain ⟨e, he⟩ := hstep
    exact hmove hreach ih (move_of_step? he)

/-- A property of single lanes that every change keeps holds in all that is reached. -/
theorem Reaches.keeps_lanes {P : Lane → Prop} {p₀ : Pipeline} (h : p₀.Reaches p)
    (hp : ∀ l ∈ p₀.lanes, P l)
    (hchange : ∀ {m : Moment} {l l' : Lane}, l.Change m l' → P l → P l') : ∀ l ∈ p.lanes, P l := by
  refine h.keeps (P := fun p => ∀ l ∈ p.lanes, P l) hp fun {p q e} _ ih hmove l' hl' => ?_
  obtain ⟨k, hk⟩ := List.mem_iff_getElem?.1 hl'
  obtain ⟨l, hl, rfl | hl'⟩ := hmove.lane_change hk
  · exact ih l' (List.mem_of_getElem? hl)
  · exact hchange hl' (ih l (List.mem_of_getElem? hl))

/-- The lanes keep what they were given as long as the pipeline runs. -/
theorem Reaches.kits_eq (h : p.Reaches q) : q.lanes.map Lane.kit = p.lanes.map Lane.kit :=
  h.keeps (P := fun q => q.lanes.map Lane.kit = p.lanes.map Lane.kit) rfl
    fun _ ih hmove => hmove.kits_eq.trans ih

/-- The queues keep their capacities as long as the pipeline runs. -/
theorem Reaches.capacity_eq (h : p.Reaches q) :
    q.capacity = p.capacity ∧ q.ledger.capacity = p.ledger.capacity :=
  h.keeps (P := fun q => q.capacity = p.capacity ∧ q.ledger.capacity = p.ledger.capacity)
    ⟨rfl, rfl⟩ fun _ ih hmove => ⟨hmove.capacity_eq.1.trans ih.1, hmove.capacity_eq.2.trans ih.2⟩

/-- The workers send with the same senders as long as the pipeline runs. -/
theorem Reaches.senders_eq (h : p.Reaches q) :
    q.lanes.map Lane.sender = p.lanes.map Lane.sender :=
  map_of_kits Lane.Kit.sender h.kits_eq

/-- The lanes of a pipeline and of what comes of it belong to the same channels. -/
theorem Reaches.channels_eq (h : p.Reaches q) :
    q.lanes.map Lane.channel = p.lanes.map Lane.channel :=
  map_of_kits (fun k => k.sender.channel) h.kits_eq

/-! ### Beginnings -/

/-- A pipeline in which nothing has happened yet. Its queues hold something, and no two lanes belong
to the same channel. -/
structure Fresh (p : Pipeline) : Prop where
  capacity_pos : 0 < p.capacity
  eq_start : p =
    { start p.capacity p.shutdownTimeout p.lanes with moment := { now := p.now } }
  lanes_start : ∀ l ∈ p.lanes, l.capacity = p.capacity ∧ ∃ t, l = l.kit.start t
  channels_nodup : (p.lanes.map Lane.channel).Nodup

/-- A fresh pipeline has counted nothing. -/
theorem Fresh.ledger_eq (hp : p.Fresh) : p.ledger = { capacity := p.capacity } := by
  conv_lhs => rw [hp.eq_start]
  rfl

/-- The dispatcher of a fresh pipeline waits for something to come. -/
theorem Fresh.phase_eq (hp : p.Fresh) : p.phase = .listening := by
  rw [hp.eq_start]
  rfl

/-- A pipeline that was just started, with a lane for each sender that is registered. -/
structure Launched (senders : List Sender) (p : Pipeline) : Prop where
  capacity_pos : 0 < p.capacity
  eq_start : p =
    { start p.capacity p.shutdownTimeout p.lanes with moment := { now := p.now } }
  lanes_start : ∀ l ∈ p.lanes, l.capacity = p.capacity ∧ ∃ t, l = l.kit.start t
  senders_eq : p.lanes.map Lane.sender = registerAll senders

/-- Nothing has happened in it, and its lanes belong to different channels. -/
theorem Launched.fresh {senders : List Sender} (h : Launched senders p) : p.Fresh where
  capacity_pos := h.capacity_pos
  eq_start := h.eq_start
  lanes_start := h.lanes_start
  channels_nodup := by
    have hchannels := (registers_registerAll senders).nodup
    rwa [← h.senders_eq, List.map_map] at hchannels

theorem launched_start {capacity : Nat} (hcap : 0 < capacity) (shutdownTimeout : Span)
    (senders : List Sender) (transport : Sender → EventRecord → Transport Unit)
    (clock : Instant → String) (now : Instant) :
    Launched senders (start capacity shutdownTimeout ((registerAll senders).map fun s =>
      Lane.start s (transport s) clock capacity now)) where
  capacity_pos := hcap
  eq_start := rfl
  lanes_start l hl := by
    obtain ⟨s, -, rfl⟩ := List.mem_map.1 hl
    exact ⟨rfl, now, rfl⟩
  senders_eq := by
    rw [start, List.map_map]
    exact List.map_id _

/-- The pipeline for some registered senders is fresh at its start. -/
theorem fresh_start {capacity : Nat} (hcap : 0 < capacity) (shutdownTimeout : Span)
    (senders : List Sender) (transport : Sender → EventRecord → Transport Unit)
    (clock : Instant → String) (now : Instant) :
    (start capacity shutdownTimeout ((registerAll senders).map fun s =>
      Lane.start s (transport s) clock capacity now)).Fresh :=
  (launched_start hcap shutdownTimeout senders transport clock now).fresh

end Pipeline

end AlertRelay
