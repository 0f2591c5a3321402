import AlertRelay.Proofs.Pipeline.Instants
import AlertRelay.Proofs.Relay.Lines

/-!
# Configurations for which there are instants enough

What is accepted as a configuration may ask for spans of time that lead to no instant. The
bookkeeper and the monitor of the queues die of it at the start, and a worker dies of it when it
plans for a record. For given numbers of records and a given time, the configurations with which
nobody dies are those for which the sums of the spans stay below the limit of all instants
(`Relay.survives_iff`). Not all that are accepted are among them (`Relay.patience_kills`).
-/

namespace AlertRelay

namespace Relay

/-- A pipeline for a configuration that starts at an instant, with any transports and clocks. -/
structure Serves (config : AppConfig) (start : Instant) (p : Pipeline) : Prop where
  fresh : p.Fresh
  now : p.now = start
  capacity : p.capacity = config.notify.queueDepth
  shutdownTimeout : p.shutdownTimeout = config.notify.shutdownTimeout
  senders : p.lanes.map Lane.sender = registerAll config.senders
  started : ∀ l ∈ p.lanes, l = l.kit.start start

/-- Nobody dies of an instant that does not exist in a program that starts at `start` and accepts no
more than `n` records until `last`, in whatever order things happen. -/
structure Survives (config : AppConfig) (start last : Instant) (n : Nat) : Prop where
  bookkeeper : (firstDue? start (reportInterval config.notify.statsInterval)).isSome = true
  monitor : (firstDue? start (reportInterval config.notify.queueInterval)).isSome = true
  workers : ∀ p₀ p, Serves config start p₀ → p₀.Reaches p → p.accepted.length ≤ n →
    p.now ≤ last → ∀ l ∈ p.lanes, l.phase ≠ .crashed

/-- The first reports and the deadline of the last one of `n` records that come at `last` are
instants. -/
structure Fits (config : AppConfig) (start last : Instant) (n : Nat) : Prop where
  stats : start + (reportInterval config.notify.statsInterval).toNanos < Instant.limit
  queues : start + (reportInterval config.notify.queueInterval).toNanos < Instant.limit
  deliveries : n ≠ 0 → ∀ s ∈ registerAll config.senders, s.Spans last n

variable {env : Environment} {config : AppConfig} {start last : Instant} {n : Nat}

theorem isSome_firstDue?_iff {interval : Span} :
    (firstDue? start interval).isSome = true ↔ start + interval.toNanos < Instant.limit := by
  unfold firstDue? Instant.after?
  split <;> simp_all

/-! ### Pipelines for a configuration -/

/-- A pipeline for a configuration in which no delivery ever returns. -/
def still (config : AppConfig) (start : Instant) : Pipeline :=
  (Pipeline.start config.notify.queueDepth config.notify.shutdownTimeout
    ((registerAll config.senders).map fun s =>
      Lane.start s (fun _ _ => .hangs) (fun _ => "") config.notify.queueDepth start)).wait start

theorem serves_still (h : AppConfig.fromEnvironment env = .ok config) (start : Instant) :
    Serves config start (still config start) where
  fresh := (Pipeline.fresh_start (AppConfig.queueDepth_pos h) _ _ (fun _ _ _ => .hangs) _ _).wait _
  now := rfl
  capacity := rfl
  shutdownTimeout := rfl
  senders := by
    simp only [still, Pipeline.wait, Pipeline.start, List.map_map]
    exact List.map_id _
  started l hl := by
    obtain ⟨s, -, rfl⟩ := List.mem_map.1 hl
    rfl

/-- The pipeline of the program serves its configuration. -/
theorem serves_pipelineOf (h : AppConfig.fromEnvironment env = .ok config) (network : Network)
    (clock : LocalTime) : Serves config 0 (pipelineOf config network clock) where
  fresh := fresh_pipelineOf h network clock
  now := rfl
  capacity := rfl
  shutdownTimeout := rfl
  senders := by
    simp only [pipelineOf, Pipeline.start, List.map_map]
    exact List.map_id _
  started l hl := by
    obtain ⟨s, -, rfl⟩ := List.mem_map.1 hl
    rfl

/-- A lane that has just started is on its pace. -/
theorem Serves.paced {p : Pipeline} (hp : Serves config start p) :
    ∀ l ∈ p.lanes, l.Paced p.moment := by
  intro l hl
  have hnow : p.moment.now = start := hp.now
  rw [hp.started l hl]
  refine ⟨rfl, ?_⟩
  rw [hnow]
  exact Nat.le_add_right _ _

/-- No delivery of a still pipeline cancels the program. -/
theorem harmless_still (config : AppConfig) (start last : Instant) :
    ∀ l ∈ ((still config start).wait last).lanes, l.IsHarmless := by
  intro l hl number r n after cancelsRoot outcome hcall
  obtain ⟨s, -, rfl⟩ := List.mem_map.1 hl
  cases hcall

/-! ### The limit -/

/-- If there are instants enough nobody dies. -/
theorem Fits.survives (hf : Fits config start last n) : Survives config start last n where
  bookkeeper := isSome_firstDue?_iff.2 hf.stats
  monitor := isSome_firstDue?_iff.2 hf.queues
  workers := by
    intro p₀ p hp hreach hn hnow
    refine hreach.not_crashed hp.fresh hp.paced (fun hpos l hl => hf.deliveries hpos _ ?_) hn hnow
    rw [← hp.senders]
    exact List.mem_map_of_mem hl

/-- If nobody dies there are instants enough: the last moment may be the one at which all records
come. -/
theorem Survives.fits (h : AppConfig.fromEnvironment env = .ok config) (hlast : start ≤ last)
    (hs : Survives config start last n) : Fits config start last n where
  stats := isSome_firstDue?_iff.1 hs.bookkeeper
  queues := isSome_firstDue?_iff.1 hs.monitor
  deliveries := by
    intro hpos s hsender
    have hp := serves_still h start
    have hwait : (still config start).Reaches ((still config start).wait last) :=
      Pipeline.reaches_wait hlast
    have hfresh := hp.fresh.wait last
    have hharmless := harmless_still config start last
    let records := List.replicate n Sample.record
    have hlength : records.length = n := List.length_replicate
    have hsome : records ≠ [] := by
      rw [← List.length_pos_iff, hlength]
      exact Nat.pos_of_ne_zero hpos
    obtain ⟨hreach, hattends, -, hnow⟩ :=
      hfresh.attends.takeIn hfresh hharmless .refl records
    have haccepted : (((still config start).wait last).takeIn records).accepted.length = n := by
      rw [← hlength, ← List.length_map (f := Prod.snd), hattends.accepted, List.nil_append]
    have halive := hs.workers _ _ hp (hwait.trans hreach) (Nat.le_of_eq haccepted)
      (Nat.le_of_eq hnow)
    have hspans := Pipeline.spans_of_not_crashed hfresh hharmless hsome halive
    rw [hlength] at hspans
    rw [← hp.senders] at hsender
    obtain ⟨l, hl, rfl⟩ := List.mem_map.1 hsender
    exact hspans l hl

/-- In a program with a configuration that is accepted nobody dies of an instant that does not exist
exactly if the sums of the spans that it asks for stay below the limit of all instants: the first
reports after the start, and the deadline of the last one of `n` records that come at `last`, which
lies `n` rate limits, one attempt and all pauses behind that time. -/
theorem survives_iff (h : AppConfig.fromEnvironment env = .ok config) (hlast : start ≤ last)
    (n : Nat) : Survives config start last n ↔ Fits config start last n :=
  ⟨Survives.fits h hlast, Fits.survives⟩

/-- A million records in a year are no danger to a program that is configured by default. -/
theorem sample_survives :
    AppConfig.fromEnvironment Sample.environment = .ok Sample.config ∧
      0 ≤ (Span.ofSeconds 31536000).toNanos ∧
      Survives Sample.config 0 (Span.ofSeconds 31536000).toNanos 1000000 := by
  have hdeliveries : ∀ s ∈ registerAll Sample.config.senders,
      s.Spans (Span.ofSeconds 31536000).toNanos 1000000 := by decide +kernel
  have hfits : Fits Sample.config 0 (Span.ofSeconds 31536000).toNanos 1000000 :=
    ⟨by decide +kernel, by decide +kernel, fun _ => hdeliveries⟩
  exact ⟨Sample.config_eq, Nat.zero_le _,
    (survives_iff Sample.config_eq (Nat.zero_le _) 1000000).2 hfits⟩

end Relay

namespace Sample

/-- An environment that asks for as many retries as there can be, as far apart as they can be. -/
def patientEnvironment : Environment :=
  [("TEAMS_WEBHOOK_URL", "https://hooks.example"), ("TEAMS_RETRIES", "4294967295"),
    ("TEAMS_RETRY_DELAY_SECS", "18446744073709551615")]

/-- What is read from it. -/
def patientConfig : AppConfig where
  appName := "tripwire"
  appUrl := "https://example.invalid/tripwire"
  logFormat := .json
  notify := {}
  teams := some ⟨"https://hooks.example",
    ⟨Span.ofSeconds 5, Span.ofSeconds 10, 4294967295, Span.ofSeconds 18446744073709551615⟩⟩
  email := none

theorem patientConfig_eq : AppConfig.fromEnvironment patientEnvironment = .ok patientConfig :=
  eq_ok_of_toOption (by decide +kernel)

end Sample

namespace Relay

/-- A configuration that is accepted kills a worker with the first record, right after the start. -/
theorem patience_kills :
    AppConfig.fromEnvironment Sample.patientEnvironment = .ok Sample.patientConfig ∧
      (∃ p, (pipelineOf Sample.patientConfig Network.unreachable (.utc "12:00")).Reaches p ∧
        p.accepted.length = 1 ∧ p.now = 0 ∧ ∃ l ∈ p.lanes, l.phase = .crashed) ∧
      ¬Survives Sample.patientConfig 0 0 1 := by
  have hp := serves_pipelineOf Sample.patientConfig_eq Network.unreachable (.utc "12:00")
  have hharmless := harmless_pipelineOf Sample.patientConfig Network.unreachable (.utc "12:00")
  obtain ⟨hreach, hattends, -, hnow⟩ :=
    hp.fresh.attends.takeIn hp.fresh hharmless .refl [Sample.record]
  have haccepted : ((pipelineOf Sample.patientConfig Network.unreachable (.utc "12:00")).takeIn
      [Sample.record]).accepted.length = 1 := by
    rw [← List.length_map (f := Prod.snd), hattends.accepted]
    rfl
  have hshort : ¬∀ l ∈ (pipelineOf Sample.patientConfig Network.unreachable (.utc "12:00")).lanes,
      l.sender.Spans 0 1 := by decide +kernel
  have hdead : ¬∀ l ∈ ((pipelineOf Sample.patientConfig Network.unreachable (.utc "12:00")).takeIn
      [Sample.record]).lanes, l.phase ≠ .crashed := fun halive =>
    hshort (Pipeline.spans_of_not_crashed hp.fresh hharmless (List.cons_ne_nil _ _) halive)
  refine ⟨Sample.patientConfig_eq, ⟨_, hreach, haccepted, hnow, ?_⟩, fun hs => ?_⟩
  · by_contra hnone
    exact hdead fun l hl hcrashed => hnone ⟨l, hl, hcrashed⟩
  · exact hdead (hs.workers _ _ hp hreach (Nat.le_of_eq haccepted) (Nat.le_of_eq hnow))

end Relay

end AlertRelay
