import AlertRelay.Proofs.Config
import AlertRelay.Proofs.Intake
import AlertRelay.Proofs.Pipeline.Reception
import AlertRelay.Relay

/-!
# The input of the relay

A run of the relay is linewise if the records that its lines hold, each line taken by itself, are
exactly what it accepts, counts and delivers (`Relay.IsLinewise`). Blank lines, lines that are not
JSON and lines that hold something that is not a record do no harm to this. A line that is not text
does: the run fails, and whatever stands behind that line is never read. So the linewise runs are
those on texts (`Relay.linewise_until_fault`).
-/

namespace AlertRelay

namespace Relay

variable {env : Environment} {config : AppConfig}

/-- The pipeline when all records have come in. -/
def fed (config : AppConfig) (network : Network) (clock : LocalTime) (records : List EventRecord) :
    Pipeline :=
  ((pipelineOf config network clock).play (records.map fun r => (0, .submit r))).1

/-- A run that treats the lines of its input one by one, whatever stands in the others. -/
structure IsLinewise (env : Environment) (config : AppConfig) (input : List UInt8)
    (fresh : Nat → Uuid) (network : Network) (clock : LocalTime) (interrupt : Option Span) : Prop where
  /-- The queue takes the records of those lines that hold one, once each and in their order. -/
  queued : (fed config network clock (Intake.read fresh input).accepted).accepted.map Prod.snd =
    Intake.recordsOf fresh 0 (Text.byteLines input)
  /-- The program gives their number. -/
  counted : (run env input fresh network clock interrupt).accepted =
    some (Intake.recordsOf fresh 0 (Text.byteLines input)).length
  /-- What the program counts is what comes of these records. -/
  totals : (run env input fresh network clock interrupt).totals =
    some (totalsOf config network clock (Intake.recordsOf fresh 0 (Text.byteLines input)) interrupt)
  /-- These records and no others are delivered if nobody interrupts the program, and if neither the
  bookkeeper nor a worker dies of an instant that does not exist. -/
  delivered : hasBookkeeper config 0 = true → ∀ p,
    Clockwork.runOut (fed config network clock (Intake.read fresh input).accepted) = p →
    p.accepted.map Prod.snd = Intake.recordsOf fresh 0 (Text.byteLines input) ∧
      ((∀ l ∈ p.lanes, l.phase ≠ .crashed) → p.Delivered)
  /-- A line with no record may be replaced by another one. -/
  unaffected : ∀ other, List.Forall₂ (fun line line' =>
      ∀ id, (Intake.lineOf id line).record? = (Intake.lineOf id line').record?)
      (Text.byteLines input) (Text.byteLines other) →
    (∀ line ∈ Text.byteLines other, Intake.isText line = true) →
    (run env other fresh network clock interrupt).accepted =
        (run env input fresh network clock interrupt).accepted ∧
      (run env other fresh network clock interrupt).totals =
        (run env input fresh network clock interrupt).totals

/-! ### The lanes of the relay -/

/-- Every call of the network returns, and none cancels the program. -/
theorem transport_returns (network : Network) (branding : Branding) (clock : LocalTime) (s : Sender)
    (r : EventRecord) (n : Nat) :
    ∃ after outcome, network.transport branding clock s r n = .returns after false outcome := by
  cases s with
  | teams c => exact ⟨_, _, rfl⟩
  | email c => exact ⟨_, _, rfl⟩

theorem fresh_pipelineOf (h : AppConfig.fromEnvironment env = .ok config) (network : Network)
    (clock : LocalTime) : (pipelineOf config network clock).Fresh :=
  Pipeline.fresh_start (AppConfig.queueDepth_pos h) _ _ _ _ _

theorem harmless_pipelineOf (config : AppConfig) (network : Network) (clock : LocalTime) :
    ∀ l ∈ (pipelineOf config network clock).lanes, l.IsHarmless := by
  intro l hl number r n after cancelsRoot outcome hcall
  obtain ⟨s, -, rfl⟩ := List.mem_map.1 hl
  obtain ⟨_, _, hreturns⟩ := transport_returns network ⟨config.appName, config.appUrl⟩ clock s r n
  have hsame := hreturns.symm.trans hcall
  injection hsame with _ hcancels
  exact hcancels.symm

theorem answers_pipelineOf (config : AppConfig) (network : Network) (clock : LocalTime) :
    ∀ l ∈ (pipelineOf config network clock).lanes, l.Answers := by
  intro l hl
  obtain ⟨s, -, rfl⟩ := List.mem_map.1 hl
  refine Lane.answers_of_transport fun _ r n hhangs => ?_
  obtain ⟨_, _, hreturns⟩ := transport_returns network ⟨config.appName, config.appUrl⟩ clock s r n
  have hsame := hreturns.symm.trans hhangs
  cases hsame

/-! ### Records that come in -/

/-- Every record that is read enters the queue. -/
theorem attends_fed (h : AppConfig.fromEnvironment env = .ok config) (network : Network)
    (clock : LocalTime) (records : List EventRecord) :
    (fed config network clock records).Attends records := by
  have hp := fresh_pipelineOf h network clock
  have hplay := hp.attends.play hp (harmless_pipelineOf config network clock) .refl
    (records.map fun r => (0, r))
  rw [List.map_map, List.map_map, List.nil_append] at hplay
  simpa [fed, Function.comp_def] using hplay

/-- Every record that is read is delivered, if there is time for it. -/
theorem delivered_runOut (h : AppConfig.fromEnvironment env = .ok config) (network : Network)
    (clock : LocalTime) (records : List EventRecord) :
    (Clockwork.runOut (fed config network clock records)).accepted.map Prod.snd = records ∧
      ((∀ l ∈ (Clockwork.runOut (fed config network clock records)).lanes, l.phase ≠ .crashed) →
        (Clockwork.runOut (fed config network clock records)).Delivered) := by
  have hp := fresh_pipelineOf h network clock
  have hproceeds : (pipelineOf config network clock).Proceeds (fed config network clock records) :=
    Pipeline.Proceeds.play .refl hp _
  obtain ⟨hrun, hattends, hidle⟩ := (attends_fed h network clock records).idle_runOut hp
    (harmless_pipelineOf config network clock) hproceeds (answers_pipelineOf config network clock)
  exact ⟨hattends.accepted, hidle.delivered hp hrun.reaches⟩

/-! ### Runs on lines -/

theorem run_of_fault (h : AppConfig.fromEnvironment env = .ok config) {input : List UInt8}
    {fresh : Nat → Uuid} {fault : Utf8.Fault} (hfault : (Intake.read fresh input).fault = some fault)
    (network : Network) (clock : LocalTime) (interrupt : Option Span) :
    run env input fresh network clock interrupt =
      { failure := some fault.message
        format := some config.logFormat
        skipped := (Intake.read fresh input).skipped } := by
  simp only [run, h, hfault]

theorem run_of_text (h : AppConfig.fromEnvironment env = .ok config) {input : List UInt8}
    (htext : ∀ line ∈ Text.byteLines input, Intake.isText line = true) (fresh : Nat → Uuid)
    (network : Network) (clock : LocalTime) (interrupt : Option Span) :
    run env input fresh network clock interrupt =
      { format := some config.logFormat
        skipped := Intake.faultsOf fresh 0 (Text.byteLines input)
        accepted := some (Intake.recordsOf fresh 0 (Text.byteLines input)).length
        totals := some
          (totalsOf config network clock (Intake.recordsOf fresh 0 (Text.byteLines input)) interrupt)
        summed := hasBookkeeper config 0 } := by
  have hfault : (Intake.read fresh input).fault = none :=
    (Intake.fault_readLines_eq_none_iff fresh 0).2 htext
  obtain ⟨haccepted, hskipped⟩ := Intake.readLines_eq fresh 0 (Text.byteLines input)
  rw [List.takeWhile_eq_self_iff.2 htext] at haccepted hskipped
  simp only [run, h, hfault]
  rw [Intake.read, haccepted, hskipped]

/-- A run on a text is linewise. -/
theorem isLinewise_of_text (h : AppConfig.fromEnvironment env = .ok config) {input : List UInt8}
    (htext : ∀ line ∈ Text.byteLines input, Intake.isText line = true) (fresh : Nat → Uuid)
    (network : Network) (clock : LocalTime) (interrupt : Option Span) :
    IsLinewise env config input fresh network clock interrupt := by
  have hrun := run_of_text h htext fresh network clock interrupt
  have haccepted : (Intake.read fresh input).accepted =
      Intake.recordsOf fresh 0 (Text.byteLines input) := by
    rw [Intake.read, (Intake.readLines_eq fresh 0 _).1, List.takeWhile_eq_self_iff.2 htext]
  refine ⟨?_, ?_, ?_, ?_, ?_⟩
  · rw [haccepted]
    exact (attends_fed h network clock _).accepted
  · rw [hrun]
  · rw [hrun]
  · rintro - p rfl
    rw [haccepted]
    exact delivered_runOut h network clock _
  · intro other hlines hother
    rw [run_of_text h hother fresh network clock interrupt, hrun,
      Intake.recordsOf_congr fresh 0 hlines]
    exact ⟨rfl, rfl⟩

/-- A run that is not on a text does not even count what it has read. -/
theorem not_isLinewise_of_fault (h : AppConfig.fromEnvironment env = .ok config)
    {input : List UInt8} {fresh : Nat → Uuid} {fault : Utf8.Fault}
    (hfault : (Intake.read fresh input).fault = some fault) (network : Network) (clock : LocalTime)
    (interrupt : Option Span) : ¬IsLinewise env config input fresh network clock interrupt := by
  intro hlinewise
  have hcounted := hlinewise.counted
  rw [run_of_fault h hfault network clock interrupt] at hcounted
  cases hcounted

/-- The runs that treat their lines one by one are those on texts. In all others the queue takes the
records in front of the first line that is not text, and the program fails at that line and neither
reads nor counts any further. -/
theorem linewise_until_fault (h : AppConfig.fromEnvironment env = .ok config) (input : List UInt8)
    (fresh : Nat → Uuid) (network : Network) (clock : LocalTime) (interrupt : Option Span) :
    (IsLinewise env config input fresh network clock interrupt ↔
      ∀ line ∈ Text.byteLines input, Intake.isText line = true) ∧
    ∀ before line after fault, Text.byteLines input = before ++ line :: after →
      (∀ line ∈ before, Intake.isText line = true) → Utf8.decode line = .error fault →
      (fed config network clock (Intake.read fresh input).accepted).accepted.map Prod.snd =
          Intake.recordsOf fresh 0 before ∧
        run env input fresh network clock interrupt =
          { failure := some fault.message
            format := some config.logFormat
            skipped := Intake.faultsOf fresh 0 before } := by
  refine ⟨⟨fun hlinewise => ?_, fun htext => ?_⟩, ?_⟩
  · rw [← Intake.fault_readLines_eq_none_iff fresh 0]
    cases hfault : (Intake.readLines fresh 0 (Text.byteLines input)).fault with
    | none => rfl
    | some fault =>
      exact absurd hlinewise (not_isLinewise_of_fault h hfault network clock interrupt)
  · exact isLinewise_of_text h htext fresh network clock interrupt
  · intro before line after fault hlines hbefore hline
    have hfault : (Intake.read fresh input).fault = some fault := by
      rw [Intake.read, hlines]
      exact Intake.fault_readLines fresh 0 hbefore hline
    obtain ⟨haccepted, hskipped⟩ := Intake.readLines_eq fresh 0 (Text.byteLines input)
    rw [hlines, Intake.takeWhile_isText_append hbefore hline, ← hlines] at haccepted hskipped
    rw [run_of_fault h hfault network clock interrupt, Intake.read, haccepted, hskipped]
    exact ⟨(attends_fed h network clock _).accepted, rfl⟩

end Relay

/-! ### Examples -/

namespace Sample

/-- A line with a record, whose alert is given as a list. -/
def recordLine : List UInt8 :=
  Utf8.encode ("\x7b\"alert\": [\"jdoe\", \"\", \"\", \"2024-05-06T07:08:09Z\", ".toList ++
    "\"\", \"\", \"\", \"\"], ".toList ++
    "\"note\": \"disabled\", \"action\": \"disabled\"\x7d\n".toList)

/-- An empty line and a line that is not a record in front of a record. -/
def text : List UInt8 :=
  Utf8.encode "\n[1, 2]\n".toList ++ recordLine

/-- A record behind a line that is not text. -/
def brokenText : List UInt8 :=
  0xFF :: Text.lineFeed :: recordLine

end Sample

namespace Relay

theorem sample_linewise :
    AppConfig.fromEnvironment Sample.environment = .ok Sample.config ∧
      (∀ line ∈ Text.byteLines Sample.text, Intake.isText line = true) ∧
      (Intake.recordsOf (fun _ => default) 0 (Text.byteLines Sample.text)).length = 1 ∧
      IsLinewise Sample.environment Sample.config Sample.text (fun _ => default)
        Network.unreachable (.utc "12:00") none := by
  have htext : ∀ line ∈ Text.byteLines Sample.text, Intake.isText line = true := by
    decide +kernel
  exact ⟨Sample.config_eq, htext, by decide +kernel,
    (linewise_until_fault Sample.config_eq Sample.text _ _ _ _).1.2 htext⟩

/-- Whoever writes one byte that is not text loses the record in the next line. -/
theorem record_behind_fault_is_lost :
    AppConfig.fromEnvironment Sample.environment = .ok Sample.config ∧
      (Intake.recordsOf (fun _ => default) 0 (Text.byteLines Sample.brokenText)).length = 1 ∧
      (run Sample.environment Sample.brokenText (fun _ => default) Network.unreachable (.utc "12:00")
        none).accepted = none ∧
      (run Sample.environment Sample.brokenText (fun _ => default) Network.unreachable (.utc "12:00")
        none).failure = some "invalid utf-8 sequence of 1 bytes from index 0" ∧
      ¬IsLinewise Sample.environment Sample.config Sample.brokenText (fun _ => default)
        Network.unreachable (.utc "12:00") none := by
  have hfault : (Intake.read (fun _ => default) Sample.brokenText).fault = some (.invalid 1 0) := by
    decide +kernel
  have hrun := run_of_fault Sample.config_eq hfault Network.unreachable (.utc "12:00") none
  refine ⟨Sample.config_eq, by decide +kernel, ?_, ?_, ?_⟩
  · rw [hrun]
  · rw [hrun]
    decide +kernel
  · exact not_isLinewise_of_fault Sample.config_eq hfault _ _ _

end Relay

end AlertRelay
