import AlertRelay.Config.Environment

/-!
# Configurations that are accepted

What `AppConfig.fromEnvironment` accepts has queues that hold something. An environment that enables
both channels serves as an example.
-/

namespace AlertRelay

/-- What is bound to something that comes out right came out right itself. -/
theorem exists_ok_of_bind {ε α β : Type} {x : Except ε α} {f : α → Except ε β} {b : β}
    (h : (x >>= f) = .ok b) : ∃ a, x = .ok a ∧ f a = .ok b := by
  cases x with
  | error e => cases h
  | ok a => exact ⟨a, rfl, h⟩

theorem eq_ok_of_toOption {ε α : Type} {x : Except ε α} {a : α} (h : x.toOption = some a) :
    x = .ok a := by
  cases x with
  | error e => cases h
  | ok b => exact congrArg Except.ok (Option.some.inj h)

variable {env : Environment}

theorem NotifyConfig.queueDepth_pos {notify : NotifyConfig}
    (h : NotifyConfig.fromEnvironment env = .ok notify) : 0 < notify.queueDepth := by
  obtain ⟨queueDepth, -, h⟩ := exists_ok_of_bind h
  obtain ⟨shutdownTimeout, -, h⟩ := exists_ok_of_bind h
  obtain ⟨statsInterval, -, h⟩ := exists_ok_of_bind h
  obtain ⟨queueInterval, -, h⟩ := exists_ok_of_bind h
  split at h
  · cases h
  · cases h
    exact Nat.pos_of_ne_zero ‹_›

/-- The queues of a configuration that is accepted hold something. -/
theorem AppConfig.queueDepth_pos {config : AppConfig}
    (h : AppConfig.fromEnvironment env = .ok config) : 0 < config.notify.queueDepth := by
  obtain ⟨notify, hnotify, h⟩ := exists_ok_of_bind h
  obtain ⟨teams, -, h⟩ := exists_ok_of_bind h
  obtain ⟨email, -, h⟩ := exists_ok_of_bind h
  obtain ⟨logFormat, -, h⟩ := exists_ok_of_bind h
  cases h
  exact NotifyConfig.queueDepth_pos hnotify

namespace Sample

/-- An environment with a destination for each channel and nothing else. -/
def environment : Environment :=
  [("TEAMS_WEBHOOK_URL", "https://hooks.example"), ("EMAIL_SERVER", "mail.example"),
    ("EMAIL_SENDER", "relay@example"), ("EMAIL_RECIPIENTS", "desk@example")]

/-- What is read from it. -/
def config : AppConfig where
  appName := "tripwire"
  appUrl := "https://example.invalid/tripwire"
  logFormat := .json
  notify := {}
  teams := some
    ⟨"https://hooks.example", ⟨Span.ofSeconds 5, Span.ofSeconds 10, 2, Span.ofSeconds 5⟩⟩
  email := some
    ⟨"mail.example", 25, "tripwire", "relay@example", ["desk@example"], none,
      ⟨Span.ofSeconds 3, Span.ofSeconds 30, 2, Span.ofSeconds 2⟩⟩

theorem config_eq : AppConfig.fromEnvironment environment = .ok config :=
  eq_ok_of_toOption (by decide +kernel)

end Sample

end AlertRelay
