/-!
# Actions

What one step of disabling an account came to. The first ten actions belong to the second of three
steps, the request itself; the last four belong to the third, ending the user's sessions.
-/

namespace AlertRelay

/-- What one step of disabling an account came to. -/
inductive Action where
  | disableRequested
  | disabled
  | alreadyDisabled
  | ignoredUser
  | ignoredIp
  | disableRequestLogFailed
  | disableFailed
  | duplicateDisableFailed
  | ignoreUserCheckFailed
  | ignoreIpCheckFailed
  | sessionsTerminated
  | terminationSkipped
  | sessionLookupFailed
  | terminationFailed
  deriving DecidableEq, Repr, Inhabited

/-- The step that an action belongs to. -/
inductive Phase where
  | second
  | third
  deriving DecidableEq, Repr

/-- The words for a step. -/
def Phase.text : Phase → String
  | .second => "step 2 of 3"
  | .third => "step 3 of 3"

namespace Action

/-- All actions, in the order in which they are listed to a user. -/
def all : List Action :=
  [.disableRequested, .disabled, .alreadyDisabled, .ignoredUser, .ignoredIp,
    .disableRequestLogFailed, .disableFailed, .duplicateDisableFailed, .ignoreUserCheckFailed,
    .ignoreIpCheckFailed, .sessionsTerminated, .terminationSkipped, .sessionLookupFailed,
    .terminationFailed]

/-- The step that an action belongs to. -/
def phase : Action → Phase
  | .sessionsTerminated | .terminationSkipped | .sessionLookupFailed | .terminationFailed => .third
  | _ => .second

/-- Whether the step went wrong. -/
def isFailure : Action → Bool
  | .disableRequestLogFailed | .disableFailed | .duplicateDisableFailed | .ignoreUserCheckFailed
  | .ignoreIpCheckFailed | .sessionLookupFailed | .terminationFailed => true
  | _ => false

/-- The name of an action in records. -/
def name : Action → String
  | .disableRequested => "disable_requested"
  | .disabled => "disabled"
  | .alreadyDisabled => "already_disabled"
  | .ignoredUser => "ignored_user"
  | .ignoredIp => "ignored_ip"
  | .disableRequestLogFailed => "disable_request_log_failed"
  | .disableFailed => "disable_failed"
  | .duplicateDisableFailed => "duplicate_disable_failed"
  | .ignoreUserCheckFailed => "ignore_user_check_failed"
  | .ignoreIpCheckFailed => "ignore_ip_check_failed"
  | .sessionsTerminated => "sessions_terminated"
  | .terminationSkipped => "termination_skipped"
  | .sessionLookupFailed => "session_lookup_failed"
  | .terminationFailed => "termination_failed"

/-- The name of an action in error messages. -/
def label : Action → String
  | .disableRequested => "DisableRequested"
  | .disabled => "Disabled"
  | .alreadyDisabled => "AlreadyDisabled"
  | .ignoredUser => "IgnoredUser"
  | .ignoredIp => "IgnoredIp"
  | .disableRequestLogFailed => "DisableRequestLogFailed"
  | .disableFailed => "DisableFailed"
  | .duplicateDisableFailed => "DuplicateDisableFailed"
  | .ignoreUserCheckFailed => "IgnoreUserCheckFailed"
  | .ignoreIpCheckFailed => "IgnoreIpCheckFailed"
  | .sessionsTerminated => "SessionsTerminated"
  | .terminationSkipped => "TerminationSkipped"
  | .sessionLookupFailed => "SessionLookupFailed"
  | .terminationFailed => "TerminationFailed"

/-- The words for an action in the title of a message. -/
def text : Action → String
  | .disableRequested => "Disable user account request received"
  | .disabled => "Username disabled"
  | .alreadyDisabled => "Username already disabled"
  | .ignoredUser => "Username ignored due to ignore username entry"
  | .ignoredIp => "Username ignored due to ignore IP entry"
  | .disableRequestLogFailed => "Disable user account request log failure"
  | .disableFailed => "Username disable failure"
  | .duplicateDisableFailed => "Username (duplicate) disable failure"
  | .ignoreUserCheckFailed => "Username ignore status check failure"
  | .ignoreIpCheckFailed => "IP Address ignore status check failure"
  | .sessionsTerminated => "User sessions terminated"
  | .terminationSkipped => "User sessions termination not enabled; skipped"
  | .sessionLookupFailed => "Failed to lookup user sessions"
  | .terminationFailed => "User session termination failure"

/-- The action of a given name. -/
def ofName? (s : String) : Option Action :=
  all.find? fun a => a.name == s

end Action

end AlertRelay
