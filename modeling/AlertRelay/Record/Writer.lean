import AlertRelay.Json.Value
import AlertRelay.Record.Basic

/-!
# Writing event records

A record is written as a JSON object with every field, missing remarks as null, and headers in the
order of their names.
-/

namespace AlertRelay

/-- A text or null. -/
def optionalValue : Option String → Json.Value
  | some s => .text s
  | none => .null

/-- The members for headers. -/
def Headers.toValue (h : Headers) : Json.Value :=
  .object (h.map fun (name, values) => (name, .array (values.map .text)))

/-- An alert as a JSON value. -/
def Alert.toValue (a : Alert) : Json.Value :=
  .object
    [("username", .text a.username), ("user_ip", .text a.userIp),
      ("payload_sender_ip", .text a.senderIp), ("arrival_time", .text a.arrival.text),
      ("alert_name", .text a.alertName), ("search_id", .text a.searchId),
      ("endpoint_path", .text a.endpointPath), ("http_method", .text a.httpMethod),
      ("headers", a.headers.toValue)]

/-- A termination as a JSON value. -/
def Termination.toValue (t : Termination) : Json.Value :=
  .object
    [("session_id", .text t.sessionId), ("ip_address", .text t.ipAddress),
      ("exit_code", .integer t.exitCode), ("stdout", .text t.stdout), ("stderr", .text t.stderr),
      ("error", optionalValue t.error)]

/-- A record as a JSON value. -/
def EventRecord.toValue (r : EventRecord) : Json.Value :=
  .object
    [("id", .text r.id.text), ("alert", r.alert.toValue), ("error", optionalValue r.error),
      ("note", optionalValue r.note), ("action", .text r.action.name),
      ("terminations", .array (r.terminations.map Termination.toValue))]

/-- A record as a JSON text. -/
def EventRecord.write (r : EventRecord) : String :=
  r.toValue.write

end AlertRelay
