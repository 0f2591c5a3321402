import AlertRelay.Config.EnvFile
import AlertRelay.Relay

/-!
# The command line

Reads the environment, an optional file of settings and the standard input, runs the relay, and
writes its log and its error text. This program has no way to the network, so every delivery on an
enabled channel fails; see `Relay.Network`.
-/

namespace AlertRelay.CommandLine

/-- The names of the variables that the program looks at. -/
def variableNames : List String :=
  ["NOTIFY_QUEUE_DEPTH", "NOTIFY_SHUTDOWN_TIMEOUT_SECS", "NOTIFY_STATS_INTERVAL_SECS",
    "NOTIFY_QUEUE_INTERVAL_SECS", "TEAMS_WEBHOOK_URL", "TEAMS_RATE_LIMIT_SECS", "TEAMS_RETRIES",
    "TEAMS_RETRY_DELAY_SECS", "EMAIL_SERVER", "EMAIL_PORT", "EMAIL_CLIENT_IDENTITY",
    "EMAIL_SENDER", "EMAIL_RECIPIENTS", "EMAIL_USERNAME", "EMAIL_PASSWORD",
    "EMAIL_RATE_LIMIT_SECS", "EMAIL_RETRIES", "EMAIL_RETRY_DELAY_SECS", "TRIPWIRE_APP_NAME",
    "TRIPWIRE_APP_URL", "LOG_FORMAT", "RUST_LOG"]

/-- The variables that are set. -/
def readEnvironment : IO Environment := do
  let mut env : Environment := []
  for name in variableNames do
    if let some value ← IO.getEnv name then
      env := env ++ [(name, value)]
  return env

/-- The settings in a file of the working directory, if there is one. -/
def readSettings : IO String := do
  try IO.FS.readFile ".env" catch _ => return ""

/-- All bytes of the standard input. -/
partial def readInput (stream : IO.FS.Stream) (bytes : ByteArray) : IO ByteArray := do
  let more ← stream.read 65536
  if more.isEmpty then return bytes else readInput stream (bytes ++ more)

/-- An identifier made of 32 random numbers below 16, with the marks of a random identifier. -/
def freshUuid : IO Uuid := do
  let mut digits : List Char := []
  for i in List.range 32 do
    let n ← IO.rand 0 15
    let n := if i == 12 then 4 else if i == 16 then 8 + n % 4 else n
    digits := digits ++ [Nat.digitChar n]
  return (Uuid.read? (String.ofList digits)).getD Uuid.nil

/-- Runs the relay on the standard input. -/
def run : IO UInt32 := do
  let env := (← readEnvironment).withFile (← readSettings)
  let input := (← readInput (← IO.getStdin) .empty).toList
  let lineCount := (Text.byteLines input).length
  let ids ← (List.range lineCount).mapM fun _ => freshUuid
  let fresh (i : Nat) : Uuid := (ids[i]?).getD Uuid.nil
  let report := Relay.run env input fresh Relay.Network.unreachable (.utc "") none
  if !Relay.isMuted env then
    for line in report.log do
      IO.println line.toValue.write
  IO.eprint report.errorText
  return UInt32.ofNat report.status

end AlertRelay.CommandLine

/-- The program. -/
def main : IO UInt32 :=
  AlertRelay.CommandLine.run
