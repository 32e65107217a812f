import Matchmaking.Service.Lifecycle

/-!
# Command line

Starts the service from the variables of the environment, logs each line as a document of its own,
and stops when standard input ends.
-/

namespace Matchmaking

open Service

def variableNames : List String := [
  "MATCHMAKER_LISTEN_ADDR",
  "MATCHMAKER_LOG_LEVEL",
  "MATCHMAKER_FLEET_NAME",
  "MATCHMAKER_GAME_MODE_ID",
  "MATCHMAKER_TICK_RATE_MS",
  "MATCHMAKER_PLAYERS_PER_MATCH",
  "MATCHMAKER_FAILURE_POLICY",
  "MATCHMAKER_ALLOCATOR_URL",
  "MATCHMAKER_ALLOCATOR_TIMEOUT_MS",
  "MATCHMAKER_NOTIFIER_URL",
  "RUST_LOG"]

/-- Logs lines as far as the filter lets them through. -/
def writeLog (s : Configured) (lines : List LogLine) : IO Unit :=
  (s.written lines).forM fun l => IO.println (lineDocument programPart l).render

partial def awaitEnd (input : IO.FS.Stream) : IO Unit := do
  if !(← input.getLine).isEmpty then awaitEnd input

/-- Runs the service. The exit code is zero unless the configuration is no good. -/
def runService : IO UInt32 := do
  let values ← variableNames.mapM fun name => return (name, ← IO.getEnv name)
  match configure fun name => (values.lookup name).join with
  | .error why =>
    (← IO.getStderr).putStr why.report
    return 1
  | .ok s =>
    writeLog s (startLines s.config)
    awaitEnd (← IO.getStdin)
    writeLog s stopLines
    return 0

end Matchmaking

def main : IO UInt32 := Matchmaking.runService
