import Matchmaking.Config.Load
import Matchmaking.Service.LogFilter

/-!
# The service from start to end

What the program logs about itself between its start and an orderly end, and how it ends if its
configuration is no good.
-/

namespace Matchmaking.Service

def programPart : String := "matchmaker"

def line (level : LogLevel) (message : String) (fields : List (String × LogValue)) : LogLine :=
  ⟨level, message, fields⟩

def allocatorLine (c : Config) : LogLine :=
  match c.allocatorUrl with
  | some url => line .info "Using HTTP allocator" [("url", .text url)]
  | none => line .warn "No allocator URL configured, using static allocator" []

def notifierLine (c : Config) : LogLine :=
  match c.notifierUrl with
  | some url => line .info "Publishing match announcements over HTTP" [("url", .text url)]
  | none => line .info "No notifier URL configured, match announcements are logged only" []

/-- What is logged until connections are taken. -/
def startLines (c : Config) : List LogLine := [
  line .info "Starting matchforge matchmaker" [],
  line .info "Configuration loaded" [
    ("listen_addr", .text c.listenAddress.text),
    ("fleet", .text c.settings.fleet),
    ("game_mode_id", .text c.settings.gameMode)],
  allocatorLine c,
  notifierLine c,
  line .info "Listening for connections" [("addr", .text c.listenAddress.text)]]

/-- What is logged from the signal to stop until the end. -/
def stopLines : List LogLine := [
  line .info "Received shutdown signal" [],
  line .info "Waiting for scheduler to shut down..." [],
  line .info "Server exited normally" [],
  line .info "Matchmaker shutdown complete" []]

/-- What the side that takes connections logs when it stops, at some moment after the signal. -/
def serverStopLine : LogLine := line .info "HTTP server shutting down" []

def valueDocument : LogValue → Json.Value
  | .text s => .text s
  | .number n => .integer n
  | .flag b => .flag b

/-- The document of a log line of a part of the program: its message is one of its fields. -/
def lineDocument (part : String) (l : LogLine) : Json.Value :=
  .object [
    ("level", .text l.level.name),
    ("fields", .object (("message", .text l.message) ::
      l.fields.map fun (name, v) => (name, valueDocument v))),
    ("target", .text part)]

structure Configured where
  config : Config
  filter : LogFilter

def configure (lookup : String → Option String) : Except ConfigError Configured := do
  let config ← Config.load lookup
  return ⟨config, .choose (lookup "RUST_LOG") config.logLevel⟩

/-- The lines that the filter lets through. -/
def Configured.written (s : Configured) (lines : List LogLine) : List LogLine :=
  lines.filter (s.filter.passes programPart)

end Matchmaking.Service
