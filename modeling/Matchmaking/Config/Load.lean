import Matchmaking.Net.SocketAddress
import Matchmaking.Number.Width
import Matchmaking.Scheduler.Settings
import Matchmaking.Text.Numeral

/-!
# Configuration

Everything the service is told at its start, read from named variables. A variable that is blank
counts as unset. The first problem, in a fixed order of checks, is the one reported.
-/

namespace Matchmaking

open Text Net Number

/-- What the service is told at its start. -/
structure Config where
  listenAddress : SocketAddress
  logLevel : String
  settings : Settings
  /-- Where servers are asked for; unset means servers without a fleet. -/
  allocatorUrl : Option String
  allocatorTimeout : Duration
  /-- Where matches are announced; unset means in the log only. -/
  notifierUrl : Option String
  deriving DecidableEq

/-- What can be wrong with the variables. -/
inductive ConfigError where
  | listenAddress
  | number (name : String) (why : NumeralError)
  | policy (why : UnknownPolicy)
  | settings (why : SettingsError)
  deriving DecidableEq

/-- The wording of an error: what was being done, then why it failed, if the two differ. -/
def ConfigError.chain : ConfigError → List String
  | .listenAddress =>
    ["MATCHMAKER_LISTEN_ADDR is not a socket address", SocketAddress.invalidText]
  | .number name why => [s!"{name} is not a number", why.message]
  | .policy why => [why.message]
  | .settings why => [why.message]

def ConfigError.message (e : ConfigError) : String := String.intercalate ": " e.chain

/-- The wording of an error on the terminal: causes are listed below what they caused. -/
def ConfigError.report (e : ConfigError) : String :=
  match e.chain with
  | [] => "Error: \n"
  | [only] => s!"Error: {only}\n"
  | outer :: causes =>
    s!"Error: {outer}\n\nCaused by:\n" ++ String.join (causes.map fun c => s!"    {c}\n")

namespace Config

/-- The value of a variable that is set to more than blanks. -/
def setting? (lookup : String → Option String) (name : String) : Option String :=
  (lookup name).filter fun v => !isBlankText v

/-- The number in a variable, blanks around it aside, or a default if the variable is unset. -/
def readNumber (lookup : String → Option String) (name : String) (default : Nat) :
    Except ConfigError Nat :=
  match setting? lookup name with
  | none => .ok default
  | some v =>
    match readNat mostUnsigned64 (trimChars v.toList) with
    | .ok n => .ok n
    | .error why => .error (.number name why)

/-- The address to listen on; blanks around it are not allowed. -/
def readListenAddress (lookup : String → Option String) : Except ConfigError SocketAddress :=
  let text := (setting? lookup "MATCHMAKER_LISTEN_ADDR").getD "127.0.0.1:8080"
  match SocketAddress.parse? text with
  | some a => .ok a
  | none => .error .listenAddress

def readPolicy (lookup : String → Option String) : Except ConfigError FailurePolicy :=
  match setting? lookup "MATCHMAKER_FAILURE_POLICY" with
  | none => .ok Settings.standard.failurePolicy
  | some v => (FailurePolicy.parse v).mapError .policy

def readSettings (lookup : String → Option String) : Except ConfigError Settings := do
  let standard := Settings.standard
  let fleet := (setting? lookup "MATCHMAKER_FLEET_NAME").getD standard.fleet
  let gameMode := (setting? lookup "MATCHMAKER_GAME_MODE_ID").getD standard.gameMode
  let rate ← readNumber lookup "MATCHMAKER_TICK_RATE_MS" standard.tickRate.millis
  let playersPerMatch ← readNumber lookup "MATCHMAKER_PLAYERS_PER_MATCH" standard.playersPerMatch
  let failurePolicy ← readPolicy lookup
  let tickRate := Duration.ofMillis rate
  let s : Settings := { fleet, gameMode, tickRate, playersPerMatch, failurePolicy }
  match s.problem? with
  | some why => throw (.settings why)
  | none => return s

def load (lookup : String → Option String) : Except ConfigError Config := do
  let listenAddress ← readListenAddress lookup
  let logLevel := (setting? lookup "MATCHMAKER_LOG_LEVEL").getD "info"
  let settings ← readSettings lookup
  let allocatorUrl := setting? lookup "MATCHMAKER_ALLOCATOR_URL"
  let timeout ← readNumber lookup "MATCHMAKER_ALLOCATOR_TIMEOUT_MS" 5000
  let notifierUrl := setting? lookup "MATCHMAKER_NOTIFIER_URL"
  return {
    listenAddress, logLevel, settings, allocatorUrl
    allocatorTimeout := .ofMillis timeout
    notifierUrl }

end Config

end Matchmaking
