import Matchmaking.Text.Blank

/-!
# Settings of the scheduler

What a tick is shaped by, and what makes settings unusable.
-/

namespace Matchmaking

open Text

/-- A span of time. -/
structure Duration where
  nanos : Nat
  deriving DecidableEq, Repr

namespace Duration

def ofMillis (n : Nat) : Duration := ⟨n * 1000000⟩

def ofParts (seconds nanos : Nat) : Duration := ⟨seconds * 1000000000 + nanos⟩

def millis (d : Duration) : Nat := d.nanos / 1000000

def seconds (d : Duration) : Nat := d.nanos / 1000000000

def subsecond (d : Duration) : Nat := d.nanos % 1000000000

end Duration

/-- What happens to the players of a match that got no server. -/
inductive FailurePolicy where
  /-- They have to ask again. -/
  | drop
  /-- They wait for the next tick, in front of all others. -/
  | requeue
  deriving DecidableEq, Repr

/-- A name that no policy has. -/
structure UnknownPolicy where
  name : String
  deriving DecidableEq, Repr

def UnknownPolicy.message (e : UnknownPolicy) : String :=
  s!"unknown failure policy '{e.name}', expected 'drop' or 'requeue'"

namespace FailurePolicy

def standard : FailurePolicy := .drop

def name : FailurePolicy → String
  | .drop => "drop"
  | .requeue => "requeue"

/-- A text without blanks around it and with ASCII letters in lower case. -/
def normalise (s : String) : String := String.ofList ((trimChars s.toList).map Char.toLower)

def parse (s : String) : Except UnknownPolicy FailurePolicy :=
  let name := normalise s
  if name = "drop" then .ok .drop
  else if name = "requeue" then .ok .requeue
  else .error ⟨name⟩

end FailurePolicy

/-- What ticks are shaped by. -/
structure Settings where
  /-- The fleet that servers come from. -/
  fleet : String
  /-- The game mode of every ticket and match. -/
  gameMode : String
  /-- The least time between the starts of two ticks. -/
  tickRate : Duration
  playersPerMatch : Nat
  failurePolicy : FailurePolicy
  deriving DecidableEq, Repr

/-- What can be wrong with settings. -/
inductive SettingsError where
  | blankFleet
  | blankGameMode
  | noPlayers
  | noTickRate
  deriving DecidableEq, Repr

def SettingsError.message : SettingsError → String
  | .blankFleet => "fleet name must not be empty"
  | .blankGameMode => "game mode id must not be empty"
  | .noPlayers => "players per match must be greater than zero"
  | .noTickRate => "tick rate must be greater than zero"

namespace Settings

def standard : Settings where
  fleet := "lobby"
  gameMode := "lobby"
  tickRate := .ofMillis 1000
  playersPerMatch := 50
  failurePolicy := .standard

/-- What is wrong with settings, the first problem only. -/
def problem? (s : Settings) : Option SettingsError :=
  if isBlankText s.fleet then some .blankFleet
  else if isBlankText s.gameMode then some .blankGameMode
  else if s.playersPerMatch = 0 then some .noPlayers
  else if s.tickRate.nanos = 0 then some .noTickRate
  else none

end Settings

end Matchmaking
