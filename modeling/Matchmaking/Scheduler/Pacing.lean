import Matchmaking.Scheduler.Tick

/-!
# Pacing and shutdown

A tick that ends early is followed by a wait for the rest of the tick rate, one that overruns by the
next tick at once. Shutdown is a value that any number of updates may set, or the loss of whoever
sets it; it is honoured between two ticks and ends a wait.
-/

namespace Matchmaking

/-- How long to wait after a tick, if at all. -/
def idleTime (elapsed rate : Duration) : Option Duration :=
  if elapsed.nanos < rate.nanos then some ⟨rate.nanos - elapsed.nanos⟩ else none

/-- The channel that shutdown is told over. -/
structure ShutdownChannel where
  /-- Whether shutdown has been asked for. -/
  asked : Bool
  /-- Whether there is still somebody who could ask. -/
  attended : Bool
  deriving DecidableEq, Repr

namespace ShutdownChannel

def quiet : ShutdownChannel := ⟨false, true⟩

def stops (c : ShutdownChannel) : Bool := c.asked || !c.attended

/-- Sets the value; without anybody to set it, nothing changes. -/
def send (c : ShutdownChannel) (value : Bool) : ShutdownChannel :=
  if c.attended then { c with asked := value } else c

def abandon (c : ShutdownChannel) : ShutdownChannel := { c with attended := false }

end ShutdownChannel

def startTrace (s : Scheduler) : Trace :=
  .line .info "Starting matchmaking scheduler" [
    ("fleet", .text s.settings.fleet),
    ("tick_rate_ms", .number s.settings.tickRate.millis),
    ("players_per_match", .number s.assembler.playersPerMatch),
    ("failure_policy", .text s.settings.failurePolicy.name)]

def overrunTrace (elapsed rate : Duration) : Trace :=
  .line .debug "Tick overran matchmaking rate, starting next tick immediately" [
    ("elapsed_ms", .number elapsed.millis),
    ("tick_rate_ms", .number rate.millis)]

def stopTrace : Trace := .line .info "Matchmaking scheduler shutting down" []

end Matchmaking
