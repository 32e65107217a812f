import Mathlib.Logic.Relation
import Matchmaking.Proofs.Scheduler.Accounting
import Matchmaking.Scheduler.Pacing

/-!
# Running until shutdown

A run repeats ticks: it looks at the shutdown channel, takes a tick, and waits or yields. Whoever
runs sees the channel through a listener, which tells apart what is set, what has been set since it
last took note, and whether anybody is left who could set it. Signals and wishes come in between any
two steps.
-/

namespace Matchmaking

open Time Allocation

/-- The shutdown channel as it is heard. -/
structure Listener where
  channel : ShutdownChannel
  /-- Whether the value has been set since it was last taken note of. -/
  unseen : Bool
  deriving DecidableEq, Repr

namespace Listener

/-- Who listens to a channel from its start has seen the value that it starts with. -/
def new (asked : Bool) : Listener := ⟨⟨asked, true⟩, false⟩

def send (l : Listener) (value : Bool) : Listener :=
  ⟨l.channel.send value, l.unseen || l.channel.attended⟩

def abandon (l : Listener) : Listener := { l with channel := l.channel.abandon }

/-- What comes of waiting for the value to be set: nothing yet, a value that is taken note of, or
the news that nobody is left to set it. A value not yet taken note of comes first. -/
def changed? (l : Listener) : Option (Bool × Listener) :=
  if l.unseen then some (true, { l with unseen := false })
  else if l.channel.attended then none
  else some (false, l)

end Listener

/-- Where a run stands. -/
inductive Place where
  /-- About to look at the channel, before a tick. -/
  | top
  /-- In a tick, or just after it. -/
  | ticking
  /-- Waiting for the next tick to be due, or for the value to be set. -/
  | waiting
  /-- Woken from the wait: by a value, or by nobody being left. -/
  | woken (value : Bool)
  /-- Letting others go first after a tick that overran. -/
  | yielding
  | returned
  deriving DecidableEq, Repr

/-- A run of a scheduler: what has happened to the scheduler, what the run hears, and where it
stands. -/
structure Run where
  course : Course
  listener : Listener
  place : Place

namespace Run

/-- A run that is about to start, on a channel with a value. -/
def new (settings : Settings) (asked : Bool) : Run := ⟨.new settings, .new asked, .top⟩

def stops (r : Run) : Bool := r.listener.channel.stops

def submit (r : Run) (i : Intent) : Run := { r with course := r.course.submit i }

def send (r : Run) (value : Bool) : Run := { r with listener := r.listener.send value }

def abandon (r : Run) : Run := { r with listener := r.listener.abandon }

/-- A step of the run. To look at the channel and to start a tick is one step. -/
inductive Move : Run → Run → Prop where
  | stop {r : Run} (place : r.place = .top) (stops : r.stops = true) :
      Move r { r with place := .returned }
  | begin {r : Run} (fresh : Nat → MatchId) (since : Nat) (now : Timestamp)
      (place : r.place = .top) (quiet : r.stops = false)
      (distinct : ((gamesOf (r.course.scheduler.begin fresh since now).2.1).map Match.id).Nodup) :
      Move r { r with course := r.course.begin fresh since now, place := .ticking }
  | work {r : Run} {d : Course} (place : r.place = .ticking)
      (busy : r.course.scheduler.phase ≠ .idle) (move : Course.Move r.course d) :
      Move r { r with course := d }
  | rest {r : Run} (elapsed : Duration) (place : r.place = .ticking)
      (idle : r.course.scheduler.phase = .idle) :
      Move r { r with place :=
        if (idleTime elapsed r.course.scheduler.settings.tickRate).isSome then .waiting
        else .yielding }
  | resume {r : Run} (place : r.place = .yielding) : Move r { r with place := .top }
  | expire {r : Run} (place : r.place = .waiting) : Move r { r with place := .top }
  | wake {r : Run} {value : Bool} {l : Listener} (place : r.place = .waiting)
      (changed : r.listener.changed? = some (value, l)) :
      Move r { r with listener := l, place := .woken value }
  | listen {r : Run} {value : Bool} (place : r.place = .woken value) :
      Move r { r with place :=
        if value = false ∨ r.listener.channel.asked = true then .returned else .waiting }

/-- Something comes in from outside, or the run takes a step. -/
inductive Step : Run → Run → Prop where
  | submit {r : Run} (i : Intent) : Step r (r.submit i)
  | send {r : Run} (value : Bool) : Step r (r.send value)
  | abandon {r : Run} : Step r r.abandon
  | move {r s : Run} (h : Move r s) : Step r s

/-- A step that leaves a shutdown asked for once it is. -/
def Steady (r s : Run) : Prop :=
  Step r s ∧ (r.listener.channel.asked = true → s.listener.channel.asked = true)

/-- The runs of a scheduler with the given settings. -/
inductive Reachable (settings : Settings) : Run → Prop where
  | new (asked : Bool) : Reachable settings (.new settings asked)
  | step {r s : Run} (h : Reachable settings r) (step : Step r s) : Reachable settings s

end Run

end Matchmaking
