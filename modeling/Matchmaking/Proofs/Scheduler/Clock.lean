import Matchmaking.Proofs.Scheduler.Run

/-!
# Runs by the clock

A run and a clock that counts nanoseconds. Time passes in ticks, for as long as they take, and in
waits, but not past the moment at which a wait is over. Nothing else takes time.
-/

namespace Matchmaking

open Time

/-! ## What is left of the tick rate -/

section IdleTime

variable {elapsed rate idle : Duration}

theorem idleTime_eq_some_iff : idleTime elapsed rate = some idle ↔
    elapsed.nanos < rate.nanos ∧ elapsed.nanos + idle.nanos = rate.nanos := by
  obtain ⟨n⟩ := idle
  rw [idleTime]
  split
  · simp only [Option.some.injEq, Duration.mk.injEq]
    omega
  · simp only [reduceCtorEq, false_iff]
    omega

theorem idleTime_eq_none_iff : idleTime elapsed rate = none ↔ rate.nanos ≤ elapsed.nanos := by
  rw [idleTime]
  split
  · simp only [reduceCtorEq, false_iff]
    omega
  · simp only [true_iff]
    omega

end IdleTime

/-! ## The clock -/

structure Beat where
  start : Nat
  /-- How long it took, once it is over. -/
  took : Option Duration

namespace Beat

def elapsed (b : Beat) (now : Nat) : Duration := ⟨now - b.start⟩

def finish (b : Beat) (now : Nat) : Beat := { b with took := some (b.elapsed now) }

end Beat

/-- A run by the clock. -/
structure TimedRun where
  run : Run
  now : Nat
  /-- The moment at which the wait is over. -/
  due : Nat
  /-- The ticks that have started, the latest first. -/
  beats : List Beat

namespace TimedRun

def new (settings : Settings) (asked : Bool) (moment : Nat) : TimedRun :=
  ⟨.new settings asked, moment, moment, []⟩

def goTo (p : TimedRun) (place : Place) : TimedRun := { p with run := { p.run with place } }

/-- The least time between the starts of two ticks. -/
def rate (p : TimedRun) : Duration := p.run.course.scheduler.settings.tickRate

/-- The run waits for the next tick to be due, even if it has been woken meanwhile. -/
def Waits (p : TimedRun) : Prop := p.run.place = .waiting ∨ ∃ value, p.run.place = .woken value

/-- A step of the run. What is left of the tick rate is worked out once, at the end of a tick. -/
inductive Move : TimedRun → TimedRun → Prop where
  | stop {p : TimedRun} (place : p.run.place = .top) (stops : p.run.stops = true) :
      Move p (p.goTo .returned)
  | begin {p : TimedRun} (fresh : Nat → MatchId) (since : Nat) (today : Timestamp)
      (place : p.run.place = .top) (quiet : p.run.stops = false)
      (distinct :
        ((gamesOf (p.run.course.scheduler.begin fresh since today).2.1).map Match.id).Nodup) :
      Move p { p with
        run := { p.run with course := p.run.course.begin fresh since today, place := .ticking }
        beats := ⟨p.now, none⟩ :: p.beats }
  | work {p : TimedRun} {d : Course} (place : p.run.place = .ticking)
      (busy : p.run.course.scheduler.phase ≠ .idle) (move : Course.Move p.run.course d) :
      Move p { p with run := { p.run with course := d } }
  | wait {p : TimedRun} {b : Beat} {past : List Beat} {span : Duration}
      (place : p.run.place = .ticking) (idle : p.run.course.scheduler.phase = .idle)
      (latest : p.beats = b :: past) (left : idleTime (b.elapsed p.now) p.rate = some span) :
      Move p { p.goTo .waiting with due := p.now + span.nanos, beats := b.finish p.now :: past }
  | overrun {p : TimedRun} {b : Beat} {past : List Beat}
      (place : p.run.place = .ticking) (idle : p.run.course.scheduler.phase = .idle)
      (latest : p.beats = b :: past) (left : idleTime (b.elapsed p.now) p.rate = none) :
      Move p { p.goTo .yielding with beats := b.finish p.now :: past }
  | resume {p : TimedRun} (place : p.run.place = .yielding) : Move p (p.goTo .top)
  | expire {p : TimedRun} (place : p.run.place = .waiting) (due : p.due ≤ p.now) :
      Move p (p.goTo .top)
  | wake {p : TimedRun} {value : Bool} {l : Listener} (place : p.run.place = .waiting)
      (changed : p.run.listener.changed? = some (value, l)) :
      Move p { p with run := { p.run with listener := l, place := .woken value } }
  | listen {p : TimedRun} {value : Bool} (place : p.run.place = .woken value) :
      Move p (p.goTo
        (if value = false ∨ p.run.listener.channel.asked = true then .returned else .waiting))

/-- Time can pass: a tick takes as long as it takes, a wait ends when it is due. -/
def CanPass (p : TimedRun) (span : Nat) : Prop :=
  p.run.place = .ticking ∨ p.run.place = .waiting ∧ p.now + span ≤ p.due

/-- Something comes in from outside, time passes, or the run takes a step. -/
inductive Step : TimedRun → TimedRun → Prop where
  | submit {p : TimedRun} (i : Intent) : Step p { p with run := p.run.submit i }
  | send {p : TimedRun} (value : Bool) : Step p { p with run := p.run.send value }
  | abandon {p : TimedRun} : Step p { p with run := p.run.abandon }
  | pass {p : TimedRun} (span : Nat) (can : p.CanPass span) : Step p { p with now := p.now + span }
  | move {p q : TimedRun} (h : Move p q) : Step p q

inductive Reachable (settings : Settings) : TimedRun → Prop where
  | new (asked : Bool) (moment : Nat) : Reachable settings (.new settings asked moment)
  | step {p q : TimedRun} (h : Reachable settings p) (step : Step p q) : Reachable settings q

/-- Without the clock, a step is one of the run. -/
theorem Move.run {p q : TimedRun} (m : Move p q) : Run.Move p.run q.run := by
  cases m with
  | stop place stops => exact .stop place stops
  | begin fresh since today place quiet distinct =>
      exact .begin fresh since today place quiet distinct
  | work place busy move => exact .work place busy move
  | @wait b _ _ place idle latest left =>
      have hrest := Run.Move.rest (b.elapsed p.now) place idle
      rw [← rate, left] at hrest
      exact hrest
  | @overrun b _ place idle latest left =>
      have hrest := Run.Move.rest (b.elapsed p.now) place idle
      rw [← rate, left] at hrest
      exact hrest
  | resume place => exact .resume place
  | expire place => exact .expire place
  | wake place changed => exact .wake place changed
  | listen place => exact .listen place

theorem Reachable.run {settings : Settings} {p : TimedRun} (h : Reachable settings p) :
    p.run.Reachable settings := by
  induction h with
  | new asked => exact .new asked
  | step _ t ih =>
      cases t with
      | submit i => exact ih.step (.submit i)
      | send value => exact ih.step (.send value)
      | abandon => exact ih.step .abandon
      | pass => exact ih
      | move m => exact ih.step (.move m.run)

end TimedRun

end Matchmaking
