import ConsoleLink.Event

/-!
# Handlers

A handler finds the reply to each event.  It works in small steps, because it may
have to wait, and while it waits others go on.

* A `Moment` is what a party sees of the world when it takes a step: the time, and
  whether it should stop.
* `Move` is the outcome of a handler's step.
* `Handler` is the interface: tasks, steps, and what happens at the very end.
* `Handler.runAlone` answers one event while nobody else acts.
-/

namespace ConsoleLink

/-- What a party sees of the world when it takes a step. -/
structure Moment where
  /-- The time, in nanoseconds. -/
  now : Nat
  /-- Whether the stop condition holds. -/
  stop : Bool
  deriving DecidableEq, Repr

/-- The outcome of a handler's step. -/
inductive Move (τ : Type)
  /-- The event is not answered yet. -/
  | go (task : τ)
  /-- The event is answered. -/
  | reply (reply : Reply)
  /-- The handler broke down. -/
  | broken

/-- A handler with state `σ` whose unfinished work is a task `τ`. -/
structure Handler (σ τ : Type) where
  /-- The task of answering an event. -/
  begin : Event → τ
  /-- One step of a task. -/
  advance : Moment → τ → σ → σ × Move τ
  /-- What is done once no more events will come; tells whether it broke down. -/
  finish : σ → σ × Bool
  /-- Whether the next step of a task consults the stop condition. -/
  asks : τ → Bool
  /-- Until when a task only waits, if it does. -/
  waits : τ → σ → Option Nat

namespace Handler

variable {σ τ : Type}

/-- Runs a task to its end, for at most a number of steps; each wait takes exactly as
long as was asked.  Before a step that consults the stop condition, `consult` says
whether it holds, and may change the state. -/
def runAlone (h : Handler σ τ) (consult : σ → σ × Bool) : Nat → Nat → τ → σ → σ × Option Reply
  | 0, _, _, s => (s, none)
  | steps + 1, now, task, s =>
    match (if h.asks task then consult s else (s, false)) with
    | (s, stop) =>
      match h.advance { now, stop } task s with
      | (s, .reply reply) => (s, some reply)
      | (s, .broken) => (s, none)
      | (s, .go task) => runAlone h consult steps (max now ((h.waits task s).getD now)) task s

end Handler

end ConsoleLink
