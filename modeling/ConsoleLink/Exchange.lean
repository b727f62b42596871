import ConsoleLink.SampleConsole.Run
import ConsoleLink.ServingLoop
import ConsoleLink.Turns

/-!
# A controller and a child on one channel

The two parties of a channel take turns.  Somebody who watches them may step in
before every step of the controller: this decides whether the controller is told
to stop, and may change anything.

* `Partner` is the child's side: a client with one event to send, or a whole console.
* `Exchange.converse` runs both until the child is done or will never be answered.
* `Exchange.serve` runs the controller alone until it has answered, and
  `Exchange.finish` until its loop is over.
-/

namespace ConsoleLink

/-- The child's side of a channel. -/
class Partner (κ : Type) where
  step : Nat → κ → Shared → κ × Shared
  /-- Until when it only waits, if it does. -/
  waits : κ → Shared → Option Nat
  /-- Whether it takes no more steps. -/
  isDone : κ → Bool

instance : Partner Client where
  step := Client.step
  waits := Client.waits
  isDone c := c.outcome?.isSome

instance : Partner SampleRun where
  step := SampleRun.step
  waits := SampleRun.waits
  isDone := SampleRun.isOver

/-- A controller and a child on one channel. -/
structure Exchange (σ τ κ : Type) where
  loop : ServingLoop σ τ
  partner : κ
  shared : Shared := { envelope := Envelope.zero.reset }
  /-- Whether the controller should stop. -/
  stop : Bool := false
  now : Nat := 0

namespace Exchange

variable {σ τ κ : Type} [Partner κ]

/-- The state of the controller's handler. -/
def state (e : Exchange σ τ κ) : σ := e.loop.state

/-- The exchange with the state of the controller's handler changed. -/
def withState (e : Exchange σ τ κ) (s : σ) : Exchange σ τ κ :=
  { e with loop := { e.loop with state := s } }

/-- Somebody who watches: what is changed before a step of the controller, and whether
the controller is told to stop in that step. -/
abbrev Watch (σ τ κ : Type) := Exchange σ τ κ → Exchange σ τ κ × Bool

/-- The controller as a party. -/
def controller (h : Handler σ τ) (watch : Watch σ τ κ) : Party (Exchange σ τ κ) where
  act now e :=
    match watch e with
    | (e, stop) =>
      match e.loop.step h { now, stop } e.shared with
      | (loop, shared) => { e with loop := loop, shared := shared }
  waits e := e.loop.waits h e.shared
  isDone e := e.loop.isOver

/-- The child as a party. -/
def child : Party (Exchange σ τ κ) where
  act now e :=
    match Partner.step now e.partner e.shared with
    | (partner, shared) => { e with partner := partner, shared := shared }
  waits e := Partner.waits e.partner e.shared
  isDone e := Partner.isDone e.partner

/-- Lets parties act until a goal is reached. -/
def run (e : Exchange σ τ κ) (parties : List (Party (Exchange σ τ κ)))
    (goal : Exchange σ τ κ → Bool) : Exchange σ τ κ :=
  match Turns.run parties goal Turns.plenty e.now e with
  | (now, e) => { e with now := now }

/-- Whether the child is done, or waits for an answer that will not come.  A controller
that should stop has done so. -/
def isSettled (e : Exchange σ τ κ) : Bool :=
  if Partner.isDone e.partner then !e.stop || e.loop.isOver
  else e.loop.isOver && (Partner.waits e.partner e.shared).isSome

/-- Runs both until the child is done or will never be answered. -/
def converse (h : Handler σ τ) (watch : Watch σ τ κ) (e : Exchange σ τ κ) : Exchange σ τ κ :=
  e.run [child, controller h watch] isSettled

/-- Runs the controller until it has answered or its loop is over; takes the response
and tells whether there was one. -/
def serve (h : Handler σ τ) (watch : Watch σ τ κ) (e : Exchange σ τ κ) :
    Exchange σ τ κ × Bool :=
  let e := e.run [controller h watch] (fun e => e.loop.isOver || 0 < e.shared.response)
  match e.shared.response with
  | 0 => (e, false)
  | left + 1 => ({ e with shared := { e.shared with response := left } }, true)

/-- Tells the controller to stop and runs it to its end. -/
def finish (h : Handler σ τ) (watch : Watch σ τ κ) (e : Exchange σ τ κ) : Exchange σ τ κ :=
  { e with stop := true }.run [controller h watch] fun e => e.loop.isOver

end Exchange

end ConsoleLink
