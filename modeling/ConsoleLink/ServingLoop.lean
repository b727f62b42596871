import ConsoleLink.Channel.Shared
import ConsoleLink.Handler

/-!
# The serving loop

The controller waits for requests and serves them one at a time: it takes the
request, reads the event, lets its handler find the reply, writes the reply and
signals the response.  Before each wait it looks whether it should stop.  Bytes
that make no event, or a reply that does not fit, end the loop, and the offending
event stays unanswered.

* `Phase` lists the places at which the loop can be between two steps.
* `ServingLoop.step` is one step.
* `ServingLoop.asks` and `ServingLoop.waits` tell what the next step depends on.
-/

namespace ConsoleLink

namespace ServingLoop

/-- Where the loop is between two steps. -/
inductive Phase (τ : Type)
  /-- It will look whether it should stop. -/
  | asking
  /-- It waits for a request, at most until a time. -/
  | listening (wake : Nat)
  /-- It has taken a request and will read the event. -/
  | reading
  /-- Its handler is at work. -/
  | handling (task : τ)
  /-- It will write the reply. -/
  | replying (reply : Reply)
  /-- It will signal the response. -/
  | signalling
  /-- It will let its handler finish. -/
  | closing (outcome : Except LinkFault Unit)
  /-- It is over. -/
  | ended (outcome : Except LinkFault Unit)
  /-- Its handler broke down. -/
  | broken

end ServingLoop

/-- A serving loop with the state of its handler. -/
structure ServingLoop (σ τ : Type) where
  state : σ
  phase : ServingLoop.Phase τ := .asking
  pollInterval : Span
  /-- Whether it is able to wait for a signal. -/
  mayWait : Bool := true

namespace ServingLoop

variable {σ τ : Type}

/-- The loop in another phase. -/
def enter (l : ServingLoop σ τ) (phase : Phase τ) : ServingLoop σ τ := { l with phase := phase }

/-- One step of the loop. -/
def step (h : Handler σ τ) (m : Moment) (l : ServingLoop σ τ) (s : Shared) :
    ServingLoop σ τ × Shared :=
  match l.phase with
  | .asking =>
    if m.stop then (l.enter (.closing (.ok ())), s)
    else (l.enter (.listening (m.now + l.pollInterval)), s)
  | .listening limit =>
    match Signal.take l.mayWait s.request with
    | .one left => (l.enter .reading, { s with request := left })
    | .refused => (l.enter (.closing (.error (.system .overflow))), s)
    | .nothing => if limit ≤ m.now then (l.enter .asking, s) else (l, s)
  | .reading =>
    match s.envelope.event? with
    | .ok event => (l.enter (.handling (h.begin event)), s)
    | .error fault => (l.enter (.closing (.error (.envelope fault))), s)
  | .handling task =>
    match h.advance m task l.state with
    | (state, .go task) => ({ l with state := state, phase := .handling task }, s)
    | (state, .reply reply) => ({ l with state := state, phase := .replying reply }, s)
    | (state, .broken) => ({ l with state := state, phase := .broken }, s)
  | .replying reply =>
    match s.envelope.putReply? reply with
    | .ok envelope => (l.enter .signalling, { s with envelope := envelope })
    | .error fault => (l.enter (.closing (.error (.envelope fault))), s)
  | .signalling =>
    match Signal.set s.response with
    | .ok count => (l.enter .asking, { s with response := count })
    | .error fault => (l.enter (.closing (.error (.system fault))), s)
  | .closing outcome =>
    match h.finish l.state with
    | (state, false) => ({ l with state := state, phase := .ended outcome }, s)
    | (state, true) => ({ l with state := state, phase := .broken }, s)
  | .ended _ => (l, s)
  | .broken => (l, s)

/-- Whether the next step consults the stop condition. -/
def asks (h : Handler σ τ) (l : ServingLoop σ τ) : Bool :=
  match l.phase with
  | .asking => true
  | .handling task => h.asks task
  | _ => false

/-- Whether the loop takes no more steps. -/
def isOver (l : ServingLoop σ τ) : Bool :=
  match l.phase with
  | .ended _ | .broken => true
  | _ => false

/-- How the loop ended. -/
def outcome? (l : ServingLoop σ τ) : Option (Except LinkFault Unit) :=
  match l.phase with
  | .ended outcome => some outcome
  | _ => none

/-- Until when the loop only waits, if it does. -/
def waits (h : Handler σ τ) (l : ServingLoop σ τ) (s : Shared) : Option Nat :=
  match l.phase with
  | .listening limit =>
    match Signal.take l.mayWait s.request with
    | .nothing => some limit
    | _ => none
  | .handling task => h.waits task l.state
  | _ => none

end ServingLoop

end ConsoleLink
