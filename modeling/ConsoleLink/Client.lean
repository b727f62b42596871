import ConsoleLink.Channel.Shared

/-!
# The client

The child's side of a channel posts one event at a time: it writes the event,
signals the request, waits for the response and reads the reply.  A text that
does not fit is refused before anything is signalled.  A client with a time limit
gives up when it has passed.

* `Phase` lists the places at which a client can be between two steps.
* `Client.send` starts an exchange, `Client.step` is one step of it.
-/

namespace ConsoleLink

namespace Client

/-- The longest single wait for a response. -/
def longestWait : Span := Span.ofMillis 100

/-- Where a client is between two steps. -/
inductive Phase
  /-- It will write the event. -/
  | writing (event : Event)
  /-- It will signal the request. -/
  | posting
  /-- It will look at the clock; the wait began at `started`. -/
  | checking (started : Nat)
  /-- It waits for the response, at most until a time. -/
  | waiting (started wake : Nat)
  /-- It has taken the response and will read the reply. -/
  | reading
  /-- It is done. -/
  | done (outcome : Except LinkFault Reply)

end Client

/-- A client in the middle of an exchange. -/
structure Client where
  phase : Client.Phase
  /-- How long it waits for a response, if not for ever. -/
  limit : Option Span := none
  /-- Whether it is able to wait for a signal. -/
  mayWait : Bool := true

namespace Client

/-- A client about to send an event. -/
def send (event : Event) (limit : Option Span := none) (mayWait : Bool := true) : Client :=
  { phase := .writing event, limit := limit, mayWait := mayWait }

/-- The client in another phase. -/
def enter (c : Client) (phase : Phase) : Client := { c with phase := phase }

/-- One step of the client. -/
def step (now : Nat) (c : Client) (s : Shared) : Client × Shared :=
  match c.phase with
  | .writing event =>
    match s.envelope.putEvent event with
    | (envelope, .ok ()) => (c.enter .posting, { s with envelope := envelope })
    | (envelope, .error fault) =>
      (c.enter (.done (.error (.field fault))), { s with envelope := envelope })
  | .posting =>
    match Signal.set s.request with
    | .ok count => (c.enter (.checking now), { s with request := count })
    | .error fault => (c.enter (.done (.error (.system fault))), s)
  | .checking started =>
    match c.limit with
    | none => (c.enter (.waiting started (now + longestWait)), s)
    | some limit =>
      if limit ≤ now - started then (c.enter (.done (.error (.noAnswer limit))), s)
      else
        (c.enter (.waiting started (now + min longestWait (limit - (now - started)))), s)
  | .waiting started limit =>
    match Signal.take c.mayWait s.response with
    | .one left => (c.enter .reading, { s with response := left })
    | .refused => (c.enter (.done (.error (.system .overflow))), s)
    | .nothing => if limit ≤ now then (c.enter (.checking started), s) else (c, s)
  | .reading =>
    match s.envelope.reply? with
    | .ok reply => (c.enter (.done (.ok reply)), s)
    | .error fault => (c.enter (.done (.error (.envelope fault))), s)
  | .done _ => (c, s)

/-- The outcome of a finished exchange. -/
def outcome? (c : Client) : Option (Except LinkFault Reply) :=
  match c.phase with
  | .done outcome => some outcome
  | _ => none

/-- Until when the client only waits, if it does. -/
def waits (c : Client) (s : Shared) : Option Nat :=
  match c.phase with
  | .waiting _ limit =>
    match Signal.take c.mayWait s.response with
    | .nothing => some limit
    | _ => none
  | _ => none

end Client

end ConsoleLink
