import ConsoleLink.Client
import ConsoleLink.SampleConsole

/-!
# A run of the sample console

The sample console talks to its controller through a client and looks at the
cancel signal of its channel.

* `SampleRun.step` is one step of a run.
* `SampleRun.exitCode?` is the code with which a run ended: a text that does not fit
  makes it fail, a product that does not fit makes it break down.
-/

namespace ConsoleLink

namespace SampleRun

/-- What a run is doing. -/
inductive Status
  /-- It is in the middle of an exchange. -/
  | talking (client : Client)
  /-- It will look at the cancel signal. -/
  | asking
  | ended (code : Nat)
  | failed (fault : LinkFault)
  /-- It broke down over a product that does not fit. -/
  | overflowed

end SampleRun

/-- A run of the sample console. -/
structure SampleRun where
  console : SampleConsole
  status : SampleRun.Status
  /-- Whether it is able to wait for a signal. -/
  mayWait : Bool

namespace SampleRun

/-- What a run does to carry out an action. -/
def statusOf (mayWait : Bool) : SampleConsole.Action → Status
  | .send event => .talking (Client.send event none mayWait)
  | .askCancel => .asking
  | .exit code => .ended code
  | .overflow => .overflowed

/-- A run that is about to begin. -/
def start (mayWait : Bool := true) : SampleRun where
  console := {}
  status := statusOf mayWait SampleConsole.start
  mayWait := mayWait

/-- The run after the console has learned something. -/
def hear (r : SampleRun) (heard : SampleConsole.Heard) : SampleRun :=
  match r.console.next heard with
  | (console, action) => { r with console := console, status := statusOf r.mayWait action }

/-- One step of a run. -/
def step (now : Nat) (r : SampleRun) (s : Shared) : SampleRun × Shared :=
  match r.status with
  | .talking client =>
    match client.outcome? with
    | some (.ok reply) => (r.hear (.reply reply), s)
    | some (.error fault) => ({ r with status := .failed fault }, s)
    | none =>
      match client.step now s with
      | (client, s) => ({ r with status := .talking client }, s)
  | .asking =>
    match Signal.take r.mayWait s.cancel with
    | .one left => (r.hear (.cancelled true), { s with cancel := left })
    | .nothing => (r.hear (.cancelled false), s)
    | .refused => ({ r with status := .failed (.system .overflow) }, s)
  | _ => (r, s)

/-- Until when a run only waits, if it does. -/
def waits (r : SampleRun) (s : Shared) : Option Nat :=
  match r.status with
  | .talking client => client.waits s
  | _ => none

/-- The code with which a run ended. -/
def exitCode? (r : SampleRun) : Option Nat :=
  match r.status with
  | .ended code => some code
  | .failed _ => some 1
  | .overflowed => some 101
  | _ => none

/-- Whether a run is over. -/
def isOver (r : SampleRun) : Bool := r.exitCode?.isSome

end SampleRun

end ConsoleLink
