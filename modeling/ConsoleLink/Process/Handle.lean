import ConsoleLink.Fault

/-!
# Watching, ending and releasing a child

A handle on a running child records its exit code once and lets go of the child
once; after that the child is never touched again.

* `ChildProcess` is what the handle needs of a child.
* `poll`, `kill` and `release` are the single operations.
* `Wait` is a wait for the exit, made of polls and pauses, and `Closing` is a
  shutdown: wait, then kill, then wait a little more.  Both take small steps that
  are told the time, so others may act in between.
* A wait begins with its deadline.  Where the clock cannot show that time, the call
  breaks off before its first poll.
* `Watcher` polls until the exit is seen or it is told to stop.
* `waitForExit`, `close` and `forceClose` run these to their end when nobody else
  acts and every pause takes exactly as long as was asked.
-/

namespace ConsoleLink

/-- What can be done with a running child. -/
class ChildProcess (γ : Type) where
  /-- The exit code, once the child has ended. -/
  tryWait : γ → γ × Except SystemFault (Option Int)
  /-- Ends the child by force. -/
  kill : γ → γ × Except SystemFault Unit

/-- A handle on a child. -/
structure ProcessHandle where
  pid : Nat
  exitCode : Option Int := none
  released : Bool := false
  deriving DecidableEq, Repr

/-- How a shutdown came out. -/
inductive Shutdown
  /-- The child had ended on its own. -/
  | exited
  /-- The child was killed. -/
  | killed
  /-- The child had been let go before its end was seen. -/
  | released
  deriving DecidableEq, Repr

/-- The name of an outcome. -/
def Shutdown.name : Shutdown → String
  | exited => "Exited"
  | killed => "Killed"
  | released => "Released"

namespace ProcessHandle

variable {γ : Type} [ChildProcess γ]

/-! ## Single operations -/

/-- Looks whether the child has ended; the first time its code is recorded. -/
def poll (h : ProcessHandle) (child : γ) : ProcessHandle × γ × Option Int :=
  match h.exitCode with
  | some code => (h, child, some code)
  | none =>
    if h.released then (h, child, none)
    else
      match ChildProcess.tryWait child with
      | (child, .ok (some code)) => ({ h with exitCode := some code }, child, some code)
      | (child, .ok none) => (h, child, none)
      | (child, .error _) => (h, child, none)

/-- Kills the child unless it has ended. -/
def kill (h : ProcessHandle) (child : γ) : ProcessHandle × γ × Except SystemFault Unit :=
  match h.poll child with
  | (h, child, some _) => (h, child, .ok ())
  | (h, child, none) =>
    if h.released then (h, child, .ok ())
    else
      match ChildProcess.kill child with
      | (child, outcome) => (h, child, outcome)

/-- Lets go of the child. -/
def release (h : ProcessHandle) : ProcessHandle := { h with released := true }

/-! ## Waiting -/

/-- The longest pause between two polls. -/
def pollPause : Span := Span.ofMillis 20

/-- How long a killed child is waited for. -/
def reapTime : Span := Span.ofMillis 1000

/-- A wait for the exit. -/
inductive Wait
  | polling (deadline : Nat)
  | pausing (deadline wake : Nat)
  | done (code : Option Int)
  deriving DecidableEq, Repr

/-- One step of a wait.  It gives up once the child is let go or the time is over. -/
def waitStep (now : Nat) (w : Wait) (h : ProcessHandle) (child : γ) :
    Wait × ProcessHandle × γ :=
  match w with
  | .polling deadline =>
    match h.poll child with
    | (h, child, some code) => (.done (some code), h, child)
    | (h, child, none) =>
      if h.released || deadline ≤ now then (.done none, h, child)
      else (.pausing deadline (now + min pollPause (deadline - now)), h, child)
  | .pausing deadline wake =>
    if wake ≤ now then (.polling deadline, h, child) else (.pausing deadline wake, h, child)
  | .done code => (.done code, h, child)

/-- Until when a wait only pauses. -/
def Wait.waits : Wait → Option Nat
  | pausing _ wake => some wake
  | _ => none

/-! ## Shutdown -/

/-- A shutdown. -/
inductive Closing
  /-- The child is given time to end on its own. -/
  | waiting (w : Wait)
  /-- It will be killed unless it has ended by now. -/
  | forcing
  /-- It was killed, and its end is waited for. -/
  | reaping (w : Wait)
  | done (outcome : Shutdown)
  /-- The clock cannot show until when to wait, and the call has broken off. -/
  | broken
  deriving DecidableEq, Repr

/-- Begins a wait; the call breaks off if the clock cannot show when the wait will be over. -/
def beginWait (now : Nat) (timeout : Span) (goOn : Wait → Closing) : Closing :=
  match Span.deadline? now timeout with
  | some deadline => goOn (.polling deadline)
  | none => .broken

/-- A shutdown that gives the child `timeout` to end on its own. -/
def beginClose (now : Nat) (timeout : Span) : Closing := beginWait now timeout .waiting

/-- A shutdown that gives the child until `deadline` to end on its own. -/
def closeBy (deadline : Nat) : Closing := .waiting (.polling deadline)

/-- One step of a shutdown. -/
def closeStep (now : Nat) (c : Closing) (h : ProcessHandle) (child : γ) :
    Closing × ProcessHandle × γ :=
  match c with
  | .waiting (.done (some _)) => (.done .exited, h, child)
  | .waiting (.done none) => (.forcing, h, child)
  | .waiting w =>
    match waitStep now w h child with
    | (w, h, child) => (.waiting w, h, child)
  | .forcing =>
    match h.poll child with
    | (h, child, some _) => (.done .exited, h, child)
    | (h, child, none) =>
      if h.released then (.done .released, h, child)
      else
        match ChildProcess.kill child with
        | (child, _) => (beginWait now reapTime .reaping, h, child)
  | .reaping (.done _) => (.done .killed, h, child)
  | .reaping w =>
    match waitStep now w h child with
    | (w, h, child) => (.reaping w, h, child)
  | .done outcome => (.done outcome, h, child)
  | .broken => (.broken, h, child)

/-- Whether a shutdown takes no more steps. -/
def Closing.isOver : Closing → Bool
  | done _ | broken => true
  | _ => false

/-- The outcome of a shutdown that is over; one that has broken off has none. -/
def Closing.outcome? : Closing → Option Shutdown
  | done outcome => some outcome
  | _ => none

/-- Until when a shutdown only pauses. -/
def Closing.waits : Closing → Option Nat
  | waiting w | reaping w => w.waits
  | _ => none

/-! ## Watching -/

/-- A watcher of the exit. -/
inductive Watcher
  | looking
  | pausing (wake : Nat)
  | done
  deriving DecidableEq, Repr

/-- One step of a watcher that looks every `interval`. -/
def watchStep (interval : Span) (now : Nat) (stop : Bool) (w : Watcher) (h : ProcessHandle)
    (child : γ) : Watcher × ProcessHandle × γ :=
  match w with
  | .looking =>
    if stop then (.done, h, child)
    else
      match h.poll child with
      | (h, child, some _) => (.done, h, child)
      | (h, child, none) => (.pausing (now + interval), h, child)
  | .pausing wake => if wake ≤ now then (.looking, h, child) else (.pausing wake, h, child)
  | .done => (.done, h, child)

/-- Until when a watcher only pauses. -/
def Watcher.waits : Watcher → Option Nat
  | pausing wake => some wake
  | _ => none

/-! ## Running undisturbed -/

/-- The rounds that a wait of a length takes: two for each pause, and a few more. -/
def rounds (timeout : Span) : Nat := 2 * (timeout / pollPause + 2)

/-- Runs a wait to its end; each pause takes exactly as long as was asked. -/
def runWait : Nat → Nat → Wait → ProcessHandle → γ → Option Int × ProcessHandle × γ
  | 0, _, _, h, child => (none, h, child)
  | _ + 1, _, .done code, h, child => (code, h, child)
  | fuel + 1, now, w, h, child =>
    match waitStep now w h child with
    | (w, h, child) => runWait fuel (w.waits.getD now) w h child

/-- Waits for the exit; the call comes to nothing if it breaks off. -/
def waitForExit (timeout : Span) (h : ProcessHandle) (child : γ) :
    Option (Option Int) × ProcessHandle × γ :=
  match Span.deadline? 0 timeout with
  | some deadline =>
    match runWait (rounds timeout + 1) 0 (.polling deadline) h child with
    | (code, h, child) => (some code, h, child)
  | none => (none, h, child)

/-- Runs a shutdown to its end; each pause takes exactly as long as was asked. -/
def runClose : Nat → Nat → Closing → ProcessHandle → γ → Option Shutdown × ProcessHandle × γ
  | 0, _, c, h, child => (c.outcome?, h, child)
  | fuel + 1, now, c, h, child =>
    if c.isOver then (c.outcome?, h, child)
    else
      match closeStep now c h child with
      | (c, h, child) => runClose fuel (c.waits.getD now) c h child

/-- Gives the child `timeout` to end, then kills it. -/
def close (timeout : Span) (h : ProcessHandle) (child : γ) :
    Option Shutdown × ProcessHandle × γ :=
  runClose (rounds timeout + rounds reapTime + 4) 0 (beginClose 0 timeout) h child

/-- Kills the child unless it has ended. -/
def forceClose (h : ProcessHandle) (child : γ) : Option Shutdown × ProcessHandle × γ :=
  runClose (rounds reapTime + 4) 0 .forcing h child

/-- Runs a watcher for at most a number of rounds. -/
def runWatcher (stop : Bool) : Nat → Watcher → ProcessHandle → γ → ProcessHandle × γ
  | 0, _, h, child => (h, child)
  | _ + 1, .done, h, child => (h, child)
  | fuel + 1, w, h, child =>
    match watchStep pollPause (w.waits.getD 0) stop w h child with
    | (w, h, child) => runWatcher stop fuel w h child

end ProcessHandle

end ConsoleLink
