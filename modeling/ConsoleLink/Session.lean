import ConsoleLink.Channel
import ConsoleLink.Desk
import ConsoleLink.Process.Group
import ConsoleLink.ServingLoop

/-!
# Sessions

A session is the controller's side of one conversation with one child: its
settings, its desk, and what it holds once it was started.

* `Session.of` is a session that has not been started.
* `Session.loop?` and `Session.withLoop` take the serving loop out of a session and
  put it back; the loop works with the session's desk, and a fault that ends it is
  kept.
* `Session.enqueue` accepts a command, `Session.takeFault` gives the fault away.
-/

namespace ConsoleLink

/-- A controller of one child. -/
structure Session where
  config : Config
  desk : Desk
  /-- Whether its loop and its watcher should stop. -/
  stopped : Bool := false
  started : Bool := false
  disposed : Bool := false
  instanceName : Option String := none
  channel : Option Channel := none
  group : Option ProcessGroup := none
  process : Option ProcessHandle := none
  /-- Where its serving loop is. -/
  serving : Option (ServingLoop.Phase Desk.Task) := none
  /-- Whether its serving loop is able to wait for a signal. -/
  mayWait : Bool := true
  watcher : Option ProcessHandle.Watcher := none
  /-- What ended its serving loop, until somebody asks. -/
  fault : Option LinkFault := none

namespace Session

/-- A session that has not been started. -/
def of (config : Config) (receivers : Receivers Unit) : Session where
  config := config
  desk :=
    { receivers := receivers
      wantsProgress := config.wantsProgress
      pollInterval := config.pollInterval }

/-! ## The serving loop -/

/-- The serving loop, if there is one. -/
def loop? (s : Session) : Option (ServingLoop Desk Desk.Task) :=
  s.serving.map fun phase =>
    { state := s.desk, phase := phase, pollInterval := s.config.pollInterval, mayWait := s.mayWait }

/-- The fault with which a loop ends when it goes from one phase to another. -/
def endingFault (before after : ServingLoop.Phase Desk.Task) : Option LinkFault :=
  match before, after with
  | .closing _, .ended (.error fault) => some fault
  | _, _ => none

/-- The session after a step of its loop. -/
def withLoop (s : Session) (l : ServingLoop Desk Desk.Task) : Session :=
  { s with
    desk := l.state
    serving := some l.phase
    fault := (s.serving.bind (endingFault · l.phase)).or s.fault }

/-- Whether neither the loop nor the watcher takes any more steps. -/
def isQuiet (s : Session) : Bool :=
  (s.loop?.all ServingLoop.isOver) && (s.watcher.all fun w => decide (w = .done))

/-! ## Commands and faults -/

/-- Accepts a command for the child's next prompt, or refuses it; also what came of it. -/
def enqueue (s : Session) (text : String) : Session × Except LinkFault Unit :=
  match s.desk.enqueue text with
  | (desk, outcome) => ({ s with desk := desk }, outcome)

/-- What ended the serving loop; it is given away once. -/
def takeFault (s : Session) : Session × Option LinkFault := ({ s with fault := none }, s.fault)

end Session

end ConsoleLink
