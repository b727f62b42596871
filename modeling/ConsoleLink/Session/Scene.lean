import ConsoleLink.Process.Child
import ConsoleLink.Session
import ConsoleLink.Turns

/-!
# A session in its surroundings

Beside whoever calls it, three parties act in the scene of a session: the child, the
serving loop and the watcher of the exit.

* `Scene` is the session, the system's objects, the child and the time.
* `Scene.serve`, `Scene.watch` and `Scene.runChild` are one step of a party each.
* `Scene.run` lets them act until a goal is reached, `Scene.runWith` lets somebody
  else take part.
-/

namespace ConsoleLink

/-- A session in its surroundings. -/
structure Scene (γ : Type) where
  session : Session
  system : System := {}
  child : Option γ := none
  /-- The time, in nanoseconds.  It is not so late that the clock could not show when a timeout of
  a configuration is over. -/
  now : Nat := 0

namespace Scene

variable {γ : Type} [Program γ]

/-! ## The child's handle -/

/-- Uses the handle on the child, if the session has started one. -/
def withProcess {α : Type} (c : Scene γ) (f : ProcessHandle → γ → ProcessHandle × γ × α) :
    Scene γ × Option α :=
  match c.session.process, c.child with
  | some handle, some child =>
    match f handle child with
    | (handle, child, a) =>
      ({ c with session := { c.session with process := some handle }, child := some child }, some a)
  | _, _ => (c, none)

/-- Looks whether the child has ended. -/
def hasExited (c : Scene γ) : Scene γ × Bool :=
  match c.withProcess ProcessHandle.poll with
  | (c, code) => (c, code.join.isSome)

/-- The exit code that was recorded. -/
def exitCode? (c : Scene γ) : Option Int := c.session.process.bind (·.exitCode)

/-- Whether the serving loop should stop: it was told so, or the child has ended. -/
def shouldStop (c : Scene γ) : Scene γ × Bool :=
  if c.session.stopped then (c, true) else c.hasExited

/-! ## Steps -/

/-- One step of the child. -/
def runChild (now : Nat) (c : Scene γ) : Scene γ :=
  match c.child with
  | none => c
  | some child =>
    match Program.step now child c.system with
    | (child, system) => { c with child := some child, system := system }

/-- One step of the serving loop. -/
def serve (now : Nat) (c : Scene γ) : Scene γ :=
  match c.session.loop?, c.session.channel with
  | some loop, some channel =>
    match (if loop.asks Desk.handler then c.shouldStop else (c, false)) with
    | (c, stop) =>
      match loop.step Desk.handler { now, stop } (channel.shared c.system) with
      | (loop, shared) =>
        { c with session := c.session.withLoop loop, system := channel.setShared c.system shared }
  | _, _ => c

/-- One step of the watcher. -/
def watch (now : Nat) (c : Scene γ) : Scene γ :=
  match c.session.watcher with
  | none => c
  | some watcher =>
    match c.withProcess fun handle child =>
        match ProcessHandle.watchStep c.session.config.pollInterval now c.session.stopped watcher
          handle child with
        | (watcher, handle, child) => (handle, child, watcher) with
    | (c, none) => c
    | (c, some watcher) => { c with session := { c.session with watcher := some watcher } }

/-! ## Parties -/

/-- The child as a party. -/
def childParty : Party (Scene γ) where
  act := runChild
  waits c := c.child.bind fun child => Program.waits child c.system
  isDone c := c.child.all Program.isDone

/-- The serving loop as a party. -/
def loopParty : Party (Scene γ) where
  act := serve
  waits c := do
    let loop ← c.session.loop?
    let channel ← c.session.channel
    loop.waits Desk.handler (channel.shared c.system)
  isDone c := c.session.channel.isNone || c.session.loop?.all ServingLoop.isOver

/-- The watcher as a party. -/
def watcherParty : Party (Scene γ) where
  act := watch
  waits c := c.session.watcher.bind ProcessHandle.Watcher.waits
  isDone c := c.session.watcher.all fun w => decide (w = .done)

/-- Those who act in a scene by themselves. -/
def parties : List (Party (Scene γ)) := [childParty, loopParty, watcherParty]

/-! ## Running -/

/-- Lets the parties act until a goal is reached. -/
def run (goal : Scene γ → Bool) (c : Scene γ) : Scene γ :=
  match Turns.run parties goal Turns.plenty c.now c with
  | (now, c) => { c with now := now }

/-- Lets somebody else act beside the parties until they are done. -/
def runWith {α : Type} (somebody : Party (Scene γ × α)) (c : Scene γ) (a : α) : Scene γ × α :=
  let others := parties.map (Party.within (fun w : Scene γ × α => w.1) fun c w => (c, w.2))
  match Turns.run (somebody :: others) somebody.isDone Turns.plenty c.now (c, a) with
  | (now, c, a) => ({ c with now := now }, a)

end Scene

end ConsoleLink
