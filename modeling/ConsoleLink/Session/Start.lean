import ConsoleLink.Channel.Negotiation
import ConsoleLink.Identity
import ConsoleLink.Session.Scene

/-!
# Starting a session

A session is started at most once, whatever comes of it.  The account is resolved, a
channel is made, the child is started and with it the watcher and the serving loop;
the first of these that fails is the outcome, and what was made before it stays until
the session is disposed of.

* `Surroundings` is what a start needs of the world.
* `Scene.spawn` goes as far as the child, `Scene.start` is the whole start.
-/

namespace ConsoleLink

/-- What starting a session needs of the world. -/
structure Surroundings (γ : Type) where
  /-- The conditions under which the start is made. -/
  caller : Caller := {}
  access : Access
  /-- What all instance names begin with. -/
  stem : String
  /-- The salts, in the order in which they are drawn. -/
  salt : Nat → Nat
  /-- Starts a child. -/
  spawn : Launch → Except SystemFault γ
  /-- The number of the child. -/
  pid : Nat := 1

namespace Surroundings

variable {γ : Type}

/-- The account that the child runs as, if one is configured. -/
def identity? (w : Surroundings γ) (config : Config) : Except LinkFault (Option Identity) :=
  match config.runAs with
  | none => .ok none
  | some runAs => (w.access.resolve runAs.user).map some

/-- Who makes the channel; `grant` tells whether the child runs as another account. -/
def negotiator (w : Surroundings γ) (config : Config) (grant : Bool) : Negotiator where
  prefixes := config.prefixes
  maxAttempts := config.nameAttempts
  grant := grant
  stem := w.stem
  salt := w.salt

/-- Lets the account use the controller's windows. -/
def grant (w : Surroundings γ) : Option Identity → Except LinkFault Unit
  | none => .ok ()
  | some identity => w.access.grantAll identity

/-- Starts a child, unless it can never be started. -/
def launch (w : Surroundings γ) (l : Launch) : Except LinkFault γ :=
  match l.fault? with
  | some fault => .error (.cannotStart l.executable fault.message)
  | none => (w.spawn l).mapError fun fault => .cannotStart l.executable fault.message

end Surroundings

/-- How a child is started under an instance name; one that runs as another account finds
itself in that account's environment. -/
def Session.launchOf (s : Session) (identity : Option Identity) (executable : String)
    (arguments : List String) (name : String) : Launch :=
  { Launch.of executable arguments s.config name with
    environment := (identity.map Identity.environment).getD [] }

namespace Scene

variable {γ : Type}

/-- Makes a channel, which the session then holds. -/
def makeChannel (w : Surroundings γ) (grant : Bool) (c : Scene γ) :
    Scene γ × Except LinkFault Channel :=
  match (w.negotiator c.session.config grant).negotiate c.system w.caller with
  | (.error fault, _, system) => ({ c with system := system }, .error fault)
  | (.ok channel, _, system) =>
    ({ c with
        system := system
        session :=
          { c.session with
            instanceName := some channel.names.instanceName
            channel := some channel } },
      .ok channel)

/-- Makes the group of the child, if one is configured. -/
def makeGroup (names : ChannelNames) (c : Scene γ) : Scene γ :=
  if c.session.config.guardWithJob then
    { c with session := { c.session with group := some { name := names.job } } }
  else c

/-- Takes a child in. -/
def takeIn (pid : Nat) (child : γ) (c : Scene γ) : Scene γ :=
  { c with
    child := some child
    session :=
      { c.session with
        process := some { pid := pid }
        group := c.session.group.map (·.assign pid) } }

/-- Starts the watcher and the serving loop. -/
def startThreads (caller : Caller) (c : Scene γ) : Scene γ × Except LinkFault Unit :=
  if caller.hasThreads then
    ({ c with
        session :=
          { c.session with
            watcher := some .looking
            serving := some .asking
            mayWait := caller.mayWait } },
      .ok ())
  else (c, .error (.system .tryAgain))

/-- Makes a channel and starts a child that finds it. -/
def spawnFirst (w : Surroundings γ) (executable : String) (arguments : List String)
    (c : Scene γ) : Scene γ × Except LinkFault γ :=
  match w.identity? c.session.config with
  | .error fault => (c, .error fault)
  | .ok identity =>
    match c.makeChannel w identity.isSome with
    | (c, .error fault) => (c, .error fault)
    | (c, .ok channel) =>
      let c := c.makeGroup channel.names
      match w.grant identity with
      | .error fault => (c, .error fault)
      | .ok () =>
        (c, w.launch (c.session.launchOf identity executable arguments
          channel.names.instanceName))

/-- Starts a child, unless this was tried before or the session is disposed of. -/
def spawn (w : Surroundings γ) (executable : String) (arguments : List String) (c : Scene γ) :
    Scene γ × Except LinkFault γ :=
  if c.session.disposed then (c, .error .notStarted)
  else if c.session.started then (c, .error .alreadyStarted)
  else spawnFirst w executable arguments { c with session := { c.session with started := true } }

/-- Starts the session with a child. -/
def start (w : Surroundings γ) (executable : String) (arguments : List String) (c : Scene γ) :
    Scene γ × Except LinkFault Unit :=
  match c.spawn w executable arguments with
  | (c, .error fault) => (c, .error fault)
  | (c, .ok child) => (c.takeIn w.pid child).startThreads w.caller

end Scene

end ConsoleLink
