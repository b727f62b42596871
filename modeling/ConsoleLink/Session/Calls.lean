import ConsoleLink.Session.Scene

/-!
# What can be asked of a session

* `Scene.abort` stops the serving loop and kills the child at once.
* `Scene.close` gives the child time to end, then kills it.
* `Scene.dispose` stops everything and lets go of everything; it may be called again.
* `Scene.awaitExit` and `Scene.awaitFault` wait for the end of the child or the loop.
* `Scene.attach`, `Scene.exchange` and `Scene.post` are what somebody else does on
  the child's side of the channel; `Scene.converse` does it on any channel.
-/

namespace ConsoleLink

namespace Scene

variable {γ : Type} [Program γ]

/-! ## Ending -/

/-- Sets the cancel signal of the channel, if there is a channel. -/
def signalCancel (c : Scene γ) : Scene γ :=
  match c.session.channel with
  | none => c
  | some channel => { c with system := (c.system.setSignal channel.cancel).1 }

/-- Kills a child through its handle, as far as the account may. -/
def killAs (account : Account) (handle : ProcessHandle) (child : γ) :
    ProcessHandle × γ × Except SystemFault Unit :=
  if account.owns .root then handle.kill child
  else
    match handle.kill (Protected.mk child) with
    | (handle, p, outcome) => (handle, p.child, outcome)

/-- Stops the serving loop and kills the child at once. -/
def abort (account : Account) (c : Scene γ) : Scene γ :=
  let c := { c with session := { c.session with stopped := true } }
  (c.signalCancel.withProcess (killAs account)).1

/-- A shutdown as a party. -/
def closingParty : Party (Scene γ × ProcessHandle.Closing) where
  act now w :=
    match w.1.withProcess fun handle child =>
        match ProcessHandle.closeStep now w.2 handle child with
        | (closing, handle, child) => (handle, child, closing) with
    | (c, some closing) => (c, closing)
    | (c, none) => (c, w.2)
  waits w := w.2.waits
  isDone w := w.2.isOver

/-- Gives the child time to end, then kills it; nothing without a child.  The time is that of a
configuration, and so the clock shows when it is over. -/
def close (c : Scene γ) : Scene γ × Option Shutdown :=
  match c.session.process with
  | none => (c, none)
  | some _ =>
    match c.runWith closingParty
        (ProcessHandle.closeBy (c.now + c.session.config.shutdownTimeout)) with
    | (c, .done outcome) => (c, some outcome)
    | (c, _) => (c, none)

/-! ## Disposing -/

/-- Lets go of the channel; its names are free again. -/
def closeChannel (c : Scene γ) : Scene γ :=
  match c.session.channel with
  | none => c
  | some channel =>
    { c with
      system := channel.close c.system {} c.session.config.verifyHandlesClosed
      session := { c.session with channel := none } }

/-- Lets go of the group, and so kills a child that is in it. -/
def releaseGroup (c : Scene γ) : Scene γ :=
  match c.session.group, c.session.process, c.child with
  | some group, some handle, some child =>
    { c with
      child := some (group.release handle.pid child)
      session := { c.session with group := none } }
  | _, _, _ => { c with session := { c.session with group := none } }

/-- Lets go of the child, the channel and the group. -/
def releaseAll (c : Scene γ) : Scene γ :=
  let released := c.session.process.map ProcessHandle.release
  ({ c with session := { c.session with process := released } } : Scene γ).closeChannel.releaseGroup

/-- Stops everything, waits for the loop and the watcher, and lets go of everything. -/
def dispose (c : Scene γ) : Scene γ :=
  if c.session.disposed then c
  else
    let stopping := { c.session with disposed := true, stopped := true }
    (run (fun c => c.session.isQuiet) { c with session := stopping }).releaseAll

/-! ## Waiting -/

/-- How long somebody waits for the end of a child or a loop before giving up. -/
def patience : Span := Span.ofMillis 60000

/-- A wait for the exit as a party. -/
def waitParty : Party (Scene γ × ProcessHandle.Wait) where
  act now w :=
    match w.1.withProcess fun handle child =>
        match ProcessHandle.waitStep now w.2 handle child with
        | (wait, handle, child) => (handle, child, wait) with
    | (c, some wait) => (c, wait)
    | (c, none) => (c, .done none)
  waits w := w.2.waits
  isDone w :=
    match w.2 with
    | .done _ => true
    | _ => false

/-- Waits until the child has ended. -/
def awaitExit (c : Scene γ) : Scene γ × Bool :=
  match c.runWith waitParty (.polling (c.now + patience)) with
  | (c, _) => c.hasExited

/-- Somebody who looks again and again until a fault has ended the serving loop, or it
is too late.  The time of the next look is kept, and none once they are done. -/
def faultParty (deadline : Nat) : Party (Scene γ × Option Nat) where
  act now w :=
    (w.1, if w.1.session.fault.isSome || deadline ≤ now then none
      else some (now + ProcessHandle.pollPause))
  waits w := w.2
  isDone w := w.2.isNone

/-- Waits until a fault has ended the serving loop. -/
def awaitFault (c : Scene γ) : Scene γ :=
  (c.runWith (faultParty (c.now + patience)) (some c.now)).1

/-! ## On the child's side -/

/-- Opens the channel of the session; without one, the channel of a name that does not
exist. -/
def attach (c : Scene γ) : Except LinkFault Channel :=
  Channel.attach c.system {} c.session.config.prefixes (c.session.instanceName.getD "none")

/-- A client as a party. -/
def clientParty (channel : Channel) : Party (Scene γ × Client) where
  act now w :=
    match w.2.step now (channel.shared w.1.system) with
    | (client, shared) =>
      ({ w.1 with system := channel.setShared w.1.system shared }, client)
  waits w := w.2.waits (channel.shared w.1.system)
  isDone w := w.2.outcome?.isSome

/-- Lets a client send its event over a channel and wait for the reply. -/
def converse (c : Scene γ) (channel : Channel) (client : Client) :
    Scene γ × Except LinkFault Reply :=
  match c.runWith (clientParty channel) client with
  | (c, client) => (c, client.outcome?.getD (.error .notStarted))

/-- Sends an event over the session's channel and waits for the reply. -/
def exchange (c : Scene γ) (client : Client) : Scene γ × Except LinkFault Reply :=
  match c.attach with
  | .error fault => (c, .error fault)
  | .ok channel => c.converse channel client

/-- Puts bytes into the channel's memory and signals a request. -/
def post (c : Scene γ) (m : Message) : Except LinkFault (Scene γ) :=
  c.attach.map fun channel =>
    let system := c.system.modifyRegion channel.memory.id (·.putMessage m)
    { c with system := (system.setSignal channel.request).1 }

end Scene

end ConsoleLink
