import ConsoleLink.Channel
import ConsoleLink.Launch
import ConsoleLink.Process.Handle
import ConsoleLink.SampleConsole.Run

/-!
# Children

A child acts on the system's objects in small steps until it ends or is killed.

* `Program` is what a child is to its surroundings.
* `Child` lists the kinds of children: one that only ends at some time, the sample
  console, and one that posts messages as bytes.
* `Child.console` and `Child.messenger` are the latter two before they have found
  their channel.  They look for it under the default prefixes and the default switch,
  whatever their controller is configured to use.
-/

namespace ConsoleLink

/-- A child that acts on the system's objects. -/
class Program (γ : Type) extends ChildProcess γ where
  step : Nat → γ → System → γ × System
  /-- Until when it only waits, if it does. -/
  waits : γ → System → Option Nat
  /-- Whether it takes no more steps. -/
  isDone : γ → Bool

/-- A child. -/
inductive Child
  /-- It ends at a time. -/
  | sleeping (wake code : Nat)
  /-- It never ends. -/
  | hanging
  /-- The sample console, before it has found its channel. -/
  | console (arguments : List String)
  | talking (channel : Channel) (run : SampleRun)
  /-- A child with messages to post, before it has found its channel. -/
  | messenger (arguments : List String) (messages : List Message)
  | posting (channel : Channel) (messages : List Message)
  /-- It waits for the answer to a message, at most until a time. -/
  | listening (channel : Channel) (messages : List Message) (wake : Nat)
  | ended (code : Nat)

namespace Child

/-- The exit code of a child that failed. -/
def failure : Nat := 1

/-- The exit code of a child that was killed. -/
def killedCode : Nat := 137

/-- How long a child with messages waits for an answer. -/
def patience : Span := Span.ofMillis 2000

/-- The channel that a child finds from its arguments. -/
def findChannel (s : System) (arguments : List String) : Option Channel := do
  let name ← instanceOf ({} : Config).instanceSwitch arguments
  (Channel.attach s {} {} name).toOption

/-- One step of a child. -/
def step (now : Nat) (c : Child) (s : System) : Child × System :=
  match c with
  | .sleeping wake code => (if wake ≤ now then .ended code else c, s)
  | .console arguments =>
    match findChannel s arguments with
    | some channel => (.talking channel .start, s)
    | none => (.ended failure, s)
  | .talking channel run =>
    match run.exitCode? with
    | some code => (.ended code, s)
    | none =>
      match run.step now (channel.shared s) with
      | (run, shared) => (.talking channel run, channel.setShared s shared)
  | .messenger arguments messages =>
    match findChannel s arguments with
    | some channel => (.posting channel messages, s)
    | none => (.ended failure, s)
  | .posting _ [] => (.ended 0, s)
  | .posting channel (message :: rest) =>
    let s := s.modifyRegion channel.memory.id (·.putMessage message)
    (.listening channel rest (now + patience), (s.setSignal channel.request).1)
  | .listening channel rest wake =>
    match Signal.take true (s.count channel.response.id) with
    | .one left => (.posting channel rest, s.setCount channel.response.id left)
    | _ => (if wake ≤ now then .ended 0 else c, s)
  | .hanging | .ended _ => (c, s)

/-- Until when a child only waits. -/
def waits (c : Child) (s : System) : Option Nat :=
  match c with
  | .sleeping wake _ => some wake
  | .talking channel run => run.waits (channel.shared s)
  | .listening channel _ wake => if 0 < s.count channel.response.id then none else some wake
  | _ => none

/-- Whether a child does nothing any more. -/
def isDone : Child → Bool
  | .hanging | .ended _ => true
  | _ => false

/-- The exit code of a child that has ended. -/
def exitCode? : Child → Option Nat
  | .ended code => some code
  | _ => none

/-- A child after it was killed. -/
def killed : Child → Child
  | .ended code => .ended code
  | _ => .ended killedCode

instance : Program Child where
  tryWait c := (c, .ok (c.exitCode?.map Int.ofNat))
  kill c := (c.killed, .ok ())
  step := step
  waits := waits
  isDone := isDone

end Child

/-- A child that somebody else may not kill. -/
structure Protected (γ : Type) where
  child : γ

instance {γ : Type} [ChildProcess γ] : ChildProcess (Protected γ) where
  tryWait p :=
    match ChildProcess.tryWait p.child with
    | (child, outcome) => (⟨child⟩, outcome)
  kill p := (p, .error .notPermitted)

end ConsoleLink
