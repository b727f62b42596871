import ConsoleLink.CommandQueue
import ConsoleLink.Handler
import ConsoleLink.Output
import ConsoleLink.Receivers

/-!
# The desk: how a session answers events

* Prints are put together into lines and delivered.
* An input is answered with the oldest command, which is shown like output; while
  there is none the desk waits, and if it should stop the input is turned down.
* A choice is answered with its break value, unless it expires: then the desk waits
  for the end of its time.  Nobody is there to be asked.
* Titles are acknowledged, an opening is answered with pipes, and progress is
  passed on.

`Desk.enqueue` accepts a command, and `Desk.handler` is the handler that does all this.
-/

namespace ConsoleLink

/-- What answering events needs. -/
structure Desk where
  queue : CommandQueue := {}
  receivers : Receivers Unit := {}
  output : Output := {}
  wantsProgress : Bool := false
  pollInterval : Span := Span.ofMillis 100
  /-- Everything delivered so far. -/
  delivered : List (Delivery Unit) := []

namespace Desk

/-- Work on an event that has not been answered. -/
inductive Task
  | fresh (event : Event)
  /-- An input: look for a command. -/
  | take
  /-- An input without a command: should the desk stop? -/
  | ask
  /-- An input without a command: wait for one, at most until a time. -/
  | await (wake : Nat)
  /-- A choice that expires at `deadline`: look at the clock. -/
  | clock (prompt : Prompt) (deadline : Nat)
  /-- A choice, the clock having shown `seen`: should the desk stop? -/
  | askChoice (prompt : Prompt) (deadline seen : Nat)
  /-- A choice: sleep until a time. -/
  | sleep (prompt : Prompt) (deadline wake : Nat)

/-- Accepts a command for the child's next prompt, or refuses it; also what came of it. -/
def enqueue (d : Desk) (text : String) : Desk × Except LinkFault Unit :=
  match d.queue.enqueue text with
  | (queue, outcome) => ({ d with queue := queue }, outcome)

/-- Delivers lines; also tells whether the receiver broke down. -/
def deliver (d : Desk) (lines : List (List Char)) : Desk × Bool :=
  match d.receivers.emitLines (lines.map String.ofList) with
  | (deliveries, broken) => ({ d with delivered := d.delivered ++ deliveries }, broken)

/-- Shows a fragment of output; also tells whether the receiver broke down. -/
def showText (d : Desk) (message : String) (fromBeginning : Bool) : Desk × Bool :=
  match d.output.feed message.toList fromBeginning with
  | (lines, output) => { d with output := output }.deliver lines

/-- A reply, unless the receiver broke down on the way. -/
def replyUnless (broken : Bool) (reply : Reply) : Move Task :=
  if broken then .broken else .reply reply

/-- The first step on an event.  The timeout of a prompt that was read from an envelope is a
number of milliseconds of 32 bits, so the clock shows when it is over. -/
def receive (now : Nat) (event : Event) (d : Desk) : Desk × Move Task :=
  match event with
  | .print message fromBeginning =>
    match d.showText message fromBeginning with
    | (d, broken) => (d, replyUnless broken .ack)
  | .input .. => (d, .go .take)
  | .choice prompt =>
    if prompt.expires then (d, .go (.clock prompt (now + prompt.timeout)))
    else (d, .reply (.choice prompt.breakValue))
  | .title _ => (d, .reply .ack)
  | .init => (d, .reply (.init .pipe .pipe d.wantsProgress))
  | .progress report =>
    ({ d with delivered := d.delivered ++ d.receivers.emitProgress (.ofReport report) },
      .reply .ack)

/-- Takes the oldest command, shows it with a line feed and answers with it. -/
def takeCommand (d : Desk) : Desk × Move Task :=
  match d.queue.dequeue? with
  | none => (d, .go .ask)
  | some (command, queue) =>
    match { d with queue := queue }.showText (command ++ "\n") false with
    | (d, broken) => (d, replyUnless broken (.input true command))

/-- One step of a task. -/
def advance (m : Moment) (task : Task) (d : Desk) : Desk × Move Task :=
  match task with
  | .fresh event => receive m.now event d
  | .take => takeCommand d
  | .ask =>
    if m.stop then (d, .reply (.input false "")) else (d, .go (.await (m.now + d.pollInterval)))
  | .await limit =>
    if !d.queue.isEmpty || limit ≤ m.now then (d, .go .take) else (d, .go (.await limit))
  | .clock prompt deadline =>
    if deadline ≤ m.now then (d, .reply (.choice prompt.expiredValue))
    else (d, .go (.askChoice prompt deadline m.now))
  | .askChoice prompt deadline seen =>
    if m.stop then (d, .reply (.choice prompt.breakValue))
    else (d, .go (.sleep prompt deadline (m.now + min d.pollInterval (deadline - seen))))
  | .sleep prompt deadline limit =>
    if limit ≤ m.now then (d, .go (.clock prompt deadline))
    else (d, .go (.sleep prompt deadline limit))

/-- Delivers what is still held back; also tells whether the receiver broke down. -/
def flush (d : Desk) : Desk × Bool :=
  match d.output.finish with
  | (lines, output) => { d with output := output }.deliver lines

/-- Whether the next step of a task consults the stop condition. -/
def asks : Task → Bool
  | .ask | .askChoice .. => true
  | _ => false

/-- Until when a task only waits. -/
def waits (task : Task) (d : Desk) : Option Nat :=
  match task with
  | .await limit => if d.queue.isEmpty then some limit else none
  | .sleep _ _ limit => some limit
  | _ => none

/-- The handler of a session. -/
def handler : Handler Desk Task where
  begin := .fresh
  advance := advance
  finish := flush
  asks := asks
  waits := waits

end Desk

end ConsoleLink
