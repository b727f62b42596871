import ConsoleLink.Event
import ConsoleLink.Text.Blank
import ConsoleLink.Text.Quoted

/-!
# The sample console

A small child that speaks the whole protocol.  It greets, and then prompts for
commands: `echo`, `progress`, `choice`, `title` and `exit`.

* `Action` is what the console does next, `Heard` what it learns in return.
* `SampleConsole.start` is its first action, `SampleConsole.next` every other one.
* `percent?` is the share of a progress step; the product has to fit 32 bits.
-/

namespace ConsoleLink

/-- A reply as a message shows it. -/
def Reply.describe : Reply → String
  | .ack => "Ack"
  | .input accepted answer =>
    s!"Input \x7b accepted: {accepted}, answer: {Text.quoted answer} \x7d"
  | .choice result => s!"Choice \x7b result: {result.toInt} \x7d"
  | .init source target wanted =>
    s!"Init \x7b input: {source.name}, output: {target.name}, wants_progress: {wanted} \x7d"

namespace SampleConsole

/-- What the console does. -/
inductive Action
  /-- It sends an event and waits for the reply. -/
  | send (event : Event)
  /-- It asks whether it was cancelled. -/
  | askCancel
  /-- It ends with a code. -/
  | exit (code : Nat)
  /-- It breaks down over a product that does not fit 32 bits. -/
  | overflow
  deriving DecidableEq, Repr

/-- What the console learns. -/
inductive Heard
  | reply (reply : Reply)
  | cancelled (cancelled : Bool)
  deriving DecidableEq, Repr

/-- What the console is waiting for. -/
inductive Stage
  | opening
  | greeting
  | looking
  | prompting
  | reading
  /-- A progress event was sent. -/
  | reporting (step steps : Nat)
  /-- The bar was drawn again. -/
  | drawing (step steps : Nat)
  | choosing
  /-- The last print of a command was sent. -/
  | printing
  | leaving
  | over
  deriving DecidableEq, Repr

end SampleConsole

/-- The sample console. -/
structure SampleConsole where
  stage : SampleConsole.Stage := .opening
  wantsProgress : Bool := false
  deriving DecidableEq, Repr

namespace SampleConsole

/-- The prompt. -/
def promptText : String := "sample> "

/-- The first action. -/
def start : Action := .send .init

/-- The console in another stage, with the action that leads there. -/
def enter (c : SampleConsole) (stage : Stage) (action : Action) : SampleConsole × Action :=
  ({ c with stage := stage }, action)

/-- Prints a text. -/
def print (text : String) : Action := .send (.print text false)

/-- Ends the console. -/
def leave (c : SampleConsole) (code : Nat) : SampleConsole × Action := c.enter .over (.exit code)

/-! ## Progress -/

/-- The share of a step in percent, if the product fits 32 bits. -/
def percent? (step steps : Nat) : Option Nat :=
  if step * 100 < 4294967296 then some (step * 100 / steps) else none

/-- The report of a share. -/
def report (percent : Nat) : Report where
  operation := .transfer
  side := .localSide
  fileName := "sample.bin"
  directory := "/"
  overallPercent := percent.toUInt32
  filePercent := percent.toUInt32
  bytesPerSecond := 1024

/-- A number with blanks in front until it has three places. -/
def threePlaces (n : Nat) : String :=
  let digits := Nat.toDigits 10 n
  String.ofList (List.replicate (3 - digits.length) ' ' ++ digits)

/-- The bar of a share. -/
def bar (percent : Nat) : String := s!"sample.bin {threePlaces percent}%"

/-- Draws the bar of a step again. -/
def draw (c : SampleConsole) (step steps : Nat) : SampleConsole × Action :=
  match percent? step steps with
  | none => c.enter .over .overflow
  | some percent => c.enter (.drawing step steps) (.send (.print (bar percent) true))

/-- Begins a step. -/
def beginStep (c : SampleConsole) (step steps : Nat) : SampleConsole × Action :=
  if c.wantsProgress then
    match percent? step steps with
    | none => c.enter .over .overflow
    | some percent => c.enter (.reporting step steps) (.send (.progress (report percent)))
  else c.draw step steps

/-! ## Commands -/

/-- The prompt of a choice; it expires unless `millis` is zero. -/
def choicePrompt (millis : Nat) : Prompt where
  expires := 0 < millis
  timeout := Span.ofMillis millis
  breakValue := -1
  expiredValue := 1

/-- Obeys a command. -/
def obey (c : SampleConsole) (command : String) : SampleConsole × Action :=
  let (verb, rest) := Text.splitAtSpace command
  if verb = "echo" then c.enter .printing (print (rest ++ "\n"))
  else if verb = "progress" then
    c.beginStep 0 (max ((Text.natOf? 4294967296 (Text.trim rest)).getD 4) 1)
  else if verb = "choice" then
    c.enter .choosing
      (.send (.choice (choicePrompt ((Text.natOf? 18446744073709551616 (Text.trim rest)).getD 0))))
  else if verb = "title" then c.enter .printing (.send (.title rest))
  else if verb = "exit" then c.enter .leaving (print "Bye\n")
  else if verb = "" then c.enter .looking .askCancel
  else c.enter .printing (print s!"Unknown command: {verb}\n")

/-- The next action, once something was learned. -/
def next (c : SampleConsole) (heard : Heard) : SampleConsole × Action :=
  match c.stage, heard with
  | .opening, .reply (.init _ _ wantsProgress) =>
    { c with wantsProgress := wantsProgress }.enter .greeting (print "Sample console ready\n")
  | .opening, _ => c.enter .greeting (print "Sample console ready\n")
  | .greeting, _ => c.enter .looking .askCancel
  | .looking, .cancelled true => c.leave 2
  | .looking, _ => c.enter .prompting (print promptText)
  | .prompting, _ => c.enter .reading (.send (.input promptText true))
  | .reading, .reply (.input true answer) => c.obey answer
  | .reading, _ => c.leave 3
  | .reporting step steps, _ => c.draw step steps
  | .drawing step steps, _ =>
    if step < steps then c.beginStep (step + 1) steps else c.enter .printing (print "\n")
  | .choosing, .reply (.choice result) =>
    c.enter .printing (print s!"choice result {result.toInt}\n")
  | .choosing, .reply other => c.enter .printing (print s!"unexpected reply {other.describe}\n")
  | .choosing, .cancelled _ => c.enter .looking .askCancel
  | .printing, _ => c.enter .looking .askCancel
  | .leaving, _ => c.leave 0
  | .over, _ => c.leave 0

end SampleConsole

end ConsoleLink
