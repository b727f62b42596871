import ConsoleLink.Config.Reader
import ConsoleLink.CrashReport
import ConsoleLink.Log
import ConsoleLink.Session.Calls
import ConsoleLink.Session.Start

/-!
# The command line

The program runs a console child in a session.  Lines of the standard input become
commands, lines of output go to the standard output, and progress is logged.

* `Request.of` reads the arguments.
* `inputLines` cuts the standard input into commands.
* `Host` is the program at work: beside the parties of its session it reads the input
  and looks from time to time whether it should close the session.
* `Host.run` is the whole program, from the arguments to the exit code.
-/

namespace ConsoleLink

/-- The version of the program. -/
def version : String := "1.0.1"

namespace Host

/-- The name of the program. -/
def programName : String := "console-bridge"

/-- The variable that names the configuration file. -/
def configVariable : String := "CONSOLE_BRIDGE_CONFIG"

/-! ## Arguments -/

/-- What the arguments ask for. -/
inductive Request
  | version
  | usage
  | run (executable : String) (arguments : List String)
  deriving DecidableEq, Repr

/-- Reads the arguments. -/
def Request.of : List String → Request
  | [] => .usage
  | "--version" :: _ => .version
  | executable :: arguments => .run executable arguments

/-- How the program is called. -/
def usage : String :=
  s!"usage: {programName} --version | <executable> [arguments...] (config via {configVariable})"

/-- What is shown of the version. -/
def versionText (dataDirectory : Option String) : String :=
  s!"{programName} {version}\ncrash log: {CrashReport.logPath dataDirectory}\n"

/-! ## The standard input -/

/-- Cuts bytes into lines without their line feeds; bytes behind the last one are a line,
too.  A line that had a line feed loses a carriage return at its end. -/
def byteLines : List UInt8 → List (List UInt8)
  | [] => []
  | b :: rest =>
    if b = 10 then [] :: byteLines rest
    else
      match rest, byteLines rest with
      | 10 :: _, _ :: lines => (if b = 13 then [] else [b]) :: lines
      | _, [] => [[b]]
      | _, line :: lines => (b :: line) :: lines

/-- The commands on the standard input; a line that is no text ends the reading. -/
def inputLines (input : ByteArray) : List (Except SystemFault String) :=
  let lines := (byteLines input.toList).map fun line => String.fromUTF8? ⟨line.toArray⟩
  (lines.takeWhile Option.isSome).filterMap (·.map .ok) ++
    (if lines.all Option.isSome then [] else [.error .notUtf8])

/-! ## The program at work -/

/-- Where the program is. -/
inductive Phase
  /-- It will look at a time whether it should close the session. -/
  | watching (wake : Nat)
  | closing (c : ProcessHandle.Closing)
  | closed (outcome : Shutdown)

end Host

/-- The program at work. -/
structure Host (γ : Type) where
  scene : Scene γ
  /-- The input that has not been read. -/
  input : List (Except SystemFault String) := []
  phase : Host.Phase
  /-- The lines shown so far. -/
  shown : List String := []
  log : List LogRecord := []
  /-- The reports written to the crash log so far. -/
  reports : List String := []

namespace Host

variable {γ : Type} [Program γ]

/-- How often the program looks whether it should close the session. -/
def lookInterval : Span := Span.ofMillis 100

/-- A record of the program's own. -/
def record (level : LogLevel) (text : String) : LogRecord :=
  { level := level, target := "console_bridge", message := "[HOST] " ++ text }

/-- The program with one more record. -/
def note (h : Host γ) (level : LogLevel) (text : String) : Host γ :=
  { h with log := h.log ++ [record level text] }

/-- The record of a notification. -/
def progressRecord : Delivery Unit → Option LogRecord
  | .progress _ t => some (record .info ("Progress " ++ t.toJson.compact))
  | .line .. => none

/-- The line of a delivery. -/
def shownLine : Delivery Unit → Option String
  | .line _ text => some text
  | .progress .. => none

/-- Reports a fault that has just ended the serving loop. -/
def reportFault (time : String) (h : Host γ) (fault : LinkFault) : Host γ :=
  let report := CrashReport.critical time "Console event loop" fault.message
    (some "console-dispatcher")
  { h with
    log := h.log ++ [{ level := .error, target := "console_bridge::logging", message := report }]
    reports := h.reports ++ [report] }

/-- Takes over what happened in the scene: lines are shown, progress is logged, and a
fault is reported. -/
def absorb (time : String) (h : Host γ) (scene : Scene γ) : Host γ :=
  let delivered := scene.session.desk.delivered
  let desk := { scene.session.desk with delivered := [] }
  let absorbed : Host γ :=
    { h with
      scene := { scene with session := { scene.session with desk := desk } }
      shown := h.shown ++ delivered.filterMap shownLine
      log := h.log ++ delivered.filterMap progressRecord }
  match h.scene.session.fault, scene.session.fault with
  | none, some fault => absorbed.reportFault time fault
  | _, _ => absorbed

/-- A party of the scene as one of the program. -/
def sceneParty (time : String) (p : Party (Scene γ)) : Party (Host γ) where
  act now h := h.absorb time (p.act now h.scene)
  waits h := p.waits h.scene
  isDone h := p.isDone h.scene

/-- Reads a line of the input. -/
def readLine (h : Host γ) : Host γ :=
  match h.input with
  | [] => h
  | .error fault :: _ =>
    { h.note .warn s!"Cannot read stdin: {fault.message}" with input := [] }
  | .ok line :: rest =>
    match h.scene.session.enqueue line with
    | (session, outcome) =>
      let read := { h with input := rest, scene := { h.scene with session := session } }
      match outcome with
      | .ok () => read
      | .error fault => read.note .error fault.message

/-- The reader of the input as a party. -/
def readerParty : Party (Host γ) where
  act _ h := h.readLine
  waits _ := none
  isDone h := h.input.isEmpty

/-- One step towards the end. -/
def proceed (now : Nat) (h : Host γ) : Host γ :=
  match h.phase with
  | .watching _ =>
    match h.scene.hasExited with
    | (scene, exited) =>
      let phase := if exited || h.input.isEmpty then
          Phase.closing (ProcessHandle.closeBy (now + scene.session.config.shutdownTimeout))
        else .watching (now + lookInterval)
      { h with scene := scene, phase := phase }
  | .closing (.done outcome) => { h with phase := .closed outcome }
  | .closing c =>
    match Scene.closingParty.act now (h.scene, c) with
    | (scene, c) => { h with scene := scene, phase := .closing c }
  | .closed _ => h

/-- The main thread as a party.  A shutdown that breaks off ends it. -/
def mainParty : Party (Host γ) where
  act := proceed
  waits h :=
    match h.phase with
    | .watching wake => some wake
    | .closing c => c.waits
    | .closed _ => none
  isDone h :=
    match h.phase with
    | .closed _ | .closing .broken => true
    | _ => false

/-- Everybody who acts while the program is at work. -/
def parties (time : String) : List (Party (Host γ)) :=
  readerParty :: (Scene.parties.map (sceneParty time) ++ [mainParty])

/-- Works until the session is closed, and lets go of everything. -/
def work (time : String) (h : Host γ) : Host γ :=
  match Turns.run (parties time) mainParty.isDone Turns.plenty h.scene.now h with
  | (now, h) =>
    let h := match h.phase with
      | .closed .killed => h.note .warn "Child had to be killed"
      | _ => h
    h.absorb time ({ h.scene with now := now } : Scene γ).dispose

/-! ## The whole program -/

/-- What the program leaves behind. -/
structure Outcome where
  exitCode : Nat
  shown : String := ""
  /-- What is on the standard error stream. -/
  errors : String := ""
  /-- The entries of the crash log. -/
  reports : List String := []

/-- An outcome without success. -/
def failure (message : String) : Outcome :=
  { exitCode := 1, errors := s!"{programName}: {message}" ++ "\n" }

/-- The exit code of the program for one of its child; only those below 256 can be passed
on. -/
def codeOf (code : Option Int) : Nat :=
  match code with
  | some code => if 0 ≤ code ∧ code < 256 then code.toNat else 1
  | none => 1

/-- The outcome of work that is over. -/
def outcome (filter : LogFilter) (h : Host γ) : Outcome :=
  let done : Outcome :=
    { exitCode := codeOf h.scene.exitCode?
      shown := String.join (h.shown.map (· ++ "\n"))
      errors := String.join ((h.log.filter filter.allows).map LogRecord.text)
      reports := h.reports }
  match h.scene.session.fault with
  | none => done
  | some fault =>
    let failed := failure fault.message
    { done with exitCode := failed.exitCode, errors := done.errors ++ failed.errors }

/-- What the program is given. -/
structure Setting (γ : Type) where
  arguments : List String
  config : Except ConfigFault Config
  input : ByteArray
  filter : LogFilter
  dataDirectory : Option String
  /-- The time as reports show it. -/
  time : String
  surroundings : Surroundings γ

/-- Who shows lines and logs progress. -/
def receivers : Receivers Unit := { output := some { receiver := () }, progress := some () }

/-- The whole program. -/
def run (s : Setting γ) : Outcome :=
  match Request.of s.arguments with
  | .usage => failure usage
  | .version => { exitCode := 0, shown := versionText s.dataDirectory }
  | .run executable arguments =>
    match s.config with
    | .error fault => failure fault.message
    | .ok config =>
      let scene : Scene γ := { session := Session.of config receivers }
      match scene.start s.surroundings executable arguments with
      | (_, .error fault) => failure fault.message
      | (scene, .ok ()) =>
        let h : Host γ := { scene, input := inputLines s.input, phase := .watching scene.now }
        (h.work s.time).outcome s.filter

end Host

end ConsoleLink
