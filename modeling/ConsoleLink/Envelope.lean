import ConsoleLink.Envelope.Layout
import ConsoleLink.Event

/-!
# Events and replies in an envelope

The two parties exchange one envelope.  The child writes an event into it, the
controller writes the reply into the fields that the event leaves for it.

* Header: `reset` makes the header valid and leaves no event pending, `kind?`
  reads which kind is pending.
* Events: `putEvent` and `event?`.  A refused event leaves the header reset.
* Replies: `putReply` and `reply?`.  A refused reply leaves every byte, so that `putReply?`
  need not say what is left.

A write changes exactly the fields it assigns; of a text field only the units
of the text and its end mark.
-/

namespace ConsoleLink.Envelope

/-! ## Header -/

/-- The envelope with a valid header and no pending event. -/
def reset (e : Envelope) : Envelope :=
  ((e.put32 Layout.headerSize size.toUInt32).put32 Layout.headerVersion Layout.version).put32
    Layout.headerEvent EventKind.none.tag

/-- The envelope with an event of the given kind pending. -/
def setKind (e : Envelope) (k : EventKind) : Envelope := e.put32 Layout.headerEvent k.tag

/-- The kind of the pending event. -/
def kind? (e : Envelope) : Except EnvelopeFault EventKind :=
  if e.get32 Layout.headerSize = size.toUInt32 ∧ e.get32 Layout.headerVersion = Layout.version then
    EventKind.ofTag (e.get32 Layout.headerEvent)
  else .error (.headerMismatch (e.get32 Layout.headerSize) (e.get32 Layout.headerVersion))

/-! ## Fields -/

/-- The text of a field. -/
def text (e : Envelope) (f : Layout.TextField) : String :=
  Wide.readField (e.units f.offset f.capacity)

/-- Stores a text that the field can hold. -/
def putText (e : Envelope) (f : Layout.TextField) (t : String) : Except FieldFault Envelope := do
  Wide.check f.label t f.capacity
  return e.putUnits f.offset (Wide.stored t)

/-- A signed word. -/
def getInt (e : Envelope) (i : Nat) : Int32 := (e.get32 i).toInt32

/-- The envelope with a signed word changed. -/
def putInt (e : Envelope) (i : Nat) (v : Int32) : Envelope := e.put32 i v.toUInt32

/-- A time limit on the wire: whole milliseconds, and at most what a word holds. -/
def timerOf (timeout : Span) : UInt32 := (min timeout.toMillis 4294967295).toUInt32

/-! ## Events -/

/-- Writes an event into an envelope whose header has been reset. -/
def putPayload (e : Envelope) : Event → Envelope × Except FieldFault Unit
  | .print message fromBeginning =>
    match e.putText Layout.printMessage message with
    | .error fault => (e, .error fault)
    | .ok e =>
      ((e.putFlag Layout.printFromBeginning fromBeginning).putFlag Layout.printError false, .ok ())
  | .input prompt echo =>
    match e.putText Layout.inputPrompt prompt with
    | .error fault => (e, .error fault)
    | .ok e =>
      (((e.putFlag Layout.inputEcho echo).putFlag Layout.inputResult false).put32
        Layout.inputTimer 0, .ok ())
  | .choice prompt =>
    (((((e.putFlag Layout.choiceExpires prompt.expires).put32 Layout.choiceTimer
        (timerOf prompt.timeout)).putInt Layout.choiceBreakValue prompt.breakValue).putInt
        Layout.choiceExpiredValue prompt.expiredValue).putInt Layout.choiceResult 0, .ok ())
  | .title title =>
    match e.putText Layout.title title with
    | .error fault => (e, .error fault)
    | .ok e => (e, .ok ())
  | .init =>
    (((e.put32 Layout.initInput Transport.off.tag).put32 Layout.initOutput
        Transport.off.tag).putFlag Layout.initWantsProgress false, .ok ())
  | .progress report =>
    match e.putText Layout.progressFileName report.fileName with
    | .error fault => (e, .error fault)
    | .ok e =>
      match e.putText Layout.progressDirectory report.directory with
      | .error fault => (e, .error fault)
      | .ok e =>
        ((((((e.put32 Layout.progressOperation report.operation.tag).put32 Layout.progressSide
            report.side.tag).put32 Layout.progressOverall report.overallPercent).put32
            Layout.progressFile report.filePercent).put32 Layout.progressSpeed
            report.bytesPerSecond).putFlag Layout.progressCancel false, .ok ())

/-- Writes an event.  If a text is refused, what was written before it stays and
no event is pending. -/
def putEvent (e : Envelope) (event : Event) : Envelope × Except FieldFault Unit :=
  match e.reset.putPayload event with
  | (e, .error fault) => (e, .error fault)
  | (e, .ok ()) => (e.setKind event.kind, .ok ())

/-- Reads the pending event. -/
def event? (e : Envelope) : Except EnvelopeFault Event := do
  match ← e.kind? with
  | .none => .error (.unknownEvent EventKind.none.tag)
  | .print => return .print (e.text Layout.printMessage) (e.flag Layout.printFromBeginning)
  | .input => return .input (e.text Layout.inputPrompt) (e.flag Layout.inputEcho)
  | .choice =>
    return .choice
      { expires := e.flag Layout.choiceExpires
        timeout := Span.ofMillis (e.get32 Layout.choiceTimer).toNat
        breakValue := e.getInt Layout.choiceBreakValue
        expiredValue := e.getInt Layout.choiceExpiredValue }
  | .title => return .title (e.text Layout.title)
  | .init => return .init
  | .progress =>
    let operation ← Operation.ofTag (e.get32 Layout.progressOperation)
    let side ← Side.ofTag (e.get32 Layout.progressSide)
    return .progress
      { operation
        side
        fileName := e.text Layout.progressFileName
        directory := e.text Layout.progressDirectory
        overallPercent := e.get32 Layout.progressOverall
        filePercent := e.get32 Layout.progressFile
        bytesPerSecond := e.get32 Layout.progressSpeed }

/-! ## Replies -/

/-- Writes the reply to the pending event.  If it is refused, what was written before that
stays. -/
def putReply (e : Envelope) (reply : Reply) : Envelope × Except EnvelopeFault Unit :=
  match e.kind? with
  | .error fault => (e, .error fault)
  | .ok kind =>
    match kind, reply with
    | .print, .ack | .title, .ack | .progress, .ack => (e, .ok ())
    | .input, .input true answer =>
      match e.putText Layout.inputAnswer answer with
      | .error fault => (e, .error (.field fault))
      | .ok e => (e.putFlag Layout.inputResult true, .ok ())
    | .input, .input false _ => (e.putFlag Layout.inputResult false, .ok ())
    | .choice, .choice result => (e.putInt Layout.choiceResult result, .ok ())
    | .init, .init input output wantsProgress =>
      (((e.put32 Layout.initInput input.tag).put32 Layout.initOutput output.tag).putFlag
        Layout.initWantsProgress wantsProgress, .ok ())
    | kind, _ => (e, .error (.replyMismatch kind.name))

/-- The envelope with the reply to the pending event, unless it is refused. -/
def putReply? (e : Envelope) (reply : Reply) : Except EnvelopeFault Envelope :=
  match e.putReply reply with
  | (e, .ok ()) => .ok e
  | (_, .error fault) => .error fault

/-- Reads the reply to the pending event. -/
def reply? (e : Envelope) : Except EnvelopeFault Reply := do
  match ← e.kind? with
  | .none => .error (.unknownEvent EventKind.none.tag)
  | .print | .title | .progress => return .ack
  | .input =>
    let accepted := e.flag Layout.inputResult
    return .input accepted (if accepted then e.text Layout.inputAnswer else "")
  | .choice => return .choice (e.getInt Layout.choiceResult)
  | .init =>
    let input ← Transport.ofTag (e.get32 Layout.initInput)
    let output ← Transport.ofTag (e.get32 Layout.initOutput)
    return .init input output (e.flag Layout.initWantsProgress)

end ConsoleLink.Envelope
