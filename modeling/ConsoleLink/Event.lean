import ConsoleLink.Fault

/-!
# Events and replies

The console child posts events; the controller answers each with one reply.

* `EventKind`, `Transport`, `Operation` and `Side` are the tagged words of an
  event.  Each has a number on the wire, and reading a number that stands for
  none of them is a fault.
* `Event` and `Reply` are the two messages.
* `Reply.neutral` is the reply that an event reads back before it is answered.
-/

namespace ConsoleLink

/-! ## Tagged words -/

/-- The kinds of events; `none` marks an envelope without one. -/
inductive EventKind
  | none
  | print
  | input
  | choice
  | title
  | init
  | progress
  deriving DecidableEq, Repr

namespace EventKind

/-- The name of a kind. -/
def name : EventKind → String
  | none => "none"
  | print => "print"
  | input => "input"
  | choice => "choice"
  | title => "title"
  | init => "init"
  | progress => "progress"

/-- The number of a kind. -/
def tag : EventKind → UInt32
  | none => 0
  | print => 1
  | input => 2
  | choice => 3
  | title => 4
  | init => 5
  | progress => 6

/-- The kind of a number. -/
def ofTag (tag : UInt32) : Except EnvelopeFault EventKind :=
  match tag with
  | 0 => .ok none
  | 1 => .ok print
  | 2 => .ok input
  | 3 => .ok choice
  | 4 => .ok title
  | 5 => .ok init
  | 6 => .ok progress
  | tag => .error (.unknownEvent tag)

/-- A kind is read back from its number. -/
theorem ofTag_tag (k : EventKind) : ofTag k.tag = .ok k := by cases k <;> rfl

end EventKind

/-- How a standard stream of the child is carried. -/
inductive Transport
  | off
  | console
  | binary
  | pipe
  deriving DecidableEq, Repr

namespace Transport

/-- The name of a transport. -/
def name : Transport → String
  | off => "Off"
  | console => "Console"
  | binary => "Binary"
  | pipe => "Pipe"

/-- The number of a transport. -/
def tag : Transport → UInt32
  | off => 0
  | console => 1
  | binary => 2
  | pipe => 3

/-- The transport of a number. -/
def ofTag (tag : UInt32) : Except EnvelopeFault Transport :=
  match tag with
  | 0 => .ok off
  | 1 => .ok console
  | 2 => .ok binary
  | 3 => .ok pipe
  | tag => .error (.unknownTransport tag)

/-- A transport is read back from its number. -/
theorem ofTag_tag (t : Transport) : ofTag t.tag = .ok t := by cases t <;> rfl

end Transport

/-- What a progress report is about. -/
inductive Operation
  | transfer
  deriving DecidableEq, Repr

namespace Operation

/-- The name of an operation. -/
def name : Operation → String
  | transfer => "Transfer"

/-- The number of an operation. -/
def tag : Operation → UInt32
  | transfer => 0

/-- The operation of a number. -/
def ofTag (tag : UInt32) : Except EnvelopeFault Operation :=
  match tag with
  | 0 => .ok transfer
  | tag => .error (.unknownOperation tag)

/-- An operation is read back from its number. -/
theorem ofTag_tag (o : Operation) : ofTag o.tag = .ok o := by cases o; rfl

end Operation

/-- The side on which an operation reads. -/
inductive Side
  | localSide
  | remoteSide
  deriving DecidableEq, Repr

namespace Side

/-- The name of a side. -/
def name : Side → String
  | localSide => "Local"
  | remoteSide => "Remote"

/-- The number of a side. -/
def tag : Side → UInt32
  | localSide => 0
  | remoteSide => 1

/-- The side of a number. -/
def ofTag (tag : UInt32) : Except EnvelopeFault Side :=
  match tag with
  | 0 => .ok localSide
  | 1 => .ok remoteSide
  | tag => .error (.unknownSide tag)

/-- A side is read back from its number. -/
theorem ofTag_tag (s : Side) : ofTag s.tag = .ok s := by cases s <;> rfl

end Side

/-! ## Messages -/

/-- A question with a default answer and, if `expires`, a time limit. -/
structure Prompt where
  expires : Bool
  timeout : Span
  breakValue : Int32
  expiredValue : Int32
  deriving DecidableEq, Repr

/-- How far an operation has come. -/
structure Report where
  operation : Operation
  side : Side
  fileName : String
  directory : String
  overallPercent : UInt32
  filePercent : UInt32
  bytesPerSecond : UInt32
  deriving DecidableEq, Repr

/-- What the child tells or asks. -/
inductive Event
  | print (message : String) (fromBeginning : Bool)
  | input (prompt : String) (echo : Bool)
  | choice (prompt : Prompt)
  | title (title : String)
  | init
  | progress (report : Report)
  deriving DecidableEq, Repr

/-- The kind of an event. -/
def Event.kind : Event → EventKind
  | print .. => .print
  | input .. => .input
  | choice .. => .choice
  | title .. => .title
  | init => .init
  | progress .. => .progress

/-- What the controller answers. -/
inductive Reply
  | ack
  | input (accepted : Bool) (answer : String)
  | choice (result : Int32)
  | init (input output : Transport) (wantsProgress : Bool)
  deriving DecidableEq, Repr

/-- The reply to an event of a kind that nobody has answered yet. -/
def Reply.neutral : EventKind → Option Reply
  | .none => Option.none
  | .print | .title | .progress => some .ack
  | .input => some (.input false "")
  | .choice => some (.choice 0)
  | .init => some (.init .off .off false)

/-- Whether a reply is one for events of a kind. -/
def Reply.matchesKind : Reply → EventKind → Bool
  | .ack, .print | .ack, .title | .ack, .progress => true
  | .input .., .input => true
  | .choice .., .choice => true
  | .init .., .init => true
  | _, _ => false

end ConsoleLink
