import ConsoleLink.Event
import ConsoleLink.Json.Value

/-!
# Events and replies as JSON objects

Each has a member `kind` and one member for every part.  Time limits are written
in microseconds.
-/

namespace ConsoleLink

open Json (Value)

/-- The JSON object of a kind. -/
def kindObject (kind : String) (members : List (String × Value)) : Value :=
  .object (("kind", .string kind) :: members)

/-- The members of a prompt. -/
def Prompt.members (p : Prompt) : List (String × Value) :=
  [("timeouting", .bool p.expires),
   ("timeout_us", .nat (p.timeout / Span.perMicro)),
   ("break_value", .int p.breakValue.toInt),
   ("timeouted_value", .int p.expiredValue.toInt)]

/-- The members of a report. -/
def Report.members (r : Report) : List (String × Value) :=
  [("operation", .string r.operation.name),
   ("side", .string r.side.name),
   ("file_name", .string r.fileName),
   ("directory", .string r.directory),
   ("overall_percent", .nat r.overallPercent.toNat),
   ("file_percent", .nat r.filePercent.toNat),
   ("bytes_per_second", .nat r.bytesPerSecond.toNat)]

/-- An event as a JSON object. -/
def Event.toJson (e : Event) : Value :=
  kindObject e.kind.name <|
    match e with
    | print message fromBeginning =>
      [("message", .string message), ("from_beginning", .bool fromBeginning)]
    | input prompt echo => [("prompt", .string prompt), ("echo", .bool echo)]
    | choice prompt => prompt.members
    | title text => [("title", .string text)]
    | init => []
    | progress report => report.members

/-- A reply as a JSON object. -/
def Reply.toJson : Reply → Value
  | ack => kindObject "ack" []
  | input accepted answer =>
    kindObject "input" [("accepted", .bool accepted), ("answer", .string answer)]
  | choice result => kindObject "choice" [("result", .int result.toInt)]
  | init source target wantsProgress =>
    kindObject "init"
      [("input", .string source.name),
       ("output", .string target.name),
       ("wants_progress", .bool wantsProgress)]

end ConsoleLink
