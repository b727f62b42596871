import ConsoleLink.Event
import ConsoleLink.Json.Value

/-!
# Progress notifications

A progress report reaches its receiver with the percentages turned into
fractions of one.

* `Transfer.ofReport` makes the notification of a report.
* `Transfer.toJson` is its JSON form.
-/

namespace ConsoleLink

/-- A progress notification. -/
structure Transfer where
  operation : Operation
  side : Side
  fileName : String
  directory : String
  overallProgress : Float
  fileProgress : Float
  bytesPerSecond : UInt32

namespace Transfer

/-- A percentage as a fraction of one. -/
def fraction (percent : UInt32) : Float := percent.toFloat / 100

/-- The notification of a report. -/
def ofReport (r : Report) : Transfer :=
  { operation := r.operation
    side := r.side
    fileName := r.fileName
    directory := r.directory
    overallProgress := fraction r.overallPercent
    fileProgress := fraction r.filePercent
    bytesPerSecond := r.bytesPerSecond }

/-- The notification as a JSON object, its members in a fixed order. -/
def toJson (t : Transfer) : Json.Value :=
  .object
    [("operation", .string t.operation.name),
     ("side", .string t.side.name),
     ("file_name", .string t.fileName),
     ("directory", .string t.directory),
     ("overall_progress", .float t.overallProgress),
     ("file_progress", .float t.fileProgress),
     ("bytes_per_second", .nat t.bytesPerSecond.toNat)]

end Transfer

end ConsoleLink
