import ConsoleLink.Text.Quoted

/-!
# Crash reports

What goes wrong badly is written to a crash log in the user's data directory.

* `CrashReport.logPath` is where the log is kept.
* `CrashReport.critical` reports an error that ended something, `CrashReport.panic` a
  breakdown.
* `CrashReport.entry` is what is appended to the log for a report.
-/

namespace ConsoleLink.CrashReport

/-- The crash log, or a file beside the program where there is no data directory. -/
def logPath (dataDirectory : Option String) : String :=
  match dataDirectory with
  | some directory => directory ++ "/ConsoleBridge/crash.log"
  | none => "./crash.log"

/-- The lines of a report. -/
def report (title : String) (lines : List String) : String :=
  "\n" ++ String.join ((title :: lines).map (· ++ "\n")) ++ "\n"

/-- The line that tells on which thread something happened. -/
def threadLine (thread : Option String) : String :=
  "Thread: " ++ Text.quoted (thread.getD "unnamed")

/-- An error that ended something. -/
def critical (time context error : String) (thread : Option String) : String :=
  report "===== CRITICAL ERROR ====="
    ["Timestamp: " ++ time, "Context: " ++ context, "Error: " ++ error, threadLine thread]

/-- The message of a breakdown, if it left one. -/
def payloadText (message : Option String) : String := message.getD "Unknown panic payload"

/-- A breakdown. -/
def panic (time location : String) (message thread : Option String) (backtrace : String) :
    String :=
  report "===== CONSOLE BRIDGE PANIC ====="
    ["Timestamp: " ++ time, "Location: " ++ location, "Message: " ++ payloadText message,
      threadLine thread, "", "Backtrace:", backtrace]

/-- What is appended to the log for a report. -/
def entry (report : String) : String := report ++ "\n"

end ConsoleLink.CrashReport
