import ConsoleLink.Host
import ConsoleLink.Host.Environment
import ConsoleLink.Process.Programs
import Std.Time

/-!
# The program

Reads the environment, the configuration and the standard input, runs the command
line and writes what it leaves behind.
-/

namespace ConsoleLink.Program

/-- Reads a file. -/
def readFile (path : String) : IO (Except SystemFault String) := do
  try
    return textOfFile (← IO.FS.readBinFile path)
  catch
    | .noFileOrDirectory .. => return .error .noEntry
    | .permissionDenied .. => return .error .denied
    | .inappropriateType _ 20 _ => return .error .notDirectory
    | .inappropriateType .. => return .error .isDirectory
    | e => return .error (.other (toString e))

/-- The environment, with the assignments of a file beside the program. -/
def environment : IO Environment := do
  let names :=
    [Host.configVariable, "RUST_LOG", "HOME", "XDG_CONFIG_HOME", "XDG_DATA_HOME"]
  let pairs ← names.filterMapM fun name => do
    return (← IO.getEnv name).map fun value => (name, value)
  let e : Environment := { value? := fun name => pairs.lookup name }
  match ← readFile ".env" with
  | .ok text => return e.withFile text
  | .error _ => return e

/-- The configuration that the environment names. -/
def config (e : Environment) : IO (Except ConfigFault Config) := do
  match e.value? Host.configVariable, e.configDirectory with
  | some path, _ => return Config.ofFile (← readFile path)
  | none, some directory =>
    return Config.orDefault (← readFile (directory ++ "/ConsoleBridge/session.json"))
  | none, none => return .error .noDirectory

/-- The time as reports show it. -/
def time : IO String := do
  return (← Std.Time.PlainDateTime.now).format "uuuu-MM-dd HH:mm:ss.SSS"

/-- The salts of instance names, from a seed on. -/
def salt (seed n : Nat) : Nat := (seed + 7919 * n) % 1000

/-- Appends the reports to the crash log; that they cannot be written is no failure. -/
def writeReports (e : Environment) (reports : List String) : IO Unit := do
  try
    if let some directory := e.dataDirectory then
      IO.FS.createDirAll (directory ++ "/ConsoleBridge")
    let log ← IO.FS.Handle.mk (CrashReport.logPath e.dataDirectory) .append
    for report in reports do
      log.putStr (CrashReport.entry report)
  catch _ => return

/-- Runs the command line. -/
def run (arguments : List String) : IO UInt32 := do
  let e ← environment
  let seed ← IO.monoNanosNow
  let outcome := Host.run
    { arguments := arguments
      config := ← config e
      input := ← (← IO.getStdin).readBinToEnd
      filter := LogFilter.ofVariable (e.value? "RUST_LOG")
      dataDirectory := e.dataDirectory
      time := ← time
      surroundings :=
        { access := Access.ofAccounts [Access.administrator] true
          stem := instanceStem (toString (seed % 32768)) (toString (seed % 100000000))
          salt := salt seed
          spawn := Programs.find } }
  IO.print outcome.shown
  IO.eprint outcome.errors
  unless outcome.reports.isEmpty do
    writeReports e outcome.reports
  return outcome.exitCode.toUInt32

end ConsoleLink.Program

/-- The program. -/
def main (arguments : List String) : IO UInt32 := ConsoleLink.Program.run arguments
