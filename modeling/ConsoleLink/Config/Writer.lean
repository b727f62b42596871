import ConsoleLink.Config
import ConsoleLink.Json.Value

/-!
# Writing configurations

A configuration is written as a JSON object with every member on its own line.
A password that is absent is left out, every other absent setting is null.
-/

namespace ConsoleLink

open Json (Value)

/-- Name prefixes as a JSON object. -/
def Prefixes.toJson (p : Prefixes) : Value :=
  .object
    [("mapping", .string p.mapping),
     ("request", .string p.request),
     ("response", .string p.response),
     ("cancel", .string p.cancel),
     ("job", .string p.job)]

/-- An account as a JSON object. -/
def RunAs.toJson (r : RunAs) : Value :=
  .object (("user", .string r.user) ::
    match r.password with
    | none => []
    | some password => [("password", .string password)])

namespace Config

/-- A configuration as a JSON object. -/
def toJson (c : Config) : Value :=
  .object
    [("prefixes", c.prefixes.toJson),
     ("max_name_attempts", .nat c.maxNameAttempts.toNat),
     ("wants_progress", .bool c.wantsProgress),
     ("guard_with_job", .bool c.guardWithJob),
     ("verify_handles_closed", .bool c.verifyHandlesClosed),
     ("run_as", .ofOption RunAs.toJson c.runAs),
     ("shutdown_timeout_ms", .ofOption (fun ms => .nat ms.toNat) c.shutdownTimeoutMs),
     ("poll_interval_ms", .nat c.pollIntervalMs.toNat),
     ("console_switch", .string c.consoleSwitch),
     ("instance_switch", .string c.instanceSwitch),
     ("working_directory", .ofOption .string c.workingDirectory)]

/-- The text of a configuration. -/
def write (c : Config) : String := c.toJson.pretty

end Config

end ConsoleLink
