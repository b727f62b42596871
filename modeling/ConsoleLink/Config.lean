import ConsoleLink.Fault
import ConsoleLink.Text.Quoted

/-!
# Configurations

* `Prefixes` are the beginnings of the names of a channel's objects.
* `RunAs` is the account that a child runs as.
* `Config` holds all settings of a session.  Its time limits and counts are read
  through functions that put defaults and lower bounds in place.
-/

namespace ConsoleLink

/-- The beginnings of the names of a channel's objects. -/
structure Prefixes where
  mapping : String := "ConsoleBridgeMapping"
  request : String := "ConsoleBridgeEventRequest"
  response : String := "ConsoleBridgeEventResponse"
  cancel : String := "ConsoleBridgeEventCancel"
  job : String := "ConsoleBridgeJob"
  deriving DecidableEq, Repr

/-- The account that a child runs as. -/
structure RunAs where
  user : String
  password : Option String
  deriving DecidableEq, Repr

/-- An account as it is shown: the password stays hidden. -/
def RunAs.describe (r : RunAs) : String :=
  let password := match r.password with
    | none => "None"
    | some _ => "Some(\"***\")"
  s!"RunAsUser \x7b user: {Text.quoted r.user}, password: {password} \x7d"

/-- The settings of a session. -/
structure Config where
  prefixes : Prefixes := {}
  /-- How many names are tried. -/
  maxNameAttempts : UInt32 := 10
  /-- Whether the child is asked to report progress. -/
  wantsProgress : Bool := false
  /-- Whether the child is put into a group that dies with the session. -/
  guardWithJob : Bool := false
  /-- Whether names are checked to be free again at the end. -/
  verifyHandlesClosed : Bool := false
  runAs : Option RunAs := none
  shutdownTimeoutMs : Option UInt64 := none
  pollIntervalMs : UInt64 := 100
  consoleSwitch : String := "--console"
  instanceSwitch : String := "--console-instance"
  workingDirectory : Option String := none
  deriving DecidableEq, Repr

namespace Config

/-- How long a child may take to end, in milliseconds, if nothing is set. -/
def defaultShutdownMs : UInt64 := 10000

/-- How long a child may take to end. -/
def shutdownTimeout (c : Config) : Span :=
  Span.ofMillis (c.shutdownTimeoutMs.getD defaultShutdownMs).toNat

theorem shutdownTimeout_lt (c : Config) : c.shutdownTimeout < Span.ofMillis UInt64.size :=
  Nat.mul_lt_mul_of_pos_right (UInt64.toNat_lt _) (by decide)

/-- How long a waiting party sleeps between two looks: at least a millisecond. -/
def pollInterval (c : Config) : Span := Span.ofMillis (max c.pollIntervalMs.toNat 1)

/-- How many names are tried: at least one. -/
def nameAttempts (c : Config) : Nat := max c.maxNameAttempts.toNat 1

end Config

end ConsoleLink
