import ConsoleLink.Json.Fault
import ConsoleLink.Span

/-!
# Causes of failure

Every operation that can fail answers with one of the causes below.  The
wording of each cause is written once, in the `message` function of its type.

* `FieldFault`: a text that its field cannot hold.
* `EnvelopeFault`: envelope bytes that break the contract of the two parties.
* `SystemFault`: a refusal by the operating system.
* `ConfigFault`: a configuration that cannot be read.
* `LinkFault`: everything a controller or a client can report.
-/

namespace ConsoleLink

/-! ## Fields -/

/-- Why a text cannot be stored in a field of fixed capacity. -/
inductive FieldFault
  /-- The text has `length` units and the field, its end mark included, has `capacity`. -/
  | tooLong (field : String) (length capacity : Nat)
  /-- The text holds the end mark itself, at `position`. -/
  | embeddedNul (field : String) (position : Nat)
  deriving DecidableEq, Repr

/-- The wording of a field fault. -/
def FieldFault.message : FieldFault → String
  | tooLong field length capacity =>
    s!"{field} is too long ({length} code units, {capacity} limit)"
  | embeddedNul field position =>
    s!"{field} contains a NUL character at position {position}"

/-! ## Envelopes -/

/-- Why the bytes of an envelope cannot be read or answered. -/
inductive EnvelopeFault
  | unknownEvent (tag : UInt32)
  | headerMismatch (size version : UInt32)
  | unknownOperation (tag : UInt32)
  | unknownSide (tag : UInt32)
  | unknownTransport (tag : UInt32)
  /-- The reply is not one for the pending event of the given name. -/
  | replyMismatch (event : String)
  | field (fault : FieldFault)
  deriving DecidableEq, Repr

/-- The wording of an envelope fault. -/
def EnvelopeFault.message : EnvelopeFault → String
  | unknownEvent tag => s!"Unknown console event {tag.toNat}"
  | headerMismatch size version =>
    s!"Envelope header mismatch (size {size.toNat}, version {version.toNat})"
  | unknownOperation tag => s!"Unknown progress operation {tag.toNat}"
  | unknownSide tag => s!"Unknown progress side {tag.toNat}"
  | unknownTransport tag => s!"Unknown std transport {tag.toNat}"
  | replyMismatch event => s!"Reply does not match {event} event"
  | field fault => fault.message

/-! ## The operating system -/

/-- A refusal by the operating system, or by the layer that speaks to it. -/
inductive SystemFault
  | notPermitted
  | noEntry
  | argumentsTooLong
  | tryAgain
  | outOfMemory
  | denied
  | notDirectory
  | isDirectory
  | invalid
  | tooManyFiles
  | nameTooLong
  | overflow
  | nulInName
  | nulInArgument
  | emptySegment
  | notUtf8
  /-- A refusal known only by its text. -/
  | other (text : String)
  deriving DecidableEq, Repr

/-- The wording of a system fault. -/
def SystemFault.message : SystemFault → String
  | notPermitted => "Operation not permitted (os error 1)"
  | noEntry => "No such file or directory (os error 2)"
  | argumentsTooLong => "Argument list too long (os error 7)"
  | tryAgain => "Resource temporarily unavailable (os error 11)"
  | outOfMemory => "Cannot allocate memory (os error 12)"
  | denied => "Permission denied (os error 13)"
  | notDirectory => "Not a directory (os error 20)"
  | isDirectory => "Is a directory (os error 21)"
  | invalid => "Invalid argument (os error 22)"
  | tooManyFiles => "Too many open files (os error 24)"
  | nameTooLong => "File name too long (os error 36)"
  | overflow => "Value too large for defined data type (os error 75)"
  | nulInName => "object name contains NUL"
  | nulInArgument => "nul byte found in provided data"
  | emptySegment => "empty segment"
  | notUtf8 => "stream did not contain valid UTF-8"
  | other text => text

/-! ## Configurations -/

/-- Why a configuration cannot be read. -/
inductive ConfigFault
  | system (fault : SystemFault)
  | json (fault : Json.Fault)
  | noDirectory
  deriving DecidableEq, Repr

/-- The wording of a configuration fault. -/
def ConfigFault.message : ConfigFault → String
  | system fault => s!"IO error: {fault.message}"
  | json fault => s!"JSON error: {fault.message}"
  | noDirectory => "Config directory not accessible"

/-! ## Controllers and clients -/

/-- Why an operation of a controller or a client failed. -/
inductive LinkFault
  /-- Every name tried was in use. -/
  | noFreeName (attempts : Nat)
  | taken (kind name : String)
  | cannotCreate (kind name : String) (cause : SystemFault)
  | cannotOpen (kind name : String) (cause : SystemFault)
  | unknownAccount (user reason : String)
  | grantRefused (target reason : String)
  | cannotStart (executable reason : String)
  | envelope (fault : EnvelopeFault)
  | field (fault : FieldFault)
  | commandTooLong (text : String) (limit : Nat)
  | commandHasNul (position : Nat)
  /-- The controller did not answer within `limit`. -/
  | noAnswer (limit : Span)
  | alreadyStarted
  | notStarted
  | config (fault : ConfigFault)
  | system (fault : SystemFault)
  deriving DecidableEq, Repr

/-- The wording of a link fault. -/
def LinkFault.message : LinkFault → String
  | noFreeName attempts =>
    s!"Cannot find unique name for event object after {attempts} attempts"
  | taken kind name => s!"{kind} {name} already exists"
  | cannotCreate kind name cause => s!"Cannot create {kind} {name}: {cause.message}"
  | cannotOpen kind name cause => s!"Cannot open {kind} {name}: {cause.message}"
  | unknownAccount user reason => s!"Error resolving account {user}: {reason}"
  | grantRefused target reason => s!"Error granting access to {target}: {reason}"
  | cannotStart executable reason => s!"Cannot start {executable}: {reason}"
  | envelope fault => s!"Protocol error: {fault.message}"
  | field fault => fault.message
  | commandTooLong text limit => s!"Input [{text}] is too long ({limit} limit)"
  | commandHasNul position => s!"Input contains a NUL character at position {position}"
  | noAnswer limit => s!"No response from controller within {limit.text}"
  | alreadyStarted => "Session already started"
  | notStarted => "Session not started"
  | config fault => s!"Configuration error: {fault.message}"
  | system fault => s!"IO error: {fault.message}"

end ConsoleLink
