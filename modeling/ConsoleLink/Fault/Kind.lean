import ConsoleLink.Fault

/-!
# Names of the kinds of faults

A fault is shown by the name of its kind and its wording.  The name of a fault that
was passed on begins with the layer that it comes from.
-/

namespace ConsoleLink

/-- The kind of a field fault. -/
def FieldFault.kind : FieldFault → String
  | tooLong .. => "Capacity"
  | embeddedNul .. => "EmbeddedNul"

/-- The kind of an envelope fault. -/
def EnvelopeFault.kind : EnvelopeFault → String
  | unknownEvent _ => "UnknownEvent"
  | headerMismatch .. => "HeaderMismatch"
  | unknownOperation _ => "UnknownOperation"
  | unknownSide _ => "UnknownSide"
  | unknownTransport _ => "UnknownTransport"
  | replyMismatch _ => "ReplyMismatch"
  | field fault => "Text." ++ fault.kind

/-- The kind of a JSON fault. -/
def Json.Fault.kind (f : Json.Fault) : String :=
  match f.cause.faultClass with
  | .grammar => "Json.Syntax"
  | .shape => "Json.Data"
  | .ended => "Json.Eof"

/-- The kind of a refusal by the operating system. -/
def SystemFault.kind : String := "Io"

/-- The kind of a configuration fault. -/
def ConfigFault.kind : ConfigFault → String
  | system _ => SystemFault.kind
  | json fault => fault.kind
  | noDirectory => "ConfigDir"

/-- The kind of a link fault. -/
def LinkFault.kind : LinkFault → String
  | noFreeName _ => "NameCollision"
  | taken .. => "ResourceExists"
  | cannotCreate .. => "ResourceCreation"
  | cannotOpen .. => "ResourceOpen"
  | unknownAccount .. => "IdentityResolution"
  | grantRefused .. => "AccessGrant"
  | cannotStart .. => "Spawn"
  | envelope fault => "Protocol." ++ fault.kind
  | field fault => "Text." ++ fault.kind
  | commandTooLong .. => "InputTooLong"
  | commandHasNul _ => "InputContainsNul"
  | noAnswer _ => "ResponseTimeout"
  | alreadyStarted => "AlreadyStarted"
  | notStarted => "NotStarted"
  | config fault => "Config." ++ fault.kind
  | system _ => SystemFault.kind

end ConsoleLink
