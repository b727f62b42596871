import ConsoleLink.Config
import ConsoleLink.Event
import ConsoleLink.Json.Reader
import ConsoleLink.Transfer

/-!
# Reading configurations

Each record that can be read from JSON has a shape: its members in order, and
the value that stands for those that are not given.

* `Prefixes.shape`, `RunAs.shape`, `Transfer.shape` and `Config.shape`.
* `Transport.variants`, `Operation.variants` and `Side.variants` are the words.
* `Config.parse` reads a text, `Config.ofFile` a file and `Config.orDefault` a file
  that need not be there.
-/

namespace ConsoleLink

open Json (Member Shape Trouble Variants)

/-! ## Words -/

/-- The words for transports. -/
def Transport.variants : Variants Transport where
  words := [Transport.off, .console, .binary, .pipe].map fun t => (t.name, t)
  description := "one of `Off`, `Console`, `Binary`, `Pipe`"

/-- The words for operations. -/
def Operation.variants : Variants Operation where
  words := [Operation.transfer].map fun o => (o.name, o)
  description := "`Transfer`"

/-- The words for sides. -/
def Side.variants : Variants Side where
  words := [Side.localSide, .remoteSide].map fun s => (s.name, s)
  description := "`Local` or `Remote`"

/-! ## Records -/

/-- The shape of name prefixes; those not given keep their defaults. -/
def Prefixes.shape : Shape Prefixes where
  name := "ChannelPrefixes"
  blank := {}
  members :=
    [.string "mapping" false fun p s => { p with mapping := s },
     .string "request" false fun p s => { p with request := s },
     .string "response" false fun p s => { p with response := s },
     .string "cancel" false fun p s => { p with cancel := s },
     .string "job" false fun p s => { p with job := s }]

/-- The shape of an account, which needs a user. -/
def RunAs.shape : Shape RunAs where
  name := "RunAsUser"
  blank := { user := "", password := none }
  members :=
    [.string "user" true fun r s => { r with user := s },
     .of "password" false (Json.optional (Json.readText "a string"))
       fun r s => { r with password := s }]

/-- The shape of a progress notification, which needs every member. -/
def Transfer.shape : Shape Transfer where
  name := "TransferProgress"
  blank :=
    { operation := .transfer, side := .localSide, fileName := "", directory := ""
      overallProgress := 0, fileProgress := 0, bytesPerSecond := 0 }
  members :=
    [.of "operation" true (Json.readVariant Operation.variants)
       fun t o => { t with operation := o },
     .of "side" true (Json.readVariant Side.variants) fun t s => { t with side := s },
     .string "file_name" true fun t s => { t with fileName := s },
     .string "directory" true fun t s => { t with directory := s },
     .of "overall_progress" true Json.readFloat fun t x => { t with overallProgress := x },
     .of "file_progress" true Json.readFloat fun t x => { t with fileProgress := x },
     .word32 "bytes_per_second" true fun t n => { t with bytesPerSecond := n }]

/-- The shape of a configuration; settings not given keep their defaults. -/
def Config.shape : Shape Config where
  name := "SessionConfig"
  blank := {}
  members :=
    [.of "prefixes" false (Json.readRecord Prefixes.shape) fun c p => { c with prefixes := p },
     .word32 "max_name_attempts" false fun c n => { c with maxNameAttempts := n },
     .flag "wants_progress" fun c b => { c with wantsProgress := b },
     .flag "guard_with_job" fun c b => { c with guardWithJob := b },
     .flag "verify_handles_closed" fun c b => { c with verifyHandlesClosed := b },
     .of "run_as" false (Json.optional (Json.readRecord RunAs.shape))
       fun c r => { c with runAs := r },
     .of "shutdown_timeout_ms" false (Json.optional Json.readWord64)
       fun c n => { c with shutdownTimeoutMs := n.map Nat.toUInt64 },
     .of "poll_interval_ms" false Json.readWord64
       fun c n => { c with pollIntervalMs := n.toUInt64 },
     .string "console_switch" false fun c s => { c with consoleSwitch := s },
     .string "instance_switch" false fun c s => { c with instanceSwitch := s },
     .of "working_directory" false (Json.optional (Json.readText "path string"))
       fun c s => { c with workingDirectory := s }]

/-! ## Texts and files -/

/-- The text that the bytes of a file are. -/
def textOfFile (content : ByteArray) : Except SystemFault String :=
  match String.fromUTF8? content with
  | some text => .ok text
  | none => .error .notUtf8

namespace Config

/-- Reads a configuration from its text. -/
def parse (text : String) : Except ConfigFault Config :=
  (Json.decode (Json.readRecord shape) text).mapError .json

/-- Reads a configuration from what was read of a file. -/
def ofFile (text : Except SystemFault String) : Except ConfigFault Config := do
  parse (← text.mapError .system)

/-- Reads a configuration from a file, or takes the defaults where there is none. -/
def orDefault : Except SystemFault String → Except ConfigFault Config
  | .error .noEntry => .ok {}
  | text => ofFile text

end Config

end ConsoleLink
