import ConsoleLink.Envelope.Bytes
import ConsoleLink.Text.Wide

/-!
# Where an envelope keeps what

Three header words come first: the size of the envelope, the version of this
layout and the number of the pending event.  The payloads of all kinds of
events start behind them and overlap.

* `headerSize`, `headerVersion` and `headerEvent` are the header's offsets.
* A `TextField` is a named run of units; the text fields of the payloads follow.
* The other offsets carry the name of their payload.
-/

namespace ConsoleLink.Layout

/-! ## Header -/

/-- The version of this layout. -/
def version : UInt32 := 1

/-- Offset of the size. -/
def headerSize : Nat := 0

/-- Offset of the version. -/
def headerVersion : Nat := 4

/-- Offset of the number of the pending event. -/
def headerEvent : Nat := 8

/-! ## Text fields -/

/-- A run of `capacity` units at an offset; `label` names it in faults. -/
structure TextField where
  label : String
  offset : Nat
  capacity : Nat
  deriving DecidableEq, Repr

/-- The text of a print event. -/
def printMessage : TextField := ⟨"print message", 12, 10240⟩

/-- The prompt of an input event. -/
def inputPrompt : TextField := ⟨"input prompt", 14, 10240⟩

/-- The answer to an input event, which takes the place of the prompt. -/
def inputAnswer : TextField := ⟨"input answer", 14, 10240⟩

/-- The text of a title event. -/
def title : TextField := ⟨"title", 12, 10240⟩

/-- The file name of a progress event. -/
def progressFileName : TextField := ⟨"progress file name", 20, 1024⟩

/-- The directory of a progress event. -/
def progressDirectory : TextField := ⟨"progress directory", 2068, 1024⟩

/-! ## Other fields -/

def printFromBeginning : Nat := 20492
def printError : Nat := 20493

def inputEcho : Nat := 12
def inputResult : Nat := 13
def inputTimer : Nat := 20496

def choiceExpires : Nat := 12
def choiceTimer : Nat := 16
def choiceBreakValue : Nat := 20
def choiceExpiredValue : Nat := 24
def choiceResult : Nat := 28

def initInput : Nat := 12
def initOutput : Nat := 16
def initWantsProgress : Nat := 20

def progressOperation : Nat := 12
def progressSide : Nat := 16
def progressOverall : Nat := 4116
def progressFile : Nat := 4120
def progressSpeed : Nat := 4124
def progressCancel : Nat := 4128

end ConsoleLink.Layout
