import ConsoleLink.Envelope

/-!
# What the two parties of a channel share

* A signal counts how often it was set; every wait that succeeds takes one away.
  `Signal.set` and `Signal.take` are its operations.
* `Shared` is the envelope, the two signals that pass it back and forth, and the
  signal that asks the child to give up.
-/

namespace ConsoleLink

/-! ## Signals -/

/-- The outcome of an attempt to take from a signal. -/
inductive Taken
  /-- One was taken and `left` remain. -/
  | one (left : Nat)
  /-- There is nothing to take, so the party has to wait. -/
  | nothing
  /-- There is nothing to take and the party is not allowed to wait. -/
  | refused
  deriving DecidableEq, Repr

namespace Signal

/-- The largest count of a signal. -/
def largest : Nat := 2147483647

/-- The count after the signal was set once more. -/
def set (count : Nat) : Except SystemFault Nat :=
  if count < largest then .ok (count + 1) else .error .overflow

/-- Takes one from a count; `mayWait` tells whether waiting is possible at all. -/
def take (mayWait : Bool) (count : Nat) : Taken :=
  match count with
  | left + 1 => .one left
  | 0 => if mayWait then .nothing else .refused

end Signal

/-! ## The shared state -/

/-- The envelope and the counts of the three signals. -/
structure Shared where
  envelope : Envelope
  request : Nat := 0
  response : Nat := 0
  /-- The signal that asks the child to give up. -/
  cancel : Nat := 0
  deriving DecidableEq

end ConsoleLink
