import ConsoleLink.Envelope

/-!
# Shared memory

A region of shared memory begins with an envelope.  A channel's region is larger
than that; the bytes behind the envelope are kept one by one, as nobody uses them.
-/

namespace ConsoleLink

/-- A region of shared memory. -/
structure Region where
  size : Nat
  envelope : Envelope := .zero
  /-- The bytes behind the envelope that are not zero, the latest first. -/
  beyond : List (Nat × UInt8) := []

/-- Bytes for shared memory, each part with its offset. -/
abbrev Message := List (Nat × List UInt8)

namespace Region

/-- The number of bytes of a channel's region. -/
def channelSize : Nat := 32768

/-- The byte at an offset. -/
def byteAt (r : Region) (i : Nat) : UInt8 :=
  if i < Envelope.size then r.envelope.byteAt i else (r.beyond.lookup i).getD 0

/-- The region with a byte changed. -/
def putByte (r : Region) (i : Nat) (b : UInt8) : Region :=
  if i < Envelope.size then { r with envelope := r.envelope.putByte i b }
  else { r with beyond := (i, b) :: r.beyond }

/-- The region with the bytes from an offset on replaced. -/
def put (r : Region) (offset : Nat) : List UInt8 → Region
  | [] => r
  | b :: rest => put (r.putByte offset b) (offset + 1) rest

/-- `count` bytes from an offset on. -/
def slice (r : Region) (offset count : Nat) : List UInt8 :=
  (List.range count).map fun i => r.byteAt (offset + i)

/-- The region with a message put into it. -/
def putMessage (r : Region) (m : Message) : Region :=
  m.foldl (fun r part => r.put part.1 part.2) r

end Region

end ConsoleLink
