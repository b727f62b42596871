/-!
# The bytes of an envelope

An envelope is a block of 20500 bytes.  Numbers of more than one byte are
stored with the lowest byte first.

* Words: `bytes16`, `word16`, `bytes32` and `word32` turn words into bytes and back.
* Access: `byteAt` and `put` read and write bytes, and `byteAt_put` says which
  bytes a write changes.
* Words in place: `get16`, `get32`, `units` and the writers beside them.
-/

namespace ConsoleLink

/-! ## Words -/

namespace Word

/-- The two bytes of a 16-bit word. -/
def bytes16 (w : UInt16) : List UInt8 :=
  [w.toNat.toUInt8, (w.toNat / 256).toUInt8]

/-- The 16-bit word of two bytes. -/
def word16 (b₀ b₁ : UInt8) : UInt16 := (b₀.toNat + 256 * b₁.toNat).toUInt16

/-- The four bytes of a 32-bit word. -/
def bytes32 (w : UInt32) : List UInt8 :=
  [w.toNat.toUInt8, (w.toNat / 256).toUInt8, (w.toNat / 65536).toUInt8,
    (w.toNat / 16777216).toUInt8]

/-- The 32-bit word of four bytes. -/
def word32 (b₀ b₁ b₂ b₃ : UInt8) : UInt32 :=
  (b₀.toNat + 256 * b₁.toNat + 65536 * b₂.toNat + 16777216 * b₃.toNat).toUInt32

end Word

/-- A block of 20500 bytes. -/
structure Envelope where
  bytes : Vector UInt8 20500
  deriving DecidableEq

namespace Envelope

/-- The number of bytes of an envelope. -/
def size : Nat := 20500

/-- The envelope in which every byte is zero. -/
def zero : Envelope := ⟨Vector.replicate 20500 0⟩

/-! ## Access -/

/-- The byte at an offset; there is nothing but zeros behind the end. -/
def byteAt (e : Envelope) (i : Nat) : UInt8 := e.bytes[i]?.getD 0

/-- The envelope with one byte changed. -/
def putByte (e : Envelope) (i : Nat) (b : UInt8) : Envelope := ⟨e.bytes.setIfInBounds i b⟩

/-- The envelope with the bytes from an offset on replaced. -/
def put (e : Envelope) (offset : Nat) : List UInt8 → Envelope
  | [] => e
  | b :: rest => put (e.putByte offset b) (offset + 1) rest

/-- `count` bytes from an offset on. -/
def slice (e : Envelope) (offset count : Nat) : List UInt8 :=
  (List.range count).map fun i => e.byteAt (offset + i)

/-- A write changes the byte it names and no other. -/
theorem byteAt_putByte (e : Envelope) (i j : Nat) (b : UInt8) :
    (e.putByte i b).byteAt j = if i = j ∧ i < size then b else e.byteAt j := by
  simp only [byteAt, putByte, size, Vector.getElem?_setIfInBounds]
  by_cases h : i = j
  · subst h
    by_cases hi : i < 20500 <;> simp [hi]
  · simp [h]

/-- A write of several bytes changes those it covers and no other. -/
theorem byteAt_put (e : Envelope) (offset j : Nat) (bs : List UInt8) :
    (e.put offset bs).byteAt j =
      if offset ≤ j ∧ j < offset + bs.length ∧ j < size then bs[j - offset]?.getD 0
      else e.byteAt j := by
  induction bs generalizing e offset with
  | nil =>
    rw [put, if_neg]
    simp
    omega
  | cons b rest ih =>
    rw [put, ih, byteAt_putByte]
    rcases Nat.lt_trichotomy j offset with h | h | h
    · rw [if_neg (by omega), if_neg (by omega), if_neg (by omega)]
    · subst h
      rw [if_neg (by omega)]
      by_cases hj : j < size
      · simp [hj]
      · simp [hj]
    · have hs : j - offset = (j - (offset + 1)) + 1 := by omega
      by_cases hj : j < offset + 1 + rest.length ∧ j < size
      · rw [if_pos (by omega), if_pos (by simp; omega), hs, List.getElem?_cons_succ]
      · rw [if_neg (by omega), if_neg (by omega), if_neg (by simp; omega)]

/-! ## Words in place -/

/-- The 16-bit word at an offset. -/
def get16 (e : Envelope) (i : Nat) : UInt16 := Word.word16 (e.byteAt i) (e.byteAt (i + 1))

/-- The 32-bit word at an offset. -/
def get32 (e : Envelope) (i : Nat) : UInt32 :=
  Word.word32 (e.byteAt i) (e.byteAt (i + 1)) (e.byteAt (i + 2)) (e.byteAt (i + 3))

/-- The envelope with a 32-bit word changed. -/
def put32 (e : Envelope) (i : Nat) (w : UInt32) : Envelope := e.put i (Word.bytes32 w)

/-- Whether the byte at an offset is set to anything but zero. -/
def flag (e : Envelope) (i : Nat) : Bool := e.byteAt i != 0

/-- The envelope with a byte set to one or zero. -/
def putFlag (e : Envelope) (i : Nat) (b : Bool) : Envelope := e.putByte i (if b then 1 else 0)

/-- `count` units from an offset on. -/
def units (e : Envelope) (offset count : Nat) : List UInt16 :=
  (List.range count).map fun i => e.get16 (offset + 2 * i)

/-- The envelope with the units from an offset on replaced. -/
def putUnits (e : Envelope) (offset : Nat) (us : List UInt16) : Envelope :=
  e.put offset (us.flatMap Word.bytes16)

end Envelope

end ConsoleLink
