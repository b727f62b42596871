/-!
# Bytes in hexadecimal

* `Hex.encode` writes bytes, two digits each.
* `Hex.decode` reads them; a digit without a partner at the end is passed over.
-/

namespace ConsoleLink.Hex

/-- The value of a digit. -/
def digit (c : Char) : Nat :=
  if c.isDigit then c.toNat - '0'.toNat else c.toLower.toNat - 'a'.toNat + 10

/-- The two digits of a byte. -/
def pair (b : UInt8) : List Char := [Nat.digitChar (b.toNat / 16), Nat.digitChar (b.toNat % 16)]

/-- Bytes in hexadecimal. -/
def encode (bytes : List UInt8) : String := String.ofList (bytes.flatMap pair)

/-- The bytes of pairs of digits. -/
def decode : List Char → List UInt8
  | a :: b :: rest => (16 * digit a + digit b).toUInt8 :: decode rest
  | _ => []

/-- A byte is read back from its two digits. -/
theorem decode_pair (b : UInt8) (rest : List Char) :
    decode (pair b ++ rest) = b :: decode rest := by
  have h : (16 * digit (Nat.digitChar (b.toNat / 16)) +
      digit (Nat.digitChar (b.toNat % 16))).toUInt8 = b := by
    have value : ∀ n < 16, digit (Nat.digitChar n) = n := by decide
    rw [value _ (by have := b.toNat_lt; omega), value _ (by omega), Nat.div_add_mod]
    simp
  simp [pair, decode, h]

/-- Bytes are read back from what is written for them. -/
theorem decode_encode (bytes : List UInt8) : decode (encode bytes).toList = bytes := by
  simp only [encode, String.toList_ofList]
  induction bytes with
  | nil => rfl
  | cons b rest ih => rw [List.flatMap_cons, decode_pair, ih]

end ConsoleLink.Hex
