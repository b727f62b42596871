import ConsoleLink.Envelope

/-!
# Reading what was written

Every field of an envelope is read through its bytes, so a read after a write
gives either what was written or what stood there before.

* Words: `word16_bytes16` and `word32_bytes32` turn bytes back into words.
* The same place: `get32_put32`, `flag_putFlag`, `getInt_putInt` and
  `units_putUnits` read back what was written.
* Another place: `get32_congr`, `flag_congr` and `units_congr` say on which
  bytes a read depends, `byteAt_put32_of_ne` and its companions which bytes a
  write leaves.  The `_of_ne` lemmas below put the two together; each asks
  that the field read and the field written do not overlap.
-/

namespace ConsoleLink

/-! ## Words -/

namespace Word

theorem word16_bytes16 (w : UInt16) :
    word16 w.toNat.toUInt8 (w.toNat / 256).toUInt8 = w := by
  have hw : w.toNat < 65536 := w.toNat_lt
  rw [← UInt16.toNat_inj, word16]
  simp only [Nat.toUInt8_eq, Nat.toUInt16_eq, UInt8.toNat_ofNat', UInt16.toNat_ofNat']
  omega

theorem word32_bytes32 (w : UInt32) :
    word32 w.toNat.toUInt8 (w.toNat / 256).toUInt8 (w.toNat / 65536).toUInt8
      (w.toNat / 16777216).toUInt8 = w := by
  have hw : w.toNat < 4294967296 := w.toNat_lt
  rw [← UInt32.toNat_inj, word32]
  simp only [Nat.toUInt8_eq, Nat.toUInt32_eq, UInt8.toNat_ofNat', UInt32.toNat_ofNat']
  omega

theorem length_flatMap_bytes16 (us : List UInt16) :
    (us.flatMap bytes16).length = 2 * us.length := by
  induction us with
  | nil => rfl
  | cons u us ih =>
    simp only [List.flatMap_cons, List.length_append, ih, List.length_cons, bytes16,
      List.length_nil]
    omega

/-- The two bytes of unit `k` stand at `2 * k` and behind. -/
theorem getElem?_flatMap_bytes16 (us : List UInt16) (k : Nat) :
    (us.flatMap bytes16)[2 * k]? = us[k]?.map (·.toNat.toUInt8) ∧
      (us.flatMap bytes16)[2 * k + 1]? = us[k]?.map fun u => (u.toNat / 256).toUInt8 := by
  induction us generalizing k with
  | nil => simp
  | cons u us ih =>
    cases k with
    | zero => simp [bytes16]
    | succ k =>
      have hk : 2 * (k + 1) = 2 * k + 1 + 1 := by omega
      simpa [bytes16, hk] using ih k

end Word

namespace Envelope

/-! ## Which bytes a write leaves -/

theorem byteAt_put_of_ne (e : Envelope) {offset j : Nat} {bs : List UInt8}
    (h : j < offset ∨ offset + bs.length ≤ j) : (e.put offset bs).byteAt j = e.byteAt j := by
  rw [byteAt_put, if_neg (by omega)]

theorem byteAt_put32_of_ne (e : Envelope) {i j : Nat} (w : UInt32)
    (h : j < i ∨ i + 4 ≤ j) : (e.put32 i w).byteAt j = e.byteAt j :=
  byteAt_put_of_ne e h

theorem byteAt_putFlag_of_ne (e : Envelope) {i j : Nat} (b : Bool) (h : j ≠ i) :
    (e.putFlag i b).byteAt j = e.byteAt j := by
  rw [putFlag, byteAt_putByte, if_neg (by omega)]

theorem byteAt_putUnits_of_ne (e : Envelope) {offset j : Nat} {us : List UInt16}
    (h : j < offset ∨ offset + 2 * us.length ≤ j) :
    (e.putUnits offset us).byteAt j = e.byteAt j := by
  apply byteAt_put_of_ne
  rw [Word.length_flatMap_bytes16]
  exact h

/-! ## On which bytes a read depends -/

theorem get32_congr {e e' : Envelope} {i : Nat}
    (h : ∀ j, i ≤ j → j < i + 4 → e'.byteAt j = e.byteAt j) : e'.get32 i = e.get32 i := by
  rw [get32, get32, h i, h (i + 1), h (i + 2), h (i + 3)] <;> omega

theorem flag_congr {e e' : Envelope} {i : Nat} (h : e'.byteAt i = e.byteAt i) :
    e'.flag i = e.flag i := by
  rw [flag, flag, h]

theorem units_congr {e e' : Envelope} {offset count : Nat}
    (h : ∀ j, offset ≤ j → j < offset + 2 * count → e'.byteAt j = e.byteAt j) :
    e'.units offset count = e.units offset count := by
  apply List.map_congr_left
  intro k hk
  have hk : k < count := List.mem_range.mp hk
  rw [get16, get16, h _ (by omega) (by omega), h _ (by omega) (by omega)]

/-! ## Reads of another field -/

section Elsewhere

variable (e : Envelope) {i j offset count : Nat} {us : List UInt16}

theorem get32_put32_of_ne (w : UInt32) (h : i + 4 ≤ j ∨ j + 4 ≤ i) :
    (e.put32 j w).get32 i = e.get32 i :=
  get32_congr fun k _ _ => byteAt_put32_of_ne e w (by omega)

theorem get32_putFlag_of_ne (b : Bool) (h : i + 4 ≤ j ∨ j + 1 ≤ i) :
    (e.putFlag j b).get32 i = e.get32 i :=
  get32_congr fun k _ _ => byteAt_putFlag_of_ne e b (by omega)

theorem flag_put32_of_ne (w : UInt32) (h : i + 1 ≤ j ∨ j + 4 ≤ i) :
    (e.put32 j w).flag i = e.flag i :=
  flag_congr (byteAt_put32_of_ne e w (by omega))

theorem flag_putFlag_of_ne (b : Bool) (h : i + 1 ≤ j ∨ j + 1 ≤ i) :
    (e.putFlag j b).flag i = e.flag i :=
  flag_congr (byteAt_putFlag_of_ne e b (by omega))

theorem units_put32_of_ne (w : UInt32) (h : offset + 2 * count ≤ j ∨ j + 4 ≤ offset) :
    (e.put32 j w).units offset count = e.units offset count :=
  units_congr fun k _ _ => byteAt_put32_of_ne e w (by omega)

theorem units_putFlag_of_ne (b : Bool) (h : offset + 2 * count ≤ j ∨ j + 1 ≤ offset) :
    (e.putFlag j b).units offset count = e.units offset count :=
  units_congr fun k _ _ => byteAt_putFlag_of_ne e b (by omega)

theorem units_putUnits_of_ne (h : offset + 2 * count ≤ i ∨ i + 2 * us.length ≤ offset) :
    (e.putUnits i us).units offset count = e.units offset count :=
  units_congr fun k _ _ => byteAt_putUnits_of_ne e (by omega)

end Elsewhere

/-! ## Reads of the same field -/

/-- A word is read back. -/
theorem get32_put32 (e : Envelope) {i : Nat} (w : UInt32) (h : i + 4 ≤ 20500) :
    (e.put32 i w).get32 i = w := by
  have hbyte : ∀ k, k < 4 → (e.put32 i w).byteAt (i + k) = (Word.bytes32 w)[k]?.getD 0 := by
    intro k hk
    rw [put32, byteAt_put, if_pos, Nat.add_sub_cancel_left]
    simp only [Word.bytes32, List.length_cons, List.length_nil, size]
    omega
  have h₀ := hbyte 0 (by omega)
  have h₁ := hbyte 1 (by omega)
  have h₂ := hbyte 2 (by omega)
  have h₃ := hbyte 3 (by omega)
  rw [Nat.add_zero] at h₀
  rw [get32, h₀, h₁, h₂, h₃]
  exact Word.word32_bytes32 w

/-- A flag is read back. -/
theorem flag_putFlag (e : Envelope) {i : Nat} (b : Bool) (h : i + 1 ≤ 20500) :
    (e.putFlag i b).flag i = b := by
  have hi : i < size := by
    rw [size]
    omega
  rw [flag, putFlag, byteAt_putByte, if_pos ⟨rfl, hi⟩]
  cases b <;> rfl

/-- A signed word is read back. -/
theorem getInt_putInt (e : Envelope) {i : Nat} (v : Int32) (h : i + 4 ≤ 20500) :
    (e.putInt i v).getInt i = v := by
  rw [getInt, putInt, get32_put32 e _ h]
  exact Int32.toInt32_toUInt32 v

/-- A unit of a field holds what was written there, or else what stood there before. -/
theorem get16_putUnits (e : Envelope) {offset k : Nat} (us : List UInt16)
    (h : offset + 2 * k + 2 ≤ 20500) :
    (e.putUnits offset us).get16 (offset + 2 * k) =
      us[k]?.getD (e.get16 (offset + 2 * k)) := by
  obtain ⟨hlow, hhigh⟩ := Word.getElem?_flatMap_bytes16 us k
  have hlength := Word.length_flatMap_bytes16 us
  by_cases hk : k < us.length
  · have hunit : us[k]? = some us[k] := List.getElem?_eq_getElem hk
    have h₀ : offset + 2 * k - offset = 2 * k := by omega
    have h₁ : offset + 2 * k + 1 - offset = 2 * k + 1 := by omega
    rw [get16, putUnits, byteAt_put, byteAt_put, if_pos (by rw [size]; omega),
      if_pos (by rw [size]; omega), h₀, h₁, hlow, hhigh, hunit]
    exact Word.word16_bytes16 us[k]
  · rw [List.getElem?_eq_none (by omega), get16, byteAt_putUnits_of_ne e (by omega),
      byteAt_putUnits_of_ne e (by omega)]
    rfl

/-- A field holds the units that were written, then those that stood there before. -/
theorem units_putUnits (e : Envelope) {offset count : Nat} (us : List UInt16)
    (hcount : us.length ≤ count) (h : offset + 2 * count ≤ 20500) :
    (e.putUnits offset us).units offset count =
      us ++ (e.units offset count).drop us.length := by
  apply List.ext_getElem
  · simp [units, hcount]
  · intro k hbound _
    have hk : k < count := by simpa [units] using hbound
    have hget : ((e.putUnits offset us).units offset count)[k] =
        us[k]?.getD (e.get16 (offset + 2 * k)) := by
      simpa [units] using get16_putUnits e us (k := k) (by omega)
    rw [hget]
    by_cases hus : k < us.length
    · simp [List.getElem_append_left hus, List.getElem?_eq_getElem hus]
    · have hback : us.length + (k - us.length) = k := by omega
      simp [List.getElem_append_right (Nat.not_lt.mp hus), units, hus, hback]

end Envelope

end ConsoleLink
