import ConsoleLink.Text.Wide

/-!
# What a wide text field gives back

A text that was stored in a field is read back from it, whatever the field held
before and whatever the text is made of.

* Units: `isHigh_iff` and `isLow_iff` say which units belong to pairs, and
  `zero_mem_ofChar` that only one character has a zero unit.
* Reading: `decode_ofChar_append` reads one character, `decode_ofString` a text,
  and `readField_stored` a field.
* Acceptance: `check_eq_ok_iff` says which texts a field takes.
-/

namespace ConsoleLink.Wide

/-! ## Units -/

theorem isHigh_iff (u : UInt16) : isHigh u = true ↔ 0xD800 ≤ u.toNat ∧ u.toNat ≤ 0xDBFF := by
  simp [isHigh, UInt16.le_iff_toNat_le]

theorem isLow_iff (u : UInt16) : isLow u = true ↔ 0xDC00 ≤ u.toNat ∧ u.toNat ≤ 0xDFFF := by
  simp [isLow, UInt16.le_iff_toNat_le]

theorem isHigh_eq_false_iff (u : UInt16) :
    isHigh u = false ↔ u.toNat < 0xD800 ∨ 0xDBFF < u.toNat := by
  rw [← Bool.not_eq_true, isHigh_iff]
  omega

theorem isLow_eq_false_iff (u : UInt16) :
    isLow u = false ↔ u.toNat < 0xDC00 ∨ 0xDFFF < u.toNat := by
  rw [← Bool.not_eq_true, isLow_iff]
  omega

theorem toNat_highUnit {n : Nat} (hn : n < 0x100000) :
    (highUnit n).toNat = 0xD800 + n / 0x400 := by
  have hlt : 0xD800 + n / 0x400 < 65536 := by omega
  simpa [highUnit] using Nat.mod_eq_of_lt hlt

theorem toNat_lowUnit (n : Nat) : (lowUnit n).toNat = 0xDC00 + n % 0x400 := by
  have hlt : 0xDC00 + n % 0x400 < 65536 := by omega
  simpa [lowUnit] using Nat.mod_eq_of_lt hlt

theorem toNat_toUInt16 {n : Nat} (hn : n < 0x10000) : n.toUInt16.toNat = n := by
  simpa using Nat.mod_eq_of_lt hn

/-- The scalar values: no surrogate, and nothing beyond `0x10FFFF`. -/
theorem toNat_scalar (c : Char) :
    c.toNat < 0xD800 ∨ 0xDFFF < c.toNat ∧ c.toNat < 0x110000 := c.valid

/-- A unit is zero only if it is the unit of the character zero. -/
theorem zero_mem_ofChar (c : Char) : 0 ∈ ofChar c ↔ c = '\x00' := by
  have hscalar := toNat_scalar c
  rw [ofChar]
  split
  · rename_i hsmall
    rw [List.mem_singleton, ← UInt16.toNat_inj, toNat_toUInt16 hsmall, ← Char.toNat_inj]
    exact eq_comm
  · rename_i hlarge
    have hhigh := toNat_highUnit (n := c.toNat - 0x10000) (by omega)
    have hlow := toNat_lowUnit (c.toNat - 0x10000)
    have hc : c ≠ '\x00' := by
      intro h
      simp [h] at hlarge
    simp only [List.mem_cons, List.not_mem_nil, or_false, ← UInt16.toNat_inj, hc, iff_false]
    rw [hhigh, hlow, UInt16.toNat_zero]
    omega

theorem zero_mem_ofString (text : String) : 0 ∈ ofString text ↔ '\x00' ∈ text.toList := by
  simp [ofString, zero_mem_ofChar]

/-! ## Reading -/

/-- A unit outside the surrogates stands for itself, whatever follows. -/
theorem decode_cons_single {u : UInt16} (hhigh : isHigh u = false) (hlow : isLow u = false)
    (us : List UInt16) : decode (u :: us) = Char.ofNat u.toNat :: decode us := by
  cases us with
  | nil => simp [decode, singleChar, hhigh, hlow]
  | cons v us => simp [decode, singleChar, hhigh, hlow]

/-- A pair stands for one character. -/
theorem decode_cons_pair {u v : UInt16} (hhigh : isHigh u = true) (hlow : isLow v = true)
    (us : List UInt16) : decode (u :: v :: us) = pairChar u v :: decode us := by
  simp [decode, hhigh, hlow]

/-- The two units of a character beyond `0xFFFF` give it back. -/
theorem pairChar_units {c : Char} (hc : 0x10000 ≤ c.toNat) :
    pairChar (highUnit (c.toNat - 0x10000)) (lowUnit (c.toNat - 0x10000)) = c := by
  have hscalar := toNat_scalar c
  have hsum : 0x10000 + (0xD800 + (c.toNat - 0x10000) / 0x400 - 0xD800) * 0x400 +
      (0xDC00 + (c.toNat - 0x10000) % 0x400 - 0xDC00) = c.toNat := by omega
  rw [pairChar, toNat_highUnit (by omega), toNat_lowUnit, hsum, Char.ofNat_toNat]

/-- The units of a character are read as that character, whatever follows. -/
theorem decode_ofChar_append (c : Char) (us : List UInt16) :
    decode (ofChar c ++ us) = c :: decode us := by
  have hscalar := toNat_scalar c
  rw [ofChar]
  split
  · rename_i hsmall
    have hunit := toNat_toUInt16 hsmall
    rw [List.singleton_append, decode_cons_single, hunit, Char.ofNat_toNat]
    · rw [isHigh_eq_false_iff, hunit]
      omega
    · rw [isLow_eq_false_iff, hunit]
      omega
  · rename_i hlarge
    rw [List.cons_append, List.singleton_append, decode_cons_pair, pairChar_units (by omega)]
    · rw [isHigh_iff, toNat_highUnit (by omega)]
      omega
    · rw [isLow_iff, toNat_lowUnit]
      omega

/-- A text is read back from its units. -/
theorem decode_ofString (text : String) : decode (ofString text) = text.toList := by
  rw [ofString]
  induction text.toList with
  | nil => rfl
  | cons c cs ih => rw [List.flatMap_cons, decode_ofChar_append, ih]

theorem bne_zero_of_notMem {us : List UInt16} (hus : 0 ∉ us) : ∀ u ∈ us, (u != 0) = true := by
  intro u hu
  have hzero : u ≠ 0 := by
    rintro rfl
    exact hus hu
  simpa using hzero

/-- The content of a field ends where its first zero unit stands. -/
theorem content_append_zero {us : List UInt16} (hus : 0 ∉ us) (rest : List UInt16) :
    content (us ++ 0 :: rest) = us := by
  rw [content, List.takeWhile_append_of_pos (bne_zero_of_notMem hus)]
  simp

theorem content_stored {text : String} (hnul : '\x00' ∉ text.toList) (rest : List UInt16) :
    content (stored text ++ rest) = ofString text := by
  have hunits : 0 ∉ ofString text := fun hzero => hnul ((zero_mem_ofString text).mp hzero)
  rw [stored, List.append_assoc, List.singleton_append, content_append_zero hunits]

/-- A stored text is read back, whatever stands behind its end mark. -/
theorem readField_stored {text : String} (hnul : '\x00' ∉ text.toList) (rest : List UInt16) :
    readField (stored text ++ rest) = text := by
  rw [readField, content_stored hnul, decode_ofString, String.ofList_toList]

/-! ## Acceptance -/

theorem length_stored (text : String) : (stored text).length = length text + 1 := by
  simp [stored, length]

theorem nulPosition_eq_none_iff (text : String) :
    nulPosition text = none ↔ '\x00' ∉ text.toList := by
  rw [nulPosition, List.findIdx?_eq_none_iff, ← zero_mem_ofString]
  constructor
  · intro h hzero
    simpa using h 0 hzero
  · intro h u hu
    have hzero : u ≠ 0 := by
      rintro rfl
      exact h hu
    simpa using hzero

/-- A field takes exactly the texts that hold no zero and are shorter than it. -/
theorem check_eq_ok_iff (field : String) (text : String) (capacity : Nat) :
    check field text capacity = .ok () ↔ '\x00' ∉ text.toList ∧ length text < capacity := by
  rw [← nulPosition_eq_none_iff, check]
  cases nulPosition text with
  | some position => simp
  | none =>
    by_cases hlength : length text < capacity
    · simp [checkCapacity, hlength]
    · simp [checkCapacity, hlength]

end ConsoleLink.Wide
