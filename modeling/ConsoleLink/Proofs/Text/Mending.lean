import ConsoleLink.Proofs.Text.Storing
import Mathlib.Data.List.TakeWhile

/-!
# What the text of any units is worth

A field can hold units that no text has: a surrogate without its partner reads as the
replacement character.  That character is one unit, too, so the text of a field has as many units
as there were, and each of them stands where it stood.

* `mend` are the units as a text would have them; `ofChars_decode` says that they are those of
  the text that is read.
* `replaceUnpaired` says position by position which units are replaced.  No unit is in two pairs,
  so that `mend_eq_replaceUnpaired` can go from left to right.
* `length_readField` and `nul_notMem_readField` are what follows for a field: its text is as
  long as its content, and holds no zero.
* `length_content_lt_iff` tells the fields that end at a zero from those that are full.
* `reading_mends` puts this together for every field.
-/

namespace ConsoleLink.Wide

/-! ## Mending -/

/-- A surrogate on its own as a text has it. -/
def mendUnit (u : UInt16) : UInt16 := if isHigh u || isLow u then 0xFFFD else u

/-- Units with each unpaired surrogate replaced. -/
def mend : List UInt16 → List UInt16
  | [] => []
  | [u] => [mendUnit u]
  | u :: v :: rest =>
    if isHigh u && isLow v then u :: v :: mend rest else mendUnit u :: mend (v :: rest)

theorem length_mend (us : List UInt16) : (mend us).length = us.length := by
  fun_induction mend us with
  | case1 => rfl
  | case2 u => rfl
  | case3 u v rest hpair ih => simp only [List.length_cons, ih]
  | case4 u v rest hpair ih => simp only [List.length_cons, ih]

theorem mendUnit_ne_zero {u : UInt16} (hu : u ≠ 0) : mendUnit u ≠ 0 := by
  unfold mendUnit
  split
  · decide
  · exact hu

theorem zero_notMem_mend {us : List UInt16} (hus : 0 ∉ us) : 0 ∉ mend us := by
  fun_induction mend us with
  | case1 => exact hus
  | case2 u =>
    have hu : u ≠ 0 := by
      rintro rfl
      exact hus List.mem_cons_self
    simpa using (mendUnit_ne_zero hu).symm
  | case3 u v rest hpair ih =>
    simp only [List.mem_cons, not_or] at hus ⊢
    exact ⟨hus.1, hus.2.1, ih hus.2.2⟩
  | case4 u v rest hpair ih =>
    rw [List.mem_cons, not_or] at hus ⊢
    exact ⟨(mendUnit_ne_zero (Ne.symm hus.1)).symm, ih hus.2⟩

/-! ## Pairs -/

/-- A unit that is worth something only in a pair. -/
def isSurrogate (u : UInt16) : Bool := isHigh u || isLow u

/-- A unit that opens a pair stands at a position, and one that closes it behind. -/
def isPairAt (us : List UInt16) (i : Nat) : Bool := us[i]?.any isHigh && us[i + 1]?.any isLow

/-- A surrogate stands at a position where no pair starts, and none starts in front of it. -/
def isUnpaired (us : List UInt16) : Nat → Bool
  | 0 => us[0]?.any isSurrogate && !isPairAt us 0
  | i + 1 => us[i + 1]?.any isSurrogate && !isPairAt us (i + 1) && !isPairAt us i

/-- Units with the replacement character for each surrogate that is in no pair. -/
def replaceUnpaired (us : List UInt16) : List UInt16 :=
  us.mapIdx fun i u => if isUnpaired us i then 0xFFFD else u

theorem isPairAt_zero (u v : UInt16) (us : List UInt16) :
    isPairAt (u :: v :: us) 0 = (isHigh u && isLow v) := rfl

theorem isUnpaired_cons_succ (u : UInt16) (us : List UInt16) (i : Nat) :
    isUnpaired (u :: us) (i + 2) = isUnpaired us (i + 1) := rfl

/-- A unit in front does not matter unless a pair starts with it. -/
theorem isUnpaired_cons {u : UInt16} {us : List UInt16} (h : isPairAt (u :: us) 0 = false)
    (i : Nat) : isUnpaired (u :: us) (i + 1) = isUnpaired us i := by
  cases i with
  | zero =>
    simp only [isUnpaired, h, Bool.not_false, Bool.and_true]
    rfl
  | succ i => rfl

/-- No pair starts with a unit that closes one. -/
theorem isHigh_of_isLow {u : UInt16} (h : isLow u = true) : isHigh u = false := by
  rw [isLow_iff] at h
  rw [isHigh_eq_false_iff]
  omega

/-- A unit that starts no pair is replaced if it is a surrogate, and what follows does not depend
on it. -/
theorem replaceUnpaired_cons {u : UInt16} {us : List UInt16} (h : isPairAt (u :: us) 0 = false) :
    replaceUnpaired (u :: us) = mendUnit u :: replaceUnpaired us := by
  have hfirst : isUnpaired (u :: us) 0 = (isHigh u || isLow u) := by
    rw [isUnpaired, h, Bool.not_false, Bool.and_true]
    rfl
  rw [replaceUnpaired, List.mapIdx_cons, hfirst]
  simp only [isUnpaired_cons h]
  rfl

/-- The units of a pair are kept, and what follows does not depend on them. -/
theorem replaceUnpaired_pair {u v : UInt16} (hhigh : isHigh u = true) (hlow : isLow v = true)
    (us : List UInt16) : replaceUnpaired (u :: v :: us) = u :: v :: replaceUnpaired us := by
  have hpair : isPairAt (u :: v :: us) 0 = true := by
    rw [isPairAt_zero, hhigh, hlow]
    rfl
  -- the unit that closes this pair cannot open the next one
  have hnext : isPairAt (v :: us) 0 = false := by
    rw [isPairAt, List.getElem?_cons_zero, Option.any_some, isHigh_of_isLow hlow, Bool.false_and]
  have hfirst : isUnpaired (u :: v :: us) 0 = false := by
    rw [isUnpaired, hpair, Bool.not_true, Bool.and_false]
  have hsecond : isUnpaired (u :: v :: us) 1 = false := by
    rw [isUnpaired, hpair, Bool.not_true, Bool.and_false]
  have hlater (i : Nat) : isUnpaired (u :: v :: us) (i + 2) = isUnpaired us i :=
    (isUnpaired_cons_succ u (v :: us) i).trans (isUnpaired_cons hnext i)
  rw [replaceUnpaired, List.mapIdx_cons, List.mapIdx_cons, hfirst, hsecond]
  simp only [hlater]
  rfl

/-- Mending from left to right replaces the surrogates that are in no pair, and only them. -/
theorem mend_eq_replaceUnpaired (us : List UInt16) : mend us = replaceUnpaired us := by
  fun_induction mend us with
  | case1 => rfl
  | case2 u =>
    have hpair : isPairAt [u] 0 = false := Bool.and_false _
    exact (replaceUnpaired_cons hpair).symm
  | case3 u v rest hpair ih =>
    obtain ⟨hhigh, hlow⟩ := Bool.and_eq_true_iff.mp hpair
    rw [replaceUnpaired_pair hhigh hlow, ih]
  | case4 u v rest hpair ih =>
    have hnone : isPairAt (u :: v :: rest) 0 = false := Bool.eq_false_iff.mpr hpair
    rw [replaceUnpaired_cons hnone, ih]

/-- Of two units that may open a pair, the second one does. -/
example : replaceUnpaired [0xD83D, 0xD83D, 0xDE00, 0xDE00, 0xD800] =
    [0xFFFD, 0xD83D, 0xDE00, 0xFFFD, 0xFFFD] := by decide

/-! ## The units of what is read -/

theorem toNat_ofNat {n : Nat} (hvalid : n.isValidChar) : (Char.ofNat n).toNat = n := by
  rw [Char.ofNat, dif_pos hvalid]
  rfl

/-- A scalar value below `0x10000` is one unit. -/
theorem ofChar_ofNat_small {n : Nat} (hvalid : n.isValidChar) (hsmall : n < 0x10000) :
    ofChar (Char.ofNat n) = [n.toUInt16] := by
  rw [ofChar, toNat_ofNat hvalid, if_pos hsmall]

theorem ofChar_singleChar (u : UInt16) : ofChar (singleChar u) = [mendUnit u] := by
  unfold singleChar mendUnit
  split
  · rfl
  · rename_i hsurrogate
    have hrange : u.toNat < 0xD800 ∨ 0xDFFF < u.toNat := by
      simp only [Bool.or_eq_true, isHigh_iff, isLow_iff] at hsurrogate
      omega
    have hlt : u.toNat < 0x10000 := u.toNat_lt
    have hvalid : u.toNat.isValidChar := hrange.imp id fun h => ⟨h, by omega⟩
    rw [ofChar_ofNat_small hvalid hlt]
    exact congrArg (fun w => [w]) (by simp)

/-- A pair of units is the one of the character that it reads as. -/
theorem ofChar_pairChar {u v : UInt16} (hhigh : isHigh u = true) (hlow : isLow v = true) :
    ofChar (pairChar u v) = [u, v] := by
  rw [isHigh_iff] at hhigh
  rw [isLow_iff] at hlow
  have hscalar : (pairChar u v).toNat =
      0x10000 + (u.toNat - 0xD800) * 0x400 + (v.toNat - 0xDC00) :=
    toNat_ofNat (Or.inr ⟨by omega, by omega⟩)
  have hfirst : highUnit ((pairChar u v).toNat - 0x10000) = u := by
    rw [← UInt16.toNat_inj, toNat_highUnit (by omega), hscalar]
    omega
  have hsecond : lowUnit ((pairChar u v).toNat - 0x10000) = v := by
    rw [← UInt16.toNat_inj, toNat_lowUnit, hscalar]
    omega
  rw [ofChar, if_neg (by omega), hfirst, hsecond]

/-- The text that is read has the units that were there, mended. -/
theorem ofChars_decode (us : List UInt16) : (decode us).flatMap ofChar = mend us := by
  fun_induction decode us with
  | case1 => rfl
  | case2 u => simp only [List.flatMap_cons, List.flatMap_nil, ofChar_singleChar, mend]; rfl
  | case3 u v rest hpair ih =>
    obtain ⟨hhigh, hlow⟩ : isHigh u = true ∧ isLow v = true := by simpa using hpair
    rw [List.flatMap_cons, ofChar_pairChar hhigh hlow, ih, mend, if_pos hpair]
    rfl
  | case4 u v rest hpair ih =>
    rw [List.flatMap_cons, ofChar_singleChar, ih, mend, if_neg hpair]
    rfl

/-! ## Fields -/

theorem ofString_readField (field : List UInt16) :
    ofString (readField field) = mend (content field) := by
  rw [ofString, readField, String.toList_ofList, ofChars_decode]

/-- The text of a field is as long as what stands before its first zero. -/
theorem length_readField (field : List UInt16) :
    length (readField field) = (content field).length := by
  rw [length, ofString_readField, length_mend]

theorem zero_notMem_content (field : List UInt16) : 0 ∉ content field := fun hzero => by
  simpa using List.mem_takeWhile_imp hzero

theorem nul_notMem_readField (field : List UInt16) : '\x00' ∉ (readField field).toList := by
  rw [← zero_mem_ofString, ofString_readField]
  exact zero_notMem_mend (zero_notMem_content field)

/-- Without a zero, a field is full. -/
theorem content_eq_self {field : List UInt16} (hzero : 0 ∉ field) : content field = field := by
  rw [content, List.takeWhile_eq_self_iff]
  exact bne_zero_of_notMem hzero

/-- What stands before the first zero leaves room for an end mark exactly if there is a zero. -/
theorem length_content_lt_iff (field : List UInt16) :
    (content field).length < field.length ↔ 0 ∈ field := by
  have hprefix : content field <+: field := List.takeWhile_prefix _
  constructor
  · intro hlt
    refine Decidable.byContradiction fun hzero => ?_
    rw [content_eq_self hzero] at hlt
    omega
  · intro hzero
    refine Nat.lt_of_le_of_ne hprefix.length_le fun hlength => ?_
    rw [← hprefix.eq_of_length hlength] at hzero
    exact zero_notMem_content field hzero

/-- What stands behind the first zero is not read. -/
theorem readField_content_append (field rest : List UInt16) :
    readField (content field ++ 0 :: rest) = readField field := by
  rw [readField, readField, content_append_zero (zero_notMem_content field)]

/-- The text of a field can be stored there again exactly if the field held an end mark. -/
theorem overwrite_readField_iff (label : String) (field : List UInt16) :
    (overwrite label field (readField field)).2 = .ok () ↔ 0 ∈ field := by
  rw [overwrite_eq_ok_iff, length_readField, length_content_lt_iff]
  exact and_iff_right (nul_notMem_readField field)

/-- Of the units of a field, those before the first zero are read, whatever stands behind it, and
all of them if there is none.  The text has no zero and as many units as were read: they are the
same, except that the replacement character stands for each surrogate that is in no pair.  So the
text can be stored in its field again exactly if there was a zero, and then it is read there
again. -/
theorem reading_mends (label : String) (field : List UInt16) :
    (∀ rest, readField (content field ++ 0 :: rest) = readField field) ∧
      '\x00' ∉ (readField field).toList ∧
      length (readField field) = (content field).length ∧
      ofString (readField field) = replaceUnpaired (content field) ∧
      ((overwrite label field (readField field)).2 = .ok () ↔ 0 ∈ field) ∧
      ((overwrite label field (readField field)).2 = .ok () →
        readField (overwrite label field (readField field)).1 = readField field) := by
  refine ⟨readField_content_append field, nul_notMem_readField field, length_readField field, ?_,
    overwrite_readField_iff label field, fun hok => readField_overwrite hok⟩
  rw [ofString_readField, mend_eq_replaceUnpaired]

end ConsoleLink.Wide
