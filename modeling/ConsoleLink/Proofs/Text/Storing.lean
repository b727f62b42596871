import ConsoleLink.Proofs.Text.Wide

/-!
# How a text is stored in a field

A text goes into the slots of a field unit by unit, and the end mark into the slot behind the last
unit.  Whether there is room for both is known before the first slot is written, so a field holds
all of a text or none of it.

* Refusals: `Refuses` says which fault a text has, and `fits_or_refuses` that it has one unless it
  fits.
* Slots: `fill_eq` is what the slots hold once the units are in them, and how many were filled.
* Fields: `overwrite_of_fits` and `overwrite_of_refuses` are the two ends of a write,
  `overwrite_cases` says that there is no third one, and `readField_overwrite` that the text is read
  back.
* `overwrite_all_or_nothing` puts this together for every field and every text.
-/

namespace ConsoleLink.Wide

variable {field : String} {old : List UInt16} {text : String} {fault : FieldFault}

/-! ## Refusals -/

/-- Why a field refuses a text: it holds a zero, and the units in front of the first one tell where,
or it holds none and has as many units as the field. -/
inductive Refuses (field : String) (capacity : Nat) (text : String) : FieldFault → Prop
  | nul {before after : List Char} (htext : text.toList = before ++ '\x00' :: after)
      (hfirst : '\x00' ∉ before) :
      Refuses field capacity text (.embeddedNul field (length (String.ofList before)))
  | long (hnul : '\x00' ∉ text.toList) (hlong : capacity ≤ length text) :
      Refuses field capacity text (.tooLong field (length text) capacity)

/-- The first zero stands behind the units of the characters before it. -/
theorem nulPosition_of_first {before after : List Char}
    (htext : text.toList = before ++ '\x00' :: after) (hfirst : '\x00' ∉ before) :
    nulPosition text = some (length (String.ofList before)) := by
  have hbefore : (ofString (String.ofList before)).findIdx? (· == 0) = none :=
    (nulPosition_eq_none_iff _).mpr (by rwa [String.toList_ofList])
  have hunits : ofString text =
      ofString (String.ofList before) ++ 0 :: after.flatMap ofChar := by
    rw [ofString, ofString, htext, String.toList_ofList, List.flatMap_append]
    rfl
  rw [nulPosition, hunits, List.findIdx?_append, hbefore, Option.none_or, List.findIdx?_cons,
    if_pos (beq_self_eq_true 0), Option.map_some, Nat.zero_add]
  rfl

/-- A field has a reason to refuse every text that it does not take. -/
theorem fits_or_refuses (field : String) (capacity : Nat) (text : String) :
    ('\x00' ∉ text.toList ∧ length text < capacity) ∨
      ∃ fault, Refuses field capacity text fault := by
  by_cases hnul : '\x00' ∈ text.toList
  · obtain ⟨before, after, htext, hfirst⟩ := List.eq_append_cons_of_mem hnul
    exact Or.inr ⟨_, .nul htext hfirst⟩
  · rcases Nat.lt_or_ge (length text) capacity with hshort | hlong
    · exact Or.inl ⟨hnul, hshort⟩
    · exact Or.inr ⟨_, .long hnul hlong⟩

theorem check_of_refuses {capacity : Nat} (h : Refuses field capacity text fault) :
    check field text capacity = .error fault := by
  cases h with
  | nul htext hfirst => rw [check, nulPosition_of_first htext hfirst]
  | long hnul hlong =>
    rw [check, (nulPosition_eq_none_iff text).mpr hnul]
    exact if_neg (Nat.not_lt.mpr hlong)

/-! ## Slots -/

/-- The first slots hold the units, as far as there are slots, and the others what they held; as
many were filled as there are both. -/
theorem fill_eq (slots us : List UInt16) :
    fill slots us =
      (us.take slots.length ++ slots.drop us.length, min slots.length us.length) := by
  fun_induction fill slots us with
  | case1 slots => simp
  | case2 u us => simp
  | case3 slot slots u us slots' filled hfill ih =>
    rw [hfill, Prod.mk.injEq] at ih
    obtain ⟨rfl, rfl⟩ := ih
    simp [Nat.add_min_add_right]

theorem length_fill (slots us : List UInt16) : (fill slots us).1.length = slots.length := by
  rw [fill_eq, List.length_append, List.length_take, List.length_drop]
  omega

theorem fill_of_le {slots us : List UInt16} (h : us.length ≤ slots.length) :
    fill slots us = (us ++ slots.drop us.length, us.length) := by
  rw [fill_eq, List.take_of_length_le h, Nat.min_eq_right h]

/-! ## Fields -/

theorem overwrite_of_fits (hnul : '\x00' ∉ text.toList) (hlength : length text < old.length) :
    overwrite field old text =
      (ofString text ++ 0 :: old.drop (length text + 1), .ok ()) := by
  -- the end mark takes the first of the slots that no unit went to
  have hend : (ofString text ++ old.drop (length text)).set (length text) 0 =
      ofString text ++ 0 :: old.drop (length text + 1) := by
    rw [List.set_append_right _ _ (Nat.le_refl (length text)), List.drop_eq_getElem_cons hlength,
      show length text - (ofString text).length = 0 from Nat.sub_self _, List.set_cons_zero]
  rw [overwrite, (check_eq_ok_iff _ _ _).mpr ⟨hnul, hlength⟩]
  simp only [fill_of_le (Nat.le_of_lt hlength)]
  rw [← hend]
  rfl

theorem overwrite_of_refuses (h : Refuses field old.length text fault) :
    overwrite field old text = (old, .error fault) := by
  rw [overwrite, check_of_refuses h]

/-- A text is put into a field, or it is refused for a reason and the field is left. -/
theorem overwrite_cases (field : String) (old : List UInt16) (text : String) :
    (('\x00' ∉ text.toList ∧ length text < old.length) ∧
        overwrite field old text =
          (ofString text ++ 0 :: old.drop (length text + 1), .ok ())) ∨
      ∃ fault, Refuses field old.length text fault ∧
        overwrite field old text = (old, .error fault) := by
  rcases fits_or_refuses field old.length text with hfits | ⟨fault, hrefuses⟩
  · exact Or.inl ⟨hfits, overwrite_of_fits hfits.1 hfits.2⟩
  · exact Or.inr ⟨fault, hrefuses, overwrite_of_refuses hrefuses⟩

theorem overwrite_eq_ok_iff (field : String) (old : List UInt16) (text : String) :
    (overwrite field old text).2 = .ok () ↔
      '\x00' ∉ text.toList ∧ length text < old.length := by
  constructor
  · intro hok
    rcases overwrite_cases field old text with ⟨hfits, -⟩ | ⟨fault, -, hput⟩
    · exact hfits
    · rw [hput] at hok
      cases hok
  · rintro ⟨hnul, hlength⟩
    rw [overwrite_of_fits hnul hlength]

theorem overwrite_eq_error_iff :
    (overwrite field old text).2 = .error fault ↔ Refuses field old.length text fault := by
  constructor
  · intro herror
    rcases overwrite_cases field old text with ⟨-, hput⟩ | ⟨fault', hrefuses, hput⟩
    · rw [hput] at herror
      cases herror
    · rw [hput] at herror
      cases herror
      exact hrefuses
  · intro hrefuses
    rw [overwrite_of_refuses hrefuses]

/-- What was put into a field is read back from it. -/
theorem readField_overwrite (hok : (overwrite field old text).2 = .ok ()) :
    readField (overwrite field old text).1 = text := by
  obtain ⟨hnul, hlength⟩ := (overwrite_eq_ok_iff field old text).mp hok
  have hstored := readField_stored hnul (old.drop (length text + 1))
  rw [stored, List.append_assoc, List.singleton_append] at hstored
  rw [overwrite_of_fits hnul hlength, hstored]

/-- A field of any length takes exactly the texts that hold no zero and have fewer units than it
has slots, whatever it holds.  Then it starts with the units of the text, the end mark is put into
the slot behind them, which is there, the slots behind that one hold what they held, and the text is
read back.

A text that is refused leaves the field.  The fault names the position of the first zero if there is
one, however long the text is, and else how many units the text has and how many slots the field. -/
theorem overwrite_all_or_nothing (field : String) (old : List UInt16) (text : String) :
    ((overwrite field old text).2 = .ok () ↔
        '\x00' ∉ text.toList ∧ length text < old.length) ∧
      ((overwrite field old text).2 = .ok () →
        (overwrite field old text).1 = ofString text ++ 0 :: old.drop (length text + 1) ∧
          (fill old (ofString text)).2 < (fill old (ofString text)).1.length ∧
            readField (overwrite field old text).1 = text) ∧
      ∀ fault,
        ((overwrite field old text).2 = .error fault ↔ Refuses field old.length text fault) ∧
          ((overwrite field old text).2 = .error fault → (overwrite field old text).1 = old) := by
  refine ⟨overwrite_eq_ok_iff field old text, fun hok => ?_,
    fun fault => ⟨overwrite_eq_error_iff, fun herror => ?_⟩⟩
  · obtain ⟨hnul, hlength⟩ := (overwrite_eq_ok_iff field old text).mp hok
    refine ⟨?_, ?_, readField_overwrite hok⟩
    · rw [overwrite_of_fits hnul hlength]
    · rw [length_fill, fill_of_le (Nat.le_of_lt hlength)]
      exact hlength
  · rw [overwrite_of_refuses (overwrite_eq_error_iff.mp herror)]

/-- The end mark may stand in the last slot. -/
example : overwrite "title" [7, 7, 7, 7] "a😀" = ([0x61, 0xD83D, 0xDE00, 0], .ok ()) := rfl

/-- A zero is reported also of a text that is too long. -/
example : overwrite "title" [7, 7] "😀\x00" = ([7, 7], .error (.embeddedNul "title" 2)) :=
  rfl

end ConsoleLink.Wide
