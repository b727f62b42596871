import ConsoleLink.Json.Reader
import Mathlib.Data.List.Basic

/-!
# Values are read back from their text

A reader that is given the text of a value finds the value and leaves what follows the text.

* `Ends` is what may follow a value: the end, a space, or what ends a member or an element.
* `stringChars_escaped` reads the characters of a string back, whichever they are.
* `readNumber_toDigits` reads a natural number back that fits 64 bits.
* `Finds` is a reader that finds a value in its text, behind any space and before anything that ends
  it: `finds_bool`, `finds_nat` and `finds_null` are such readers.
* `Reads` is a reader that finds a value as it is written, at any level; `reads_text`, `reads_bool`,
  `reads_nat` and `reads_optional` are such readers.
-/

namespace ConsoleLink.Json

/-! ## What stands around a value -/

/-- Only space. -/
def IsBlank (cs : List Char) : Prop := ∀ c ∈ cs, isSpace c = true

/-- What may follow a value. -/
def Ends (rest : List Char) : Prop :=
  ∀ c ∈ rest.head?, isSpace c = true ∨ c = ',' ∨ c = '}' ∨ c = ']'

theorem isBlank_nil : IsBlank [] := nofun

theorem isBlank_space : IsBlank [' '] := by
  intro c hc
  rw [List.mem_singleton.mp hc]
  rfl

theorem isBlank_newline (level : Nat) : IsBlank (Value.newline level) := by
  intro c hc
  rcases List.mem_cons.mp hc with rfl | hspace
  · rfl
  · rw [List.eq_of_mem_replicate hspace]
    rfl

theorem skipSpace_append {space : List Char} (hspace : IsBlank space) (cs : List Char) :
    skipSpace (space ++ cs) = skipSpace cs :=
  List.dropWhile_append_of_pos hspace

theorem skipSpace_cons {c : Char} (hc : isSpace c = false) (cs : List Char) :
    skipSpace (c :: cs) = c :: cs :=
  List.dropWhile_cons_of_neg (by simp [hc])

/-- A character that is no space is found behind any space. -/
theorem skipSpace_before {space : List Char} (hspace : IsBlank space) {c : Char}
    (hc : isSpace c = false) (cs : List Char) : skipSpace (space ++ c :: cs) = c :: cs := by
  rw [skipSpace_append hspace, skipSpace_cons hc]

/-! ## Strings -/

theorem stringChars_quote (done rest : List Char) :
    stringChars done ('"' :: rest) = .ok (done.reverse, rest) := by
  rw [stringChars.eq_def]
  rfl

theorem stringChars_plain {c : Char} (hquote : c ≠ '"') (hbackslash : c ≠ '\\')
    (hcontrol : ¬c.toNat < 0x20) (done rest : List Char) :
    stringChars done (c :: rest) = stringChars (c :: done) rest := by
  rw [stringChars.eq_def]
  simp only [if_neg hquote, if_neg hbackslash, if_neg hcontrol]

theorem stringChars_letter {e x : Char} (hletter : letterEscape? e = some x)
    (done rest : List Char) :
    stringChars done ('\\' :: e :: rest) = stringChars (x :: done) rest := by
  have hother : e ≠ 'u' := by
    rintro rfl
    cases hletter
  rw [stringChars.eq_def]
  simp [hletter, hother]

theorem stringChars_unit {a b c d : Char} {n : Nat} (hword : hexWord? a b c d = some n)
    (hn : n < 0xD800) (done rest : List Char) :
    stringChars done ('\\' :: 'u' :: a :: b :: c :: d :: rest) =
      stringChars (Char.ofNat n :: done) rest := by
  have hlow : ¬(0xDC00 ≤ n ∧ n ≤ 0xDFFF) := by omega
  have hhigh : ¬(0xD800 ≤ n ∧ n ≤ 0xDBFF) := by omega
  rw [stringChars.eq_def]
  simp [hword, hlow, hhigh]

/-- The escape of a control character is read back. -/
theorem hexWord?_hexPair {n : Nat} (hn : n < 0x20) :
    hexWord? '0' '0' (Nat.digitChar (n / 16 % 16)) (Nat.digitChar (n % 16)) = some n := by
  have hall : ∀ n < 0x20,
      hexWord? '0' '0' (Nat.digitChar (n / 16 % 16)) (Nat.digitChar (n % 16)) = some n := by
    decide
  exact hall n hn

theorem stringChars_escaped_cons (done : List Char) (c : Char) (rest : List Char) :
    stringChars done (escaped c ++ rest) = stringChars (c :: done) rest := by
  unfold escaped
  -- Seven characters have an escape of one letter.
  iterate 7
    split
    · subst c
      exact stringChars_letter rfl done rest
  split
  · rename_i hcontrol
    have hword := hexWord?_hexPair hcontrol
    have hunit := stringChars_unit hword (by omega) done rest
    rw [Char.ofNat_toNat] at hunit
    exact hunit
  · rename_i hquote hbackslash _ _ _ _ _ hcontrol
    exact stringChars_plain hquote hbackslash hcontrol done rest

/-- The characters of a string are read back, up to the closing quote. -/
theorem stringChars_escaped (done cs rest : List Char) :
    stringChars done (cs.flatMap escaped ++ '"' :: rest) = .ok (done.reverse ++ cs, rest) := by
  induction cs generalizing done with
  | nil =>
    rw [List.append_nil]
    exact stringChars_quote done rest
  | cons c cs ih =>
    rw [List.flatMap_cons, List.append_assoc, stringChars_escaped_cons, ih, List.reverse_cons,
      List.append_assoc, List.singleton_append]

theorem readString_escaped (s : String) (rest : List Char) :
    readString (s.toList.flatMap escaped ++ '"' :: rest) = .ok (s, rest) := by
  rw [readString, stringChars_escaped]
  simp

/-! ## Numbers -/

theorem le_ofDigitChars (ds : List Char) (value : Nat) : value ≤ Nat.ofDigitChars 10 ds value := by
  induction ds generalizing value with
  | nil => exact Nat.le_refl value
  | cons d rest ih =>
    have hrest := ih (10 * value + digitValue d)
    have hstep : value ≤ 10 * value + digitValue d := by omega
    exact Nat.le_trans hstep hrest

/-- All digits fit if their value does. -/
theorem fit_eq {value : Nat} {ds : List Char} (hfits : Nat.ofDigitChars 10 ds value ≤ largest) :
    fit value ds = (Nat.ofDigitChars 10 ds value, 0) := by
  induction ds generalizing value with
  | nil => rfl
  | cons d rest ih =>
    have hrest : Nat.ofDigitChars 10 rest (10 * value + digitValue d) ≤ largest := hfits
    have hstep := Nat.le_trans (le_ofDigitChars rest _) hrest
    rw [fit, if_pos hstep, ih hrest]
    rfl

/-- A positive number does not begin with a zero. -/
theorem head?_toDigits {n : Nat} (hn : 0 < n) : (Nat.toDigits 10 n).head? ≠ some '0' := by
  induction n using Nat.strongRecOn with
  | _ n ih =>
    by_cases hsmall : n < 10
    · rw [Nat.toDigits_of_lt_base hsmall]
      have hall : ∀ n < 10, 0 < n → [Nat.digitChar n].head? ≠ some '0' := by decide
      exact hall n hsmall hn
    · rw [Nat.toDigits_of_base_le (by omega) (by omega), List.head?_append]
      have hhead := ih (n / 10) (by omega) (by omega)
      cases hdigits : (Nat.toDigits 10 (n / 10)).head? with
      | none => exact absurd (List.head?_eq_none_iff.mp hdigits) Nat.toDigits_ne_nil
      | some d =>
        rw [hdigits] at hhead
        exact hhead

theorem Ends.not_number {c : Char} {rest : List Char} (hends : Ends (c :: rest)) :
    c.isDigit = false ∧ c ≠ '.' ∧ isExponent c = false := by
  rcases hends c rfl with hspace | rfl | rfl | rfl
  · have hcases : c = ' ' ∨ c = '\n' ∨ c = '\t' ∨ c = '\r' := by
      simpa [isSpace, or_assoc] using hspace
    rcases hcases with rfl | rfl | rfl | rfl <;> decide
  all_goals decide

theorem readTail_of_ends (value : Nat) {rest : List Char} (hends : Ends rest) :
    readTail false value 0 rest = .ok (.natural value, rest) := by
  cases rest with
  | nil => rfl
  | cons c more =>
    obtain ⟨-, hpoint, hexponent⟩ := hends.not_number
    simp [readTail, hpoint, hexponent, ofInteger]

/-- No digit follows. -/
def Stops (rest : List Char) : Prop := ∀ c ∈ rest.head?, c.isDigit = false

theorem Ends.stops {rest : List Char} (hends : Ends rest) : Stops rest := by
  intro c hc
  cases rest with
  | nil => cases hc
  | cons c' more =>
    cases hc
    exact hends.not_number.1

theorem digits_append {ds rest : List Char} (hds : ∀ d ∈ ds, d.isDigit = true)
    (hstops : Stops rest) : digits (ds ++ rest) = ds ∧ afterDigits (ds ++ rest) = rest := by
  have hstop : rest.takeWhile Char.isDigit = [] ∧ rest.dropWhile Char.isDigit = rest := by
    cases rest with
    | nil => exact ⟨rfl, rfl⟩
    | cons c more =>
      have hdigit := hstops c rfl
      simp [hdigit]
  unfold digits afterDigits
  rw [List.takeWhile_append_of_pos hds, List.dropWhile_append_of_pos hds, hstop.1, hstop.2,
    List.append_nil]
  exact ⟨rfl, rfl⟩

/-- A positive number begins with a digit other than zero. -/
theorem toDigits_cons {n : Nat} (hn : 0 < n) :
    ∃ d ds, Nat.toDigits 10 n = d :: ds ∧ d ≠ '0' ∧ d.isDigit = true := by
  cases hlist : Nat.toDigits 10 n with
  | nil => exact absurd hlist Nat.toDigits_ne_nil
  | cons d ds =>
    have hmem : d ∈ Nat.toDigits 10 n := by
      rw [hlist]
      exact List.mem_cons_self
    refine ⟨d, ds, rfl, ?_, Nat.isDigit_of_mem_toDigits (by decide) (by decide) hmem⟩
    rintro rfl
    exact head?_toDigits hn (by rw [hlist]; rfl)

/-- A number that fits 64 bits is read back. -/
theorem readNumber_toDigits {n : Nat} (hn : n ≤ largest) {rest : List Char} (hends : Ends rest) :
    readNumber false (Nat.toDigits 10 n ++ rest) = .ok (.natural n, rest) := by
  rcases Nat.eq_zero_or_pos n with rfl | hpos
  · have htail := readTail_of_ends 0 hends
    cases rest with
    | nil => exact htail
    | cons c more =>
      obtain ⟨hdigit, -⟩ := hends.not_number
      simpa [readNumber, Nat.toDigits, Nat.toDigitsCore, hdigit] using htail
  · have hds : ∀ d ∈ Nat.toDigits 10 n, d.isDigit = true := fun d hd =>
      Nat.isDigit_of_mem_toDigits (by decide) (by decide) hd
    obtain ⟨hdigits, hafter⟩ := digits_append hds hends.stops
    have hvalue : Nat.ofDigitChars 10 (Nat.toDigits 10 n) 0 = n :=
      Nat.ofDigitChars_toDigits (by decide) (by decide)
    have hfit : fit 0 (Nat.toDigits 10 n) = (n, 0) := by
      rw [fit_eq (by rw [hvalue]; exact hn), hvalue]
    obtain ⟨d, ds, hlist, hzero, hdigit⟩ := toDigits_cons hpos
    rw [hlist] at hdigits hafter hfit
    rw [hlist, List.cons_append, readNumber.eq_def]
    simp only [if_neg hzero, if_pos hdigit]
    rw [← List.cons_append, hdigits, hafter, hfit]
    exact readTail_of_ends n hends

/-! ## Readers of values -/

/-- A reader finds a value in its text, behind any space and before anything that ends it. -/
def Finds {α : Type} (read : List Char → Except Trouble (α × List Char)) (text : List Char)
    (a : α) : Prop :=
  ∀ space rest, IsBlank space → Ends rest → read (space ++ (text ++ rest)) = .ok (a, rest)

/-- A reader finds a value behind any space, at any level and before anything that ends it. -/
def Reads {α : Type} (read : List Char → Except Trouble (α × List Char)) (v : Value) (a : α) :
    Prop :=
  ∀ space level rest, IsBlank space → Ends rest →
    read (space ++ v.prettyChars level ++ rest) = .ok (a, rest)

theorem reads_of_finds {α : Type} {read : List Char → Except Trouble (α × List Char)} {v : Value}
    {a : α} (hfinds : ∀ level, Finds read (v.prettyChars level) a) : Reads read v a := by
  intro space level rest hspace hends
  rw [List.append_assoc]
  exact hfinds level space rest hspace hends

theorem reads_text (expected s : String) : Reads (readText expected) (.string s) s := by
  intro space level rest hspace hends
  have htext : space ++ (Value.string s).prettyChars level ++ rest =
      space ++ '"' :: (s.toList.flatMap escaped ++ '"' :: rest) := by
    simp [Value.prettyChars, quoted]
  rw [htext, readText, skipSpace_before hspace rfl]
  exact readString_escaped s rest

/-- The text of a boolean. -/
def boolText (b : Bool) : List Char :=
  if b then ['t', 'r', 'u', 'e'] else ['f', 'a', 'l', 's', 'e']

theorem finds_bool (b : Bool) : Finds readBool (boolText b) b := by
  intro space rest hspace hends
  cases b with
  | true =>
    show readBool (space ++ 't' :: 'r' :: 'u' :: 'e' :: rest) = _
    rw [readBool, skipSpace_before hspace rfl]
    rfl
  | false =>
    show readBool (space ++ 'f' :: 'a' :: 'l' :: 's' :: 'e' :: rest) = _
    rw [readBool, skipSpace_before hspace rfl]
    rfl

theorem reads_bool (b : Bool) : Reads readBool (.bool b) b := by
  refine reads_of_finds fun level => ?_
  have htext : (Value.bool b).prettyChars level = boolText b := by
    cases b <;> simp [Value.prettyChars, boolText]
  rw [htext]
  exact finds_bool b

theorem nat_prettyChars (n level : Nat) : (Value.nat n).prettyChars level = Nat.toDigits 10 n := by
  have hnonneg : ¬(Int.ofNat n < 0) := Int.not_lt.mpr (Int.natCast_nonneg n)
  rw [Value.nat, Value.prettyChars, intText, if_neg hnonneg]
  rfl

theorem toDigits_head (n : Nat) :
    ∃ d ds, Nat.toDigits 10 n = d :: ds ∧ d.isDigit = true := by
  rcases Nat.eq_zero_or_pos n with rfl | hpos
  · exact ⟨'0', [], rfl, rfl⟩
  · obtain ⟨d, ds, hlist, -, hdigit⟩ := toDigits_cons hpos
    exact ⟨d, ds, hlist, hdigit⟩

/-- No digit is a space, a sign or the first letter of a word. -/
theorem isSpace_of_isDigit {d : Char} (hdigit : d.isDigit = true) :
    isSpace d = false ∧ d ≠ '-' ∧ d ≠ 'n' := by
  refine ⟨?_, ?_, ?_⟩
  · cases hspace : isSpace d with
    | false => rfl
    | true =>
      have hcases : d = ' ' ∨ d = '\n' ∨ d = '\t' ∨ d = '\r' := by
        simpa [isSpace, or_assoc] using hspace
      rcases hcases with rfl | rfl | rfl | rfl <;> cases hdigit
  · rintro rfl
    cases hdigit
  · rintro rfl
    cases hdigit

theorem finds_nat {expected : String} {bound n : Nat} (hn : n < bound) (hfits : n ≤ largest) :
    Finds (readNat expected bound) (Nat.toDigits 10 n) n := by
  intro space rest hspace hends
  obtain ⟨d, ds, hlist, hdigit⟩ := toDigits_head n
  obtain ⟨hsolid, hminus, -⟩ := isSpace_of_isDigit hdigit
  have hread := readNumber_toDigits hfits hends
  rw [hlist, List.cons_append] at hread
  have hany : readAnyNumber expected (space ++ (Nat.toDigits 10 n ++ rest)) =
      .ok (.natural n, rest) := by
    rw [hlist, List.cons_append, readAnyNumber, skipSpace_before hspace hsolid]
    simp only [if_neg hminus, if_pos hdigit]
    exact hread
  rw [readNat, hany]
  show (if n < bound then _ else _) = _
  rw [if_pos hn]
  rfl

theorem finds_word32 (n : UInt32) : Finds readWord32 (Nat.toDigits 10 n.toNat) n.toNat := by
  have hn := n.toNat_lt
  exact finds_nat hn (by unfold largest; omega)

theorem finds_word64 (n : UInt64) : Finds readWord64 (Nat.toDigits 10 n.toNat) n.toNat := by
  have hn := n.toNat_lt
  exact finds_nat hn (by unfold largest; omega)

theorem reads_nat {read : List Char → Except Trouble (Nat × List Char)} {n : Nat}
    (hfinds : Finds read (Nat.toDigits 10 n) n) : Reads read (.nat n) n := by
  refine reads_of_finds fun level => ?_
  rw [nat_prettyChars]
  exact hfinds

theorem reads_word32 (n : UInt32) : Reads readWord32 (.nat n.toNat) n.toNat :=
  reads_nat (finds_word32 n)

theorem reads_word64 (n : UInt64) : Reads readWord64 (.nat n.toNat) n.toNat :=
  reads_nat (finds_word64 n)

/-- A value that is not null shows this by its first character. -/
def Shows (v : Value) : Prop :=
  ∀ level, ∃ c more, v.prettyChars level = c :: more ∧ isSpace c = false ∧ c ≠ 'n'

theorem shows_string (s : String) : Shows (.string s) := fun _ =>
  ⟨'"', _, by rw [Value.prettyChars]; rfl, rfl, by decide⟩

theorem shows_nat (n : Nat) : Shows (.nat n) := by
  intro level
  obtain ⟨d, ds, hlist, hdigit⟩ := toDigits_head n
  obtain ⟨hsolid, -, hn⟩ := isSpace_of_isDigit hdigit
  exact ⟨d, ds, by rw [nat_prettyChars, hlist], hsolid, hn⟩

theorem finds_null {α : Type} (read : List Char → Except Trouble (α × List Char)) :
    Finds (optional read) ['n', 'u', 'l', 'l'] none := by
  intro space rest hspace hends
  show optional read (space ++ 'n' :: 'u' :: 'l' :: 'l' :: rest) = _
  rw [optional, skipSpace_before hspace rfl]
  rfl

theorem reads_null {α : Type} (read : List Char → Except Trouble (α × List Char)) :
    Reads (optional read) .null none := by
  refine reads_of_finds fun level => ?_
  have htext : Value.null.prettyChars level = ['n', 'u', 'l', 'l'] := by simp [Value.prettyChars]
  rw [htext]
  exact finds_null read

/-- What does not begin as null does is read as a value. -/
theorem optional_value {α : Type} (read : List Char → Except Trouble (α × List Char))
    {space : List Char} (hspace : IsBlank space) {c : Char} (hsolid : isSpace c = false)
    (hn : c ≠ 'n') (cs : List Char) :
    optional read (space ++ c :: cs) =
      (read (c :: cs)).map fun (a, rest) => (some a, rest) := by
  rw [optional, skipSpace_before hspace hsolid]
  simp only [if_neg hn]

theorem reads_some {α : Type} {read : List Char → Except Trouble (α × List Char)} {v : Value}
    {a : α} (hshows : Shows v) (hreads : Reads read v a) : Reads (optional read) v (some a) := by
  intro space level rest hspace hends
  obtain ⟨c, more, htext, hsolid, hn⟩ := hshows level
  have hread := hreads [] level rest isBlank_nil hends
  rw [htext, List.nil_append, List.cons_append] at hread
  rw [htext, List.append_assoc, List.cons_append, optional_value read hspace hsolid hn, hread]
  rfl

/-- An optional value is read back, whether or not it is there. -/
theorem reads_optional {α β : Type} {read : List Char → Except Trouble (α × List Char)}
    {write : β → Value} (value : β → α)
    (hall : ∀ b, Shows (write b) ∧ Reads read (write b) (value b)) (o : Option β) :
    Reads (optional read) (.ofOption write o) (o.map value) := by
  cases o with
  | none => exact reads_null read
  | some b => exact reads_some (hall b).1 (hall b).2

end ConsoleLink.Json
