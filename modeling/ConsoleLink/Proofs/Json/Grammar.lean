import ConsoleLink.Proofs.Json.Scalars
import Mathlib.Data.List.DropRight

/-!
# The texts of values

Which texts are values is said by a grammar, without any reader.

* `IsNumber` and `IsString` are the texts of numbers and, between their quotes, of strings.
  `Grammatical` are those of values, and of what stands inside lists and objects.
* `Spells` are the characters of a string that denotes a text; not every string does.
* `skipNumber_of_isUnsigned` and `skipString_of_isString` run over numbers and strings, and
  `stringChars_of_spells` finds the text that a string denotes; `Quotes.finds` is a reader of it.
* `Passes` is what it means to run over a text in rounds, and `Grammatical.passes` proves it, one
  case for each rule.  `skip_of_grammatical` is the result: whatever a value is, `skip` runs over
  its text and no further.
-/

namespace ConsoleLink.Json

/-! ## The grammar -/

/-- The characters of a string between its quotes. -/
inductive IsString : List Char → Prop
  | nil : IsString []
  | plain {c : Char} {cs : List Char} (hquote : c ≠ '"') (hbackslash : c ≠ '\\')
      (hcontrol : ¬c.toNat < 0x20) (tail : IsString cs) : IsString (c :: cs)
  | letter {e x : Char} {cs : List Char} (hletter : letterEscape? e = some x)
      (tail : IsString cs) : IsString ('\\' :: e :: cs)
  | unit {a b c d : Char} {n : Nat} {cs : List Char} (hword : hexWord? a b c d = some n)
      (tail : IsString cs) : IsString ('\\' :: 'u' :: a :: b :: c :: d :: cs)

/-- The characters of a string between its quotes, and the text that it denotes: a surrogate stands
for a character only as half of a pair. -/
inductive Spells : List Char → List Char → Prop
  | nil : Spells [] []
  | plain {c : Char} {cs s : List Char} (hquote : c ≠ '"') (hbackslash : c ≠ '\\')
      (hcontrol : ¬c.toNat < 0x20) (tail : Spells cs s) : Spells (c :: cs) (c :: s)
  | letter {e x : Char} {cs s : List Char} (hletter : letterEscape? e = some x)
      (tail : Spells cs s) : Spells ('\\' :: e :: cs) (x :: s)
  | unit {a b c d : Char} {n : Nat} {cs s : List Char} (hword : hexWord? a b c d = some n)
      (hscalar : n < 0xD800 ∨ 0xDFFF < n) (tail : Spells cs s) :
      Spells ('\\' :: 'u' :: a :: b :: c :: d :: cs) (Char.ofNat n :: s)
  | pair {a b c d a' b' c' d' : Char} {high low : Nat} {cs s : List Char}
      (hhigh : hexWord? a b c d = some high) (hlow : hexWord? a' b' c' d' = some low)
      (hfirst : 0xD800 ≤ high ∧ high ≤ 0xDBFF) (hsecond : 0xDC00 ≤ low ∧ low ≤ 0xDFFF)
      (tail : Spells cs s) :
      Spells ('\\' :: 'u' :: a :: b :: c :: d :: '\\' :: 'u' :: a' :: b' :: c' :: d' :: cs)
        (pairValue high low :: s)

/-- At least one digit. -/
def IsDigits (cs : List Char) : Prop := cs ≠ [] ∧ ∀ d ∈ cs, d.isDigit = true

/-- The whole part of a number: no zero stands before other digits. -/
inductive IsWhole : List Char → Prop
  | zero : IsWhole ['0']
  | positive {d : Char} {ds : List Char} (hzero : d ≠ '0')
      (hdigits : ∀ d' ∈ d :: ds, d'.isDigit = true) : IsWhole (d :: ds)

/-- The fraction of a number, if it has one. -/
inductive IsFraction : List Char → Prop
  | none : IsFraction []
  | some {ds : List Char} (hdigits : IsDigits ds) : IsFraction ('.' :: ds)

/-- The exponent of a number, if it has one. -/
inductive IsPower : List Char → Prop
  | none : IsPower []
  | some {e : Char} {sign ds : List Char} (hmark : e = 'e' ∨ e = 'E')
      (hsign : sign = [] ∨ sign = ['+'] ∨ sign = ['-']) (hdigits : IsDigits ds) :
      IsPower (e :: (sign ++ ds))

/-- The text of a number behind its sign. -/
inductive IsUnsigned : List Char → Prop
  | of {whole fraction power : List Char} (hwhole : IsWhole whole)
      (hfraction : IsFraction fraction) (hpower : IsPower power) :
      IsUnsigned (whole ++ (fraction ++ power))

/-- The text of a number. -/
inductive IsNumber : List Char → Prop
  | positive {cs : List Char} (unsigned : IsUnsigned cs) : IsNumber cs
  | negative {cs : List Char} (unsigned : IsUnsigned cs) : IsNumber ('-' :: cs)

/-- A value, or what stands inside a list or an object that is not empty. -/
inductive Part
  | value
  | elements
  | members

/-- The texts of values, with space between what they are made of.  Elements and members may begin
with space. -/
inductive Grammatical : Part → List Char → Prop
  | null : Grammatical .value ['n', 'u', 'l', 'l']
  | trueWord : Grammatical .value ['t', 'r', 'u', 'e']
  | falseWord : Grammatical .value ['f', 'a', 'l', 's', 'e']
  | number {cs : List Char} (number : IsNumber cs) : Grammatical .value cs
  | string {cs : List Char} (string : IsString cs) : Grammatical .value ('"' :: (cs ++ ['"']))
  | emptyList {space : List Char} (hspace : IsBlank space) :
      Grammatical .value ('[' :: (space ++ [']']))
  | list {cs space : List Char} (elements : Grammatical .elements cs) (hspace : IsBlank space) :
      Grammatical .value ('[' :: (cs ++ (space ++ [']'])))
  | emptyObject {space : List Char} (hspace : IsBlank space) :
      Grammatical .value ('{' :: (space ++ ['}']))
  | object {cs space : List Char} (members : Grammatical .members cs) (hspace : IsBlank space) :
      Grammatical .value ('{' :: (cs ++ (space ++ ['}'])))
  | element {space v : List Char} (hspace : IsBlank space) (value : Grammatical .value v) :
      Grammatical .elements (space ++ v)
  | elements {space v gap cs : List Char} (hspace : IsBlank space) (value : Grammatical .value v)
      (hgap : IsBlank gap) (more : Grammatical .elements cs) :
      Grammatical .elements (space ++ (v ++ (gap ++ ',' :: cs)))
  | member {before key after space v : List Char} (hbefore : IsBlank before) (string : IsString key)
      (hafter : IsBlank after) (hspace : IsBlank space) (value : Grammatical .value v) :
      Grammatical .members (before ++ '"' :: (key ++ '"' :: (after ++ ':' :: (space ++ v))))
  | members {before key after space v gap cs : List Char} (hbefore : IsBlank before)
      (string : IsString key) (hafter : IsBlank after) (hspace : IsBlank space)
      (value : Grammatical .value v) (hgap : IsBlank gap) (more : Grammatical .members cs) :
      Grammatical .members
        (before ++ '"' :: (key ++ '"' :: (after ++ ':' :: (space ++ (v ++ (gap ++ ',' :: cs))))))

/-! ## Strings -/

/-- A string is run over up to its closing quote. -/
theorem skipString_of_isString {cs : List Char} (string : IsString cs) (rest : List Char) :
    skipString (cs ++ '"' :: rest) = .ok rest := by
  induction string with
  | nil =>
    rw [List.nil_append, skipString.eq_def]
    rfl
  | plain hquote hbackslash hcontrol _ ih =>
    rw [List.cons_append, skipString.eq_def]
    simp only [if_neg hquote, if_neg hbackslash, if_neg hcontrol]
    exact ih
  | @letter e x cs hletter _ ih =>
    have hother : e ≠ 'u' := by
      rintro rfl
      cases hletter
    rw [List.cons_append, List.cons_append, skipString.eq_def]
    simpa [hletter, hother] using ih
  | unit hword _ ih =>
    simp only [List.cons_append]
    rw [skipString.eq_def]
    simpa [hword] using ih

/-- The text of a string is found, up to its closing quote. -/
theorem stringChars_of_spells {cs s : List Char} (spells : Spells cs s) (done rest : List Char) :
    stringChars done (cs ++ '"' :: rest) = .ok (done.reverse ++ s, rest) := by
  induction spells generalizing done with
  | nil =>
    rw [List.append_nil]
    exact stringChars_quote done rest
  | @plain c cs s hquote hbackslash hcontrol _ ih =>
    rw [List.cons_append, stringChars_plain hquote hbackslash hcontrol, ih]
    simp
  | @letter e x cs s hletter _ ih =>
    rw [List.cons_append, List.cons_append, stringChars_letter hletter, ih]
    simp
  | @unit a b c d n cs s hword hscalar _ ih =>
    have hlow : ¬(0xDC00 ≤ n ∧ n ≤ 0xDFFF) := by omega
    have hhigh : ¬(0xD800 ≤ n ∧ n ≤ 0xDBFF) := by omega
    simp only [List.cons_append]
    rw [stringChars.eq_def]
    simp [hword, hlow, hhigh, ih]
  | @pair a b c d a' b' c' d' high low cs s hhigh hlow hfirst hsecond _ ih =>
    have hnotlow : ¬(0xDC00 ≤ high ∧ high ≤ 0xDFFF) := by omega
    simp only [List.cons_append]
    rw [stringChars.eq_def]
    simp [hhigh, hlow, hfirst, hsecond, hnotlow, ih]

theorem readString_of_spells {cs : List Char} {s : String} (spells : Spells cs s.toList)
    (rest : List Char) : readString (cs ++ '"' :: rest) = .ok (s, rest) := by
  rw [readString, stringChars_of_spells spells]
  simp

/-- A character that is neither a quote, nor a backslash, nor a control character. -/
def isPlain (c : Char) : Bool := c != '"' && c != '\\' && !decide (c.toNat < 0x20)

/-- A text of plain characters denotes itself. -/
theorem spells_self {cs : List Char} (hplain : cs.all isPlain = true) : Spells cs cs := by
  induction cs with
  | nil => exact .nil
  | cons c cs ih =>
    simp only [List.all_cons, isPlain, Bool.and_eq_true, bne_iff_ne, Bool.not_eq_true',
      decide_eq_false_iff_not] at hplain
    obtain ⟨⟨⟨hquote, hbackslash⟩, hcontrol⟩, hrest⟩ := hplain
    exact .plain hquote hbackslash hcontrol (ih hrest)

/-- The texts of a string: what stands between the quotes denotes it. -/
def Quotes (s : String) (cs : List Char) : Prop :=
  ∃ key, Spells key s.toList ∧ cs = '"' :: (key ++ ['"'])

theorem Quotes.finds {s : String} {cs : List Char} (quotes : Quotes s cs) (expected : String) :
    Finds (readText expected) cs s := by
  obtain ⟨key, spells, rfl⟩ := quotes
  intro space rest hspace hends
  have htext : '"' :: (key ++ ['"']) ++ rest = '"' :: (key ++ '"' :: rest) := by simp
  rw [htext, readText, skipSpace_before hspace rfl]
  exact readString_of_spells spells rest

/-! ## Numbers -/

theorem IsPower.skip {power : List Char} (hpower : IsPower power) {rest : List Char}
    (hends : Ends rest) : skipExponent? (power ++ rest) = .ok rest := by
  cases hpower with
  | none =>
    cases rest with
    | nil => rfl
    | cons c more =>
      obtain ⟨-, -, hexponent⟩ := hends.not_number
      simp [skipExponent?, hexponent]
  | @some e sign ds hmark hsign hdigits =>
    have hexponent : isExponent e = true := by
      rcases hmark with rfl | rfl <;> rfl
    obtain ⟨hnonempty, hall⟩ := hdigits
    obtain ⟨hread, hafter⟩ := digits_append hall hends.stops
    have hunsigned : skipExponent (ds ++ rest) = .ok rest := by
      cases ds with
      | nil => exact absurd rfl hnonempty
      | cons d ds =>
        have hdigit : d.isDigit = true := hall d List.mem_cons_self
        have hsign : ¬(d = '+' ∨ d = '-') := by
          rintro (rfl | rfl) <;> cases hdigit
        rw [List.cons_append] at hread hafter ⊢
        simp only [skipExponent, if_neg hsign, hread, hafter]
        rfl
    have hsigned (c : Char) (hc : c = '+' ∨ c = '-') :
        skipExponent (c :: (ds ++ rest)) = .ok rest := by
      simp only [skipExponent, if_pos hc, hread, hafter]
      cases ds with
      | nil => exact absurd rfl hnonempty
      | cons d ds => rfl
    rw [List.cons_append, List.append_assoc]
    simp only [skipExponent?, if_pos hexponent]
    rcases hsign with rfl | rfl | rfl
    · exact hunsigned
    · exact hsigned '+' (Or.inl rfl)
    · exact hsigned '-' (Or.inr rfl)

/-- Neither a digit nor a point stands where the fraction is over. -/
theorem IsPower.head {power : List Char} (hpower : IsPower power) {rest : List Char}
    (hends : Ends rest) : ∀ c ∈ (power ++ rest).head?, c.isDigit = false ∧ c ≠ '.' := by
  intro c hc
  cases hpower with
  | none =>
    cases rest with
    | nil => cases hc
    | cons c' more =>
      cases hc
      obtain ⟨hdigit, hpoint, -⟩ := hends.not_number
      exact ⟨hdigit, hpoint⟩
  | some hmark _ _ =>
    cases hc
    rcases hmark with rfl | rfl <;> exact ⟨rfl, by decide⟩

theorem IsFraction.skip {fraction power : List Char} (hfraction : IsFraction fraction)
    (hpower : IsPower power) {rest : List Char} (hends : Ends rest) :
    skipTail (fraction ++ (power ++ rest)) = .ok rest := by
  have hskip := hpower.skip hends
  cases hfraction with
  | none =>
    rw [List.nil_append]
    cases htail : power ++ rest with
    | nil =>
      rw [htail] at hskip
      exact hskip
    | cons c more =>
      have hpoint : c ≠ '.' := (hpower.head hends c (by rw [htail]; rfl)).2
      rw [htail] at hskip
      simp only [skipTail, if_neg hpoint]
      exact hskip
  | @some ds hdigits =>
    obtain ⟨hnonempty, hall⟩ := hdigits
    obtain ⟨hread, hafter⟩ := digits_append hall fun c hc => (hpower.head hends c hc).1
    rw [List.cons_append]
    simp only [skipTail, ↓reduceIte, skipFraction, hread, hafter, hskip]
    cases ds with
    | nil => exact absurd rfl hnonempty
    | cons d ds => rfl

theorem IsFraction.stops {fraction power : List Char} (hfraction : IsFraction fraction)
    (hpower : IsPower power) {rest : List Char} (hends : Ends rest) :
    Stops (fraction ++ (power ++ rest)) := by
  cases hfraction with
  | none => exact fun c hc => (hpower.head hends c hc).1
  | some _ =>
    intro c hc
    cases hc
    rfl

/-- A number is run over up to what ends it. -/
theorem skipNumber_of_isUnsigned {cs : List Char} (unsigned : IsUnsigned cs) {rest : List Char}
    (hends : Ends rest) : skipNumber (cs ++ rest) = .ok rest := by
  obtain @⟨whole, fraction, power, hwhole, hfraction, hpower⟩ := unsigned
  have hskip := hfraction.skip hpower hends
  have hstops := hfraction.stops hpower hends
  rw [List.append_assoc, List.append_assoc]
  cases hwhole with
  | zero =>
    rw [List.cons_append, List.nil_append]
    cases htail : fraction ++ (power ++ rest) with
    | nil =>
      rw [htail] at hskip
      exact hskip
    | cons c more =>
      have hdigit : c.isDigit = false := hstops c (by rw [htail]; rfl)
      rw [htail] at hskip
      simpa [skipNumber, hdigit] using hskip
  | @positive d ds hzero hdigits =>
    have hdigit : d.isDigit = true := hdigits d List.mem_cons_self
    obtain ⟨-, hafter⟩ := digits_append hdigits hstops
    rw [List.cons_append] at hafter ⊢
    simp only [skipNumber, if_neg hzero, if_pos hdigit, hafter, hskip]

/-! ## Values -/

theorem IsUnsigned.exists_digit {cs : List Char} (unsigned : IsUnsigned cs) :
    ∃ d ds, cs = d :: ds ∧ d.isDigit = true := by
  obtain @⟨whole, fraction, power, hwhole, -, -⟩ := unsigned
  cases hwhole with
  | zero => exact ⟨'0', _, rfl, rfl⟩
  | positive hzero hdigits => exact ⟨_, _, rfl, hdigits _ List.mem_cons_self⟩

/-- A value begins with a character that is no space and ends no list. -/
theorem Grammatical.exists_cons {v : List Char} (value : Grammatical .value v) :
    ∃ c more, v = c :: more ∧ isSpace c = false ∧ c ≠ ']' := by
  cases value with
  | number number =>
    cases number with
    | positive unsigned =>
      obtain ⟨d, ds, rfl, hdigit⟩ := unsigned.exists_digit
      refine ⟨d, ds, rfl, (isSpace_of_isDigit hdigit).1, ?_⟩
      rintro rfl
      cases hdigit
    | negative unsigned => exact ⟨'-', _, rfl, rfl, by decide⟩
  | null | trueWord | falseWord | string | emptyList | list | emptyObject | object =>
    exact ⟨_, _, rfl, rfl, by decide⟩

theorem Grammatical.exists_elements {cs : List Char} (elements : Grammatical .elements cs) :
    ∃ space c more, cs = space ++ c :: more ∧ IsBlank space ∧ isSpace c = false ∧ c ≠ ']' := by
  cases elements with
  | @element space v hspace value =>
    obtain ⟨c, more, rfl, hc⟩ := value.exists_cons
    exact ⟨space, c, more, rfl, hspace, hc⟩
  | @elements space v gap cs hspace value hgap more =>
    obtain ⟨c, tail, rfl, hc⟩ := value.exists_cons
    exact ⟨space, c, _, rfl, hspace, hc⟩

theorem Grammatical.exists_members {cs : List Char} (members : Grammatical .members cs) :
    ∃ space more, cs = space ++ '"' :: more ∧ IsBlank space := by
  cases members with
  | member hbefore => exact ⟨_, _, rfl, hbefore⟩
  | members hbefore => exact ⟨_, _, rfl, hbefore⟩

theorem ends_blank {space : List Char} (hspace : IsBlank space) {c : Char}
    (hc : c = ',' ∨ c = '}' ∨ c = ']') (rest : List Char) : Ends (space ++ c :: rest) := by
  intro d hd
  cases space with
  | nil =>
    cases hd
    exact Or.inr hc
  | cons c' space =>
    cases hd
    exact Or.inl (hspace _ List.mem_cons_self)

/-- A key and its colon are run over. -/
theorem skipKey_of_isString {before key after : List Char} (hbefore : IsBlank before)
    (string : IsString key) (hafter : IsBlank after) (rest : List Char) :
    skipKey (before ++ '"' :: (key ++ '"' :: (after ++ ':' :: rest))) = .ok rest := by
  rw [skipKey, skipSpace_before hbefore rfl]
  simp only [↓reduceIte, skipString_of_isString string, bind, Except.bind,
    skipSpace_before hafter (show isSpace ':' = false from rfl)]
  rfl

/-- Space before a value does not matter. -/
theorem skipWithin_value_skipSpace (fuel : Nat) (frames : List Frame) (cs : List Char) :
    skipWithin (fuel + 1) frames .value (skipSpace cs) =
      skipWithin (fuel + 1) frames .value cs := by
  have hsame : skipSpace (skipSpace cs) = skipSpace cs := List.dropWhile_idempotent _ _
  rw [skipWithin, skipWithin, hsame]

/-- What it means to run over a text in rounds, at most three for each character: over a value
inside any frames, over the elements of a list, and over the members of an object from behind the
first key. -/
def Passes : Part → List Char → Prop
  | .value, cs => ∃ n, n < 3 * cs.length ∧ ∀ fuel frames space rest, IsBlank space → Ends rest →
      skipWithin (fuel + (n + 1)) frames .value (space ++ (cs ++ rest)) =
        skipWithin fuel frames .next rest
  | .elements, cs => ∃ n, n < 3 * cs.length ∧ ∀ fuel frames rest, Ends rest →
      skipWithin (fuel + (n + 1)) (.list :: frames) .value (cs ++ rest) =
        skipWithin fuel (.list :: frames) .next rest
  | .members, cs => ∃ n, n < 3 * cs.length ∧ ∀ fuel frames rest, Ends rest →
      ∃ behind, skipKey (cs ++ rest) = .ok behind ∧
        skipWithin (fuel + (n + 1)) (.object :: frames) .value behind =
          skipWithin fuel (.object :: frames) .next rest

theorem passes_atom {c : Char} {tail : List Char} (hsolid : isSpace c = false) (hlist : c ≠ '[')
    (hobject : c ≠ '{')
    (hatom : ∀ rest, Ends rest → skipAtom c (tail ++ rest) = .ok rest) :
    Passes .value (c :: tail) := by
  refine ⟨0, by simp, fun fuel frames space rest hspace hends => ?_⟩
  rw [List.cons_append, skipWithin, skipSpace_before hspace hsolid]
  simp only [if_neg hlist, if_neg hobject, hatom rest hends]

theorem skipAtom_digit {d : Char} (hdigit : d.isDigit = true) (cs : List Char) :
    skipAtom d cs = skipNumber (d :: cs) ∧ isSpace d = false ∧ d ≠ '[' ∧ d ≠ '{' := by
  obtain ⟨hsolid, hminus, hn⟩ := isSpace_of_isDigit hdigit
  have hother : d ≠ 't' ∧ d ≠ 'f' ∧ d ≠ '[' ∧ d ≠ '{' := by
    refine ⟨?_, ?_, ?_, ?_⟩ <;>
      · rintro rfl
        cases hdigit
  obtain ⟨ht, hf, hlist, hobject⟩ := hother
  refine ⟨?_, hsolid, hlist, hobject⟩
  simp only [skipAtom, if_neg hn, if_neg ht, if_neg hf, if_neg hminus, if_pos hdigit]

/-- The round that closes a frame. -/
theorem skipWithin_close (frame : Frame) {space : List Char} (hspace : IsBlank space)
    (fuel : Nat) (frames : List Frame) {expected : Expected} (hexpected : expected ≠ .value)
    (rest : List Char) :
    skipWithin (fuel + 1) (frame :: frames) expected (space ++ frame.closing :: rest) =
      skipWithin fuel frames .next rest := by
  have hsolid : isSpace frame.closing = false := by cases frame <;> rfl
  cases expected with
  | value => exact absurd rfl hexpected
  | first | next =>
    rw [skipWithin.eq_def]
    simp only [skipSpace_before hspace hsolid, ↓reduceIte]

/-- The round of a comma. -/
theorem skipWithin_comma {gap : List Char} (hgap : IsBlank gap) (fuel : Nat) (frames : List Frame)
    (rest : List Char) :
    skipWithin (fuel + 1) (.list :: frames) .next (gap ++ ',' :: rest) =
        skipWithin fuel (.list :: frames) .value rest ∧
      ∀ behind, skipKey rest = .ok behind →
        skipWithin (fuel + 1) (.object :: frames) .next (gap ++ ',' :: rest) =
          skipWithin fuel (.object :: frames) .value behind := by
  refine ⟨?_, fun behind hkey => ?_⟩
  · rw [skipWithin.eq_def]
    simp only [skipSpace_before hgap (show isSpace ',' = false from rfl)]
    rfl
  · rw [skipWithin.eq_def]
    simp only [skipSpace_before hgap (show isSpace ',' = false from rfl)]
    have hopen : ',' ≠ Frame.object.closing := by decide
    have hlater : ¬Expected.next = .first := by decide
    simp only [if_neg hopen, if_neg hlater, ↓reduceIte, hkey]

/-- The round that opens a frame. -/
theorem skipWithin_open {before : List Char} (hbefore : IsBlank before) (fuel : Nat)
    (frames : List Frame) (rest : List Char) :
    skipWithin (fuel + 1) frames .value (before ++ '[' :: rest) =
        skipWithin fuel (.list :: frames) .first rest ∧
      skipWithin (fuel + 1) frames .value (before ++ '{' :: rest) =
        skipWithin fuel (.object :: frames) .first rest := by
  constructor
  · rw [skipWithin, skipSpace_before hbefore rfl]
    rfl
  · rw [skipWithin, skipSpace_before hbefore rfl]
    rfl

/-- The round before the first element. -/
theorem skipWithin_elements {cs : List Char} (elements : Grammatical .elements cs) (fuel : Nat)
    (frames : List Frame) (rest : List Char) :
    skipWithin (fuel + 1 + 1) (.list :: frames) .first (cs ++ rest) =
      skipWithin (fuel + 1) (.list :: frames) .value (cs ++ rest) := by
  obtain ⟨space, c, more, rfl, hspace, hsolid, hopen⟩ := elements.exists_elements
  have hskip : skipSpace (space ++ (c :: more) ++ rest) = c :: (more ++ rest) := by
    rw [List.append_assoc, List.cons_append]
    exact skipSpace_before hspace hsolid _
  have hopen : ¬c = Frame.list.closing := hopen
  rw [← skipWithin_value_skipSpace, skipWithin.eq_def]
  simp only [hskip, if_neg hopen, ↓reduceIte]

/-- The round before the first member. -/
theorem skipWithin_members {cs : List Char} (members : Grammatical .members cs) (fuel : Nat)
    (frames : List Frame) {rest behind : List Char} (hkey : skipKey (cs ++ rest) = .ok behind) :
    skipWithin (fuel + 1) (.object :: frames) .first (cs ++ rest) =
      skipWithin fuel (.object :: frames) .value behind := by
  obtain ⟨space, more, rfl, hspace⟩ := members.exists_members
  have hskip : skipSpace (space ++ ('"' :: more) ++ rest) = '"' :: (more ++ rest) := by
    rw [List.append_assoc, List.cons_append]
    exact skipSpace_before hspace rfl _
  have hsame : skipKey ('"' :: (more ++ rest)) = .ok behind := by
    rw [← hkey, skipKey, skipKey, hskip, skipSpace_cons rfl]
  have hopen : '"' ≠ Frame.object.closing := by decide
  rw [skipWithin.eq_def]
  simp only [hskip, if_neg hopen, ↓reduceIte, hsame]

theorem passes_number {cs : List Char} (number : IsNumber cs) : Passes .value cs := by
  cases number with
  | positive unsigned =>
    have hskip {rest : List Char} (hends : Ends rest) := skipNumber_of_isUnsigned unsigned hends
    obtain ⟨d, ds, rfl, hdigit⟩ := unsigned.exists_digit
    obtain ⟨-, hsolid, hlist, hobject⟩ := skipAtom_digit hdigit ds
    refine passes_atom hsolid hlist hobject fun rest hends => ?_
    rw [(skipAtom_digit hdigit _).1]
    exact hskip hends
  | negative unsigned =>
    exact passes_atom rfl (by decide) (by decide) fun rest hends =>
      skipNumber_of_isUnsigned unsigned hends

theorem passes_list {cs space : List Char} (elements : Grammatical .elements cs)
    (passes : Passes .elements cs) (hspace : IsBlank space) :
    Passes .value ('[' :: (cs ++ (space ++ [']']))) := by
  -- one round for each bracket, one before the first element, and those of the elements
  obtain ⟨n, hn, hrun⟩ := passes
  refine ⟨n + 3, by simp; omega, fun fuel frames before rest hbefore hends => ?_⟩
  rw [List.cons_append, List.append_assoc, List.append_assoc]
  calc
    skipWithin (fuel + (n + 3 + 1)) frames .value
        (before ++ '[' :: (cs ++ (space ++ ([']'] ++ rest))))
    _ = skipWithin (fuel + 1 + n + 1 + 1) (.list :: frames) .first
          (cs ++ (space ++ ']' :: rest)) := by
      rw [show fuel + (n + 3 + 1) = fuel + 1 + n + 1 + 1 + 1 by omega]
      exact (skipWithin_open hbefore _ _ _).1
    _ = skipWithin (fuel + 1 + (n + 1)) (.list :: frames) .value
          (cs ++ (space ++ ']' :: rest)) := skipWithin_elements elements _ _ _
    _ = skipWithin (fuel + 1) (.list :: frames) .next (space ++ ']' :: rest) :=
      hrun _ _ _ (ends_blank hspace (Or.inr (Or.inr rfl)) rest)
    _ = skipWithin fuel frames .next rest :=
      skipWithin_close .list hspace fuel frames (by decide) rest

theorem passes_object {cs space : List Char} (members : Grammatical .members cs)
    (passes : Passes .members cs) (hspace : IsBlank space) :
    Passes .value ('{' :: (cs ++ (space ++ ['}']))) := by
  obtain ⟨n, hn, hrun⟩ := passes
  refine ⟨n + 3, by simp; omega, fun fuel frames before rest hbefore hends => ?_⟩
  rw [List.cons_append, List.append_assoc, List.append_assoc]
  obtain ⟨behind, hkey, hmore⟩ := hrun (fuel + 1) frames (space ++ '}' :: rest)
    (ends_blank hspace (Or.inr (Or.inl rfl)) rest)
  calc
    skipWithin (fuel + (n + 3 + 1)) frames .value
        (before ++ '{' :: (cs ++ (space ++ (['}'] ++ rest))))
    _ = skipWithin (fuel + 1 + (n + 1) + 1) (.object :: frames) .first
          (cs ++ (space ++ '}' :: rest)) := by
      rw [show fuel + (n + 3 + 1) = fuel + 1 + (n + 1) + 1 + 1 by omega]
      exact (skipWithin_open hbefore _ _ _).2
    _ = skipWithin (fuel + 1 + (n + 1)) (.object :: frames) .value behind :=
      skipWithin_members members _ _ hkey
    _ = skipWithin (fuel + 1) (.object :: frames) .next (space ++ '}' :: rest) := hmore
    _ = skipWithin fuel frames .next rest :=
      skipWithin_close .object hspace fuel frames (by decide) rest

theorem passes_elements {space v gap cs : List Char} (hspace : IsBlank space)
    (first : Passes .value v) (hgap : IsBlank gap) (more : Passes .elements cs) :
    Passes .elements (space ++ (v ++ (gap ++ ',' :: cs))) := by
  obtain ⟨n, hn, hrun⟩ := first
  obtain ⟨m, hm, hmore⟩ := more
  refine ⟨n + m + 2, by simp; omega, fun fuel frames rest hends => ?_⟩
  simp only [List.append_assoc, List.cons_append]
  calc
    skipWithin (fuel + (n + m + 2 + 1)) (.list :: frames) .value
        (space ++ (v ++ (gap ++ ',' :: (cs ++ rest))))
    _ = skipWithin (fuel + (m + 1) + 1) (.list :: frames) .next
          (gap ++ ',' :: (cs ++ rest)) := by
      rw [show fuel + (n + m + 2 + 1) = fuel + (m + 1) + 1 + (n + 1) by omega]
      exact hrun _ _ space _ hspace (ends_blank hgap (Or.inl rfl) _)
    _ = skipWithin (fuel + (m + 1)) (.list :: frames) .value (cs ++ rest) :=
      (skipWithin_comma hgap _ _ _).1
    _ = skipWithin fuel (.list :: frames) .next rest := hmore _ _ _ hends

theorem passes_members {before key after space v gap cs : List Char} (hbefore : IsBlank before)
    (string : IsString key) (hafter : IsBlank after) (hspace : IsBlank space)
    (first : Passes .value v) (hgap : IsBlank gap) (more : Passes .members cs) :
    Passes .members (before ++ '"' :: (key ++ '"' ::
      (after ++ ':' :: (space ++ (v ++ (gap ++ ',' :: cs)))))) := by
  obtain ⟨n, hn, hrun⟩ := first
  obtain ⟨m, hm, hmore⟩ := more
  refine ⟨n + m + 2, by simp; omega, fun fuel frames rest hends => ?_⟩
  obtain ⟨behind, hkey, hmore⟩ := hmore fuel frames rest hends
  refine ⟨space ++ (v ++ (gap ++ ',' :: (cs ++ rest))), ?_, ?_⟩
  · simp only [List.append_assoc, List.cons_append]
    exact skipKey_of_isString hbefore string hafter _
  · calc
      skipWithin (fuel + (n + m + 2 + 1)) (.object :: frames) .value
          (space ++ (v ++ (gap ++ ',' :: (cs ++ rest))))
      _ = skipWithin (fuel + (m + 1) + 1) (.object :: frames) .next
            (gap ++ ',' :: (cs ++ rest)) := by
        rw [show fuel + (n + m + 2 + 1) = fuel + (m + 1) + 1 + (n + 1) by omega]
        exact hrun _ _ space _ hspace (ends_blank hgap (Or.inl rfl) _)
      _ = skipWithin (fuel + (m + 1)) (.object :: frames) .value behind :=
        (skipWithin_comma hgap _ _ _).2 behind hkey
      _ = skipWithin fuel (.object :: frames) .next rest := hmore

/-- Every value, and what stands inside it, is run over. -/
theorem Grammatical.passes {part : Part} {cs : List Char} (grammatical : Grammatical part cs) :
    Passes part cs := by
  induction grammatical with
  | null => exact passes_atom rfl (by decide) (by decide) fun rest _ => rfl
  | trueWord => exact passes_atom rfl (by decide) (by decide) fun rest _ => rfl
  | falseWord => exact passes_atom rfl (by decide) (by decide) fun rest _ => rfl
  | number number => exact passes_number number
  | @string cs string =>
    refine passes_atom rfl (by decide) (by decide) fun rest _ => ?_
    rw [List.append_assoc]
    exact skipString_of_isString string rest
  | @emptyList space hspace =>
    refine ⟨1, by simp; omega, fun fuel frames before rest hbefore hends => ?_⟩
    rw [List.cons_append, List.append_assoc]
    exact (skipWithin_open hbefore _ _ _).1.trans
      (skipWithin_close .list hspace fuel frames (by decide) rest)
  | @emptyObject space hspace =>
    refine ⟨1, by simp; omega, fun fuel frames before rest hbefore hends => ?_⟩
    rw [List.cons_append, List.append_assoc]
    exact (skipWithin_open hbefore _ _ _).2.trans
      (skipWithin_close .object hspace fuel frames (by decide) rest)
  | list elements hspace ih => exact passes_list elements ih hspace
  | object members hspace ih => exact passes_object members ih hspace
  | @element space v hspace value ih =>
    obtain ⟨n, hn, hrun⟩ := ih
    refine ⟨n, by simp; omega, fun fuel frames rest hends => ?_⟩
    rw [List.append_assoc]
    exact hrun fuel _ space rest hspace hends
  | elements hspace _ hgap _ first more => exact passes_elements hspace first hgap more
  | @member before key after space v hbefore string hafter hspace value ih =>
    obtain ⟨n, hn, hrun⟩ := ih
    refine ⟨n, by simp; omega, fun fuel frames rest hends => ⟨space ++ (v ++ rest), ?_, ?_⟩⟩
    · simp only [List.append_assoc, List.cons_append]
      exact skipKey_of_isString hbefore string hafter _
    · exact hrun fuel _ space rest hspace hends
  | members hbefore string hafter hspace _ hgap _ first more =>
    exact passes_members hbefore string hafter hspace first hgap more

/-- A value that nobody asks for is run over, and nothing behind it. -/
theorem skip_of_grammatical {space v : List Char} (hspace : IsBlank space)
    (value : Grammatical .value v) {rest : List Char} (hends : Ends rest) :
    skip (space ++ (v ++ rest)) = .ok rest := by
  obtain ⟨n, hn, hrun⟩ := value.passes
  obtain ⟨fuel, hfuel⟩ : ∃ fuel, 3 * (space ++ (v ++ rest)).length + 3 = (fuel + 1) + (n + 1) := by
    refine ⟨3 * (space ++ (v ++ rest)).length + 1 - n, ?_⟩
    simp only [List.length_append]
    omega
  rw [skip, hfuel, hrun (fuel + 1) [] space rest hspace hends]
  rfl

end ConsoleLink.Json
