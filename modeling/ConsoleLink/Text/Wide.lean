import ConsoleLink.Fault

/-!
# Wide text

Text travels between the two parties as 16-bit units, in fields of fixed
capacity that end at the first zero unit.

* Units: `ofChar` and `ofString` give the units of a text, `length` counts them
  and `nulPosition` finds the first zero among them.
* Reading: `decode` turns units into characters, an unpaired surrogate into the
  replacement character, and `readField` does so up to the first zero.
* Writing: `overwrite` puts a text and its end mark into the first slots of a field, or refuses a
  text that the field cannot hold and leaves the field.
-/

namespace ConsoleLink.Wide

/-! ## Units -/

/-- The first unit of a pair that stands for the scalar value `0x10000 + n`. -/
def highUnit (n : Nat) : UInt16 := (0xD800 + n / 0x400).toUInt16

/-- The second unit of a pair that stands for the scalar value `0x10000 + n`. -/
def lowUnit (n : Nat) : UInt16 := (0xDC00 + n % 0x400).toUInt16

/-- The units of one character: one unit, or a pair beyond `0xFFFF`. -/
def ofChar (c : Char) : List UInt16 :=
  if c.toNat < 0x10000 then [c.toNat.toUInt16]
  else [highUnit (c.toNat - 0x10000), lowUnit (c.toNat - 0x10000)]

/-- The units of a text. -/
def ofString (text : String) : List UInt16 := text.toList.flatMap ofChar

/-- The number of units of a text. -/
def length (text : String) : Nat := (ofString text).length

/-- The position, in units, of the first zero unit of a text. -/
def nulPosition (text : String) : Option Nat := (ofString text).findIdx? (· == 0)

/-! ## Reading -/

/-- The units that may open a pair. -/
def isHigh (u : UInt16) : Bool := 0xD800 ≤ u && u ≤ 0xDBFF

/-- The units that may close a pair. -/
def isLow (u : UInt16) : Bool := 0xDC00 ≤ u && u ≤ 0xDFFF

/-- The character of a pair of units. -/
def pairChar (high low : UInt16) : Char :=
  Char.ofNat (0x10000 + (high.toNat - 0xD800) * 0x400 + (low.toNat - 0xDC00))

/-- What an unpaired surrogate reads as. -/
def replacement : Char := '\uFFFD'

/-- The character of a unit that belongs to no pair. -/
def singleChar (u : UInt16) : Char :=
  if isHigh u || isLow u then replacement else Char.ofNat u.toNat

/-- The characters of a sequence of units. -/
def decode : List UInt16 → List Char
  | [] => []
  | [u] => [singleChar u]
  | u :: v :: rest =>
    if isHigh u && isLow v then pairChar u v :: decode rest
    else singleChar u :: decode (v :: rest)

/-- The units of a field before its first zero unit. -/
def content (field : List UInt16) : List UInt16 := field.takeWhile (· != 0)

/-- The text of a field. -/
def readField (field : List UInt16) : String := String.ofList (decode (content field))

/-! ## Writing -/

/-- A text fits a capacity if its units and an end mark do. -/
def checkCapacity (field : String) (text : String) (capacity : Nat) : Except FieldFault Unit :=
  if length text < capacity then .ok () else .error (.tooLong field (length text) capacity)

/-- A text can be stored in `capacity` units if it holds no zero unit and fits. -/
def check (field : String) (text : String) (capacity : Nat) : Except FieldFault Unit :=
  match nulPosition text with
  | some position => .error (.embeddedNul field position)
  | none => checkCapacity field text capacity

/-- The units that a text occupies in a field: its own and the end mark. -/
def stored (text : String) : List UInt16 := ofString text ++ [0]

/-- Puts units into slots, one by one and while there are both: the slots then, and how many of
them were filled. -/
def fill : List UInt16 → List UInt16 → List UInt16 × Nat
  | slots, [] => (slots, 0)
  | [], _ :: _ => ([], 0)
  | _ :: slots, u :: us =>
    match fill slots us with
    | (slots, filled) => (u :: slots, filled + 1)

/-- Puts a text into the first slots of a field and the end mark into the next one: the field then,
and whether the text was taken. -/
def overwrite (field : String) (slots : List UInt16) (text : String) :
    List UInt16 × Except FieldFault Unit :=
  match check field text slots.length with
  | .error fault => (slots, .error fault)
  | .ok () =>
    match fill slots (ofString text) with
    | (slots, filled) => (slots.set filled 0, .ok ())

/-- A field after a text was stored at its start, unless the text is refused. -/
def writeField (field : String) (old : List UInt16) (text : String) :
    Except FieldFault (List UInt16) :=
  match overwrite field old text with
  | (new, .ok ()) => .ok new
  | (_, .error fault) => .error fault

end ConsoleLink.Wide
