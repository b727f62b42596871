import ConsoleLink.Json.Text
import ConsoleLink.Json.Value

/-!
# Reading JSON numbers

A number without fraction and exponent that fits 64 bits is an integer; every
other number is a fraction.

* `Number` is what reading a number gives.
* `fit` gathers digits as long as their value fits 64 bits.
* `scaled?` multiplies such a value by a power of ten.
* `readNumber` reads a number, `skipNumber` runs over one, behind its sign.
-/

namespace ConsoleLink.Json

/-- A number as it is written. -/
inductive Number
  | natural (n : Nat)
  /-- The negative number `-n`. -/
  | negative (n : Nat)
  | fraction (x : Float)

namespace Number

/-- A number as faults name it. -/
def describe : Number → String
  | natural n => s!"integer `{n}`"
  | negative n => s!"integer `-{n}`"
  | fraction x => s!"floating point `{String.ofList (floatText x)}`"

end Number

/-! ## Values -/

/-- The largest value of 64 bits. -/
def largest : Nat := 18446744073709551615

/-- The value of a decimal digit. -/
def digitValue (c : Char) : Nat := c.toNat - '0'.toNat

/-- Appends digits to a value as long as it fits 64 bits; gives the value and the
number of digits that were left out. -/
def fit (value : Nat) : List Char → Nat × Nat
  | [] => (value, 0)
  | d :: rest =>
    if 10 * value + digitValue d ≤ largest then fit (10 * value + digitValue d) rest
    else (value, (d :: rest).length)

/-- A power of ten with at most 308 zeros. -/
def powerOfTen (n : Nat) : Float := Float.ofScientific 1 false n

/-- `x` divided by `10 ^ n`, in steps that stay within range. -/
def shrink (x : Float) (n : Nat) : Float :=
  if n ≤ 308 then x / powerOfTen n
  else if x == 0.0 then x
  else shrink (x / powerOfTen 308) (n - 308)
termination_by n

/-- `value * 10 ^ e`, unless that is beyond all finite numbers. -/
def scaled? (value : Nat) (e : Int) : Option Float :=
  let x := value.toUInt64.toFloat
  if e < 0 then some (shrink x (-e).toNat)
  else if e ≤ 308 then
    let y := x * powerOfTen e.toNat
    if y.isInf then none else some y
  else if x == 0.0 then some x
  else none

/-- `x` with a sign. -/
def signed (isNegative : Bool) (x : Float) : Float := if isNegative then -x else x

/-! ## Reading -/

/-- The digits at the start of a text. -/
def digits (cs : List Char) : List Char := cs.takeWhile Char.isDigit

/-- The text behind the digits at its start. -/
def afterDigits (cs : List Char) : List Char := cs.dropWhile Char.isDigit

/-- A fraction from its digits and exponent, with `rest` behind it. -/
def finish (isNegative : Bool) (value : Nat) (e : Int) (rest : List Char) :
    Except Trouble (Number × List Char) :=
  match scaled? value e with
  | some x => .ok (.fraction (signed isNegative x), rest)
  | none => .error (.before .numberOutOfRange rest)

/-- The value of an exponent's digits, or the text behind the digit with which it
leaves 31 bits. -/
def exponentValue (value : Nat) : List Char → Except (List Char) Nat
  | [] => .ok value
  | d :: rest =>
    if 10 * value + digitValue d ≤ 2147483647 then exponentValue (10 * value + digitValue d) rest
    else .error rest

/-- Reads what follows the exponent mark of a fraction `value * 10 ^ e`. -/
def readExponent (isNegative : Bool) (value : Nat) (e : Int) (cs : List Char) :
    Except Trouble (Number × List Char) :=
  let (down, cs) := match cs with
    | [] => (false, [])
    | c :: rest => if c = '+' then (false, rest) else if c = '-' then (true, rest) else (false, cs)
  match cs with
  | [] => .error (.before .endInValue [])
  | c :: _ =>
    if c.isDigit then
      match exponentValue 0 (digits cs) with
      | .ok n => finish isNegative value (if down then e - n else e + n) (afterDigits cs)
      | .error more =>
        if value ≠ 0 ∧ !down then .error (.before .numberOutOfRange (more ++ afterDigits cs))
        else .ok (.fraction (signed isNegative 0.0), afterDigits cs)
    else .error (.within .invalidNumber cs)

/-- Whether a text goes on with an exponent mark. -/
def isExponent (c : Char) : Bool := c == 'e' || c == 'E'

/-- Reads what follows the point of a fraction; `dropped` digits before the point
did not fit `value`. -/
def readFraction (isNegative : Bool) (value dropped : Nat) (cs : List Char) :
    Except Trouble (Number × List Char) :=
  let places := digits cs
  let rest := afterDigits cs
  if places.isEmpty then
    match cs with
    | [] => .error (.before .endInValue [])
    | _ :: _ => .error (.within .invalidNumber cs)
  else
    let (value, left) := fit value places
    let e : Int := (dropped : Int) - (places.length - left : Nat)
    match rest with
    | [] => finish isNegative value e []
    | c :: more =>
      if isExponent c then readExponent isNegative value e more else finish isNegative value e rest

/-- The number of an integer's digits if they all fit. -/
def ofInteger (isNegative : Bool) (value : Nat) : Number :=
  if !isNegative then .natural value
  else if 0 < value ∧ value ≤ 9223372036854775808 then .negative value
  else .fraction (-value.toUInt64.toFloat)

/-- Reads what follows the digits of an integer. -/
def readTail (isNegative : Bool) (value dropped : Nat) (cs : List Char) :
    Except Trouble (Number × List Char) :=
  let whole := if dropped = 0 then .ok (ofInteger isNegative value, cs)
    else finish isNegative value dropped cs
  match cs with
  | [] => whole
  | c :: rest =>
    if c = '.' then readFraction isNegative value dropped rest
    else if isExponent c then readExponent isNegative value dropped rest
    else whole

/-- Reads a number behind its sign. -/
def readNumber (isNegative : Bool) (cs : List Char) : Except Trouble (Number × List Char) :=
  match cs with
  | [] => .error (.before .endInValue [])
  | c :: rest =>
    if c = '0' then
      match rest with
      | [] => readTail isNegative 0 0 []
      | d :: _ =>
        if d.isDigit then .error (.within .invalidNumber rest) else readTail isNegative 0 0 rest
    else if c.isDigit then
      let (value, dropped) := fit 0 (digits cs)
      readTail isNegative value dropped (afterDigits cs)
    else .error (.within .invalidNumber cs)

/-! ## Skipping -/

/-- Runs over what follows an exponent mark. -/
def skipExponent (cs : List Char) : Except Trouble (List Char) :=
  let cs := match cs with
    | [] => []
    | c :: rest => if c = '+' ∨ c = '-' then rest else cs
  if (digits cs).isEmpty then .error (.within .invalidNumber cs) else .ok (afterDigits cs)

/-- Runs over an exponent if there is one. -/
def skipExponent? (cs : List Char) : Except Trouble (List Char) :=
  match cs with
  | [] => .ok []
  | c :: rest => if isExponent c then skipExponent rest else .ok cs

/-- Runs over the digits behind a point and what follows them. -/
def skipFraction (cs : List Char) : Except Trouble (List Char) :=
  if (digits cs).isEmpty then .error (.within .invalidNumber cs)
  else skipExponent? (afterDigits cs)

/-- Runs over what follows the digits of an integer. -/
def skipTail (cs : List Char) : Except Trouble (List Char) :=
  match cs with
  | [] => .ok []
  | c :: rest => if c = '.' then skipFraction rest else skipExponent? cs

/-- Runs over a number behind its sign. -/
def skipNumber (cs : List Char) : Except Trouble (List Char) :=
  match cs with
  | [] => .error (.within .invalidNumber [])
  | c :: rest =>
    if c = '0' then
      match rest with
      | [] => .ok []
      | d :: _ => if d.isDigit then .error (.within .invalidNumber rest) else skipTail rest
    else if c.isDigit then skipTail (afterDigits cs)
    else .error (.within .invalidNumber cs)

end ConsoleLink.Json
