/-!
# The fewest digits that read back

A finite binary fraction is written with as few decimal digits as identify it.

* `Binary` is a positive value `mantissa * 2 ^ exponent`, and `Binary.ofFloat?`
  takes a floating point number apart.
* A decimal reads back as the value if it lies between the midpoints to the two
  neighbouring values; `Binary.accepts` decides that in whole numbers.
* `Binary.shortest` looks for the coarsest decimal grid that has such a point.
* `Layout` states how digits are laid out, and `Layout.render?` writes them.
-/

namespace ConsoleLink.Decimal

/-- The positive value `mantissa * 2 ^ exponent`.  With `narrow` the gap to the
next smaller value is half of that to the next larger one. -/
structure Binary where
  mantissa : Nat
  exponent : Int
  narrow : Bool
  deriving DecidableEq, Repr

/-- A positive decimal `digits * 10 ^ exponent`. -/
structure Digits where
  digits : Nat
  exponent : Int
  deriving DecidableEq, Repr

namespace Binary

/-- The parts of a finite nonzero number, its sign left out. -/
def ofFloat? (x : Float) : Option Binary :=
  let bits := x.toBits.toNat
  let fraction := bits % Nat.pow 2 52
  let power : Nat := bits / Nat.pow 2 52 % Nat.pow 2 11
  if power = 2047 then none
  else if power = 0 then
    if fraction = 0 then none else some ⟨fraction, -1074, false⟩
  else some ⟨Nat.pow 2 52 + fraction, (power : Int) - 1075, fraction == 0 && power != 1⟩

/-- The part of an integer above zero. -/
def up (i : Int) : Nat := i.toNat

/-- The part of an integer below zero. -/
def down (i : Int) : Nat := (-i).toNat

/-- Compares `d * 10 ^ e` with `x * 2 ^ q`. -/
def compareDecimal (d : Nat) (e : Int) (x : Nat) (q : Int) : Ordering :=
  compare (d * Nat.pow 10 (up e) * Nat.pow 2 (down q))
    (x * Nat.pow 2 (up q) * Nat.pow 10 (down e))

/-- Whether `d * 10 ^ e` reads back as the value.  All bounds are counted in
quarters of the last place; a midpoint belongs to the even neighbour. -/
def accepts (b : Binary) (d : Nat) (e : Int) : Bool :=
  let q := b.exponent - 2
  let low := 4 * b.mantissa - (if b.narrow then 1 else 2)
  let high := 4 * b.mantissa + 2
  let closed := b.mantissa % 2 == 0
  (match compareDecimal d e low q with
    | .gt => true
    | .eq => closed
    | .lt => false) &&
  (match compareDecimal d e high q with
    | .lt => true
    | .eq => closed
    | .gt => false)

/-- The largest `d` with `d * 10 ^ e` not above the value. -/
def floorAt (b : Binary) (e : Int) : Nat :=
  b.mantissa * Nat.pow 2 (up b.exponent) * Nat.pow 10 (down e) /
    (Nat.pow 10 (up e) * Nat.pow 2 (down b.exponent))

/-- The exponent of the leading decimal digit. -/
def leading (b : Binary) : Int :=
  (Nat.toDigits 10 (b.floorAt (-330))).length - 1 - 330

/-- The point of the grid `10 ^ e` that reads back as the value, the nearer one
if two do, and of two equally near ones the even one. -/
def onGrid? (b : Binary) (e : Int) : Option Digits :=
  let d := b.floorAt e
  match b.accepts d e, b.accepts (d + 1) e with
  | true, false => some ⟨d, e⟩
  | false, true => some ⟨d + 1, e⟩
  | false, false => none
  | true, true =>
    match compareDecimal (2 * d + 1) e (2 * b.mantissa) b.exponent with
    | .gt => some ⟨d, e⟩
    | .lt => some ⟨d + 1, e⟩
    | .eq => some ⟨if d % 2 = 0 then d else d + 1, e⟩

/-- A decimal of at most seventeen digits that reads back, with the fewest digits. -/
def shortest (b : Binary) : Digits :=
  let grids := (List.range 17).map fun (n : Nat) => b.leading - (n : Int)
  match grids.findSome? b.onGrid? with
  | some d => d
  | none => ⟨b.floorAt (b.leading - 16), b.leading - 16⟩

end Binary

/-- The same decimal without zeros at its end. -/
def Digits.text (d : Digits) : List Char × Int :=
  let all := Nat.toDigits 10 d.digits
  let kept := (all.reverse.dropWhile (· == '0')).reverse
  (kept, d.exponent + (all.length - kept.length : Nat))

/-- Decisions on how a decimal is laid out. -/
structure Layout where
  /-- Leading exponents from here on are written positionally. -/
  plainFrom : Int
  /-- Leading exponents from here on are no longer written positionally. -/
  plainBelow : Int
  deriving DecidableEq, Repr

namespace Layout

/-- An exponent with its sign. -/
def signed (e : Int) : String :=
  if e < 0 then s!"-{(-e).toNat}" else s!"+{e.toNat}"

/-- Digits with the point behind the first `whole` of them. -/
def plain (digits : List Char) (whole : Int) : List Char :=
  if whole ≤ 0 then
    '0' :: '.' :: (List.replicate (-whole).toNat '0' ++ digits)
  else if digits.length ≤ whole.toNat then
    digits ++ List.replicate (whole.toNat - digits.length) '0' ++ ['.', '0']
  else digits.take whole.toNat ++ '.' :: digits.drop whole.toNat

/-- Digits in scientific notation; `e` is the exponent of the first one. -/
def scientific (digits : List Char) (e : Int) : List Char :=
  let mantissa := match digits with
    | [] => []
    | [d] => [d]
    | d :: rest => d :: '.' :: rest
  mantissa ++ 'e' :: (signed e).toList

/-- A number in its fewest digits.  Only finite numbers have a text. -/
def render? (l : Layout) (x : Float) : Option String :=
  let sign := if x.toBits.toNat < Nat.pow 2 63 then "" else "-"
  if x == 0.0 then some (sign ++ "0.0")
  else (Binary.ofFloat? x).map fun b =>
    let (digits, exponent) := b.shortest.text
    let leading := exponent + digits.length - 1
    let body :=
      if l.plainFrom ≤ leading && leading < l.plainBelow then plain digits (leading + 1)
      else scientific digits leading
    sign ++ String.ofList body

end Layout

end ConsoleLink.Decimal
