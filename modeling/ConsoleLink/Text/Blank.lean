/-!
# White space, lines, words and numbers

* `isBlank` tells white space, of which there are 25 characters, and `trim`
  removes it from both ends of a text.
* `lines` cuts a text into lines, `splitAtSpace` at its first space.
* `natOf?` reads a number below a bound.
-/

namespace ConsoleLink.Text

/-- The white space characters. -/
def isBlank (c : Char) : Bool :=
  let n := c.toNat
  (0x09 ≤ n && n ≤ 0x0d) || n == 0x20 || n == 0x85 || n == 0xa0 || n == 0x1680 ||
    (0x2000 ≤ n && n ≤ 0x200a) || n == 0x2028 || n == 0x2029 || n == 0x202f || n == 0x205f ||
    n == 0x3000

/-- Characters without the white space at either end. -/
def trimChars (cs : List Char) : List Char :=
  ((cs.dropWhile isBlank).reverse.dropWhile isBlank).reverse

/-- A text without the white space at either end. -/
def trim (text : String) : String := String.ofList (trimChars text.toList)

/-- The lines of a text, without the carriage returns at their ends.  The end of the last
line begins no other one. -/
def lines (text : String) : List String :=
  let parts := text.splitOn "\n"
  (if parts.getLast? = some "" then parts.dropLast else parts).map fun line =>
    (line.dropSuffix "\r").toString

/-- The parts before and behind the first space; without a space all is before it. -/
def splitAtSpace (text : String) : String × String :=
  (String.ofList (text.toList.takeWhile (· != ' ')),
    String.ofList ((text.toList.dropWhile (· != ' ')).drop 1))

/-- The value of decimal digits. -/
def digitsValue (cs : List Char) : Nat :=
  cs.foldl (fun n c => 10 * n + (c.toNat - '0'.toNat)) 0

/-- A number in decimal digits, perhaps with a plus sign, below `bound`. -/
def natOf? (bound : Nat) (text : String) : Option Nat :=
  let digits := match text.toList with
    | '+' :: rest => rest
    | cs => cs
  if digits.isEmpty || !digits.all Char.isDigit then none
  else if digitsValue digits < bound then some (digitsValue digits)
  else none

end ConsoleLink.Text
