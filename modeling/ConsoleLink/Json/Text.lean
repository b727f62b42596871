import ConsoleLink.Json.Fault
import ConsoleLink.Text.Wide

/-!
# Reading JSON strings and words

A reader takes the characters that are left of a text and gives back a value
and the characters behind it, or the trouble it ran into.

* `Trouble` is a cause together with the place where it was noticed, given by
  the characters left; `Trouble.locate` turns it into a fault with a position.
* `skipSpace` and `readWord` read what has no value of its own.
* `readString` reads a string behind its opening quote, and `skipString` runs
  over one whose value nobody wants: it does not mind unpaired surrogates.
-/

namespace ConsoleLink.Json

/-! ## Troubles and their places -/

/-- What stopped a reader: `rest` was left, and the place is `ahead` bytes into it. -/
structure Trouble where
  cause : Cause
  rest : List Char
  ahead : Nat
  deriving DecidableEq, Repr

namespace Trouble

/-- A trouble noticed with `rest` still to read. -/
def before (cause : Cause) (rest : List Char) : Trouble := ⟨cause, rest, 0⟩

/-- A trouble with the first byte of `rest`. -/
def within (cause : Cause) (rest : List Char) : Trouble := ⟨cause, rest, 1⟩

end Trouble

/-- The bytes of a text. -/
def bytesOf (cs : List Char) : List UInt8 := cs.flatMap String.utf8EncodeChar

/-- The position behind some bytes of a text. -/
def Position.behind (bytes : List UInt8) : Position where
  line := 1 + bytes.count 10
  column := (bytes.reverse.takeWhile (· != 10)).length

/-- The fault of a trouble that a reader of `text` ran into. -/
def Trouble.locate (text : List Char) (t : Trouble) : Fault where
  cause := t.cause
  position :=
    let bytes := bytesOf text
    .behind (bytes.take (bytes.length - (bytesOf t.rest).length + t.ahead))

/-! ## Space and words -/

/-- The characters that may stand between values. -/
def isSpace (c : Char) : Bool := c == ' ' || c == '\n' || c == '\t' || c == '\r'

/-- The text without the space at its start. -/
def skipSpace (cs : List Char) : List Char := cs.dropWhile isSpace

/-- Reads the given characters. -/
def readWord : List Char → List Char → Except Trouble (List Char)
  | [], cs => .ok cs
  | _ :: _, [] => .error (.before .endInValue [])
  | w :: word, c :: cs =>
    if c = w then readWord word cs else .error (.within .expectedWord (c :: cs))

/-! ## Strings -/

/-- The value of a hexadecimal digit. -/
def hexValue? (c : Char) : Option Nat :=
  if c.isDigit then some (c.toNat - '0'.toNat)
  else if 'a' ≤ c && c ≤ 'f' then some (c.toNat - 'a'.toNat + 10)
  else if 'A' ≤ c && c ≤ 'F' then some (c.toNat - 'A'.toNat + 10)
  else none

/-- The value of four hexadecimal digits. -/
def hexWord? (a b c d : Char) : Option Nat := do
  return 4096 * (← hexValue? a) + 256 * (← hexValue? b) + 16 * (← hexValue? c) + (← hexValue? d)

/-- The trouble with four hexadecimal digits that are not there: fewer than four
bytes are left, or the four bytes are something else. -/
def badHex (cs : List Char) : Trouble :=
  if (bytesOf (cs.take 4)).length < 4 then .before .endInString []
  else ⟨.invalidEscape, cs, 4⟩

/-- The character of an escape of one letter. -/
def letterEscape? (c : Char) : Option Char :=
  if c = '"' then some '"'
  else if c = '\\' then some '\\'
  else if c = '/' then some '/'
  else if c = 'b' then some '\x08'
  else if c = 'f' then some '\x0c'
  else if c = 'n' then some '\n'
  else if c = 'r' then some '\r'
  else if c = 't' then some '\t'
  else none

/-- The trouble with the second half of a pair that is not there. -/
def noPair : List Char → Trouble
  | [] => .before .endInString []
  | s :: rest =>
    if s = '\\' then
      match rest with
      | [] => .before .endInString []
      | u :: digits => if u = 'u' then badHex digits else .within .unfinishedSurrogate rest
    else .within .unfinishedSurrogate (s :: rest)

/-- The character of a pair of units. -/
def pairValue (high low : Nat) : Char :=
  Char.ofNat (0x10000 + (high - 0xD800) * 0x400 + (low - 0xDC00))

/-- Reads characters up to the closing quote; `done` holds those read before, the
last one first. -/
def stringChars (done : List Char) : List Char → Except Trouble (List Char × List Char)
  | [] => .error (.before .endInString [])
  | c :: rest =>
    if c = '"' then .ok (done.reverse, rest)
    else if c = '\\' then
      match rest with
      | [] => .error (.before .endInString [])
      | e :: tail =>
        if e = 'u' then
          match tail with
          | h₁ :: h₂ :: h₃ :: h₄ :: more =>
            match hexWord? h₁ h₂ h₃ h₄ with
            | none => .error (badHex tail)
            | some n =>
              if 0xDC00 ≤ n ∧ n ≤ 0xDFFF then .error (.before .loneSurrogate more)
              else if 0xD800 ≤ n ∧ n ≤ 0xDBFF then
                match more with
                | s :: u :: l₁ :: l₂ :: l₃ :: l₄ :: last =>
                  if s = '\\' ∧ u = 'u' then
                    match hexWord? l₁ l₂ l₃ l₄ with
                    | none => .error (badHex (l₁ :: l₂ :: l₃ :: l₄ :: last))
                    | some m =>
                      if 0xDC00 ≤ m ∧ m ≤ 0xDFFF then stringChars (pairValue n m :: done) last
                      else .error (.before .loneSurrogate last)
                  else .error (noPair (s :: u :: l₁ :: l₂ :: l₃ :: l₄ :: last))
                | short => .error (noPair short)
              else stringChars (Char.ofNat n :: done) more
          | short => .error (badHex short)
        else
          match letterEscape? e with
          | some x => stringChars (x :: done) tail
          | none => .error (.within .invalidEscape (e :: tail))
    else if c.toNat < 0x20 then .error (.before .controlCharacter rest)
    else stringChars (c :: done) rest

/-- Reads a string behind its opening quote. -/
def readString (cs : List Char) : Except Trouble (String × List Char) :=
  match stringChars [] cs with
  | .ok (s, rest) => .ok (String.ofList s, rest)
  | .error t => .error t

/-- Runs over a string behind its opening quote. -/
def skipString : List Char → Except Trouble (List Char)
  | [] => .error (.before .endInString [])
  | c :: rest =>
    if c = '"' then .ok rest
    else if c = '\\' then
      match rest with
      | [] => .error (.before .endInString [])
      | e :: tail =>
        if e = 'u' then
          match tail with
          | h₁ :: h₂ :: h₃ :: h₄ :: more =>
            if (hexWord? h₁ h₂ h₃ h₄).isSome then skipString more else .error (badHex tail)
          | short => .error (badHex short)
        else if (letterEscape? e).isSome then skipString tail
        else .error (.within .invalidEscape (e :: tail))
    else if c.toNat < 0x20 then .error (.before .controlCharacter (c :: rest))
    else skipString rest

end ConsoleLink.Json
