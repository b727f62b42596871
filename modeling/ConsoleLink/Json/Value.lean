import ConsoleLink.Decimal.Shortest

/-!
# JSON values and their text

A value is written in one of two ways: compact, or with every member on a line
of its own and two spaces for each level.

* `Value` is the type of JSON values; an object keeps the order of its members.
* `quoted` writes a string, and `floatLayout` says how fractions are laid out.
* `Value.compact` and `Value.pretty` write a value.
-/

namespace ConsoleLink.Json

/-- A JSON value. -/
inductive Value
  | null
  | bool (b : Bool)
  | int (i : Int)
  | float (x : Float)
  | string (s : String)
  | array (elements : List Value)
  | object (members : List (String × Value))

/-! ## Strings and numbers -/

/-- The two hexadecimal digits of a number below 256. -/
def hexPair (n : Nat) : List Char := [Nat.digitChar (n / 16 % 16), Nat.digitChar (n % 16)]

/-- One character of a string: quotes, backslashes and control characters are escaped. -/
def escaped (c : Char) : List Char :=
  if c = '"' then ['\\', '"']
  else if c = '\\' then ['\\', '\\']
  else if c = '\x08' then ['\\', 'b']
  else if c = '\x0c' then ['\\', 'f']
  else if c = '\n' then ['\\', 'n']
  else if c = '\r' then ['\\', 'r']
  else if c = '\t' then ['\\', 't']
  else if c.toNat < 0x20 then '\\' :: 'u' :: '0' :: '0' :: hexPair c.toNat
  else [c]

/-- A string in quotes. -/
def quoted (s : String) : List Char := '"' :: (s.toList.flatMap escaped ++ ['"'])

/-- Fractions are written positionally from `1e-5` up to below `1e16`. -/
def floatLayout : Decimal.Layout := { plainFrom := -5, plainBelow := 16 }

/-- The text of a fraction; what is not finite has none and is written as null. -/
def floatText (x : Float) : List Char := ((floatLayout.render? x).getD "null").toList

/-- The text of an integer. -/
def intText (i : Int) : List Char :=
  if i < 0 then '-' :: Nat.toDigits 10 (-i).toNat else Nat.toDigits 10 i.toNat

/-! ## Values -/

namespace Value

mutual

/-- A value without any space. -/
def compactChars : Value → List Char
  | null => "null".toList
  | bool true => "true".toList
  | bool false => "false".toList
  | int i => intText i
  | float x => floatText x
  | string s => quoted s
  | array [] => ['[', ']']
  | array (v :: rest) => '[' :: (compactChars v ++ compactElements rest)
  | object [] => ['{', '}']
  | object ((k, v) :: rest) => '{' :: (quoted k ++ ':' :: compactChars v ++ compactMembers rest)

/-- The elements after the first one, and the closing bracket. -/
def compactElements : List Value → List Char
  | [] => [']']
  | v :: rest => ',' :: (compactChars v ++ compactElements rest)

/-- The members after the first one, and the closing brace. -/
def compactMembers : List (String × Value) → List Char
  | [] => ['}']
  | (k, v) :: rest => ',' :: (quoted k ++ ':' :: compactChars v ++ compactMembers rest)

end

/-- A line break and the indentation of a level. -/
def newline (level : Nat) : List Char := '\n' :: List.replicate (2 * level) ' '

mutual

/-- A value with each member on its own line; `level` counts the enclosing values. -/
def prettyChars (level : Nat) : Value → List Char
  | null => "null".toList
  | bool true => "true".toList
  | bool false => "false".toList
  | int i => intText i
  | float x => floatText x
  | string s => quoted s
  | array [] => ['[', ']']
  | array (v :: rest) =>
    '[' :: (newline (level + 1) ++ prettyChars (level + 1) v ++ prettyElements level rest)
  | object [] => ['{', '}']
  | object ((k, v) :: rest) =>
    '{' :: (newline (level + 1) ++ quoted k ++ ':' :: ' ' :: prettyChars (level + 1) v ++
      prettyMembers level rest)

/-- The elements after the first one, and the closing bracket. -/
def prettyElements (level : Nat) : List Value → List Char
  | [] => newline level ++ [']']
  | v :: rest =>
    ',' :: (newline (level + 1) ++ prettyChars (level + 1) v ++ prettyElements level rest)

/-- The members after the first one, and the closing brace. -/
def prettyMembers (level : Nat) : List (String × Value) → List Char
  | [] => newline level ++ ['}']
  | (k, v) :: rest =>
    ',' :: (newline (level + 1) ++ quoted k ++ ':' :: ' ' :: prettyChars (level + 1) v ++
      prettyMembers level rest)

end

/-- A value on one line. -/
def compact (v : Value) : String := String.ofList v.compactChars

/-- A value with each member on its own line. -/
def pretty (v : Value) : String := String.ofList (v.prettyChars 0)

/-- An optional value; nothing is null. -/
def ofOption {α : Type} (f : α → Value) : Option α → Value
  | none => null
  | some a => f a

/-- A natural number. -/
def nat (n : Nat) : Value := int (Int.ofNat n)

/-- A list of strings. -/
def strings (l : List String) : Value := array (l.map string)

end Value

end ConsoleLink.Json
