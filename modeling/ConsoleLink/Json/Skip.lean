import ConsoleLink.Json.Number

/-!
# Running over a value

A member that nobody asks for may hold any value.  It is checked against the
grammar only, to any depth.

* `Frame` marks a list or an object that is still open.
* `skipAtom` runs over a value that holds no others.
* `skip` runs over a value; it keeps the open frames on a stack of its own.
-/

namespace ConsoleLink.Json

/-- An open list or object. -/
inductive Frame
  | list
  | object
  deriving DecidableEq, Repr

namespace Frame

/-- The character that closes a frame. -/
def closing : Frame → Char
  | list => ']'
  | object => '}'

/-- The trouble when the text ends inside a frame. -/
def ended : Frame → Cause
  | list => .endInList
  | object => .endInObject

/-- The trouble when neither a comma nor the end follows a value. -/
def unfinished : Frame → Cause
  | list => .expectedCommaOrBracket
  | object => .expectedCommaOrBrace

end Frame

/-- Runs over a word, a number or a string; `c` is its first character. -/
def skipAtom (c : Char) (rest : List Char) : Except Trouble (List Char) :=
  if c = 'n' then readWord ['u', 'l', 'l'] rest
  else if c = 't' then readWord ['r', 'u', 'e'] rest
  else if c = 'f' then readWord ['a', 'l', 's', 'e'] rest
  else if c = '-' then skipNumber rest
  else if c.isDigit then skipNumber (c :: rest)
  else if c = '"' then skipString rest
  else .error (.within .expectedValue (c :: rest))

/-- Runs over the key of a member and its colon. -/
def skipKey (cs : List Char) : Except Trouble (List Char) := do
  match skipSpace cs with
  | [] => .error (.before .endInObject [])
  | q :: rest =>
    if q = '"' then
      match skipSpace (← skipString rest) with
      | [] => .error (.before .endInObject [])
      | c :: more => if c = ':' then return more else .error (.within .expectedColon (c :: more))
    else .error (.within .keyNotString (q :: rest))

/-- What is expected next. -/
inductive Expected
  /-- A value. -/
  | value
  /-- The first element or member of the innermost frame, or its end. -/
  | first
  /-- A comma or the end of the innermost frame. -/
  | next
  deriving DecidableEq, Repr

/-- Runs over what is left of a value inside the given open frames, the innermost
one first.  Every three rounds read at least one character. -/
def skipWithin : Nat → List Frame → Expected → List Char → Except Trouble (List Char)
  | 0, _, _, cs => .error (.before .endInValue cs)
  | fuel + 1, frames, .value, cs =>
    match skipSpace cs with
    | [] => .error (.before .endInValue [])
    | c :: rest =>
      if c = '[' then skipWithin fuel (.list :: frames) .first rest
      else if c = '{' then skipWithin fuel (.object :: frames) .first rest
      else
        match skipAtom c rest with
        | .error t => .error t
        | .ok rest => skipWithin fuel frames .next rest
  | _ + 1, [], _, cs => .ok cs
  | fuel + 1, frame :: frames, expected, cs =>
    match skipSpace cs with
    | [] => .error (.before frame.ended [])
    | c :: rest =>
      if c = frame.closing then skipWithin fuel frames .next rest
      else
        let start := if expected = .first then some (c :: rest)
          else if c = ',' then some rest else none
        match start, frame with
        | none, _ => .error (.within frame.unfinished (c :: rest))
        | some cs, .list => skipWithin fuel (frame :: frames) .value cs
        | some cs, .object =>
          match skipKey cs with
          | .error t => .error t
          | .ok rest => skipWithin fuel (frame :: frames) .value rest

/-- Runs over a value. -/
def skip (cs : List Char) : Except Trouble (List Char) :=
  skipWithin (3 * cs.length + 3) [] .value cs

end ConsoleLink.Json
