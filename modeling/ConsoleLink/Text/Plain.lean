/-!
# Plain text

A text that is shown where no terminal reads it loses the control sequences that a
terminal would act on, and the control characters that are not white space.

* `Stripper` is what has been read so far: the kind of sequence that has begun, and
  whether the text is being shown.
* `Stripper.step` reads a character and tells whether it stays.
* `plain` is what stays of a text.
-/

namespace ConsoleLink.Text

/-- The kinds of control sequences, by what may follow. -/
inductive Sequence
  /-- None has begun. -/
  | none
  /-- An escape character was read. -/
  | escape
  /-- An escape character and a part of its name were read. -/
  | named
  /-- A command with parameters; its last character is a letter. -/
  | command
  /-- The beginning of a device's text, up to its first letter. -/
  | device
  /-- A text for a device, up to its end mark. -/
  | string
  /-- A setting of the terminal, up to a bell. -/
  | setting
  deriving DecidableEq, Repr

/-- The sequence that goes on with a character behind the escape character. -/
def Sequence.afterEscape (c : Char) : Sequence :=
  if c = '[' then .command
  else if c = ']' then .setting
  else if c = 'P' then .device
  else if c = 'X' || c = '^' || c = '_' then .string
  else if 0x20 ≤ c.toNat && c.toNat < 0x30 then .named
  else if 0x30 ≤ c.toNat && c.toNat < 0x7f then .none
  else .escape

/-- Whether a character has the end mark of a device's text among its bytes. -/
def hasEndMark (c : Char) : Bool := 0x80 ≤ c.toNat && (String.utf8EncodeChar c).contains 0x9c

/-- The sequence after a character of it; control characters do not end it here. -/
def Sequence.after (s : Sequence) (c : Char) : Sequence :=
  match s with
  | .none => .none
  | .escape => afterEscape c
  | .named => if 0x30 ≤ c.toNat && c.toNat < 0x7f then .none else .named
  | .command => if 0x40 ≤ c.toNat && c.toNat < 0x7f then .none else .command
  | .device => if 0x40 ≤ c.toNat && c.toNat < 0x7f then .string else .device
  | .string => if hasEndMark c then .none else .string
  | .setting => if c = '\x07' then .none else .setting

/-- Whether white space inside a sequence is shown nevertheless. -/
def Sequence.showsBlanks : Sequence → Bool
  | none | escape | named | command => true
  | device | string | setting => false

/-- The white space among the control characters. -/
def isControlBlank (c : Char) : Bool := c == '\t' || c == '\n' || c == '\x0c' || c == '\r'

/-- A character that a text shows outside of all sequences. -/
def isShown (c : Char) : Bool := isControlBlank c || (0x20 ≤ c.toNat && c != '\x7f')

/-- What has been read so far. -/
structure Stripper where
  sequence : Sequence := .none
  /-- Whether white space has interrupted the sequence, so that text is shown until the
  next character that is not shown. -/
  interrupted : Bool := false

namespace Stripper

/-- Reads a character inside a sequence. -/
def stepInside (s : Sequence) (c : Char) : Stripper × Bool :=
  if c = '\x1b' then ({ sequence := .escape }, false)
  else if c = '\x18' || c = '\x1a' then ({ sequence := .none }, false)
  else if s.showsBlanks && isControlBlank c then ({ sequence := s, interrupted := true }, true)
  else ({ sequence := s.after c }, s == .none && isShown c)

/-- Reads a character; tells whether it stays. -/
def step (s : Stripper) (c : Char) : Stripper × Bool :=
  if s.interrupted && isShown c then
    (if 0x80 ≤ c.toNat then {} else s, true)
  else stepInside s.sequence c

end Stripper

/-- What stays of characters. -/
def plainChars : Stripper → List Char → List Char
  | _, [] => []
  | s, c :: rest =>
    match s.step c with
    | (s, true) => c :: plainChars s rest
    | (s, false) => plainChars s rest

/-- What stays of a text. -/
def plain (text : String) : String := String.ofList (plainChars {} text.toList)

end ConsoleLink.Text
