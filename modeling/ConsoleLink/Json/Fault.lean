/-!
# What can be wrong with a JSON text

A JSON text is refused for a cause and at a position.  Causes fall into three
classes: the text is no JSON, it ends too early, or it is JSON that does not
describe the value wanted.

* `Cause` lists the causes and `Cause.message` their wording.
* `Cause.faultClass` sorts them.
* `Fault` joins a cause with the position where it was noticed.
-/

namespace ConsoleLink.Json

/-- The three classes of faults in a JSON text. -/
inductive FaultClass
  /-- The text breaks the grammar. -/
  | grammar
  /-- The text is JSON but not of the wanted shape. -/
  | shape
  /-- The text ends before its value does. -/
  | ended
  deriving DecidableEq, Repr

/-- Why a JSON text is refused. -/
inductive Cause
  | endInValue
  | endInString
  | endInObject
  | endInList
  | expectedColon
  | expectedCommaOrBracket
  | expectedCommaOrBrace
  | expectedWord
  | expectedValue
  | invalidEscape
  | invalidNumber
  | numberOutOfRange
  | controlCharacter
  | keyNotString
  | loneSurrogate
  | unfinishedSurrogate
  | trailingComma
  | trailingCharacters
  | invalidType (found expected : String)
  | invalidValue (found expected : String)
  | invalidLength (length : Nat) (expected : String)
  | unknownVariant (found expected : String)
  | missingField (name : String)
  | duplicateField (name : String)
  deriving DecidableEq, Repr

namespace Cause

/-- The class of a cause. -/
def faultClass : Cause → FaultClass
  | endInValue | endInString | endInObject | endInList => .ended
  | expectedColon | expectedCommaOrBracket | expectedCommaOrBrace | expectedWord
  | expectedValue | invalidEscape | invalidNumber | numberOutOfRange | controlCharacter
  | keyNotString | loneSurrogate | unfinishedSurrogate | trailingComma
  | trailingCharacters => .grammar
  | invalidType .. | invalidValue .. | invalidLength .. | unknownVariant ..
  | missingField .. | duplicateField .. => .shape

/-- The wording of a cause. -/
def message : Cause → String
  | endInValue => "EOF while parsing a value"
  | endInString => "EOF while parsing a string"
  | endInObject => "EOF while parsing an object"
  | endInList => "EOF while parsing a list"
  | expectedColon => "expected `:`"
  | expectedCommaOrBracket => "expected `,` or `]`"
  | expectedCommaOrBrace => "expected `,` or `\x7d`"
  | expectedWord => "expected ident"
  | expectedValue => "expected value"
  | invalidEscape => "invalid escape"
  | invalidNumber => "invalid number"
  | numberOutOfRange => "number out of range"
  | controlCharacter => "control character (\\u0000-\\u001F) found while parsing a string"
  | keyNotString => "key must be a string"
  | loneSurrogate => "lone leading surrogate in hex escape"
  | unfinishedSurrogate => "unexpected end of hex escape"
  | trailingComma => "trailing comma"
  | trailingCharacters => "trailing characters"
  | invalidType found expected => s!"invalid type: {found}, expected {expected}"
  | invalidValue found expected => s!"invalid value: {found}, expected {expected}"
  | invalidLength length expected => s!"invalid length {length}, expected {expected}"
  | unknownVariant found expected => s!"unknown variant `{found}`, expected {expected}"
  | missingField name => s!"missing field `{name}`"
  | duplicateField name => s!"duplicate field `{name}`"

end Cause

/-- A place in a text: lines count from one, columns count bytes of the line. -/
structure Position where
  line : Nat
  column : Nat
  deriving DecidableEq, Repr

/-- A refused JSON text: the cause and where it was noticed. -/
structure Fault where
  cause : Cause
  position : Position
  deriving DecidableEq, Repr

/-- The cause followed by its place. -/
def Fault.message (f : Fault) : String :=
  s!"{f.cause.message} at line {f.position.line} column {f.position.column}"

end ConsoleLink.Json
