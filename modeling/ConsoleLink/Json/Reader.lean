import ConsoleLink.Json.Skip
import ConsoleLink.Text.Quoted

/-!
# Reading values of a known shape

* Scalars: `readBool`, `readNat`, `readFloat`, `readText` and `optional`.
* Words of a fixed list: `readVariant`, written as a string, or as an object
  whose only member has that name and the value null.
* Records: a `Shape` lists the members of a record.  `readRecord` reads it from an
  object, whose other members are skipped, or from a list of the members in order.
* `decode` reads a whole text.

A value of another kind than the one wanted is a fault that names both.
-/

namespace ConsoleLink.Json

/-! ## Values of another kind -/

/-- The trouble with a value that is not the one expected. -/
def mismatch (expected : String) (cs : List Char) : Trouble :=
  let wrong (found : String) (rest : List Char) : Trouble :=
    .before (.invalidType found expected) rest
  match cs with
  | [] => .within .expectedValue []
  | c :: rest =>
    if c = 'n' then
      match readWord ['u', 'l', 'l'] rest with
      | .ok rest => wrong "null" rest
      | .error t => t
    else if c = 't' then
      match readWord ['r', 'u', 'e'] rest with
      | .ok rest => wrong "boolean `true`" rest
      | .error t => t
    else if c = 'f' then
      match readWord ['a', 'l', 's', 'e'] rest with
      | .ok rest => wrong "boolean `false`" rest
      | .error t => t
    else if c = '-' then
      match readNumber true rest with
      | .ok (n, rest) => wrong n.describe rest
      | .error t => t
    else if c.isDigit then
      match readNumber false cs with
      | .ok (n, rest) => wrong n.describe rest
      | .error t => t
    else if c = '"' then
      match readString rest with
      | .ok (s, rest) => wrong s!"string {Text.quoted s}" rest
      | .error t => t
    else if c = '[' then wrong "sequence" cs
    else if c = '{' then wrong "map" cs
    else .within .expectedValue cs

/-! ## Scalars -/

/-- Reads a boolean. -/
def readBool (cs : List Char) : Except Trouble (Bool × List Char) :=
  match skipSpace cs with
  | [] => .error (.before .endInValue [])
  | c :: rest =>
    if c = 't' then (readWord ['r', 'u', 'e'] rest).map fun rest => (true, rest)
    else if c = 'f' then (readWord ['a', 'l', 's', 'e'] rest).map fun rest => (false, rest)
    else .error (mismatch "a boolean" (c :: rest))

/-- Reads any number. -/
def readAnyNumber (expected : String) (cs : List Char) : Except Trouble (Number × List Char) :=
  match skipSpace cs with
  | [] => .error (.before .endInValue [])
  | c :: rest =>
    if c = '-' then readNumber true rest
    else if c.isDigit then readNumber false (c :: rest)
    else .error (mismatch expected (c :: rest))

/-- Reads an integer from zero up to below `bound`. -/
def readNat (expected : String) (bound : Nat) (cs : List Char) :
    Except Trouble (Nat × List Char) := do
  match ← readAnyNumber expected cs with
  | (.natural n, rest) =>
    if n < bound then return (n, rest)
    else .error (.before (.invalidValue (Number.natural n).describe expected) rest)
  | (.negative n, rest) =>
    .error (.before (.invalidValue (Number.negative n).describe expected) rest)
  | (.fraction x, rest) =>
    .error (.before (.invalidType (Number.fraction x).describe expected) rest)

/-- Reads a 32-bit word. -/
def readWord32 (cs : List Char) : Except Trouble (Nat × List Char) := readNat "u32" 4294967296 cs

/-- Reads a 64-bit word. -/
def readWord64 (cs : List Char) : Except Trouble (Nat × List Char) :=
  readNat "u64" 18446744073709551616 cs

/-- Reads a fraction, for which an integer does as well. -/
def readFloat (cs : List Char) : Except Trouble (Float × List Char) := do
  match ← readAnyNumber "f64" cs with
  | (.natural n, rest) => return (n.toUInt64.toFloat, rest)
  | (.negative n, rest) => return (-n.toUInt64.toFloat, rest)
  | (.fraction x, rest) => return (x, rest)

/-- Reads a string, described as `expected`. -/
def readText (expected : String) (cs : List Char) : Except Trouble (String × List Char) :=
  match skipSpace cs with
  | [] => .error (.before .endInValue [])
  | c :: rest => if c = '"' then readString rest else .error (mismatch expected (c :: rest))

/-- Reads null or a value. -/
def optional {α : Type} (read : List Char → Except Trouble (α × List Char)) (cs : List Char) :
    Except Trouble (Option α × List Char) :=
  match skipSpace cs with
  | c :: rest =>
    if c = 'n' then (readWord ['u', 'l', 'l'] rest).map fun rest => (none, rest)
    else (read (c :: rest)).map fun (a, rest) => (some a, rest)
  | [] => (read []).map fun (a, rest) => (some a, rest)

/-- Reads null. -/
def readNull (cs : List Char) : Except Trouble (List Char) :=
  match skipSpace cs with
  | [] => .error (.before .endInValue [])
  | c :: rest =>
    if c = 'n' then readWord ['u', 'l', 'l'] rest else .error (mismatch "unit" (c :: rest))

/-! ## Inside objects and lists -/

/-- What is left behind the end of a list or an object that follows at once. -/
def pastEnd (closing : Char) (cs : List Char) : List Char :=
  match skipSpace cs with
  | [] => []
  | c :: rest => if c = closing then rest else c :: rest

/-- Runs up to the quote of the next key; `none` at the end of the object. -/
def nextKey (first : Bool) (cs : List Char) : Except Trouble (Option (List Char)) :=
  match skipSpace cs with
  | [] => .error (.before .endInObject [])
  | c :: rest =>
    if c = '}' then .ok none
    else if first then
      if c = '"' then .ok (some rest) else .error (.within .keyNotString (c :: rest))
    else if c = ',' then
      match skipSpace rest with
      | [] => .error (.before .endInValue [])
      | k :: more =>
        if k = '"' then .ok (some more)
        else if k = '}' then .error (.within .trailingComma (k :: more))
        else .error (.within .keyNotString (k :: more))
    else .error (.within .expectedCommaOrBrace (c :: rest))

/-- Runs up to the next element; `none` at the end of the list. -/
def nextElement (first : Bool) (cs : List Char) : Except Trouble (Option (List Char)) :=
  match skipSpace cs with
  | [] => .error (.before .endInList [])
  | c :: rest =>
    if c = ']' then .ok none
    else if first then .ok (some (c :: rest))
    else if c = ',' then
      match skipSpace rest with
      | [] => .error (.before .endInValue [])
      | k :: more =>
        if k = ']' then .error (.within .trailingComma (k :: more)) else .ok (some (k :: more))
    else .error (.within .expectedCommaOrBracket (c :: rest))

/-! ## Words of a fixed list -/

/-- The words of a fixed list, each with its value. -/
structure Variants (α : Type) where
  words : List (String × α)
  /-- The list as faults describe it. -/
  description : String

/-- Reads the name of a variant behind its opening quote. -/
def readName {α : Type} (v : Variants α) (cs : List Char) : Except Trouble (α × List Char) := do
  let (s, rest) ← readString cs
  match v.words.lookup s with
  | some a => return (a, rest)
  | none => .error (.before (.unknownVariant s v.description) rest)

/-- Reads the colon behind a key. -/
def readColon (cs : List Char) : Except Trouble (List Char) :=
  match skipSpace cs with
  | [] => .error (.before .endInObject [])
  | c :: rest => if c = ':' then .ok rest else .error (.within .expectedColon (c :: rest))

/-- Reads the key of an object as the name of a variant. -/
def readNameKey {α : Type} (v : Variants α) (cs : List Char) : Except Trouble (α × List Char) := do
  match ← nextKey true cs with
  | some rest => readName v rest
  | none => .error (.within .expectedValue (skipSpace cs))

/-- Reads a variant. -/
def readVariant {α : Type} (v : Variants α) (cs : List Char) : Except Trouble (α × List Char) := do
  match skipSpace cs with
  | [] => .error (.before .endInValue [])
  | c :: rest =>
    if c = '{' then
      let (a, rest) ← readNameKey v rest
      match skipSpace (← readNull (← readColon rest)) with
      | [] => .error (.before .endInObject [])
      | c :: rest =>
        if c = '}' then return (a, rest) else .error (.before .expectedValue (c :: rest))
    else if c = '"' then readName v rest
    else .error (.within .expectedValue (c :: rest))

/-! ## Records -/

/-- A member of a record: reading it changes the record. -/
structure Member (σ : Type) where
  name : String
  required : Bool
  read : σ → List Char → Except Trouble (σ × List Char)

/-- A member that is read by `read` and stored by `set`. -/
def Member.of {σ α : Type} (name : String) (isRequired : Bool)
    (read : List Char → Except Trouble (α × List Char)) (set : σ → α → σ) : Member σ where
  name := name
  required := isRequired
  read s cs := (read cs).map fun (a, rest) => (set s a, rest)

/-- A text member. -/
def Member.string {σ : Type} (name : String) (isRequired : Bool) (set : σ → String → σ) :
    Member σ :=
  .of name isRequired (readText "a string") set

/-- A 32-bit member. -/
def Member.word32 {σ : Type} (name : String) (isRequired : Bool) (set : σ → UInt32 → σ) :
    Member σ :=
  .of name isRequired readWord32 fun s n => set s n.toUInt32

/-- A boolean member that may be absent. -/
def Member.flag {σ : Type} (name : String) (set : σ → Bool → σ) : Member σ :=
  .of name false readBool set

/-- A record: its name, its value before any member is read, and its members in order. -/
structure Shape (σ : Type) where
  name : String
  blank : σ
  members : List (Member σ)

namespace Shape

/-- A record as faults describe it. -/
def description {σ : Type} (s : Shape σ) : String := s!"struct {s.name}"

/-- The record as faults describe it when members are missing from a list. -/
def lengthDescription {σ : Type} (s : Shape σ) : String :=
  s!"struct {s.name} with {s.members.length} elements"

/-- The member of a name. -/
def find? {σ : Type} (s : Shape σ) (name : String) : Option (Member σ) :=
  s.members.find? fun m => m.name == name

end Shape

/-- The first member that must be there and is not among those seen. -/
def missing? {σ : Type} (members : List (Member σ)) (seen : List String) : Option String :=
  (members.find? fun m => m.required && !seen.contains m.name).map Member.name

/-- Reads the members of an object behind its brace.  Each round reads one member. -/
def readMembers {σ : Type} (shape : Shape σ) :
    Nat → (first : Bool) → (seen : List String) → σ → List Char → Except Trouble (σ × List Char)
  | 0, _, _, _, cs => .error (.before .endInObject cs)
  | fuel + 1, first, seen, s, cs => do
    match ← nextKey first cs with
    | none =>
      match missing? shape.members seen with
      | some name => .error (.before (.missingField name) (pastEnd '}' cs))
      | none => return (s, pastEnd '}' cs)
    | some rest =>
      let (key, rest) ← readString rest
      match shape.find? key with
      | none =>
        let rest ← skip (← readColon rest)
        readMembers shape fuel false seen s rest
      | some m =>
        if seen.contains key then .error (.before (.duplicateField key) (pastEnd '}' rest))
        else
          let (s, rest) ← m.read s (← readColon rest)
          readMembers shape fuel false (key :: seen) s rest

/-- Reads members in their order from a list behind its bracket; `index` of them
have been read. -/
def readElements {σ : Type} (shape : Shape σ) :
    List (Member σ) → (index : Nat) → σ → List Char → Except Trouble (σ × List Char)
  | [], _, s, cs => .ok (s, cs)
  | m :: rest, index, s, cs => do
    match ← nextElement (index == 0) cs with
    | some cs =>
      let (s, cs) ← m.read s cs
      readElements shape rest (index + 1) s cs
    | none =>
      if m.required then
        .error (.before (.invalidLength index shape.lengthDescription) (pastEnd ']' cs))
      else readElements shape rest index s cs

/-- Reads the end of a list in which no element may follow. -/
def readListEnd (cs : List Char) : Except Trouble (List Char) :=
  match skipSpace cs with
  | [] => .error (.before .endInList [])
  | c :: rest =>
    if c = ']' then .ok rest
    else if c = ',' then
      match skipSpace rest with
      | [] => .error (.before .trailingCharacters [])
      | k :: more =>
        .error (.within (if k = ']' then .trailingComma else .trailingCharacters) (k :: more))
    else .error (.within .trailingCharacters (c :: rest))

/-- Reads a record. -/
def readRecord {σ : Type} (shape : Shape σ) (cs : List Char) : Except Trouble (σ × List Char) := do
  match skipSpace cs with
  | [] => .error (.before .endInValue [])
  | c :: rest =>
    if c = '{' then readMembers shape (rest.length + 1) true [] shape.blank rest
    else if c = '[' then
      let (s, rest) ← readElements shape shape.members 0 shape.blank rest
      return (s, ← readListEnd rest)
    else .error (mismatch shape.description (c :: rest))

/-! ## Whole texts -/

/-- Reads a text that holds one value and nothing behind it. -/
def decode {α : Type} (read : List Char → Except Trouble (α × List Char)) (text : String) :
    Except Fault α :=
  match read text.toList with
  | .error t => .error (t.locate text.toList)
  | .ok (a, rest) =>
    match skipSpace rest with
    | [] => .ok a
    | c :: rest =>
      .error ((Trouble.within .trailingCharacters (c :: rest)).locate text.toList)

end ConsoleLink.Json
