import ConsoleLink.Text.Blank
import ConsoleLink.Text.Pattern

/-!
# Reading patterns

A pattern is written as characters that stand for themselves, sets in brackets,
groups in parentheses, alternatives between bars, and repetitions.

* `Flags` is how the characters are meant; a group can change it.
* `readEscape` reads what follows a backslash, `readClass` a set in brackets,
  `readBranches` the inside of a group.
* `Pattern.ofString?` reads a whole pattern.

The sets of letters, digits and blanks that go beyond the first 128 characters are not
known, nor are the two cases of a letter there; a pattern that needs them is none.
-/

namespace ConsoleLink.Text

namespace Pattern

/-! ## Flags -/

/-- How the characters of a pattern are meant. -/
structure Flags where
  ignoresCase : Bool := false
  /-- Whether the start and the end are those of a line. -/
  multiLine : Bool := false
  /-- Whether a dot means the end of a line, too. -/
  dotMeansAll : Bool := false
  /-- Whether a carriage return is part of the end of a line. -/
  carriageReturns : Bool := false
  /-- Whether characters are those of all scripts, not only the first 128. -/
  allScripts : Bool := true
  /-- Whether blanks and comments may stand between the parts. -/
  verbose : Bool := false
  deriving DecidableEq, Repr

namespace Flags

/-- The flags with one of them changed; nothing for a letter that is no flag. -/
def set? (f : Flags) (letter : Char) (value : Bool) : Option Flags :=
  match letter with
  | 'i' => some { f with ignoresCase := value }
  | 'm' => some { f with multiLine := value }
  | 's' => some { f with dotMeansAll := value }
  | 'R' => some { f with carriageReturns := value }
  | 'u' => some { f with allScripts := value }
  | 'x' => some { f with verbose := value }
  | 'U' => some f
  | _ => none

/-- A set as the flags mean it; both cases of a letter are known among the first 128
characters only. -/
def fold? (f : Flags) (s : CharSet) : Option CharSet :=
  if !f.ignoresCase then some s
  else if f.allScripts then none
  else some s.folded

end Flags

/-- Reads flags up to a colon or a closing parenthesis, which is given back as well. -/
def readFlags : (seen : List Char) → (value : Bool) → Flags → List Char →
    Option (Flags × Char × List Char)
  | _, _, _, [] => none
  | seen, value, f, c :: rest =>
    if c = ':' || c = ')' then
      if seen.head? = some '-' || (c = ')' && seen.isEmpty) then none else some (f, c, rest)
    else if seen.contains c then none
    else if c = '-' then readFlags (c :: seen) false f rest
    else (f.set? c value).bind fun f => readFlags (c :: seen) value f rest

/-- Runs over a comment. -/
def skipComment (cs : List Char) : List Char := (cs.dropWhile (· != '\n')).drop 1

/-- Runs over blanks and comments where the flags allow them; each round runs over one
comment. -/
def skipBlanks (f : Flags) : Nat → List Char → List Char
  | 0, cs => cs
  | fuel + 1, cs =>
    if !f.verbose then cs
    else
      match cs.dropWhile isBlank with
      | '#' :: rest => skipBlanks f fuel (skipComment rest)
      | cs => cs

/-- Runs over all blanks and comments. -/
def skipVerbose (f : Flags) (cs : List Char) : List Char := skipBlanks f (cs.length + 1) cs

/-! ## Escapes -/

/-- What a backslash and the characters behind it mean. -/
inductive Escape
  | char (c : Char)
  | set (s : CharSet)
  | place (p : Place)

/-- The value of hexadecimal digits. -/
def hexValue? (digits : List Char) : Option Nat :=
  digits.foldlM (fun n c =>
    if c.isDigit then some (16 * n + (c.toNat - '0'.toNat))
    else if 'a' ≤ c && c ≤ 'f' then some (16 * n + (c.toNat - 'a'.toNat + 10))
    else if 'A' ≤ c && c ≤ 'F' then some (16 * n + (c.toNat - 'A'.toNat + 10))
    else none) 0

/-- The character of a code. -/
def charOf? (n : Nat) : Option Char := if n.isValidChar then some (Char.ofNat n) else none

/-- Reads a character given by its code: in braces, or in so many digits. -/
def readCode (f : Flags) (digits : Nat) (cs : List Char) : Option (Char × List Char) :=
  match cs with
  | '{' :: rest =>
    match rest.span (· != '}') with
    | (code, _ :: rest) =>
      if code.isEmpty then none
      else ((hexValue? code).bind charOf?).map fun c => (c, rest)
    | (_, []) => none
  | cs =>
    if cs.length < digits then none
    else
      ((hexValue? (cs.take digits)).bind charOf?).bind fun c =>
        if digits = 2 && !f.allScripts && 0x80 ≤ c.toNat then none else some (c, cs.drop digits)

/-- The conditions that can follow a word edge in braces. -/
def wordPlaces : List (String × Place) :=
  [("start", .wordStart), ("end", .wordEnd), ("start-half", .wordStartHalf),
   ("end-half", .wordEndHalf)]

/-- The characters of the names of such conditions. -/
def isPlaceNameChar (c : Char) : Bool := c.isAlpha || c == '-'

/-- Reads a word edge behind its letter.  Braces that hold no name at all are not part of
it. -/
def readWordEdge (cs : List Char) : Option (Place × List Char) :=
  match cs with
  | '{' :: rest =>
    if (rest.dropWhile isBlank).head?.any isPlaceNameChar then
      match rest.span (· != '}') with
      | (name, _ :: rest) =>
        (wordPlaces.lookup (trim (String.ofList name))).map fun p => (p, rest)
      | (_, []) => none
    else some (.wordEdge, '{' :: rest)
  | cs => some (.wordEdge, cs)

/-- The control characters that have a letter. -/
def controlLetters : List (Char × Char) :=
  [('a', '\x07'), ('f', '\x0c'), ('t', '\t'), ('n', '\n'), ('r', '\r'), ('v', '\x0b')]

/-- The sets that have a letter. -/
def setLetters : List (Char × CharSet) :=
  [('d', .digit), ('s', .space), ('w', .word), ('D', CharSet.digit.complement),
   ('S', CharSet.space.complement), ('W', CharSet.word.complement)]

/-- The conditions that have a letter and look at words. -/
def edgeLetters : List (Char × Place) :=
  [('B', .notWordEdge), ('<', .wordStart), ('>', .wordEnd)]

/-- Reads what follows a backslash. -/
def readEscape (f : Flags) : List Char → Option (Escape × List Char)
  | [] => none
  | c :: rest =>
    let scripted {α : Type} (a : Option α) : Option α := if f.allScripts then none else a
    match controlLetters.lookup c, setLetters.lookup c, edgeLetters.lookup c with
    | some c, _, _ => some (.char c, rest)
    | _, some s, _ => scripted (some (.set s, rest))
    | _, _, some p => scripted (some (.place p, rest))
    | none, none, none =>
      if c = 'A' then some (.place .textStart, rest)
      else if c = 'z' then some (.place .textEnd, rest)
      else if c = 'b' then
        scripted ((readWordEdge rest).map fun (p, rest) => (.place p, rest))
      else if c = 'x' then (readCode f 2 rest).map fun (c, rest) => (.char c, rest)
      else if c = 'u' then (readCode f 4 rest).map fun (c, rest) => (.char c, rest)
      else if c = 'U' then (readCode f 8 rest).map fun (c, rest) => (.char c, rest)
      else if 0x80 ≤ c.toNat || c.isAlphanum then none
      else some (.char c, rest)

/-! ## Sets in brackets -/

/-- An operation on two sets in brackets. -/
abbrev SetOperation := CharSet → CharSet → CharSet

/-- Reads an operation between two sets. -/
def readOperation? : List Char → Option (SetOperation × List Char)
  | '&' :: '&' :: rest => some (.inter, rest)
  | '-' :: '-' :: rest => some (.diff, rest)
  | '~' :: '~' :: rest => some (.symmDiff, rest)
  | _ => none

/-- Reads a set by its name between colons; nothing if it is not one. -/
def readNamed? : List Char → Option (CharSet × List Char)
  | '[' :: ':' :: rest =>
    let negated := rest.head? = some '^'
    match (if negated then rest.drop 1 else rest).span (· != ':') with
    | (name, ':' :: ']' :: rest) =>
      (CharSet.named.lookup (String.ofList name)).map fun s =>
        (if negated then s.complement else s, rest)
    | _ => none
  | _ => none

/-- Reads one character or one set of an escape inside brackets. -/
def readItem (f : Flags) : List Char → Option (Escape × List Char)
  | [] => none
  | '\\' :: rest => readEscape f rest
  | c :: rest => some (.char c, rest)

/-- A character inside brackets, which has to be among the first 128 if the flags say so. -/
def itemChar? (f : Flags) : Escape → Option Char
  | .char c => if f.allScripts || c.toNat < 0x80 then some c else none
  | _ => none

/-- Reads a character, a range or the set of an escape inside brackets. -/
def readRange (f : Flags) (cs : List Char) : Option (CharSet × List Char) := do
  let (first, rest) ← readItem f cs
  let rest := skipVerbose f rest
  let alone : Option (CharSet × List Char) :=
    match first with
    | .set s => some (s, rest)
    | first => (itemChar? f first).map fun c => (.only c, rest)
  match rest with
  | '-' :: more =>
    let more := skipVerbose f more
    if more.head? = some ']' || more.head? = some '-' then alone
    else
      let (last, rest) ← readItem f more
      let first ← itemChar? f first
      let last ← itemChar? f last
      if first ≤ last then some (.range first last, rest) else none
  | _ => alone

/-- The beginning of a set in brackets: whether it is negated, and the hyphens or the
bracket that stand for themselves there. -/
def readOpening (f : Flags) (cs : List Char) : Bool × CharSet × List Char :=
  let cs := skipVerbose f cs
  let negated := cs.head? = some '^'
  let cs := if negated then skipVerbose f (cs.drop 1) else cs
  match cs with
  | '-' :: _ => (negated, .only '-', cs.dropWhile (· == '-'))
  | ']' :: rest => (negated, .only ']', rest)
  | cs => (negated, .none, cs)

/-- Reads the inside of a set in brackets and the closing bracket.  `pending` is what an
operation does to the set that is being read. -/
def readInside (f : Flags) : Nat → (negated : Bool) → (pending : CharSet → CharSet) → CharSet →
    List Char → Option (CharSet × List Char)
  | 0, _, _, _, _ => none
  | fuel + 1, negated, pending, s, cs => do
    let cs := skipVerbose f cs
    match cs with
    | [] => none
    | ']' :: rest =>
      let s ← f.fold? s
      let s := pending s
      some (if negated then s.complement else s, rest)
    | '[' :: rest =>
      match readNamed? cs with
      | some (t, rest) => readInside f fuel negated pending (s.union t) rest
      | none =>
        let (inner, t, rest) := readOpening f rest
        let (t, rest) ← readInside f fuel inner id t rest
        readInside f fuel negated pending (s.union t) rest
    | cs =>
      match readOperation? cs with
      | some (operation, rest) =>
        let s ← f.fold? s
        readInside f fuel negated (operation (pending s)) .none rest
      | none =>
        let (t, rest) ← readRange f cs
        readInside f fuel negated pending (s.union t) rest

/-- Whether a set may be used under the flags: without the other scripts it holds none of
their characters. -/
def isUsable (f : Flags) (s : CharSet) : Bool :=
  f.allScripts || (List.range 128).all fun n => !s.has (Char.ofNat (128 + n))

/-- Reads a set in brackets behind the opening bracket. -/
def readClass (f : Flags) (cs : List Char) : Option (Pattern × List Char) := do
  let (negated, s, rest) := readOpening f cs
  let (s, rest) ← readInside f (rest.length + 1) negated id s rest
  if isUsable f s then some (.one s, rest) else none

/-! ## Repetitions -/

/-- Reads a decimal number between blanks; nothing is read where there are no digits. -/
def readDecimal (cs : List Char) : Option (Option Nat × List Char) :=
  let (digits, rest) := (cs.dropWhile isBlank).span Char.isDigit
  let n := digitsValue digits
  if digits.isEmpty then some (none, rest)
  else if n < 4294967296 then some (some n, rest.dropWhile isBlank)
  else none

/-- What says that a repetition takes as little as it can; it makes no difference here. -/
def skipLazy : List Char → List Char
  | '?' :: rest => rest
  | cs => cs

/-- Reads the numbers of a repetition behind the opening brace. -/
def readCount (cs : List Char) : Option (Nat × Option Nat × List Char) := do
  let (least, rest) ← readDecimal cs
  let least ← least
  match rest with
  | '}' :: rest => some (least, some least, rest)
  | ',' :: rest =>
    match ← readDecimal rest with
    | (none, '}' :: rest) => some (least, none, rest)
    | (some most, '}' :: rest) => if least ≤ most then some (least, some most, rest) else none
    | _ => none
  | _ => none

/-- Reads a repetition of what stands before it. -/
def readRepetition? : List Char → Option (Option (Nat × Option Nat × List Char))
  | '?' :: rest => some (some (0, some 1, rest))
  | '*' :: rest => some (some (0, none, rest))
  | '+' :: rest => some (some (1, none, rest))
  | '{' :: rest => some (readCount rest)
  | _ => none

/-! ## Groups -/

/-- A pattern for one character. -/
def literal? (f : Flags) (c : Char) : Option Pattern :=
  if f.allScripts || c.toNat < 0x80 then (f.fold? (.only c)).map .one else some (.one (.only c))

/-- A pattern for any character. -/
def dot? (f : Flags) : Option Pattern :=
  if !f.allScripts then none
  else if f.dotMeansAll then some (.one CharSet.none.complement)
  else
    let ends : CharSet := .only '\n'
    some (.one (if f.carriageReturns then ends.union (.only '\r') else ends).complement)

/-- The place of a caret. -/
def startPlace (f : Flags) : Place :=
  if !f.multiLine then .textStart else if f.carriageReturns then .returnStart else .lineStart

/-- The place of a dollar sign. -/
def endPlace (f : Flags) : Place :=
  if !f.multiLine then .textEnd else if f.carriageReturns then .returnEnd else .lineEnd

/-- Reads a character, a set or a place. -/
def readPrimitive (f : Flags) : List Char → Option (Pattern × List Char)
  | [] => none
  | '[' :: rest => readClass f rest
  | '.' :: rest => (dot? f).map fun p => (p, rest)
  | '^' :: rest => some (.place (startPlace f), rest)
  | '$' :: rest => some (.place (endPlace f), rest)
  | '\\' :: rest => do
    match ← readEscape f rest with
    | (.char c, rest) => some (← literal? f c, rest)
    | (.place p, rest) => some (.place p, rest)
    | (.set s, rest) => if isUsable f s then some (.one s, rest) else none
  | c :: rest => (literal? f c).map fun p => (p, rest)

/-- Whether a character may stand in the name of a group. -/
def isNameChar (isFirst : Bool) (c : Char) : Bool :=
  c == '_' || c.isAlpha || 0x80 ≤ c.toNat ||
    (!isFirst && (c.isDigit || c == '.' || c == '[' || c == ']'))

/-- Reads the name of a group, which ends with an angle bracket. -/
def readGroupName (cs : List Char) : Option (String × List Char) :=
  match cs.span (· != '>') with
  | (c :: name, _ :: rest) =>
    if isNameChar true c && name.all (isNameChar false) then some (String.ofList (c :: name), rest)
    else none
  | _ => none

/-- What a parenthesis opens. -/
inductive Opening
  /-- A group, with the flags inside. -/
  | group (f : Flags)
  /-- Nothing, but the flags change. -/
  | flags (f : Flags)

/-- Reads what follows an opening parenthesis.  Names of groups differ from those before;
groups that look ahead or back are not known. -/
def readOpeningGroup (f : Flags) (names : List String) (cs : List Char) :
    Option (Opening × List String × List Char) :=
  let named (cs : List Char) : Option (Opening × List String × List Char) := do
    let (name, rest) ← readGroupName cs
    if names.contains name then none else some (.group f, name :: names, rest)
  match skipVerbose f cs with
  | '?' :: 'P' :: '<' :: rest => named rest
  | '?' :: '<' :: rest =>
    if rest.head? = some '=' || rest.head? = some '!' then none else named rest
  | '?' :: rest => do
    let (inner, last, rest) ← readFlags [] true f rest
    some (if last = ')' then .flags inner else .group inner, names, rest)
  | rest => some (.group f, names, rest)

/-- Reads the inside of a group up to its end.  `done` are the alternatives before, `before`
is what stands before `last` in the present one, and `last` is what can be repeated. -/
def readBranches : Nat → Flags → List String → (done : Option Pattern) → (before : Pattern) →
    (last : Option Pattern) → List Char → Option (Pattern × List String × List Char)
  | 0, _, _, _, _, _, _ => none
  | fuel + 1, f, names, done, before, last, cs => do
    let cs := skipVerbose f cs
    let all : Pattern := match last with
      | none => before
      | some p => .seq before p
    let joined : Pattern := match done with
      | none => all
      | some d => .alt d all
    match readRepetition? cs, cs with
    | _, [] | _, ')' :: _ => some (joined, names, cs)
    | _, '|' :: rest => readBranches fuel f names (some joined) .empty none rest
    | some repetition, _ =>
      let p ← last
      let (least, most, rest) ← repetition
      readBranches fuel f names done before (some (.times p least most)) (skipLazy rest)
    | none, '(' :: rest =>
      match ← readOpeningGroup f names rest with
      | (.flags f, names, rest) => readBranches fuel f names done all none rest
      | (.group inner, names, rest) =>
        match ← readBranches fuel inner names none .empty none rest with
        | (p, names, ')' :: rest) => readBranches fuel f names done all (some p) rest
        | _ => none
    | none, cs =>
      let (p, rest) ← readPrimitive f cs
      readBranches fuel f names done all (some p) rest

/-- The largest patterns that are accepted. -/
def largest : Nat := 300000

/-- Reads a pattern. -/
def ofString? (text : String) : Option Pattern :=
  let cs := text.toList
  match readBranches (cs.length + 1) {} [] none .empty none cs with
  | some (p, _, []) => if p.size ≤ largest then some p else none
  | _ => none

end Pattern

end ConsoleLink.Text
