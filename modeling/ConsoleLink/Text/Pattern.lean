/-!
# Patterns of text

A pattern is a regular expression over characters and places.

* `CharSet` is a set of characters, `Place` a condition on a place in a text.
* `Pattern` is what can be built of them.
* `Motion` is a pattern over one text: it moves a set of places to the places where
  what begins there can end.  A set of places is a number whose bits they are.
* `Pattern.occursIn` tells whether some part of a text is one that the pattern means.
-/

namespace ConsoleLink.Text

/-! ## Sets of characters -/

/-- A set of characters. -/
structure CharSet where
  has : Char → Bool

namespace CharSet

/-- No character. -/
def none : CharSet := ⟨fun _ => false⟩

/-- One character. -/
def only (c : Char) : CharSet := ⟨(· == c)⟩

/-- The characters from one to another. -/
def range (first last : Char) : CharSet := ⟨fun c => first ≤ c && c ≤ last⟩

/-- The characters with codes in some ranges. -/
def ofRanges (ranges : List (Nat × Nat)) : CharSet :=
  ⟨fun c => ranges.any fun r => r.1 ≤ c.toNat && c.toNat ≤ r.2⟩

/-- The characters that are not in a set. -/
def complement (s : CharSet) : CharSet := ⟨fun c => !s.has c⟩

/-- The characters in one set or the other. -/
def union (s t : CharSet) : CharSet := ⟨fun c => s.has c || t.has c⟩

/-- The characters in both sets. -/
def inter (s t : CharSet) : CharSet := ⟨fun c => s.has c && t.has c⟩

/-- The characters in the first set alone. -/
def diff (s t : CharSet) : CharSet := ⟨fun c => s.has c && !t.has c⟩

/-- The characters in one of the sets alone. -/
def symmDiff (s t : CharSet) : CharSet := ⟨fun c => s.has c != t.has c⟩

/-- The set with the other case of its Latin letters. -/
def folded (s : CharSet) : CharSet := ⟨fun c => s.has c || s.has c.toLower || s.has c.toUpper⟩

/-- The Latin letters, the digits and the underscore. -/
def word : CharSet := ofRanges [(0x30, 0x39), (0x41, 0x5a), (0x5f, 0x5f), (0x61, 0x7a)]

/-- The digits. -/
def digit : CharSet := ofRanges [(0x30, 0x39)]

/-- White space among the first 128 characters. -/
def space : CharSet := ofRanges [(0x09, 0x0d), (0x20, 0x20)]

/-- The sets that have a name. -/
def named : List (String × CharSet) :=
  [("alnum", ofRanges [(0x30, 0x39), (0x41, 0x5a), (0x61, 0x7a)]),
   ("alpha", ofRanges [(0x41, 0x5a), (0x61, 0x7a)]),
   ("ascii", ofRanges [(0x00, 0x7f)]),
   ("blank", ofRanges [(0x09, 0x09), (0x20, 0x20)]),
   ("cntrl", ofRanges [(0x00, 0x1f), (0x7f, 0x7f)]),
   ("digit", digit),
   ("graph", ofRanges [(0x21, 0x7e)]),
   ("lower", ofRanges [(0x61, 0x7a)]),
   ("print", ofRanges [(0x20, 0x7e)]),
   ("punct", ofRanges [(0x21, 0x2f), (0x3a, 0x40), (0x5b, 0x60), (0x7b, 0x7e)]),
   ("space", space),
   ("upper", ofRanges [(0x41, 0x5a)]),
   ("word", word),
   ("xdigit", ofRanges [(0x30, 0x39), (0x41, 0x46), (0x61, 0x66)])]

end CharSet

/-! ## Places -/

/-- A condition on a place in a text. -/
inductive Place
  | textStart
  | textEnd
  | lineStart
  | lineEnd
  /-- A line's start where a carriage return before a line feed belongs to its end. -/
  | returnStart
  | returnEnd
  /-- Just one of the neighbours belongs to a word. -/
  | wordEdge
  | notWordEdge
  | wordStart
  | wordEnd
  /-- What is before does not belong to a word. -/
  | wordStartHalf
  | wordEndHalf
  deriving DecidableEq, Repr

/-- Whether a condition holds between two neighbours. -/
def Place.holds (p : Place) (before after : Option Char) : Bool :=
  let isWord (c : Option Char) : Bool := c.any CharSet.word.has
  match p with
  | textStart => before.isNone
  | textEnd => after.isNone
  | lineStart => before.all (· == '\n')
  | lineEnd => after.all (· == '\n')
  | returnStart =>
    before.all fun c => c == '\n' || (c == '\r' && after != some '\n')
  | returnEnd =>
    after.all fun c => c == '\r' || (c == '\n' && before != some '\r')
  | wordEdge => isWord before != isWord after
  | notWordEdge => isWord before == isWord after
  | wordStart => !isWord before && isWord after
  | wordEnd => isWord before && !isWord after
  | wordStartHalf => !isWord before
  | wordEndHalf => !isWord after

/-! ## Patterns -/

/-- A regular expression. -/
inductive Pattern
  /-- No character at all. -/
  | empty
  /-- One character of a set. -/
  | one (s : CharSet)
  /-- No character at a place. -/
  | place (p : Place)
  | seq (p q : Pattern)
  | alt (p q : Pattern)
  /-- A number of repetitions: at least and, if there is a limit, at most so many. -/
  | times (p : Pattern) (least : Nat) (most : Option Nat)

namespace Pattern

/-- How large a pattern is once its repetitions are written out. -/
def size : Pattern → Nat
  | empty | place _ | one _ => 1
  | seq p q | alt p q => p.size + q.size
  | times p least most => p.size * (max 1 (max least (most.getD 0)))

end Pattern

/-! ## Matching -/

/-- A pattern over one text. -/
inductive Motion
  /-- From some places to the next ones. -/
  | step (places : Nat)
  /-- Some places are kept. -/
  | stay (places : Nat)
  | seq (p q : Motion)
  | alt (p q : Motion)
  | times (p : Motion) (least : Nat) (most : Option Nat)

/-- The places of a list for which something holds, as bits. -/
def bits : List Bool → Nat
  | [] => 0
  | b :: rest => 2 * bits rest + b.toNat

/-- The neighbours of each place in a text. -/
def neighbours : Option Char → List Char → List (Option Char × Option Char)
  | before, [] => [(before, none)]
  | before, c :: rest => (before, some c) :: neighbours (some c) rest

/-- A pattern over a text. -/
def Pattern.over (text : List Char) : Pattern → Motion
  | empty => .stay (bits (true :: text.map fun _ => true))
  | one s => .step (bits (text.map s.has))
  | place p => .stay (bits ((neighbours none text).map fun n => p.holds n.1 n.2))
  | seq p q => .seq (p.over text) (q.over text)
  | alt p q => .alt (p.over text) (q.over text)
  | times p least most => .times (p.over text) least most

namespace Motion

/-- Moves a set of places a number of times. -/
def repeated (f : Nat → Nat) : Nat → Nat → Nat
  | 0, places => places
  | n + 1, places => repeated f n (f places)

/-- Adds the places moved to, for a number of times or until none is new. -/
def spread (f : Nat → Nat) : Nat → Nat → Nat
  | 0, places => places
  | n + 1, places =>
    let more := places ||| f places
    if more = places then places else spread f n more

/-- Moves a set of places.  In a text with fewer than `bound` places no more repetitions
than `bound` make a difference. -/
def run (bound : Nat) : Motion → Nat → Nat
  | step s, places => (places &&& s) <<< 1
  | stay s, places => places &&& s
  | seq p q, places => q.run bound (p.run bound places)
  | alt p q, places => p.run bound places ||| q.run bound places
  | times p least most, places =>
    let extra := match most with
      | none => bound
      | some most => most - least
    spread (p.run bound) (min extra bound) (repeated (p.run bound) (min least bound) places)

end Motion

/-- Whether some part of a text is one that the pattern means. -/
def Pattern.occursIn (p : Pattern) (text : String) : Bool :=
  let cs := text.toList
  let everywhere := bits (true :: cs.map fun _ => true)
  (p.over cs).run (cs.length + 2) everywhere != 0

end ConsoleLink.Text
