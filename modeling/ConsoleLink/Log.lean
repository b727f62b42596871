import ConsoleLink.Text.Pattern.Reader
import ConsoleLink.Text.Plain

/-!
# Log records

A record has a level and a target, the part of the program that it is about.  A
filter decides which records are shown.

* `LogFilter.parse` reads a filter: directives between commas, each a level, a
  target, or a target with a level behind an equals sign; then perhaps a slash and a
  pattern.  What is none of these is passed over.  `LogFilter.ofVariable` also knows
  what counts without a filter.
* `LogFilter.allows` applies the directive with the longest target that the record's
  target begins with, and looks for the pattern in the message.
* `LogRecord.text` is what is shown of a record.
-/

namespace ConsoleLink

/-- The levels of records, the gravest first. -/
inductive LogLevel
  | error
  | warn
  | info
  | debug
  | trace
  deriving DecidableEq, Repr

namespace LogLevel

/-- The levels in order. -/
def all : List LogLevel := [error, warn, info, debug, trace]

/-- The name of a level. -/
def name : LogLevel → String
  | error => "ERROR"
  | warn => "WARN"
  | info => "INFO"
  | debug => "DEBUG"
  | trace => "TRACE"

/-- The place of a level in the order, from one on. -/
def rank : LogLevel → Nat
  | error => 1
  | warn => 2
  | info => 3
  | debug => 4
  | trace => 5

end LogLevel

/-- A log record. -/
structure LogRecord where
  level : LogLevel
  target : String
  message : String
  deriving DecidableEq, Repr

/-- What is shown of a record, its line feed included. -/
def LogRecord.text (r : LogRecord) : String :=
  Text.plain (s!"[{r.level.name}] {r.target}: {r.message}" ++ "\n")

/-- A rule: records up to some rank are shown, of all targets or of those whose name
begins with a text. -/
structure LogDirective where
  target : Option String
  rank : Nat
  deriving DecidableEq, Repr

namespace LogDirective

/-- How much of a target a rule looks at, in bytes. -/
def weight (d : LogDirective) : Nat := (d.target.map String.utf8ByteSize).getD 0

/-- Whether a rule is about a target. -/
def isAbout (d : LogDirective) (target : String) : Bool :=
  d.target.all fun t => t.toList.isPrefixOf target.toList

end LogDirective

/-- Rules, of which the last one that is about a target counts, and a pattern that shown
messages contain. -/
structure LogFilter where
  directives : List LogDirective
  pattern : Option Text.Pattern := none

namespace LogFilter

/-- The rank that a word stands for; capital letters do not count. -/
def rankOf? (word : String) : Option Nat :=
  if word.toUpper = "OFF" then some 0
  else (LogLevel.all.find? (·.name = word.toUpper)).map LogLevel.rank

/-- The directive of a part of a filter. -/
def directive? (part : String) : Option LogDirective :=
  match part.splitOn "=" with
  | [word] =>
    match rankOf? word with
    | some rank => some { target := none, rank }
    | none => some { target := some word, rank := LogLevel.trace.rank }
  | [target, word] =>
    let word := Text.trim word
    if word = "" then some { target := some target, rank := LogLevel.trace.rank }
    else (rankOf? word).map fun rank => { target := some target, rank }
  | _ => none

/-- The rules with one more; it takes the place of a rule for the same target. -/
def insert (d : LogDirective) (directives : List LogDirective) : List LogDirective :=
  if directives.any (·.target = d.target) then
    directives.map fun e => if e.target = d.target then d else e
  else directives ++ [d]

/-- The rules that are given, those that look at more of a target behind the others; if
none is given, errors are shown. -/
def arranged (directives : List LogDirective) : List LogDirective :=
  match directives.foldl (fun all d => insert d all) [] with
  | [] => [{ target := none, rank := LogLevel.error.rank }]
  | directives => directives.mergeSort fun d e => d.weight ≤ e.weight

/-- The parts of a filter between commas. -/
def parts (text : String) : List String :=
  ((text.splitOn ",").map Text.trim).filter (· ≠ "")

/-- Reads a filter; a pattern stands behind a slash.  What cannot be read does not
count. -/
def parse (text : String) : LogFilter :=
  let rules (text : String) := arranged ((parts text).filterMap directive?)
  match text.splitOn "/" with
  | [text] => ⟨rules text, none⟩
  | [text, pattern] => ⟨rules text, Text.Pattern.ofString? pattern⟩
  | _ => ⟨arranged [], none⟩

/-- A filter with one rule for all targets. -/
def upTo (level : LogLevel) : LogFilter where
  directives := [{ target := none, rank := level.rank }]

/-- The filter that a variable sets; without it warnings and errors are shown. -/
def ofVariable : Option String → LogFilter
  | some text => parse text
  | none => upTo .warn

/-- The rule for a target, if there is one. -/
def rule? (f : LogFilter) (target : String) : Option LogDirective :=
  f.directives.reverse.find? (·.isAbout target)

/-- Whether a record is shown. -/
def allows (f : LogFilter) (r : LogRecord) : Bool :=
  (f.rule? r.target).any (r.level.rank ≤ ·.rank) && f.pattern.all (·.occursIn r.message)

end LogFilter

end ConsoleLink
