/-!
# Shell scripts

A small part of the shell's language: commands one after the other, or depending on how
the one before came out, that end the shell, send it a signal, or wait.

* `Script.tokens` cuts a script into words and separators.
* `Script.Progress` is what became of a shell so far, `Script.command` what a command
  makes of it.
* `Script.run` runs a whole script.
-/

namespace ConsoleLink.Script

/-! ## Words -/

/-- The separators between commands. -/
def separators : List String := ["&&", "||", ";"]

/-- The words and the separators of a script. -/
def tokens (script : String) : List String :=
  let spaced :=
    separators.foldl (fun s w => s.replace w (" " ++ w ++ " ")) (script.replace "\n" ";")
  ((spaced.replace "\t" " ").splitOn " ").filter (· ≠ "")

/-! ## Signals -/

/-- The signals that have names. -/
def signalNames : List (String × Nat) :=
  [("HUP", 1), ("INT", 2), ("QUIT", 3), ("ILL", 4), ("TRAP", 5), ("ABRT", 6), ("BUS", 7),
   ("FPE", 8), ("KILL", 9), ("USR1", 10), ("SEGV", 11), ("USR2", 12), ("PIPE", 13), ("ALRM", 14),
   ("TERM", 15), ("STKFLT", 16), ("CHLD", 17), ("CONT", 18), ("STOP", 19), ("TSTP", 20),
   ("TTIN", 21), ("TTOU", 22), ("URG", 23), ("XCPU", 24), ("XFSZ", 25), ("VTALRM", 26),
   ("PROF", 27), ("WINCH", 28), ("POLL", 29), ("PWR", 30), ("SYS", 31)]

/-- The number of a signal from its number or name. -/
def signalNumber? (word : String) : Option Nat :=
  (word.toNat?.filter (· ≤ 64)).or (signalNames.lookup word.toUpper)

/-- The signals that do nothing to a shell; the first is none at all. -/
def harmless : List Nat := [0, 17, 18, 23, 28]

/-- The signals that stop a shell for ever. -/
def stopping : List Nat := [19, 20, 21, 22]

/-! ## Running -/

/-- What became of a shell after some time, in seconds. -/
inductive Progress
  /-- It goes on; `status` is how the last command came out. -/
  | going (seconds status : Nat)
  | ended (seconds code : Nat)
  | stopped
  deriving DecidableEq, Repr

/-- The code of a shell that cannot make sense of a number or an option. -/
def misuse : Nat := 2

/-- The status of a command that does not exist. -/
def unknown : Nat := 127

/-- What a command makes of a shell. -/
def command (seconds status : Nat) (words : List String) : Progress :=
  match words with
  | [] => .going seconds status
  | ["true"] | [":"] => .going seconds 0
  | ["false"] => .going seconds 1
  | ["exit"] => .ended seconds status
  | "exit" :: code :: _ =>
    match code.toNat?.filter (· < 2147483648) with
    | some code => .ended seconds (code % 256)
    | none => .ended seconds misuse
  | ["sleep", n] => .going (seconds + n.toNat?.getD 0) 0
  | ["exec", "sleep", n] => .ended (seconds + n.toNat?.getD 0) 0
  | ["kill", signal, "$$"] =>
    match signalNumber? (signal.drop 1).toString with
    | none => .going seconds misuse
    | some n =>
      if harmless.contains n then .going seconds 0
      else if stopping.contains n then .stopped
      else .ended seconds (128 + n)
  | _ => .going seconds unknown

/-- Runs a command, unless it is passed over or the shell has ended. -/
def Progress.next (p : Progress) (isSkipped : Bool) (words : List String) : Progress :=
  match p with
  | .going seconds status => if isSkipped then p else command seconds status words
  | p => p

/-- How the last command came out. -/
def Progress.status : Progress → Nat
  | .going _ status => status
  | .ended _ code => code
  | .stopped => 0

/-- Runs words; `words` are those of the present command so far, and `isSkipped` tells
whether it is passed over. -/
def runTokens (isSkipped : Bool) (words : List String) (p : Progress) : List String → Progress
  | [] => p.next isSkipped words
  | token :: rest =>
    if separators.contains token then
      let p := p.next isSkipped words
      let skipsNext := (token == "&&" && p.status != 0) || (token == "||" && p.status == 0)
      runTokens skipsNext [] p rest
    else runTokens isSkipped (words ++ [token]) p rest

/-- Runs a script. -/
def run (script : String) : Progress := runTokens false [] (.going 0 0) (tokens script)

end ConsoleLink.Script
