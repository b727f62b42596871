import ConsoleLink.Process.Handle

/-!
# Children that follow a script

A child that answers every look at it from a list, whose last answer stays.  It
counts the looks and the attempts to kill it.
-/

namespace ConsoleLink

/-- A child that follows a script. -/
structure ScriptedChild where
  answers : List (Except SystemFault (Option Int))
  /-- The exit code once it was killed; without one it goes on with its answers. -/
  killedCode : Option Int := none
  /-- Why it cannot be killed. -/
  killFault : Option SystemFault := none
  killed : Bool := false
  polls : Nat := 0
  kills : Nat := 0

namespace ScriptedChild

/-- The next answer of the script. -/
def nextAnswer (c : ScriptedChild) : ScriptedChild × Except SystemFault (Option Int) :=
  match c.answers with
  | [] => (c, .ok none)
  | [answer] => (c, answer)
  | answer :: rest => ({ c with answers := rest }, answer)

/-- Looks whether the child has ended. -/
def look (c : ScriptedChild) : ScriptedChild × Except SystemFault (Option Int) :=
  let c := { c with polls := c.polls + 1 }
  match c.killed, c.killedCode with
  | true, some code => (c, .ok (some code))
  | _, _ => c.nextAnswer

/-- Attempts to end the child. -/
def attack (c : ScriptedChild) : ScriptedChild × Except SystemFault Unit :=
  let c := { c with kills := c.kills + 1 }
  match c.killFault with
  | some fault => (c, .error fault)
  | none => ({ c with killed := true }, .ok ())

instance : ChildProcess ScriptedChild where
  tryWait := look
  kill := attack

end ScriptedChild

end ConsoleLink
