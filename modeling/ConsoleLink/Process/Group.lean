import ConsoleLink.Process.Handle

/-!
# Groups of processes

A group is led by a child.  Whoever lets go of the group kills what still runs in it.
-/

namespace ConsoleLink

/-- A group of processes. -/
structure ProcessGroup where
  name : String
  /-- The number of the child that leads it. -/
  leader : Option Nat := none
  deriving DecidableEq, Repr

namespace ProcessGroup

/-- Puts a child at the head of the group. -/
def assign (g : ProcessGroup) (pid : Nat) : ProcessGroup := { g with leader := some pid }

/-- What becomes of a child when the group is let go. -/
def release {γ : Type} [ChildProcess γ] (g : ProcessGroup) (pid : Nat) (child : γ) : γ :=
  if g.leader = some pid then (ChildProcess.kill child).1 else child

end ProcessGroup

end ConsoleLink
