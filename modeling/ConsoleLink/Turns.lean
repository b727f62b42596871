/-!
# Taking turns

Several parties act in one world in small steps.  A party that only waits for a
time to come is passed over; when nobody else can act, the clock moves on to the
first of these times.

* `Party` is somebody who acts.
* `Turns.turn?` is the next thing that happens: of the parties that can act the first
  one does, so an earlier one goes on until it has to wait.
* `Turns.run` goes on until a goal is reached, nobody is left, or the turns are over.
-/

namespace ConsoleLink

/-- Somebody who acts in a world `ω` in small steps. -/
structure Party (ω : Type) where
  /-- One step, at a time in nanoseconds. -/
  act : Nat → ω → ω
  /-- Until when it only waits, if it does. -/
  waits : ω → Option Nat
  /-- Whether it takes no more steps. -/
  isDone : ω → Bool

namespace Party

variable {ω α : Type}

/-- Whether a party has something to do. -/
def canAct (now : Nat) (w : ω) (p : Party ω) : Bool :=
  !p.isDone w && (match p.waits w with
    | none => true
    | some wake => wake ≤ now)

/-- When a party that only waits will act again. -/
def wake? (w : ω) (p : Party ω) : Option Nat := if p.isDone w then none else p.waits w

/-- A party of one part of a world, the part being seen through `get` and `set`. -/
def within (get : α → ω) (set : ω → α → α) (p : Party ω) : Party α where
  act now a := set (p.act now (get a)) a
  waits a := p.waits (get a)
  isDone a := p.isDone (get a)

end Party

namespace Turns

variable {ω : Type}

/-- The first time at which one of the waiting parties will act again. -/
def nextWake? (w : ω) (parties : List (Party ω)) : Option Nat :=
  (parties.filterMap (Party.wake? w)).min?

/-- The next thing that happens: a step, or the clock moving on. -/
def turn? (parties : List (Party ω)) (now : Nat) (w : ω) : Option (Nat × ω) :=
  match parties.find? (Party.canAct now w) with
  | some p => some (now, p.act now w)
  | none => (nextWake? w parties).map fun wake => (wake, w)

/-- More turns than anything takes. -/
def plenty : Nat := 1000000000000

/-- Goes on for at most a number of turns, as long as the goal is not reached. -/
def run (parties : List (Party ω)) (goal : ω → Bool) : Nat → Nat → ω → Nat × ω
  | 0, now, w => (now, w)
  | turns + 1, now, w =>
    if goal w then (now, w)
    else
      match turn? parties now w with
      | none => (now, w)
      | some (now, w) => run parties goal turns now w

end Turns

end ConsoleLink
