import ConsoleLink.Envelope.Layout
import ConsoleLink.Fault

/-!
# Commands that wait for the child

Commands are handed to the child one by one, the oldest first, whenever it asks
for input.  Only a command that the answer field of an envelope can hold is
accepted.

* `CommandQueue.enqueue` accepts a command or refuses it.
* `CommandQueue.dequeue?` takes the oldest one.
-/

namespace ConsoleLink

/-- Commands in the order in which they were accepted. -/
structure CommandQueue where
  commands : List String := []
  deriving DecidableEq, Repr

namespace CommandQueue

/-- The number of units that a command stays below. -/
def limit : Nat := Layout.inputAnswer.capacity

/-- Why a command is refused, if it is. -/
def refusal? (text : String) : Option LinkFault :=
  match Wide.nulPosition text with
  | some position => some (.commandHasNul position)
  | none => if limit ≤ Wide.length text then some (.commandTooLong text (limit - 1)) else none

/-- Adds a command, or refuses it; also what came of it. -/
def enqueue (q : CommandQueue) (text : String) : CommandQueue × Except LinkFault Unit :=
  match refusal? text with
  | some fault => (q, .error fault)
  | none => (⟨q.commands ++ [text]⟩, .ok ())

theorem enqueue_of_refused {text : String} {fault : LinkFault} (q : CommandQueue)
    (h : refusal? text = some fault) : q.enqueue text = (q, .error fault) := by
  simp only [enqueue, h]

theorem enqueue_of_accepted {text : String} (q : CommandQueue) (h : refusal? text = none) :
    q.enqueue text = (⟨q.commands ++ [text]⟩, .ok ()) := by
  simp only [enqueue, h]

/-- A command that is refused leaves the queue as it was. -/
theorem enqueue_eq_error {q q' : CommandQueue} {text : String} {fault : LinkFault}
    (h : q.enqueue text = (q', .error fault)) : q' = q := by
  unfold enqueue at h
  split at h
  · cases h
    rfl
  · cases h

/-- A command that is accepted goes behind all others. -/
theorem enqueue_eq_ok {q q' : CommandQueue} {text : String} (h : q.enqueue text = (q', .ok ())) :
    refusal? text = none ∧ q'.commands = q.commands ++ [text] := by
  unfold enqueue at h
  split at h
  · cases h
  · cases h
    exact ⟨‹_›, rfl⟩

/-- Takes the oldest command. -/
def dequeue? (q : CommandQueue) : Option (String × CommandQueue) :=
  match q.commands with
  | [] => none
  | text :: rest => some (text, ⟨rest⟩)

/-- The number of commands. -/
def length (q : CommandQueue) : Nat := q.commands.length

/-- Whether there is no command. -/
def isEmpty (q : CommandQueue) : Bool := q.commands.isEmpty

end CommandQueue

end ConsoleLink
