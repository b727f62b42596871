import ConsoleLink.Transfer

/-!
# Receivers of output

Lines and progress notifications go to a receiver each, and to nobody while none
is attached.  Receivers may be exchanged at any time.

* `Delivery` is what a receiver gets.
* `Receivers.emitLines` and `Receivers.emitProgress` deliver.  A receiver of lines
  may break down on one; the lines behind it are then not delivered.
-/

namespace ConsoleLink

/-- Something that was delivered, and to whom. -/
inductive Delivery (ρ : Type)
  | line (receiver : ρ) (text : String)
  | progress (receiver : ρ) (notification : Transfer)

/-- A receiver of lines. -/
structure LineReceiver (ρ : Type) where
  receiver : ρ
  /-- The line on which it breaks down, after taking it. -/
  breaksOn : Option String := none

/-- The receivers that are attached. -/
structure Receivers (ρ : Type) where
  output : Option (LineReceiver ρ) := none
  progress : Option ρ := none

namespace Receivers

/-- No receiver at all. -/
def none {ρ : Type} : Receivers ρ := {}

/-- Delivers lines; also tells whether the receiver broke down. -/
def emitLines {ρ : Type} (r : Receivers ρ) : List String → List (Delivery ρ) × Bool
  | [] => ([], false)
  | line :: rest =>
    match r.output with
    | .none => ([], false)
    | some l =>
      if l.breaksOn = some line then ([.line l.receiver line], true)
      else
        match emitLines r rest with
        | (deliveries, broken) => (.line l.receiver line :: deliveries, broken)

/-- Delivers a progress notification. -/
def emitProgress {ρ : Type} (r : Receivers ρ) (t : Transfer) : List (Delivery ρ) :=
  match r.progress with
  | .none => []
  | some receiver => [.progress receiver t]

end Receivers

end ConsoleLink
