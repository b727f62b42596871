import ConsoleLink.Desk
import ConsoleLink.Proofs.Serving.Works

/-!
# How the desk gets on with an event

A desk that is not told to stop answers most events at once.  It waits for a command, or for the
end of a choice.

* `Task.IsInput` and `Task.deadline?` tell the two kinds of waiting.
* `advance_fresh`, `advance_input`, `advance_hasCommand` and `advance_choice` say what one step of
  the desk leads to.
* `Phase.IsGoing` are the phases of a loop that was not told to stop and that nothing went wrong
  with; `Phase.IsGoing.cases` sorts them.
* `going_shared` says what a step of such a loop does to the signals; `Phase.busy` counts the
  request that it is at work on.
-/

namespace ConsoleLink

namespace Desk

/-! ## Waiting -/

/-- The desk is at an input. -/
def Task.IsInput : Task → Prop
  | take | ask | await _ => True
  | _ => False

/-- How many steps an input takes when there is a command. -/
def Task.rank : Task → Nat
  | await _ => 1
  | ask => 2
  | _ => 0

/-- When the time of a choice is over. -/
def Task.deadline? : Task → Option Nat
  | clock _ deadline | askChoice _ deadline _ | sleep _ deadline _ => some deadline
  | _ => none

/-- A step of the desk leads to a reply, or the receiver breaks down. -/
def Move.IsLast (move : Move Task) : Prop := move = .broken ∨ ∃ reply, move = .reply reply

theorem isLast_replyUnless (broken : Bool) (reply : Reply) :
    Move.IsLast (replyUnless broken reply) := by
  cases broken with
  | true => exact Or.inl rfl
  | false => exact Or.inr ⟨reply, rfl⟩

/-- A new event is answered, or the desk waits for a command or for a time. -/
theorem advance_fresh (m : Moment) (event : Event) (d : Desk) :
    Move.IsLast (advance m (.fresh event) d).2 ∨ (advance m (.fresh event) d).2 = .go .take ∨
      ∃ prompt deadline, (advance m (.fresh event) d).2 = .go (.clock prompt deadline) := by
  cases event with
  | print message fromBeginning =>
    left
    simp only [advance, receive]
    exact isLast_replyUnless _ _
  | input => exact Or.inr (Or.inl rfl)
  | choice prompt =>
    simp only [advance, receive]
    split
    · exact Or.inr (Or.inr ⟨prompt, _, rfl⟩)
    · exact Or.inl (Or.inr ⟨_, rfl⟩)
  | title text => exact Or.inl (Or.inr ⟨_, rfl⟩)
  | init => exact Or.inl (Or.inr ⟨_, rfl⟩)
  | progress report => exact Or.inl (Or.inr ⟨_, rfl⟩)

/-- An input stays one until it is answered. -/
theorem advance_input (m : Moment) {task : Task} (hinput : task.IsInput) (d : Desk) :
    Move.IsLast (advance m task d).2 ∨
      ∃ next, (advance m task d).2 = .go next ∧ next.IsInput := by
  cases task with
  | take =>
    simp only [advance, takeCommand]
    split
    · exact Or.inr ⟨.ask, rfl, trivial⟩
    · exact Or.inl (isLast_replyUnless _ _)
  | ask =>
    simp only [advance]
    split
    · exact Or.inl (Or.inr ⟨_, rfl⟩)
    · exact Or.inr ⟨_, rfl, trivial⟩
  | await limit =>
    simp only [advance]
    split
    · exact Or.inr ⟨.take, rfl, trivial⟩
    · exact Or.inr ⟨_, rfl, trivial⟩
  | fresh | clock | askChoice | sleep => cases hinput

/-- With a command, an input is answered within three steps. -/
theorem advance_hasCommand {m : Moment} (hstop : m.stop = false) {task : Task}
    (hinput : task.IsInput) {d : Desk} (hcommand : d.queue.isEmpty = false) :
    Move.IsLast (advance m task d).2 ∨
      ∃ next, advance m task d = (d, .go next) ∧ next.IsInput ∧ next.rank < task.rank := by
  cases task with
  | take =>
    left
    simp only [advance, takeCommand]
    split
    · rename_i hnone
      unfold CommandQueue.dequeue? at hnone
      unfold CommandQueue.isEmpty at hcommand
      split at hnone
      · simp_all
      · cases hnone
    · exact isLast_replyUnless _ _
  | ask =>
    simp only [advance, hstop, Bool.false_eq_true, ↓reduceIte]
    exact Or.inr ⟨_, rfl, trivial, by simp [Task.rank]⟩
  | await limit =>
    simp only [advance, hcommand, Bool.not_false, Bool.true_or, ↓reduceIte]
    exact Or.inr ⟨.take, rfl, trivial, by simp [Task.rank]⟩
  | fresh | clock | askChoice | sleep => cases hinput

/-- A choice keeps its deadline until it is answered. -/
theorem advance_choice (m : Moment) {task : Task} {deadline : Nat}
    (hchoice : task.deadline? = some deadline) (d : Desk) :
    Move.IsLast (advance m task d).2 ∨
      ∃ next, (advance m task d).2 = .go next ∧ next.deadline? = some deadline := by
  cases task with
  | clock prompt time =>
    simp only [advance]
    split
    · exact Or.inl (Or.inr ⟨_, rfl⟩)
    · exact Or.inr ⟨_, rfl, hchoice⟩
  | askChoice prompt time seen =>
    simp only [advance]
    split
    · exact Or.inl (Or.inr ⟨_, rfl⟩)
    · exact Or.inr ⟨_, rfl, hchoice⟩
  | sleep prompt time limit =>
    simp only [advance]
    split
    · exact Or.inr ⟨_, rfl, hchoice⟩
    · exact Or.inr ⟨_, rfl, hchoice⟩
  | fresh | take | ask | await => cases hchoice

end Desk

namespace ServingLoop

variable {τ : Type}

/-! ## The loop of a desk -/

/-- Something went wrong with the loop. -/
def Phase.IsFaulty : Phase τ → Prop
  | .closing (.error _) | .ended (.error _) | .broken => True
  | _ => False

/-- How many requests the loop is at work on. -/
def Phase.busy : Phase τ → Nat
  | .reading | .handling _ | .replying _ | .signalling => 1
  | _ => 0

/-- The loop goes on. -/
def Phase.IsGoing (phase : Phase τ) : Prop := ¬ phase.IsFaulty ∧ ¬ phase.IsStopped

/-- How many turns the loop stays where it is, unless it has to wait. -/
def Phase.rank : Phase Desk.Task → Nat
  | .asking | .reading => 1
  | .handling task => task.rank
  | _ => 0

/-- The loop is ready for a request. -/
def Phase.IsReady : Phase τ → Prop
  | .asking | .listening _ => True
  | _ => False

/-- The loop has a request and has done nothing about its event. -/
def Phase.IsNew (phase : Phase Desk.Task) : Prop :=
  phase = .reading ∨ ∃ event, phase = .handling (.fresh event)

/-- The desk is at an input. -/
def Phase.IsInput (phase : Phase Desk.Task) : Prop := ∃ task, phase = .handling task ∧ task.IsInput

/-- The desk is at a choice, which ends at a time. -/
def Phase.IsChoice (deadline : Nat) (phase : Phase Desk.Task) : Prop :=
  ∃ task, phase = .handling task ∧ task.deadline? = some deadline

/-- The desk waits for a command, or for the end of a choice. -/
def Phase.IsWaiting (phase : Phase Desk.Task) : Prop :=
  phase.IsInput ∨ ∃ deadline, phase.IsChoice deadline

/-- The loop has a reply. -/
def Phase.IsReplying (phase : Phase τ) : Prop := ∃ reply, phase = .replying reply

theorem Phase.busy_of_ready {phase : Phase τ} (hready : phase.IsReady) : phase.busy = 0 := by
  cases phase with
  | asking | listening => rfl
  | _ => cases hready

/-- Where a loop that goes on can be. -/
theorem Phase.IsGoing.cases {phase : Phase Desk.Task} (hgoing : phase.IsGoing) :
    phase.IsReady ∨ phase.IsNew ∨ phase.IsWaiting ∨ phase.IsReplying ∨ phase = .signalling := by
  cases phase with
  | asking | listening => exact Or.inl trivial
  | reading => exact Or.inr (Or.inl (Or.inl rfl))
  | handling task =>
    right
    cases task with
    | fresh event => exact Or.inl (Or.inr ⟨event, rfl⟩)
    | take | ask | await => exact Or.inr (Or.inl (Or.inl ⟨_, rfl, trivial⟩))
    | clock | askChoice | sleep => exact Or.inr (Or.inl (Or.inr ⟨_, _, rfl, rfl⟩))
  | replying reply => exact Or.inr (Or.inr (Or.inr (Or.inl ⟨reply, rfl⟩)))
  | signalling => exact Or.inr (Or.inr (Or.inr (Or.inr rfl)))
  | closing outcome | ended outcome =>
    cases outcome with
    | ok => exact absurd trivial hgoing.2
    | error fault => exact absurd trivial hgoing.1
  | broken => exact absurd trivial hgoing.1

section Steps

variable {m : Moment} {l : ServingLoop Desk Desk.Task} {s : Shared}

theorem step_desk {task : Desk.Task} (hphase : l.phase = .handling task) (m : Moment) (s : Shared) :
    (l.step Desk.handler m s).1.phase = .after (Desk.advance m task l.state).2 ∧
      (l.step Desk.handler m s).1.state = (Desk.advance m task l.state).1 ∧
        (l.step Desk.handler m s).2 = s := by
  have hadvance : Desk.handler.advance m task l.state =
      ((Desk.advance m task l.state).1, (Desk.advance m task l.state).2) := rfl
  rw [step_handling s hphase hadvance]
  exact ⟨rfl, rfl, rfl⟩

/-- A desk that does not break down has a reply in the end. -/
theorem after_isLast {move : Move Desk.Task} (hlast : Desk.Move.IsLast move)
    (hgoing : (Phase.after move).IsGoing) : (Phase.after move).IsReplying := by
  rcases hlast with rfl | ⟨reply, rfl⟩
  · exact absurd trivial hgoing.1
  · exact ⟨reply, rfl⟩

theorem step_listening {wake left : Nat} (hphase : l.phase = .listening wake)
    (hrequest : s.request = left + 1) (m : Moment) :
    l.step Desk.handler m s = (l.enter .reading, { s with request := left }) := by
  simp [step, hphase, hrequest, Signal.take]

theorem going_reading (hphase : l.phase = .reading)
    (hgoing : (l.step Desk.handler m s).1.phase.IsGoing) :
    (l.step Desk.handler m s).2 = s ∧
      ∃ event, (l.step Desk.handler m s).1.phase = .handling (.fresh event) := by
  cases hevent : s.envelope.event? with
  | ok event =>
    rw [step_read m Desk.handler hphase hevent]
    exact ⟨rfl, event, rfl⟩
  | error fault =>
    rw [step_refused m Desk.handler hphase hevent] at hgoing
    exact absurd trivial hgoing.1

theorem going_replying {reply : Reply} (hphase : l.phase = .replying reply)
    (hgoing : (l.step Desk.handler m s).1.phase.IsGoing) :
    (l.step Desk.handler m s).1.phase = .signalling ∧
      ∃ bytes, (l.step Desk.handler m s).2 = { s with envelope := bytes } := by
  cases hput : s.envelope.putReply? reply with
  | ok bytes =>
    have hstep : l.step Desk.handler m s = (l.enter .signalling, { s with envelope := bytes }) := by
      simp only [step, hphase, hput]
    rw [hstep]
    exact ⟨rfl, bytes, rfl⟩
  | error fault =>
    simp only [step, hphase, hput] at hgoing
    exact absurd trivial hgoing.1

theorem going_signalling (hphase : l.phase = .signalling)
    (hgoing : (l.step Desk.handler m s).1.phase.IsGoing) :
    (l.step Desk.handler m s).1.phase = .asking ∧
      (l.step Desk.handler m s).2 = { s with response := s.response + 1 } := by
  by_cases hsmall : s.response < Signal.largest
  · have hstep : l.step Desk.handler m s =
        (l.enter .asking, { s with response := s.response + 1 }) := by
      simp only [step, hphase, Signal.set, hsmall, ↓reduceIte]
    rw [hstep]
    exact ⟨rfl, rfl⟩
  · simp only [step, hphase, Signal.set, hsmall, ↓reduceIte] at hgoing
    exact absurd trivial hgoing.1

theorem Phase.busy_of_quiet {phase : Phase τ} (hquiet : phase.IsQuiet) : phase.busy = 0 := by
  cases phase with
  | reading | handling | replying | signalling => cases hquiet
  | _ => rfl

/-- What a step of a loop that goes on does to what is shared: it leaves the signals, takes a
request or posts a response. -/
theorem going_shared (hgoing : (l.step Desk.handler m s).1.phase.IsGoing) :
    (∃ bytes, (l.step Desk.handler m s).2 = { s with envelope := bytes }) ∧
        (l.step Desk.handler m s).1.phase.busy = l.phase.busy ∨
      (∃ left, s.request = left + 1 ∧ (l.step Desk.handler m s).2 = { s with request := left }) ∧
        l.phase.busy = 0 ∧ (l.step Desk.handler m s).1.phase.busy = 1 ∨
      (l.step Desk.handler m s).2 = { s with response := s.response + 1 } ∧
        l.phase = .signalling ∧ (l.step Desk.handler m s).1.phase.busy = 0 := by
  have hsame (heq : (l.step Desk.handler m s).2 = s) :
      ∃ bytes, (l.step Desk.handler m s).2 = { s with envelope := bytes } := ⟨s.envelope, heq⟩
  cases hphase : l.phase with
  | reading =>
    obtain ⟨hshared, event, hnext⟩ := going_reading hphase hgoing
    exact Or.inl ⟨hsame hshared, by rw [hnext]; rfl⟩
  | handling task =>
    obtain ⟨hnext, -, hshared⟩ := step_desk hphase m s
    refine Or.inl ⟨hsame hshared, ?_⟩
    rw [hnext] at hgoing ⊢
    cases hmove : (Desk.advance m task l.state).2 with
    | go task => rfl
    | reply reply => rfl
    | broken =>
      rw [hmove] at hgoing
      exact absurd trivial hgoing.1
  | replying reply =>
    obtain ⟨hnext, hbytes⟩ := going_replying hphase hgoing
    exact Or.inl ⟨hbytes, by rw [hnext]; rfl⟩
  | signalling =>
    obtain ⟨hnext, hshared⟩ := going_signalling hphase hgoing
    exact Or.inr (Or.inr ⟨hshared, rfl, by rw [hnext]; rfl⟩)
  | closing outcome =>
    obtain ⟨hshared, hnext⟩ := step_closing Desk.handler m s hphase
    refine Or.inl ⟨hsame hshared, ?_⟩
    rw [hnext]
    split <;> rfl
  | ended outcome =>
    rw [step_over Desk.handler m s (by simp [isOver, hphase]), hphase]
    exact Or.inl ⟨⟨s.envelope, rfl⟩, rfl⟩
  | broken =>
    rw [step_over Desk.handler m s (by simp [isOver, hphase]), hphase]
    exact Or.inl ⟨⟨s.envelope, rfl⟩, rfl⟩
  | _ =>
    have hquiet : l.phase.IsQuiet := by
      rw [hphase]
      trivial
    rcases step_quiet Desk.handler m s hquiet with ⟨hstill, hshared⟩ | ⟨_, left, -, hrequest, hstep⟩
    · exact Or.inl ⟨hsame hshared, Phase.busy_of_quiet hstill⟩
    · rw [hstep]
      exact Or.inr (Or.inl ⟨⟨left, hrequest, rfl⟩, rfl, rfl⟩)

end Steps

end ServingLoop

end ConsoleLink
