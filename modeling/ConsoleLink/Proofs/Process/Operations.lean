import ConsoleLink.Process.Scripted
import ConsoleLink.Proofs.Process.Released
import Mathlib.Logic.Relation

/-!
# What is done with a handle on a child

The handle on a child has seven operations.  Three of them poll, pause and poll again, at whatever
times the clock shows.

* `Observed` is a child together with the calls that were made of it, `found` the exit code that
  calls have found.
* `Operation` lists the operations and `Answer` what they come to.  `Performs` is an operation run
  to its end, `Run` a sequence of them.
* `Learns` says what an operation does to a handle: it records what a look has found, and nothing
  else.  `Performs.learns` proves it for all of them.
* `IsSettled` are the handles whose child is never called again; `Performs.settled` says what an
  operation comes to then.
-/

namespace ConsoleLink

open Relation (ReflTransGen)

/-! ## Children under observation -/

/-- A call of a child, with what came of it. -/
inductive ChildCall
  | look (answer : Except SystemFault (Option Int))
  | kill (outcome : Except SystemFault Unit)

/-- The exit code that a call has found. -/
def ChildCall.code? : ChildCall → Option Int
  | look (.ok code) => code
  | _ => none

/-- The first exit code that calls have found. -/
def found (calls : List ChildCall) : Option Int := calls.findSome? ChildCall.code?

/-- A child and the calls that were made of it, the oldest first. -/
structure Observed (γ : Type) where
  child : γ
  calls : List ChildCall := []

instance {γ : Type} [ChildProcess γ] : ChildProcess (Observed γ) where
  tryWait o :=
    match ChildProcess.tryWait o.child with
    | (child, answer) => (⟨child, o.calls ++ [.look answer]⟩, answer)
  kill o :=
    match ChildProcess.kill o.child with
    | (child, outcome) => (⟨child, o.calls ++ [.kill outcome]⟩, outcome)

namespace ProcessHandle

/-! ## Operations -/

/-- What can be done with a handle. -/
inductive Operation
  | poll
  | hasExited
  | kill
  | wait (timeout : Span)
  | close (timeout : Span)
  | forceClose
  | release
  deriving DecidableEq

/-- What an operation comes to. -/
inductive Answer
  | code (code : Option Int)
  | exited (exited : Bool)
  | kill (outcome : Except SystemFault Unit)
  | shutdown (outcome : Shutdown)
  | released

section Performs

variable {γ : Type} [ChildProcess γ]

/-- A step of a wait at some time. -/
def WaitTick (s s' : Wait × ProcessHandle × γ) : Prop := ∃ now, waitStep now s.1 s.2.1 s.2.2 = s'

/-- A step of a shutdown at some time. -/
def CloseTick (s s' : Closing × ProcessHandle × γ) : Prop :=
  ∃ now, closeStep now s.1 s.2.1 s.2.2 = s'

/-- An operation that is run to its end, on whatever clock.  A wait or a shutdown that breaks off,
since the clock cannot show until when to wait, does not get there. -/
inductive Performs : Operation → ProcessHandle × γ → Answer → ProcessHandle × γ → Prop
  | poll (h : ProcessHandle) (child : γ) :
      Performs .poll (h, child) (.code (h.poll child).2.2) ((h.poll child).1, (h.poll child).2.1)
  | hasExited (h : ProcessHandle) (child : γ) :
      Performs .hasExited (h, child) (.exited (h.poll child).2.2.isSome)
        ((h.poll child).1, (h.poll child).2.1)
  | kill (h : ProcessHandle) (child : γ) :
      Performs .kill (h, child) (.kill (h.kill child).2.2) ((h.kill child).1, (h.kill child).2.1)
  | wait {timeout : Span} {s s' : ProcessHandle × γ} {code : Option Int} {now deadline : Nat}
      (hshown : Span.deadline? now timeout = some deadline)
      (ticks : ReflTransGen WaitTick (.polling deadline, s) (.done code, s')) :
      Performs (.wait timeout) s (.code code) s'
  | close {timeout : Span} {s s' : ProcessHandle × γ} {outcome : Shutdown} (now : Nat)
      (ticks : ReflTransGen CloseTick (beginClose now timeout, s) (.done outcome, s')) :
      Performs (.close timeout) s (.shutdown outcome) s'
  | forceClose {s s' : ProcessHandle × γ} {outcome : Shutdown}
      (ticks : ReflTransGen CloseTick (.forcing, s) (.done outcome, s')) :
      Performs .forceClose s (.shutdown outcome) s'
  | release (h : ProcessHandle) (child : γ) :
      Performs .release (h, child) .released (h.release, child)

/-- Operations one after the other, with what each of them has come to, the oldest first. -/
inductive Run : ProcessHandle × γ → List (Operation × Answer) → ProcessHandle × γ → Prop
  | nil (s : ProcessHandle × γ) : Run s [] s
  | cons {s s' s'' : ProcessHandle × γ} {operation : Operation} {answer : Answer}
      {rest : List (Operation × Answer)} (first : Performs operation s answer s')
      (run : Run s' rest s'') : Run s ((operation, answer) :: rest) s''

end Performs

/-! ## What an operation records -/

section Learns

variable {γ : Type}

/-- The handle has recorded what the calls in between have found, and has not changed
otherwise. -/
def Learns (s s' : ProcessHandle × Observed γ) : Prop :=
  ∃ new, s'.2.calls = s.2.calls ++ new ∧
    s'.1 = { s.1 with exitCode := s.1.exitCode.or (found new) }

theorem Learns.refl (s : ProcessHandle × Observed γ) : Learns s s :=
  ⟨[], by simp, by simp [found]⟩

theorem Learns.trans {s s' s'' : ProcessHandle × Observed γ} (first : Learns s s')
    (second : Learns s' s'') : Learns s s'' := by
  obtain ⟨new, hcalls, hhandle⟩ := first
  obtain ⟨more, hcalls', hhandle'⟩ := second
  refine ⟨new ++ more, by rw [hcalls', hcalls, List.append_assoc], ?_⟩
  rw [hhandle', hhandle]
  simp [found, List.findSome?_append, Option.or_assoc]

variable [ChildProcess γ]

theorem poll_learns (h : ProcessHandle) (o : Observed γ) :
    Learns (h, o) ((h.poll o).1, (h.poll o).2.1) := by
  obtain ⟨pid, code, released⟩ := h
  cases code with
  | some code => exact .refl _
  | none =>
    cases released with
    | true => exact .refl _
    | false =>
      -- what the child answers is what is recorded
      simp only [poll, Bool.false_eq_true, ↓reduceIte, ChildProcess.tryWait]
      cases ChildProcess.tryWait o.child with
      | mk child answer =>
        match answer with
        | .ok (some code) => exact ⟨[.look (.ok (some code))], rfl, rfl⟩
        | .ok none => exact ⟨[.look (.ok none)], rfl, rfl⟩
        | .error fault => exact ⟨[.look (.error fault)], rfl, rfl⟩

theorem killCall_learns (h : ProcessHandle) (o : Observed γ) :
    Learns (h, o) (h, (ChildProcess.kill o).1) :=
  ⟨[.kill (ChildProcess.kill o.child).2], rfl, by simp [found, ChildCall.code?]⟩

theorem kill_learns (h : ProcessHandle) (o : Observed γ) :
    Learns (h, o) ((h.kill o).1, (h.kill o).2.1) := by
  have hpoll := h.poll_learns o
  unfold kill
  split
  · rename_i hpolled
    rw [hpolled] at hpoll
    exact hpoll
  · rename_i hpolled
    rw [hpolled] at hpoll
    split
    · exact hpoll
    · exact hpoll.trans (killCall_learns _ _)

theorem waitStep_learns (now : Nat) (w : Wait) (s : ProcessHandle × Observed γ) :
    Learns s (waitStep now w s.1 s.2).2 := by
  have hpoll := s.1.poll_learns s.2
  cases w with
  | polling deadline =>
    simp only [waitStep]
    split
    · rename_i hpolled
      rw [hpolled] at hpoll
      exact hpoll
    · rename_i hpolled
      rw [hpolled] at hpoll
      split <;> exact hpoll
  | pausing deadline wake =>
    simp only [waitStep]
    split <;> exact .refl s
  | done code => exact .refl s

theorem closeStep_learns (now : Nat) (c : Closing) (s : ProcessHandle × Observed γ) :
    Learns s (closeStep now c s.1 s.2).2 := by
  have hpoll := s.1.poll_learns s.2
  match c with
  | .waiting (.done (some code)) => exact .refl s
  | .waiting (.done none) => exact .refl s
  | .waiting (.polling deadline) => exact waitStep_learns now (.polling deadline) s
  | .waiting (.pausing deadline wake) => exact waitStep_learns now (.pausing deadline wake) s
  | .forcing =>
    simp only [closeStep]
    split
    · rename_i hpolled
      rw [hpolled] at hpoll
      exact hpoll
    · rename_i hpolled
      rw [hpolled] at hpoll
      split
      · exact hpoll
      · exact hpoll.trans (killCall_learns _ _)
  | .reaping (.done code) => exact .refl s
  | .reaping (.polling deadline) => exact waitStep_learns now (.polling deadline) s
  | .reaping (.pausing deadline wake) => exact waitStep_learns now (.pausing deadline wake) s
  | .done outcome => exact .refl s
  | .broken => exact .refl s

theorem waitTicks_learns {a b : Wait × ProcessHandle × Observed γ}
    (ticks : ReflTransGen WaitTick a b) : Learns a.2 b.2 := by
  induction ticks with
  | refl => exact .refl _
  | tail _ tick ih =>
    obtain ⟨now, rfl⟩ := tick
    exact ih.trans (waitStep_learns now _ _)

theorem closeTicks_learns {a b : Closing × ProcessHandle × Observed γ}
    (ticks : ReflTransGen CloseTick a b) : Learns a.2 b.2 := by
  induction ticks with
  | refl => exact .refl _
  | tail _ tick ih =>
    obtain ⟨now, rfl⟩ := tick
    exact ih.trans (closeStep_learns now _ _)

/-- To let go of the child changes nothing but that; every other operation only learns. -/
theorem Performs.learns {operation : Operation} {s s' : ProcessHandle × Observed γ}
    {answer : Answer} (performs : Performs operation s answer s') :
    if operation = .release then s' = (s.1.release, s.2) else Learns s s' := by
  cases performs with
  | poll h o => exact h.poll_learns o
  | hasExited h o => exact h.poll_learns o
  | kill h o => exact h.kill_learns o
  | wait _ ticks => exact waitTicks_learns ticks
  | close now ticks => exact closeTicks_learns ticks
  | forceClose ticks => exact closeTicks_learns ticks
  | release h o => rfl

end Learns

/-! ## When the child is left alone -/

/-- The exit code is recorded, or the child was let go. -/
def IsSettled (h : ProcessHandle) : Prop := h.exitCode.isSome = true ∨ h.released = true

/-- How a shutdown comes out that asks nothing of the child. -/
def settledShutdown (code : Option Int) : Shutdown :=
  match code with
  | some _ => .exited
  | none => .released

/-- What an operation comes to that asks nothing of the child; `code` is what was recorded. -/
def Operation.settledAnswer (code : Option Int) : Operation → Answer
  | poll | wait _ => .code code
  | hasExited => .exited code.isSome
  | kill => .kill (.ok ())
  | close _ | forceClose => .shutdown (settledShutdown code)
  | release => .released

section Settled

variable {γ : Type} [ChildProcess γ] {h : ProcessHandle}

theorem poll_of_settled (hsettled : h.IsSettled) (child : γ) :
    h.poll child = (h, child, h.exitCode) := by
  rcases hsettled with hcode | hreleased
  · obtain ⟨code, hcode⟩ := Option.isSome_iff_exists.mp hcode
    simp only [poll, hcode]
  · exact poll_of_released hreleased child

theorem IsSettled.released (hsettled : h.IsSettled) (hnone : h.exitCode = none) :
    h.released = true := by
  rcases hsettled with hcode | hreleased
  · rw [hnone] at hcode
    cases hcode
  · exact hreleased

theorem kill_of_settled (hsettled : h.IsSettled) (child : γ) :
    h.kill child = (h, child, .ok ()) := by
  unfold kill
  rw [poll_of_settled hsettled]
  cases hcode : h.exitCode with
  | some code => rfl
  | none => exact if_pos (hsettled.released hcode)

/-- A wait has found no more than what was recorded. -/
def Wait.HasOnly (code : Option Int) : Wait → Prop
  | done result => result = code
  | _ => True

theorem waitStep_of_settled (hsettled : h.IsSettled) (now : Nat) {w : Wait}
    (hw : w.HasOnly h.exitCode) (child : γ) :
    (waitStep now w h child).2 = (h, child) ∧ (waitStep now w h child).1.HasOnly h.exitCode := by
  cases w with
  | polling deadline =>
    simp only [waitStep, poll_of_settled hsettled]
    cases hcode : h.exitCode with
    | some code => exact ⟨rfl, rfl⟩
    | none =>
      simp only [hsettled.released hcode, Bool.true_or, ↓reduceIte]
      exact ⟨trivial, rfl⟩
  | pausing deadline wake =>
    simp only [waitStep]
    split
    · exact ⟨rfl, trivial⟩
    · exact ⟨rfl, trivial⟩
  | done code => exact ⟨rfl, hw⟩

/-- Such a shutdown does not get as far as to kill the child. -/
def Closing.HasOnly (code : Option Int) : Closing → Prop
  | waiting w => w.HasOnly code
  | forcing | broken => True
  | reaping _ => False
  | done outcome => outcome = settledShutdown code

theorem beginClose_hasOnly (now : Nat) (timeout : Span) (code : Option Int) :
    (beginClose now timeout).HasOnly code := by
  unfold beginClose beginWait
  split <;> trivial

theorem closeStep_of_settled (hsettled : h.IsSettled) (now : Nat) {c : Closing}
    (hc : c.HasOnly h.exitCode) (child : γ) :
    (closeStep now c h child).2 = (h, child) ∧ (closeStep now c h child).1.HasOnly h.exitCode := by
  match c with
  | .waiting (.done (some code)) =>
    have hcode : some code = h.exitCode := hc
    rw [← hcode]
    exact ⟨rfl, rfl⟩
  | .waiting (.done none) => exact ⟨rfl, trivial⟩
  | .waiting (.polling deadline) =>
    exact waitStep_of_settled (w := .polling deadline) hsettled now hc child
  | .waiting (.pausing deadline wake) =>
    exact waitStep_of_settled (w := .pausing deadline wake) hsettled now hc child
  | .forcing =>
    simp only [closeStep, poll_of_settled hsettled]
    cases hcode : h.exitCode with
    | some code => exact ⟨rfl, rfl⟩
    | none =>
      simp only [hsettled.released hcode, ↓reduceIte]
      exact ⟨trivial, rfl⟩
  | .reaping w => exact hc.elim
  | .done outcome => exact ⟨rfl, hc⟩
  | .broken => exact ⟨rfl, trivial⟩

theorem waitTicks_of_settled {w : Wait} {b : Wait × ProcessHandle × γ} (hsettled : h.IsSettled)
    (hw : w.HasOnly h.exitCode) {child : γ} (ticks : ReflTransGen WaitTick (w, h, child) b) :
    b.2 = (h, child) ∧ b.1.HasOnly h.exitCode := by
  induction ticks with
  | refl => exact ⟨rfl, hw⟩
  | @tail b c _ tick ih =>
    obtain ⟨now, rfl⟩ := tick
    obtain ⟨w', h', child'⟩ := b
    obtain ⟨hsame, hw'⟩ := ih
    cases hsame
    exact waitStep_of_settled hsettled now hw' child

theorem closeTicks_of_settled {c : Closing} {b : Closing × ProcessHandle × γ}
    (hsettled : h.IsSettled) (hc : c.HasOnly h.exitCode) {child : γ}
    (ticks : ReflTransGen CloseTick (c, h, child) b) :
    b.2 = (h, child) ∧ b.1.HasOnly h.exitCode := by
  induction ticks with
  | refl => exact ⟨rfl, hc⟩
  | @tail b c _ tick ih =>
    obtain ⟨now, rfl⟩ := tick
    obtain ⟨c', h', child'⟩ := b
    obtain ⟨hsame, hc'⟩ := ih
    cases hsame
    exact closeStep_of_settled hsettled now hc' child

/-- Once the exit is recorded or the child was let go, an operation leaves the child and the
record. -/
theorem Performs.settled {operation : Operation} {s s' : ProcessHandle × γ} {answer : Answer}
    (performs : Performs operation s answer s') (hsettled : s.1.IsSettled) :
    s' = (if operation = .release then s.1.release else s.1, s.2) ∧
      answer = operation.settledAnswer s.1.exitCode := by
  cases performs with
  | poll h child =>
    rw [poll_of_settled hsettled]
    exact ⟨rfl, rfl⟩
  | hasExited h child =>
    rw [poll_of_settled hsettled]
    exact ⟨rfl, rfl⟩
  | kill h child =>
    rw [kill_of_settled hsettled]
    exact ⟨rfl, rfl⟩
  | @wait timeout _ _ _ now deadline _ ticks =>
    have hw : (Wait.polling deadline).HasOnly s.1.exitCode := trivial
    obtain ⟨hsame, hcode⟩ := waitTicks_of_settled hsettled hw ticks
    exact ⟨hsame, congrArg Answer.code hcode⟩
  | @close timeout _ _ _ now ticks =>
    have hc := beginClose_hasOnly now timeout s.1.exitCode
    obtain ⟨hsame, houtcome⟩ := closeTicks_of_settled hsettled hc ticks
    exact ⟨hsame, congrArg Answer.shutdown houtcome⟩
  | forceClose ticks =>
    have hc : Closing.forcing.HasOnly s.1.exitCode := trivial
    obtain ⟨hsame, houtcome⟩ := closeTicks_of_settled hsettled hc ticks
    exact ⟨hsame, congrArg Answer.shutdown houtcome⟩
  | release h child => exact ⟨rfl, rfl⟩

end Settled

end ProcessHandle

end ConsoleLink
