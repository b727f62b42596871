import ConsoleLink.Proofs.Process.Rounds

/-!
# What a shutdown reports

A shutdown takes its steps while others use the handle and let go of the child, and while time goes
on as it likes, except that a pause lasts at least as long as was asked.  It comes to an end, and
what it then reports is what has happened.  Where the clock cannot show when a wait will be over, it
breaks off and reports nothing.

* `Course` is a shutdown up to some point: a log of its steps, with the calls of the child that each
  of them made.
* `Course.length_le` bounds the number of steps, and `Course.next` says that none but the last state
  is without a next one.
* `Killing` says what has gone before when the child is killed.  `Stands` is the invariant, with
  `Moves.stands` for a step and `Course.stands` for a course.
* `Stands.isTruthful` is what the outcome then says.
-/

namespace ConsoleLink

namespace ProcessHandle

/-! ## Courses -/

/-- What somebody else may do with a handle: a recorded code stays, and a handle that was let go
does not change. -/
structure Outlives (h h' : ProcessHandle) : Prop where
  recorded : ∀ code, h.exitCode = some code → h'.exitCode = some code
  untouched : h.released = true → h' = h

/-- A step of a shutdown: when it was taken, the calls of the child that it made, and the exit code
that is recorded after it. -/
structure ClosingMove where
  now : Nat
  calls : List ChildCall
  code : Option Int

/-- The states from which a shutdown looks at the child. -/
def Closing.looks : Closing → Bool
  | waiting (.polling _) | forcing | reaping (.polling _) => true
  | _ => false

variable {γ : Type} [ChildProcess γ]

/-- A step of a shutdown and the calls that it makes.  The child may be let go right after the look
with which the step begins; the look of the rest of the step then finds what is recorded, and makes
no call. -/
inductive Moves (now : Nat) : List ChildCall → Closing × ProcessHandle × Observed γ →
    Closing × ProcessHandle × Observed γ → Prop
  | whole {k : Closing} {h : ProcessHandle} {o : Observed γ} {calls : List ChildCall}
      (hcalls : (closeStep now k h o).2.2.calls = o.calls ++ calls) :
      Moves now calls (k, h, o) (closeStep now k h o)
  | cut {k : Closing} {h : ProcessHandle} {o : Observed γ} {calls : List ChildCall}
      (hlooks : k.looks = true) (hcalls : (h.poll o).2.1.calls = o.calls ++ calls)
      (o' : Observed γ) : Moves now calls (k, h, o) (closeStep now k (h.poll o).1.release o')

/-- A shutdown up to some time, with its steps so far, the latest first.  Whoever is beside it may
do anything to the child, and let go of it. -/
inductive Course (begun : Nat) (timeout : Span) (h₀ : ProcessHandle) (o₀ : Observed γ) :
    List ClosingMove → Nat → Closing × ProcessHandle × Observed γ → Prop
  | start : Course begun timeout h₀ o₀ [] begun (beginClose begun timeout, h₀, o₀)
  | move {log : List ClosingMove} {clock now : Nat} {calls : List ChildCall}
      {s s' : Closing × ProcessHandle × Observed γ}
      (course : Course begun timeout h₀ o₀ log clock s) (hlater : clock ≤ now)
      (hdue : s.1.IsDue now) (hgoing : s.1.isOver = false) (moves : Moves now calls s s') :
      Course begun timeout h₀ o₀ (⟨now, calls, s'.2.1.exitCode⟩ :: log) now s'
  | beside {log : List ClosingMove} {clock : Nat} {k : Closing} {h h' : ProcessHandle}
      {o : Observed γ} (course : Course begun timeout h₀ o₀ log clock (k, h, o))
      (houtlives : h.Outlives h')
      (o' : Observed γ) : Course begun timeout h₀ o₀ log clock (k, h', o')

/-! ## One step -/

/-- What a look comes to: nothing is asked if the exit is recorded or the child was let go. -/
inductive Look (h : ProcessHandle) : List ChildCall → ProcessHandle → Prop
  | known (hsettled : h.IsSettled) : Look h [] h
  | asked (answer : Except SystemFault (Option Int)) (hnone : h.exitCode = none)
      (hheld : h.released = false) :
      Look h [.look answer] { h with exitCode := (ChildCall.look answer).code? }

theorem poll_look (h : ProcessHandle) (o : Observed γ) :
    ∃ seen, (h.poll o).2.1.calls = o.calls ++ seen ∧ Look h seen (h.poll o).1 := by
  by_cases hsettled : h.IsSettled
  · rw [poll_of_settled hsettled]
    exact ⟨[], (List.append_nil _).symm, .known hsettled⟩
  · obtain ⟨pid, code, released⟩ := h
    cases code with
    | some code => exact absurd (Or.inl rfl) hsettled
    | none =>
      cases released with
      | true => exact absurd (Or.inr rfl) hsettled
      | false =>
        simp only [poll, Bool.false_eq_true, ↓reduceIte, ChildProcess.tryWait]
        cases ChildProcess.tryWait o.child with
        | mk child answer =>
          cases answer with
          | error fault => exact ⟨[.look (.error fault)], rfl, .asked (.error fault) rfl rfl⟩
          | ok code =>
            cases code with
            | none => exact ⟨[.look (.ok none)], rfl, .asked (.ok none) rfl rfl⟩
            | some code => exact ⟨[.look (.ok (some code))], rfl, .asked _ rfl rfl⟩

/-- Where a wait goes on after a look. -/
def Wait.afterLook (now deadline : Nat) (h : ProcessHandle) : Wait :=
  match h.exitCode with
  | some code => .done (some code)
  | none =>
    if h.released || deadline ≤ now then .done none
    else .pausing deadline (now + min pollPause (deadline - now))

/-- Where a shutdown goes on with a handle as it is after the step. -/
def Closing.after (now : Nat) (h : ProcessHandle) : Closing → Closing
  | waiting (.polling deadline) => waiting (Wait.afterLook now deadline h)
  | waiting (.pausing deadline wake) =>
    if wake ≤ now then waiting (.polling deadline) else waiting (.pausing deadline wake)
  | waiting (.done (some _)) => done .exited
  | waiting (.done none) => forcing
  | forcing =>
    if h.exitCode.isSome then done .exited
    else if h.released then done .released
    else beginWait now reapTime reaping
  | reaping (.polling deadline) => reaping (Wait.afterLook now deadline h)
  | reaping (.pausing deadline wake) =>
    if wake ≤ now then reaping (.polling deadline) else reaping (.pausing deadline wake)
  | reaping (.done _) => done .killed
  | done outcome => done outcome
  | broken => broken

/-- Whether the child is killed, given the handle as it is after the step: it has neither ended, nor
was it let go. -/
def Closing.kills (h : ProcessHandle) : Closing → Bool
  | forcing => h.exitCode.isNone && !h.released
  | _ => false

theorem exists_poll (h : ProcessHandle) (child : γ) :
    ∃ h' child', h.poll child = (h', child', h'.exitCode) :=
  ⟨(h.poll child).1, (h.poll child).2.1, by rw [poll_exitCode]⟩

/-- From a state that does not look, the child is not touched. -/
theorem closeStep_of_not_looks {k : Closing} (hlooks : k.looks = false) (now : Nat)
    (h : ProcessHandle) (child : γ) : closeStep now k h child = (k.after now h, h, child) := by
  match k with
  | .waiting (.pausing deadline wake) =>
    simp only [closeStep, waitStep, Closing.after]
    split <;> rfl
  | .waiting (.done (some code)) => rfl
  | .waiting (.done none) => rfl
  | .reaping (.pausing deadline wake) =>
    simp only [closeStep, waitStep, Closing.after]
    split <;> rfl
  | .reaping (.done code) => rfl
  | .done outcome => rfl
  | .broken => rfl

theorem waitStep_polling {h h' : ProcessHandle} {child child' : γ}
    (hpolled : h.poll child = (h', child', h'.exitCode)) (now deadline : Nat) :
    waitStep now (.polling deadline) h child =
      (Wait.afterLook now deadline h', h', child') := by
  simp only [waitStep, hpolled, Wait.afterLook]
  cases h'.exitCode with
  | some code => rfl
  | none =>
    dsimp only
    split <;> rfl

/-- From a state that looks, the rest of the step depends on what the handle is then. -/
theorem closeStep_of_looks {k : Closing} (hlooks : k.looks = true) {h h' : ProcessHandle}
    {child child' : γ} (hpolled : h.poll child = (h', child', h'.exitCode)) (now : Nat) :
    closeStep now k h child =
      (k.after now h', h', if k.kills h' then (ChildProcess.kill child').1 else child') := by
  match k with
  | .waiting (.polling deadline) =>
    simp only [closeStep, waitStep_polling hpolled]
    rfl
  | .reaping (.polling deadline) =>
    simp only [closeStep, waitStep_polling hpolled]
    rfl
  | .forcing =>
    simp only [closeStep, hpolled]
    obtain ⟨pid, code, released⟩ := h'
    cases code with
    | some code => rfl
    | none =>
      cases released with
      | true => rfl
      | false =>
        simp only [Closing.after, Closing.kills, Option.isSome_none, Option.isNone_none,
          Bool.false_eq_true, Bool.not_false, Bool.and_self, ↓reduceIte]

/-- What a step comes to: a state that does not look leaves everything; after a look the rest
depends on the handle, which may be let go of meanwhile. -/
theorem Moves.cases {now : Nat} {calls : List ChildCall}
    {s s' : Closing × ProcessHandle × Observed γ} (moves : Moves now calls s s') :
    s'.1 = s.1.after now s'.2.1 ∧
      (s.1.looks = false ∧ calls = [] ∧ s'.2.1 = s.2.1 ∨
        s.1.looks = true ∧ ∃ seen h, Look s.2.1 seen h ∧ (s'.2.1 = h ∨ s'.2.1 = h.release) ∧
          ((s.1.kills s'.2.1 = false ∧ calls = seen) ∨
            s.1.kills s'.2.1 = true ∧ ∃ outcome, calls = seen ++ [.kill outcome])) := by
  cases moves with
  | @whole k h o _ hcalls =>
    cases hlooks : k.looks with
    | false =>
      rw [closeStep_of_not_looks hlooks] at hcalls ⊢
      exact ⟨rfl, Or.inl ⟨rfl, List.self_eq_append_right.mp hcalls, rfl⟩⟩
    | true =>
      obtain ⟨h', o', hpolled⟩ := h.exists_poll o
      obtain ⟨seen, hseen, hlook⟩ := h.poll_look o
      rw [closeStep_of_looks hlooks hpolled] at hcalls ⊢
      rw [hpolled] at hseen hlook
      refine ⟨rfl, Or.inr ⟨rfl, seen, h', hlook, Or.inl rfl, ?_⟩⟩
      cases hkills : k.kills h' with
      | false =>
        simp only [hkills, Bool.false_eq_true, ↓reduceIte] at hcalls
        exact Or.inl ⟨rfl, List.append_cancel_left (hcalls.symm.trans hseen)⟩
      | true =>
        have hkilled : calls = seen ++ [.kill (ChildProcess.kill o'.child).2] := by
          have hsame : o.calls ++ calls =
              o.calls ++ (seen ++ [.kill (ChildProcess.kill o'.child).2]) := by
            rw [← hcalls, ← List.append_assoc, ← show o'.calls = o.calls ++ seen from hseen]
            simp only [hkills, ↓reduceIte]
            rfl
          exact List.append_cancel_left hsame
        exact Or.inr ⟨rfl, _, hkilled⟩
  | @cut k h o _ hlooks hcalls o' =>
    obtain ⟨seen, hseen, hlook⟩ := h.poll_look o
    have hreleased : (h.poll o).1.release.IsSettled := Or.inr rfl
    have hspared : k.kills (h.poll o).1.release = false := by
      cases k with
      | forcing => simp [Closing.kills, release]
      | _ => rfl
    rw [closeStep_of_looks hlooks (poll_of_settled hreleased o')]
    exact ⟨rfl, Or.inr ⟨hlooks, seen, _, hlook, Or.inr rfl,
      Or.inl ⟨hspared, List.append_cancel_left (hcalls.symm.trans hseen)⟩⟩⟩

theorem Outlives.refl (h : ProcessHandle) : Outlives h h := ⟨fun _ hcode => hcode, fun _ => rfl⟩

theorem Outlives.trans {h h' h'' : ProcessHandle} (first : Outlives h h')
    (second : Outlives h' h'') : Outlives h h'' where
  recorded code hcode := second.recorded code (first.recorded code hcode)
  untouched hreleased := by
    have hsame := first.untouched hreleased
    rw [second.untouched (hsame ▸ hreleased), hsame]

theorem outlives_release (h : ProcessHandle) : Outlives h h.release := by
  obtain ⟨pid, code, released⟩ := h
  refine ⟨fun _ hcode => hcode, fun hreleased => ?_⟩
  cases hreleased
  rfl

theorem Look.outlives {h h' : ProcessHandle} {seen : List ChildCall} (look : Look h seen h') :
    h.Outlives h' := by
  cases look with
  | known hsettled => exact .refl h
  | asked answer hnone hheld =>
    refine ⟨fun code hcode => ?_, fun hreleased => ?_⟩
    · rw [hnone] at hcode
      cases hcode
    · rw [hheld] at hreleased
      cases hreleased

/-- A look does not kill the child. -/
theorem Look.spares {h h' : ProcessHandle} {seen : List ChildCall} (look : Look h seen h')
    (outcome : Except SystemFault Unit) : .kill outcome ∉ seen := by
  cases look with
  | known hsettled => exact List.not_mem_nil
  | asked answer hnone hheld => simp

/-- If nothing is recorded after a look, it has found nothing. -/
theorem Look.found {h h' : ProcessHandle} {seen : List ChildCall} (look : Look h seen h')
    (hnone : h'.exitCode = none) : ConsoleLink.found seen = none := by
  cases look with
  | known hsettled => rfl
  | asked answer _ _ =>
    unfold ConsoleLink.found
    rw [List.findSome?_cons, show (ChildCall.look answer).code? = none from hnone]
    rfl

/-- If the child was not let go either, it was asked. -/
theorem Look.exists_answer {h h' : ProcessHandle} {seen : List ChildCall} (look : Look h seen h')
    (hnone : h'.exitCode = none) (hheld : h'.released = false) :
    h.released = false ∧ ∃ answer, seen = [.look answer] := by
  cases look with
  | known hsettled =>
    have hreleased := hsettled.released hnone
    rw [hheld] at hreleased
    cases hreleased
  | asked answer _ _ => exact ⟨hheld, answer, rfl⟩

/-- The handle outlives a step. -/
theorem Moves.outlives {now : Nat} {calls : List ChildCall}
    {s s' : Closing × ProcessHandle × Observed γ} (moves : Moves now calls s s') :
    s.2.1.Outlives s'.2.1 := by
  obtain ⟨-, ⟨-, -, hsame⟩ | ⟨-, seen, h, look, hsame | hsame, -⟩⟩ := moves.cases
  · rw [hsame]
    exact .refl _
  · rw [hsame]
    exact look.outlives
  · rw [hsame]
    exact look.outlives.trans h.outlives_release

/-- A step that finds no exit has made calls that find none. -/
theorem Moves.found {now : Nat} {calls : List ChildCall}
    {s s' : Closing × ProcessHandle × Observed γ} (moves : Moves now calls s s')
    (hnone : s'.2.1.exitCode = none) : ConsoleLink.found calls = none := by
  obtain ⟨-, ⟨-, rfl, -⟩ | ⟨-, seen, h, look, hhandle, hcalls⟩⟩ := moves.cases
  · rfl
  · have hseen : ConsoleLink.found seen = none := by
      refine look.found ?_
      rcases hhandle with hsame | hsame
      · rw [← hsame]
        exact hnone
      · rw [hsame] at hnone
        exact hnone
    rcases hcalls with ⟨-, rfl⟩ | ⟨-, outcome, rfl⟩
    · exact hseen
    · unfold ConsoleLink.found at hseen ⊢
      rw [List.findSome?_append, hseen]
      rfl

/-- Only where the child is killed, a step has killed it. -/
theorem Moves.spares {now : Nat} {calls : List ChildCall}
    {s s' : Closing × ProcessHandle × Observed γ} (moves : Moves now calls s s')
    (hkills : s.1.kills s'.2.1 = false) (outcome : Except SystemFault Unit) :
    .kill outcome ∉ calls := by
  obtain ⟨-, ⟨-, rfl, -⟩ | ⟨-, seen, h, look, -, ⟨-, rfl⟩ | ⟨hkills', -⟩⟩⟩ := moves.cases
  · exact List.not_mem_nil
  · exact look.spares outcome
  · rw [hkills] at hkills'
    cases hkills'

/-- If neither an exit nor a release is recorded after a step that looks, the child was asked. -/
theorem Moves.exists_answer {now : Nat} {calls : List ChildCall}
    {s s' : Closing × ProcessHandle × Observed γ} (moves : Moves now calls s s')
    (hlooks : s.1.looks = true) (hnone : s'.2.1.exitCode = none)
    (hheld : s'.2.1.released = false) :
    s.2.1.released = false ∧ ∃ answer,
      (s.1.kills s'.2.1 = false ∧ calls = [.look answer]) ∨
        ∃ outcome, calls = [.look answer, .kill outcome] := by
  obtain ⟨-, ⟨hidle, -⟩ | ⟨-, seen, h, look, hsame | hsame, hcalls⟩⟩ := moves.cases
  · rw [hlooks] at hidle
    cases hidle
  · rw [hsame] at hnone hheld
    obtain ⟨hheld', answer, rfl⟩ := look.exists_answer hnone hheld
    refine ⟨hheld', answer, ?_⟩
    rcases hcalls with ⟨hkills, rfl⟩ | ⟨-, outcome, rfl⟩
    · exact Or.inl ⟨hkills, rfl⟩
    · exact Or.inr ⟨outcome, rfl⟩
  · rw [hsame] at hheld
    cases hheld

/-! ## Under observation -/

/-- A look at a child does not depend on whether its calls are recorded. -/
theorem poll_observed (h : ProcessHandle) (o : Observed γ) :
    h.poll o.child = ((h.poll o).1, (h.poll o).2.1.child, (h.poll o).2.2) := by
  unfold poll
  split
  · rfl
  · split
    · rfl
    · simp only [ChildProcess.tryWait]
      cases ChildProcess.tryWait o.child with
      | mk child answer =>
        match answer with
        | .ok (some code) => rfl
        | .ok none => rfl
        | .error fault => rfl

theorem closeStep_observed (now : Nat) (k : Closing) (h : ProcessHandle) (o : Observed γ) :
    closeStep now k h o.child =
      ((closeStep now k h o).1, (closeStep now k h o).2.1, (closeStep now k h o).2.2.child) := by
  cases hlooks : k.looks with
  | false => rw [closeStep_of_not_looks hlooks, closeStep_of_not_looks hlooks]
  | true =>
    obtain ⟨h', o', hpolled⟩ := h.exists_poll o
    have hchild := h.poll_observed o
    rw [hpolled] at hchild
    rw [closeStep_of_looks hlooks hpolled, closeStep_of_looks hlooks hchild]
    cases k.kills h' <;> rfl

theorem runClose_observed (fuel now : Nat) (k : Closing) (h : ProcessHandle) (o : Observed γ) :
    runClose fuel now k h o.child =
      ((runClose fuel now k h o).1, (runClose fuel now k h o).2.1,
        (runClose fuel now k h o).2.2.child) := by
  induction fuel generalizing now k h o with
  | zero => rfl
  | succ fuel ih =>
    unfold runClose
    split
    · rfl
    · rw [closeStep_observed]
      exact ih _ _ _ _

/-! ## What has gone before -/

/-- The child was not killed in these steps. -/
def Spares (log : List ClosingMove) : Prop := ∀ move ∈ log, ∀ outcome, .kill outcome ∉ move.calls

/-- One of these steps has looked at the child when the time was over. -/
def IsLate (deadline : Nat) (log : List ClosingMove) : Prop :=
  ∃ move ∈ log, deadline ≤ move.now ∧ ∃ answer, move.calls = [.look answer]

/-- A step that kills the child, and the steps before it: the time was over and the child was looked
at after that, and once more directly before it was killed; no exit had been recorded by any of the
steps, nor had their calls found one. -/
structure Killing (deadline : Nat) (before : List ClosingMove) (move : ClosingMove) : Prop where
  calls : ∃ answer outcome, move.calls = [.look answer, .kill outcome]
  late : deadline ≤ move.now
  looked : IsLate deadline before
  unseen : ∀ m ∈ move :: before, m.code = none ∧ found m.calls = none
  spared : Spares before

/-- The child was killed in one of these steps, and in no other. -/
def Killed (deadline : Nat) (log : List ClosingMove) : Prop :=
  ∃ later move before, log = later ++ move :: before ∧ Killing deadline before move ∧ Spares later

/-- A shutdown has broken off with these steps: the clock cannot show when its time is over, and it
has done nothing, or the last step has killed the child so late that the clock cannot show when the
wait for its end will be over. -/
def BrokeOff (deadline : Nat) (log : List ClosingMove) : Prop :=
  Span.clockEnd ≤ deadline ∧ log = [] ∨
    ∃ move before, log = move :: before ∧ Killing deadline before move ∧
      Span.clockEnd ≤ move.now + reapTime

theorem spares_nil : Spares [] := fun _ hmem => nomatch hmem

theorem Spares.cons {log : List ClosingMove} (spares : Spares log) {move : ClosingMove}
    (hmove : ∀ outcome, .kill outcome ∉ move.calls) : Spares (move :: log) := by
  intro m hm
  rcases List.mem_cons.mp hm with rfl | hm
  · exact hmove
  · exact spares m hm

theorem IsLate.cons {deadline : Nat} {log : List ClosingMove} (late : IsLate deadline log)
    (move : ClosingMove) : IsLate deadline (move :: log) := by
  obtain ⟨m, hm, hlate⟩ := late
  exact ⟨m, List.mem_cons_of_mem _ hm, hlate⟩

theorem Killed.cons {deadline : Nat} {log : List ClosingMove} (killed : Killed deadline log)
    {move : ClosingMove} (hmove : ∀ outcome, .kill outcome ∉ move.calls) :
    Killed deadline (move :: log) := by
  obtain ⟨later, m, before, rfl, killing, hlater⟩ := killed
  exact ⟨move :: later, m, before, rfl, killing, hlater.cons hmove⟩

/-- Any step that has killed the child is the one. -/
theorem Killed.killing {deadline : Nat} {log later before : List ClosingMove} {move : ClosingMove}
    (killed : Killed deadline log) (hlog : log = later ++ move :: before)
    {outcome : Except SystemFault Unit} (hkill : .kill outcome ∈ move.calls) :
    Killing deadline before move := by
  obtain ⟨later', move', before', hlog', killing, hspared⟩ := killed
  rw [hlog] at hlog'
  rcases List.append_eq_append_iff.mp hlog' with ⟨rest, rfl, hrest⟩ | ⟨rest, rfl, hrest⟩
  · cases rest with
    | nil =>
      cases hrest
      exact killing
    | cons m rest =>
      cases hrest
      exact absurd hkill (hspared move (by simp) outcome)
  · cases rest with
    | nil =>
      cases hrest
      exact killing
    | cons m rest =>
      cases hrest
      exact absurd hkill (killing.spared move (by simp) outcome)

/-! ## The invariant -/

/-- Where a shutdown is, by the steps so far and the handle. -/
def Stage (deadline clock : Nat) (log : List ClosingMove) (h : ProcessHandle) : Closing → Prop
  | .waiting (.polling d) | .waiting (.pausing d _) => d = deadline ∧ Spares log
  | .waiting (.done (some _)) | .done .exited => h.exitCode.isSome = true ∧ Spares log
  | .waiting (.done none) | .forcing =>
    (h.released = true ∨ deadline ≤ clock ∧ IsLate deadline log) ∧ Spares log
  | .reaping _ | .done .killed => Killed deadline log
  | .done .released => h.exitCode = none ∧ h.released = true ∧ Spares log
  | .broken => BrokeOff deadline log

/-- What is true of a shutdown at any time: the handle has recorded what the steps have seen, they
have done what its state says, and there were none if the clock cannot show the deadline. -/
structure Stands (deadline clock : Nat) (log : List ClosingMove) (k : Closing) (h : ProcessHandle) :
    Prop where
  seen : ∀ move ∈ log, (move.code = none → found move.calls = none) ∧
    ∀ code, move.code = some code → h.exitCode = some code
  stage : Stage deadline clock log h k
  shown : Span.clockEnd ≤ deadline → k = .broken

/-- Whoever is beside a shutdown leaves this. -/
theorem Stands.beside {deadline clock : Nat} {log : List ClosingMove} {k : Closing}
    {h h' : ProcessHandle} (stands : Stands deadline clock log k h) (houtlives : h.Outlives h') :
    Stands deadline clock log k h' := by
  have hrecorded (hsome : h.exitCode.isSome = true) : h'.exitCode.isSome = true := by
    obtain ⟨code, hcode⟩ := Option.isSome_iff_exists.mp hsome
    exact Option.isSome_iff_exists.mpr ⟨code, houtlives.recorded code hcode⟩
  have hreleased (hreleased : h.released = true) : h'.released = true := by
    rw [houtlives.untouched hreleased]
    exact hreleased
  refine ⟨fun move hmove => ?_, ?_, stands.shown⟩
  · obtain ⟨hnothing, hcode⟩ := stands.seen move hmove
    exact ⟨hnothing, fun code h => houtlives.recorded code (hcode code h)⟩
  · have hstage := stands.stage
    match k with
    | .waiting (.polling _) | .waiting (.pausing _ _) => exact hstage
    | .waiting (.done (some _)) => exact hstage.imp_left hrecorded
    | .waiting (.done none) | .forcing => exact hstage.imp_left (Or.imp_left hreleased)
    | .reaping _ => exact hstage
    | .done .exited => exact hstage.imp_left hrecorded
    | .done .killed => exact hstage
    | .done .released =>
      rw [houtlives.untouched hstage.2.1]
      exact hstage
    | .broken => exact hstage

/-- A look when the time is over that finds neither an exit nor a release. -/
theorem Moves.isLate {deadline now : Nat} {calls : List ChildCall}
    {s s' : Closing × ProcessHandle × Observed γ} (moves : Moves now calls s s')
    (hpolling : s.1 = .waiting (.polling deadline)) (hover : deadline ≤ now)
    (hnone : s'.2.1.exitCode = none) (hheld : s'.2.1.released = false) (log : List ClosingMove) :
    IsLate deadline (⟨now, calls, s'.2.1.exitCode⟩ :: log) := by
  have hlooks : s.1.looks = true := by rw [hpolling]; rfl
  have hspared : s.1.kills s'.2.1 = false := by rw [hpolling]; rfl
  obtain ⟨-, answer, ⟨-, hcalls⟩ | ⟨outcome, hcalls⟩⟩ := moves.exists_answer hlooks hnone hheld
  · exact ⟨_, List.mem_cons_self, hover, answer, hcalls⟩
  · exact absurd (by simp [hcalls]) (moves.spares hspared outcome)

/-- The step that kills the child: nobody has seen an exit so far, for it would be recorded. -/
theorem Moves.killing {deadline now : Nat} {log : List ClosingMove} {calls : List ChildCall}
    {s s' : Closing × ProcessHandle × Observed γ} (moves : Moves now calls s s')
    (hforcing : s.1 = .forcing) (hover : deadline ≤ now) (late : IsLate deadline log)
    (spares : Spares log)
    (hseen : ∀ move ∈ log, (move.code = none → ConsoleLink.found move.calls = none) ∧
      ∀ code, move.code = some code → s'.2.1.exitCode = some code)
    (hnone : s'.2.1.exitCode = none) (hheld : s'.2.1.released = false) :
    Killing deadline log ⟨now, calls, s'.2.1.exitCode⟩ := by
  have hlooks : s.1.looks = true := by rw [hforcing]; rfl
  have hkills : s.1.kills s'.2.1 = true := by simp [hforcing, Closing.kills, hnone, hheld]
  refine ⟨?_, hover, late, fun m hm => ?_, spares⟩
  · obtain ⟨-, answer, ⟨hspared, -⟩ | ⟨outcome, hcalls⟩⟩ := moves.exists_answer hlooks hnone hheld
    · rw [hspared] at hkills
      cases hkills
    · exact ⟨answer, outcome, hcalls⟩
  · rcases List.mem_cons.mp hm with rfl | hm
    · exact ⟨hnone, moves.found hnone⟩
    · obtain ⟨hnothing, hcode⟩ := hseen m hm
      cases hm : m.code with
      | none => exact ⟨rfl, hnothing hm⟩
      | some code =>
        have hsome := hcode code hm
        rw [hnone] at hsome
        cases hsome

/-- After the kill the end of the child is waited for, unless the clock cannot show until when. -/
theorem Killing.stage {deadline now : Nat} {log : List ClosingMove} {calls : List ChildCall}
    {code : Option Int} (killing : Killing deadline log ⟨now, calls, code⟩) (h : ProcessHandle) :
    Stage deadline now (⟨now, calls, code⟩ :: log) h (beginWait now reapTime .reaping) := by
  have hbegun := beginWait_cases now reapTime .reaping
  generalize beginWait now reapTime .reaping = k at hbegun ⊢
  obtain ⟨-, rfl⟩ | ⟨hend, rfl⟩ := hbegun
  · exact ⟨[], _, log, rfl, killing, spares_nil⟩
  · exact Or.inr ⟨_, log, rfl, killing, hend⟩

/-- Where a shutdown is after a step. -/
theorem Moves.stage {deadline clock now : Nat} {log : List ClosingMove} {calls : List ChildCall}
    {s s' : Closing × ProcessHandle × Observed γ} (moves : Moves now calls s s')
    (hlater : clock ≤ now) (hgoing : s.1.isOver = false)
    (stands : Stands deadline clock log s.1 s.2.1) :
    Stage deadline now (⟨now, calls, s'.2.1.exitCode⟩ :: log) s'.2.1 s'.1 := by
  obtain ⟨hafter, -⟩ := moves.cases
  rw [hafter]
  -- the handle outlives the step, so that its state is known for the new handle
  have hstage := (stands.beside moves.outlives).stage
  have hseen := (stands.beside moves.outlives).seen
  have hspares (hkills : s.1.kills s'.2.1 = false) (spares : Spares log) :
      Spares (⟨now, calls, s'.2.1.exitCode⟩ :: log) := spares.cons (moves.spares hkills)
  obtain ⟨k, h, o⟩ := s
  obtain ⟨k', h', o'⟩ := s'
  dsimp only at *
  match k with
  | .waiting (.polling d) =>
    obtain ⟨rfl, spares⟩ := hstage
    have spares := hspares rfl spares
    simp only [Closing.after, Wait.afterLook]
    cases hcode : h'.exitCode with
    | some code => exact ⟨Option.isSome_iff_exists.mpr ⟨code, hcode⟩, hcode ▸ spares⟩
    | none =>
      rw [hcode] at spares
      dsimp only
      split
      · rename_i hover
        refine ⟨?_, spares⟩
        by_cases hreleased : h'.released = true
        · exact Or.inl hreleased
        · have hover : d ≤ now := by simpa [hreleased] using hover
          have late := moves.isLate rfl hover hcode (Bool.eq_false_iff.mpr hreleased) log
          rw [hcode] at late
          exact Or.inr ⟨hover, late⟩
      · exact ⟨rfl, spares⟩
  | .waiting (.pausing d wake) =>
    obtain ⟨rfl, spares⟩ := hstage
    simp only [Closing.after]
    split <;> exact ⟨rfl, hspares rfl spares⟩
  | .waiting (.done (some code)) => exact hstage.imp_right (hspares rfl)
  | .waiting (.done none) =>
    exact ⟨hstage.1.imp_right fun ⟨hclock, late⟩ => ⟨Nat.le_trans hclock hlater, late.cons _⟩,
      hspares rfl hstage.2⟩
  | .forcing =>
    obtain ⟨hwhy, spares⟩ := hstage
    simp only [Closing.after]
    split
    · rename_i hsome
      refine ⟨hsome, hspares ?_ spares⟩
      simp [Closing.kills, Option.isSome_iff_ne_none.mp hsome]
    · rename_i hcode
      have hnone := Option.not_isSome_iff_eq_none.mp hcode
      split
      · rename_i hreleased
        exact ⟨hnone, hreleased, hspares (by simp [Closing.kills, hreleased]) spares⟩
      · -- the child is killed, so the wait has come to its deadline
        rename_i hheld
        have hheld := Bool.eq_false_iff.mpr hheld
        have hlate := hwhy.resolve_left (by simp [hheld])
        have killing : Killing deadline log ⟨now, calls, h'.exitCode⟩ :=
          moves.killing rfl (Nat.le_trans hlate.1 hlater) hlate.2 spares hseen hnone hheld
        exact killing.stage h'
  | .reaping w =>
    have killed : Killed deadline (⟨now, calls, h'.exitCode⟩ :: log) :=
      Killed.cons hstage (moves.spares rfl)
    match w with
    | .polling d => exact killed
    | .done code => exact killed
    | .pausing d wake =>
      simp only [Closing.after]
      split <;> exact killed
  | .done outcome => cases hgoing
  | .broken => cases hgoing

/-- Every step keeps the invariant. -/
theorem Moves.stands {deadline clock now : Nat} {log : List ClosingMove} {calls : List ChildCall}
    {s s' : Closing × ProcessHandle × Observed γ} (moves : Moves now calls s s')
    (hlater : clock ≤ now) (hgoing : s.1.isOver = false)
    (stands : Stands deadline clock log s.1 s.2.1) :
    Stands deadline now (⟨now, calls, s'.2.1.exitCode⟩ :: log) s'.1 s'.2.1 := by
  refine ⟨fun m hm => ?_, moves.stage hlater hgoing stands, fun hend => ?_⟩
  · rcases List.mem_cons.mp hm with rfl | hm
    · exact ⟨moves.found, fun code hcode => hcode⟩
    · exact (stands.beside moves.outlives).seen m hm
  · rw [stands.shown hend] at hgoing
    cases hgoing

section Courses

variable {begun : Nat} {timeout : Span} {h₀ : ProcessHandle} {o₀ : Observed γ}
  {log : List ClosingMove} {clock : Nat} {s : Closing × ProcessHandle × Observed γ}

/-- The invariant holds of every shutdown. -/
theorem Course.stands (course : Course begun timeout h₀ o₀ log clock s) :
    Stands (begun + timeout) clock log s.1 s.2.1 := by
  induction course with
  | start =>
    unfold beginClose
    obtain ⟨hlt, hbegun⟩ | ⟨hend, hbegun⟩ := beginWait_cases begun timeout .waiting
    · rw [hbegun]
      exact ⟨nofun, ⟨rfl, spares_nil⟩, fun hend => absurd hlt (Nat.not_lt.mpr hend)⟩
    · rw [hbegun]
      exact ⟨nofun, Or.inl ⟨hend, rfl⟩, fun _ => rfl⟩
  | move _ hlater _ hgoing moves ih => exact moves.stands hlater hgoing ih
  | beside _ houtlives _ ih => exact ih.beside houtlives

/-! ## The end -/

theorem Wait.rank_antitone (w : Wait) {now now' : Nat} (hle : now ≤ now') :
    w.rank now' ≤ w.rank now := by
  cases w with
  | polling deadline =>
    have hless := pauses_mono (Nat.sub_le_sub_left hle deadline)
    simp only [Wait.rank]
    omega
  | pausing deadline wake => exact Nat.le_refl _
  | done code => exact Nat.le_refl _

theorem Closing.rank_antitone (k : Closing) {now now' : Nat} (hle : now ≤ now') :
    k.rank now' ≤ k.rank now := by
  cases k with
  | waiting w => exact Nat.add_le_add_right (w.rank_antitone hle) _
  | reaping w => exact Nat.add_le_add_right (w.rank_antitone hle) _
  | forcing => exact Nat.le_refl _
  | done outcome => exact Nat.le_refl _
  | broken => exact Nat.le_refl _

/-- A step brings the end nearer. -/
theorem Moves.rank_lt {now : Nat} {calls : List ChildCall}
    {s s' : Closing × ProcessHandle × Observed γ} (moves : Moves now calls s s')
    (hdue : s.1.IsDue now) (hgoing : s.1.isOver = false) :
    s'.1.rank now < s.1.rank now := by
  cases moves with
  | whole hcalls => exact rank_closeStep hdue hgoing _ _
  | cut hlooks hcalls o' => exact rank_closeStep hdue hgoing _ _

/-- The most steps that a shutdown takes. -/
def mostSteps (timeout : Span) : Nat := 2 * pauses timeout + (2 * pauses reapTime + 5)

theorem Course.rank_add_le (course : Course begun timeout h₀ o₀ log clock s) :
    s.1.rank clock + log.length ≤ mostSteps timeout := by
  induction course with
  | start =>
    obtain ⟨-, hbegun⟩ | ⟨-, hbegun⟩ := beginWait_cases begun timeout .waiting
    all_goals
      simp only [beginClose, hbegun, Closing.rank, Wait.rank, Nat.add_sub_cancel_left, mostSteps,
        List.length_nil]
      omega
  | @move log clock now calls s s' _ hlater hdue hgoing moves ih =>
    have hlt := moves.rank_lt hdue hgoing
    have hle := s.1.rank_antitone hlater
    rw [List.length_cons]
    omega
  | beside _ _ _ ih => exact ih

/-- A shutdown takes at most so many steps. -/
theorem Course.length_le (course : Course begun timeout h₀ o₀ log clock s) :
    log.length ≤ mostSteps timeout :=
  Nat.le_trans (Nat.le_add_left _ _) course.rank_add_le

/-- Unless it is over, a shutdown takes its next step once a pause is over. -/
theorem Course.next (course : Course begun timeout h₀ o₀ log clock s) {now : Nat}
    (hlater : clock ≤ now) (hdue : s.1.IsDue now) (hgoing : s.1.isOver = false) :
    ∃ move, move.now = now ∧ Course begun timeout h₀ o₀ (move :: log) now
      (closeStep now s.1 s.2.1 s.2.2) := by
  obtain ⟨calls, hcalls, -⟩ := closeStep_learns now s.1 s.2
  exact ⟨_, rfl, course.move hlater hdue hgoing (.whole hcalls)⟩

/-- After a step a shutdown does not wait for a time that is over. -/
theorem Closing.le_wake_after {k : Closing} {now : Nat} (hdue : k.IsDue now) (h : ProcessHandle) :
    now ≤ (k.after now h).waits.getD now := by
  have hpolled (deadline : Nat) : now ≤ (Wait.afterLook now deadline h).waits.getD now := by
    unfold Wait.afterLook
    split
    · exact Nat.le_refl now
    · split
      · exact Nat.le_refl now
      · exact Nat.le_add_right now _
  match k with
  | .waiting (.polling deadline) => exact hpolled deadline
  | .waiting (.pausing deadline wake) | .reaping (.pausing deadline wake) =>
    have hwake : wake ≤ now := hdue wake rfl
    simp only [Closing.after, if_pos hwake]
    exact Nat.le_refl now
  | .waiting (.done (some _)) | .waiting (.done none) | .reaping (.done _) | .done _ | .broken =>
    exact Nat.le_refl now
  | .forcing =>
    simp only [Closing.after]
    split
    · exact Nat.le_refl now
    · split
      · exact Nat.le_refl now
      · obtain ⟨-, hbegun⟩ | ⟨-, hbegun⟩ := beginWait_cases now reapTime .reaping
        all_goals
          rw [hbegun]
          exact Nat.le_refl now
  | .reaping (.polling deadline) => exact hpolled deadline

/-- A shutdown in one go is one of these. -/
theorem Course.close (timeout : Span) (h : ProcessHandle) (child : γ) :
    ∃ log clock k o, k.isOver = true ∧ k.outcome? = (ProcessHandle.close timeout h child).1 ∧
      o.child = (ProcessHandle.close timeout h child).2.2 ∧
      Course 0 timeout h (⟨child, []⟩ : Observed γ) log clock
        (k, (ProcessHandle.close timeout h child).2.1, o) := by
  have hstep {now : Nat} {k : Closing} {h' : ProcessHandle} {o : Observed γ} (hdue : k.IsDue now)
      (hgoing : k.isOver = false) :
      (∃ log clock, clock ≤ now ∧ Course 0 timeout h ⟨child, []⟩ log clock (k, h', o)) →
        ∃ log clock, clock ≤ (closeStep now k h' o).1.waits.getD now ∧
          Course 0 timeout h ⟨child, []⟩ log clock (closeStep now k h' o) := by
    rintro ⟨log, clock, hlater, course⟩
    obtain ⟨move, -, course⟩ := course.next hlater hdue hgoing
    have hafter : (closeStep now k h' o).1 = k.after now (closeStep now k h' o).2.1 := by
      obtain ⟨calls, hcalls, -⟩ := closeStep_learns now k (h', o)
      exact (Moves.whole hcalls).cases.1
    refine ⟨_, now, ?_, course⟩
    rw [hafter]
    exact Closing.le_wake_after hdue _
  obtain ⟨-, k, hover, houtcome, log, clock, -, course⟩ :=
    runClose_holds
      (P := fun now s => ∃ log clock, clock ≤ now ∧ Course 0 timeout h ⟨child, []⟩ log clock s)
      hstep (rank_beginClose timeout) (isDue_beginClose 0 timeout) h ⟨child, []⟩
      ⟨[], 0, Nat.le_refl 0, .start⟩
  have hsame : ProcessHandle.close timeout h child = _ :=
    runClose_observed _ 0 (beginClose 0 timeout) h ⟨child, []⟩
  rw [hsame]
  exact ⟨log, clock, k, _, hover, houtcome.symm, rfl, course⟩

/-! ## The outcome -/

/-- What a shutdown reports is what has happened. -/
structure IsTruthful (deadline : Nat) (log : List ClosingMove) (k : Closing) (h : ProcessHandle) :
    Prop where
  exited : k = .done .exited → h.exitCode.isSome = true ∧ Spares log
  killed : k = .done .killed → Killed deadline log
  released : k = .done .released → h.exitCode = none ∧ h.released = true ∧ Spares log
  broken : k = .broken → BrokeOff deadline log
  /-- A shutdown whose deadline the clock cannot show has broken off from the start. -/
  shown : Span.clockEnd ≤ deadline → k = .broken
  /-- The child is killed only then. -/
  killing : ∀ later move before, log = later ++ move :: before →
    (∃ outcome, .kill outcome ∈ move.calls) → Killing deadline before move

theorem Stands.isTruthful {deadline clock : Nat} {log : List ClosingMove} {k : Closing}
    {h : ProcessHandle} (stands : Stands deadline clock log k h) : IsTruthful deadline log k h := by
  have hstage := stands.stage
  refine ⟨?_, ?_, ?_, ?_, stands.shown, ?_⟩
  · rintro rfl
    exact hstage
  · rintro rfl
    exact hstage
  · rintro rfl
    exact hstage
  · rintro rfl
    exact hstage
  · rintro later move before hlog ⟨outcome, hkill⟩
    have hspared (spares : Spares log) : Killing deadline before move :=
      absurd hkill (spares move (by simp [hlog]) outcome)
    match k with
    | .waiting (.polling _) | .waiting (.pausing _ _) => exact hspared hstage.2
    | .waiting (.done (some _)) | .done .exited => exact hspared hstage.2
    | .waiting (.done none) | .forcing => exact hspared hstage.2
    | .done .released => exact hspared hstage.2.2
    | .reaping _ | .done .killed => exact Killed.killing hstage hlog hkill
    | .broken =>
      obtain ⟨-, rfl⟩ | ⟨m, before', rfl, killing, -⟩ : BrokeOff deadline log := hstage
      · exact absurd hlog (by simp)
      · exact Killed.killing ⟨[], m, before', rfl, killing, spares_nil⟩ hlog hkill

end Courses

end ProcessHandle

end ConsoleLink
