import ConsoleLink.Proofs.Serving.Refusals

/-!
# What the handler of a loop is called for

A serving loop hands its handler one task for each event, lets it go on with the task, and in
the end lets it finish.

* `works` lists these calls, and `works_state` says that nothing else in the loop touches the
  state of the handler.
* `Finishes` places the one call to finish: it is the last one, and it is made exactly when the
  loop ends.
* `Run.begins_le` bounds the events that are handed over while the loop is told to stop.
-/

namespace ConsoleLink

namespace ServingLoop

variable {σ τ ω : Type}

/-! ## What the handler is called for -/

/-- A call of the handler. -/
inductive Work (τ : Type)
  /-- It is given the task of answering an event. -/
  | begin (task : τ)
  /-- It goes on with a task. -/
  | advance (m : Moment) (task : τ)
  /-- It finishes. -/
  | finish

/-- What a call makes of the handler's state. -/
def Work.apply (h : Handler σ τ) : Work τ → σ → σ
  | .begin _, state => state
  | .advance m task, state => (h.advance m task state).1
  | .finish, state => (h.finish state).1

/-- Whether an event is handed over. -/
def Work.isBegin : Work τ → Bool
  | .begin _ => true
  | _ => false

/-- The task that is handed over. -/
def Work.begun? : Work τ → Option τ
  | .begin task => some task
  | _ => none

/-- The call of the handler in a step of the loop. -/
def workOf (m : Moment) (before after : ServingLoop σ τ) : Option (Work τ) :=
  match before.phase, after.phase with
  | .reading, .handling task => some (.begin task)
  | .handling task, _ => some (.advance m task)
  | .closing _, _ => some .finish
  | _, _ => none

/-- What the handler was called for, the oldest first. -/
def works : List (Entry σ τ ω) → List (Work τ)
  | [] => []
  | .turn m _ before after :: log => works log ++ (workOf m before after).toList
  | .call _ :: log => works log

/-- Nothing but these calls touches the state of the handler. -/
theorem works_state (h : Handler σ τ) (m : Moment) (l : ServingLoop σ τ) (s : Shared) :
    (l.step h m s).1.state =
      (workOf m l (l.step h m s).1).elim l.state fun work => work.apply h l.state := by
  cases hphase : l.phase with
  | asking =>
    simp only [step, hphase, workOf]
    split <;> rfl
  | listening wake =>
    simp only [step, hphase, workOf]
    split
    · rfl
    · rfl
    · split <;> rfl
  | reading =>
    simp only [step, hphase, workOf]
    split <;> rfl
  | handling task =>
    cases hadvance : h.advance m task l.state with
    | mk state move =>
      rw [step_handling s hphase hadvance]
      simp [workOf, hphase, Work.apply, hadvance]
  | replying reply =>
    simp only [step, hphase, workOf]
    split <;> rfl
  | signalling =>
    simp only [step, hphase, workOf]
    split <;> rfl
  | closing outcome =>
    cases hfinish : h.finish l.state with
    | mk state isBroken => cases isBroken <;> simp [step, hphase, workOf, hfinish, Work.apply]
  | ended outcome => simp [step, hphase, workOf]
  | broken => simp [step, hphase, workOf]

/-! ## Finishing -/

/-- The handler has finished once, after everything else, or it has yet to. -/
inductive Finishes : List (Work τ) → Phase τ → Prop
  | notYet {ws : List (Work τ)} {phase : Phase τ} (hnone : .finish ∉ ws)
      (hphase : ∀ outcome, phase ≠ .ended outcome) : Finishes ws phase
  | once {ws : List (Work τ)} {phase : Phase τ} (hnone : .finish ∉ ws)
      (hphase : phase = .broken ∨ ∃ outcome, phase = .ended outcome) :
      Finishes (ws ++ [.finish]) phase

theorem Finishes.of_ended {ws : List (Work τ)} {outcome : Except LinkFault Unit}
    (h : Finishes ws (.ended outcome)) :
    ∃ earlier, ws = earlier ++ [.finish] ∧ .finish ∉ earlier := by
  cases h with
  | notYet _ hphase => exact absurd rfl (hphase outcome)
  | once hnone _ => exact ⟨_, rfl, hnone⟩

section Turn

variable {h : Handler σ τ} {l : ServingLoop σ τ}

theorem step_closing (h : Handler σ τ) (m : Moment) (s : Shared) {outcome : Except LinkFault Unit}
    (hphase : l.phase = .closing outcome) :
    (l.step h m s).2 = s ∧
      (l.step h m s).1.phase = if (h.finish l.state).2 then .broken else .ended outcome := by
  cases hfinish : h.finish l.state with
  | mk state isBroken => cases isBroken <;> simp [step, hphase, hfinish]

theorem step_over (h : Handler σ τ) (m : Moment) (s : Shared) (hover : l.isOver = true) :
    l.step h m s = (l, s) := by
  cases hphase : l.phase <;> simp_all [isOver, step]

/-- Only a loop that is closing lets its handler finish, or ends. -/
theorem step_open (h : Handler σ τ) (m : Moment) (s : Shared) (hover : l.isOver = false)
    (hclosing : ∀ outcome, l.phase ≠ .closing outcome) :
    .finish ∉ (workOf m l (l.step h m s).1).toList ∧
      ∀ outcome, (l.step h m s).1.phase ≠ .ended outcome := by
  cases hphase : l.phase with
  | asking => cases hstop : m.stop <;> simp [step, hphase, hstop, enter, workOf]
  | listening wake =>
    refine ⟨by simp [workOf, hphase], ?_⟩
    simp only [step, hphase]
    split
    · rintro outcome ⟨⟩
    · rintro outcome ⟨⟩
    · split
      · rintro outcome ⟨⟩
      · rw [hphase]
        rintro outcome ⟨⟩
  | reading => cases hevent : s.envelope.event? <;> simp [step, hphase, hevent, enter, workOf]
  | handling task =>
    cases hadvance : h.advance m task l.state with
    | mk state move =>
      rw [step_handling s hphase hadvance]
      cases move <;> simp [workOf, hphase, Phase.after]
  | replying reply =>
    simp only [step, hphase, workOf]
    split <;> simp [enter]
  | signalling =>
    simp only [step, hphase, workOf]
    split <;> simp [enter]
  | closing outcome => exact absurd hphase (hclosing outcome)
  | ended outcome => simp [isOver, hphase] at hover
  | broken => simp [isOver, hphase] at hover

/-- A step of the loop finishes at the right time. -/
theorem Finishes.turn {ws : List (Work τ)} (hfinishes : Finishes ws l.phase) (m : Moment)
    (s : Shared) :
    Finishes (ws ++ (workOf m l (l.step h m s).1).toList) (l.step h m s).1.phase := by
  by_cases hover : l.isOver = true
  · have hnothing : workOf m l l = none := by
      cases hphase : l.phase <;> simp_all [isOver, workOf]
    rw [step_over h m s hover, hnothing, Option.toList_none, List.append_nil]
    exact hfinishes
  · have hnone : .finish ∉ ws := by
      cases hfinishes with
      | notYet hnone => exact hnone
      | once _ hphase =>
        rcases hphase with hphase | ⟨outcome, hphase⟩ <;> simp [isOver, hphase] at hover
    by_cases hclosing : ∃ outcome, l.phase = .closing outcome
    · obtain ⟨outcome, hphase⟩ := hclosing
      have hfinish : workOf m l (l.step h m s).1 = some .finish := by simp [workOf, hphase]
      rw [hfinish]
      refine .once hnone ?_
      rw [(step_closing h m s hphase).2]
      split
      · exact Or.inl rfl
      · exact Or.inr ⟨outcome, rfl⟩
    · obtain ⟨hwork, hends⟩ := step_open h m s (Bool.eq_false_iff.mpr hover)
        (not_exists.mp hclosing)
      refine .notYet ?_ hends
      rw [List.mem_append]
      exact not_or.mpr ⟨hnone, hwork⟩

end Turn

/-! ## Stopping -/

/-- How many events the loop may still hand over before it looks whether it should stop. -/
def Phase.due : Phase τ → Nat
  | .listening _ | .reading => 1
  | _ => 0

theorem Phase.due_le (phase : Phase τ) : phase.due ≤ 1 := by cases phase <;> simp [due]

/-- Whenever the loop looked whether it should stop, it should. -/
def ToldToStop : List (Entry σ τ ω) → Prop
  | [] => True
  | .turn m _ before _ :: log => (before.phase = .asking → m.stop = true) ∧ ToldToStop log
  | .call _ :: log => ToldToStop log

/-- An event that is handed over was due. -/
theorem step_due (h : Handler σ τ) (m : Moment) (l : ServingLoop σ τ) (s : Shared)
    (hstop : l.phase = .asking → m.stop = true) :
    (workOf m l (l.step h m s).1).toList.countP Work.isBegin + (l.step h m s).1.phase.due ≤
      l.phase.due := by
  cases hphase : l.phase with
  | asking => simp [step, hphase, hstop hphase, enter, workOf, Phase.due]
  | listening wake =>
    have hnone : workOf m l (l.step h m s).1 = none := by simp [workOf, hphase]
    rw [hnone]
    simpa [Phase.due] using (l.step h m s).1.phase.due_le
  | reading =>
    cases hevent : s.envelope.event? <;>
      simp [step, hphase, hevent, enter, workOf, Phase.due, Work.isBegin]
  | handling task =>
    cases hadvance : h.advance m task l.state with
    | mk state move =>
      rw [step_handling s hphase hadvance]
      cases move <;> simp [workOf, hphase, Phase.after, Phase.due, Work.isBegin]
  | replying reply =>
    simp only [step, hphase, workOf]
    split <;> simp [enter, Phase.due]
  | signalling =>
    simp only [step, hphase, workOf]
    split <;> simp [enter, Phase.due]
  | closing outcome =>
    cases hfinish : h.finish l.state with
    | mk state isBroken =>
      cases isBroken <;> simp [step, hphase, hfinish, workOf, Phase.due, Work.isBegin]
  | ended outcome => simp [step, hphase, workOf, Phase.due]
  | broken => simp [step, hphase, workOf, Phase.due]

/-- The loop was told to stop. -/
def Phase.IsStopped : Phase τ → Prop
  | .closing (.ok ()) | .ended (.ok ()) => True
  | _ => False

/-- Nothing but the stop condition makes a loop stop without a fault. -/
theorem step_isStopped (h : Handler σ τ) (m : Moment) (l : ServingLoop σ τ) (s : Shared)
    (hstopped : (l.step h m s).1.phase.IsStopped) : l.phase.IsStopped ∨ m.stop = true := by
  cases hphase : l.phase with
  | asking =>
    cases hstop : m.stop with
    | true => exact Or.inr rfl
    | false => simp [step, hphase, hstop, enter, Phase.IsStopped] at hstopped
  | listening wake =>
    simp only [step, hphase] at hstopped
    split at hstopped
    · cases hstopped
    · cases hstopped
    · split at hstopped
      · cases hstopped
      · rw [hphase] at hstopped
        cases hstopped
  | handling task =>
    cases hadvance : h.advance m task l.state with
    | mk state move =>
      rw [step_handling s hphase hadvance] at hstopped
      cases move <;> cases hstopped
  | closing outcome =>
    cases outcome with
    | ok => exact Or.inl trivial
    | error fault =>
      rw [(step_closing h m s hphase).2] at hstopped
      split at hstopped <;> cases hstopped
  | ended outcome =>
    have hover : l.isOver = true := by simp [isOver, hphase]
    rw [step_over h m s hover, hphase] at hstopped
    exact Or.inl hstopped
  | broken =>
    have hover : l.isOver = true := by simp [isOver, hphase]
    rw [step_over h m s hover, hphase] at hstopped
    cases hstopped
  | _ =>
    simp only [step, hphase] at hstopped
    split at hstopped <;> cases hstopped

/-! ## Runs -/

section Runs

variable {h : Handler σ τ} {outside : σ → ω → σ → Prop} {start l : ServingLoop σ τ}
  {log : List (Entry σ τ ω)}

theorem Run.finishes (hasking : start.phase = .asking) (run : Run h outside start log l) :
    Finishes (works log) l.phase := by
  induction run with
  | start =>
    rw [hasking]
    exact .notYet nofun nofun
  | turn run m s ih => exact ih.turn m s
  | call run call state hcall ih => exact ih

/-- The state of the handler is what its calls have made of it, if nobody else changed it. -/
theorem Run.state_eq (run : Run h outside start log l) (hcalls : calls log = []) :
    l.state = (works log).foldl (fun state work => work.apply h state) start.state := by
  induction run with
  | start => rfl
  | @turn log l run m s ih =>
    rw [works, List.foldl_append, ← ih hcalls, works_state]
    cases workOf m l (l.step h m s).1 <;> rfl
  | call run call state hcall ih => simp [calls] at hcalls

/-- While it is told to stop, the loop hands over what was due and nothing more. -/
theorem Run.begins_le (run : Run h outside start log l) (htold : ToldToStop log) :
    (works log).countP Work.isBegin + l.phase.due ≤ start.phase.due := by
  induction run with
  | start => simp [works]
  | turn run m s ih =>
    have hbefore := ih htold.2
    have hturn := step_due h m _ s htold.1
    rw [works, List.countP_append]
    omega
  | call run call state hcall ih => exact ih htold

/-- A run goes on where its first part has led to. -/
theorem Run.split {later earlier : List (Entry σ τ ω)}
    (run : Run h outside start (later ++ earlier) l) :
    ∃ mid, Run h outside start earlier mid ∧ Run h outside mid later l := by
  induction later generalizing l with
  | nil => exact ⟨l, run, .start⟩
  | cons entry later ih =>
    cases run with
    | turn run m s =>
      obtain ⟨mid, hearlier, hlater⟩ := ih run
      exact ⟨mid, hearlier, hlater.turn m s⟩
    | call run call state hcall =>
      obtain ⟨mid, hearlier, hlater⟩ := ih run
      exact ⟨mid, hearlier, hlater.call call state hcall⟩

end Runs

end ServingLoop

end ConsoleLink
