import ConsoleLink.Config
import ConsoleLink.Proofs.Desk.Progress

/-!
# How the desk decides a choice

Nobody is there to be asked, so a choice gets its break value at once, or the desk lets its time run
out.  It looks at the clock, asks whether it should stop, and sleeps for a part of the time that is
left.

* `ChoiceCourse` is the work on a choice up to some point: a log of its steps.  The clock goes on as
  it likes, except that no sleep is cut short, and the desk is told anything when it asks.
* `checks` are the answers to its questions, and `sleeps` counts how often it slept.
* `Keeps` is the invariant, with `Keeps.step` for a step and `ChoiceCourse.keeps` for a course.
* `choice_decided` is what a choice comes to, and how long that takes.
-/

namespace ConsoleLink

/-- A session polls no more often than once in a millisecond. -/
theorem Config.le_pollInterval (c : Config) : Span.ofMillis 1 ≤ c.pollInterval :=
  Nat.mul_le_mul_right _ (Nat.le_max_right _ _)

namespace Desk

/-! ## Courses -/

/-- A step on a choice: what the desk saw, its task, and what came of it. -/
structure ChoiceStep where
  moment : Moment
  task : Task
  move : Move Task

/-- A time that a task waits for has come. -/
def Task.IsDue (task : Task) (now : Nat) : Prop :=
  ∀ prompt deadline wake, task = .sleep prompt deadline wake → wake ≤ now

/-- The work on a choice that was begun at some time, with its steps so far, the latest first.
Others may do to the desk what they like meanwhile, but they leave its poll interval. -/
inductive ChoiceCourse (prompt : Prompt) (poll begun : Nat) :
    List ChoiceStep → Nat → Move Task → Prop
  | begin (stop : Bool) (d : Desk) (hpoll : d.pollInterval = poll) :
      ChoiceCourse prompt poll begun
        [⟨⟨begun, stop⟩, .fresh (.choice prompt),
          (advance ⟨begun, stop⟩ (.fresh (.choice prompt)) d).2⟩]
        begun (advance ⟨begun, stop⟩ (.fresh (.choice prompt)) d).2
  | step {log : List ChoiceStep} {clock : Nat} {task : Task}
      (course : ChoiceCourse prompt poll begun log clock (.go task)) (m : Moment) (d : Desk)
      (hpoll : d.pollInterval = poll) (hlater : clock ≤ m.now) (hdue : task.IsDue m.now) :
      ChoiceCourse prompt poll begun (⟨m, task, (advance m task d).2⟩ :: log) m.now
        (advance m task d).2

/-- A question whether to stop: what the clock had shown right before, and the answer. -/
structure StopCheck where
  seen : Nat
  stop : Bool

/-- The question that a step asks. -/
def ChoiceStep.check? (s : ChoiceStep) : Option StopCheck :=
  match s.task with
  | .askChoice _ _ seen => some ⟨seen, s.moment.stop⟩
  | _ => none

/-- A step begins a sleep. -/
def ChoiceStep.sleeps (s : ChoiceStep) : Bool :=
  match s.move with
  | .go (.sleep ..) => true
  | _ => false

/-- All questions so far, the latest first. -/
def checks (log : List ChoiceStep) : List StopCheck := log.filterMap ChoiceStep.check?

/-- How often the desk slept. -/
def sleeps (log : List ChoiceStep) : Nat := log.countP ChoiceStep.sleeps

/-- No question was answered with yes. -/
def Untold (log : List ChoiceStep) : Prop := ∀ check ∈ checks log, check.stop = false

/-- Whenever the desk asks there is time left, which is what it may sleep. -/
def InTime (prompt : Prompt) (begun : Nat) (log : List ChoiceStep) : Prop :=
  ∀ s ∈ log, ∀ p deadline seen, s.task = .askChoice p deadline seen →
    deadline = begun + prompt.timeout ∧ begun ≤ seen ∧ seen < deadline

/-- The most sleeps that a time allows for, the last of which may be a shorter one. -/
def mostSleeps (timeout poll : Nat) : Nat := (timeout + poll - 1) / poll

/-- What is known once a choice has its reply. -/
structure IsDecided (prompt : Prompt) (begun : Nat) (log : List ChoiceStep) (clock : Nat)
    (reply : Reply) : Prop where
  plain : prompt.expires = false →
    reply = .choice prompt.breakValue ∧ log.length = 1 ∧ clock = begun
  expired : prompt.expires = true → Untold log →
    reply = .choice prompt.expiredValue ∧ begun + prompt.timeout ≤ clock
  told : prompt.expires = true → ¬ Untold log → reply = .choice prompt.breakValue

section Logs

variable (s : ChoiceStep) (log : List ChoiceStep)

theorem checks_cons : checks (s :: log) = s.check?.toList ++ checks log := by
  cases hcheck : s.check? with
  | none => exact List.filterMap_cons_none hcheck
  | some check => exact List.filterMap_cons_some hcheck

theorem sleeps_cons : sleeps (s :: log) = sleeps log + if s.sleeps then 1 else 0 := by
  rw [sleeps, List.countP_cons]
  rfl

variable {s log}

theorem untold_nil : Untold [] := by
  intro check hmem
  exact absurd hmem List.not_mem_nil

/-- A step that asks nothing. -/
theorem Untold.cons (h : Untold log) (hcheck : s.check? = none) : Untold (s :: log) := by
  intro check hmem
  rw [checks_cons, hcheck] at hmem
  exact h check hmem

end Logs

/-! ## What a course keeps -/

/-- How a choice that expires goes on.  Each round of it is three steps, and takes the poll interval
unless it comes to the deadline. -/
structure Pending (prompt : Prompt) (poll begun : Nat) (log : List ChoiceStep)
    (steps : Nat) (p : Prompt) (deadline time : Nat) : Prop where
  same : p = prompt
  expires : prompt.expires = true
  ends : deadline = begun + prompt.timeout
  untold : Untold log
  length : log.length = steps
  paced : begun + sleeps log * poll ≤ time ∨ deadline ≤ time

/-- How a choice stands after its latest move. -/
def Stage (prompt : Prompt) (poll begun : Nat) (log : List ChoiceStep) (clock : Nat) :
    Move Task → Prop
  | .go (.clock p deadline) =>
    Pending prompt poll begun log (3 * sleeps log + 1) p deadline clock
  | .go (.askChoice p deadline seen) =>
    Pending prompt poll begun log (3 * sleeps log + 2) p deadline seen ∧ begun ≤ seen ∧
      seen < deadline ∧ seen ≤ clock
  | .go (.sleep p deadline wake) =>
    Pending prompt poll begun log (3 * sleeps log) p deadline wake
  | .reply reply => IsDecided prompt begun log clock reply ∧ log.length ≤ 3 * sleeps log + 3
  | _ => False

/-- The invariant of a choice. -/
structure Keeps (prompt : Prompt) (poll begun : Nat) (log : List ChoiceStep) (clock : Nat)
    (move : Move Task) : Prop where
  begun_le : begun ≤ clock
  /-- All sleeps but the last one took the whole poll interval. -/
  slept : sleeps log * poll < prompt.timeout + poll
  inTime : InTime prompt begun log
  stage : Stage prompt poll begun log clock move

section Keeps

variable {prompt : Prompt} {poll begun clock : Nat} {log : List ChoiceStep}
  {move : Move Task}

/-- The first step. -/
theorem keeps_begin (hpoll : 0 < poll) (stop : Bool) (d : Desk) :
    Keeps prompt poll begun
      [⟨⟨begun, stop⟩, .fresh (.choice prompt),
        (advance ⟨begun, stop⟩ (.fresh (.choice prompt)) d).2⟩]
      begun (advance ⟨begun, stop⟩ (.fresh (.choice prompt)) d).2 := by
  have htime (move : Move Task) :
      InTime prompt begun [⟨⟨begun, stop⟩, .fresh (.choice prompt), move⟩] := by
    rintro _ hs _ _ _ htask
    rw [List.mem_singleton.mp hs] at htask
    cases htask
  have hslept : 0 * poll < prompt.timeout + poll := by
    rw [Nat.zero_mul]
    exact Nat.add_pos_right _ hpoll
  cases hexpires : prompt.expires with
  | false =>
    have hmove : (advance ⟨begun, stop⟩ (.fresh (.choice prompt)) d).2 =
        .reply (.choice prompt.breakValue) := by
      simp [advance, receive, hexpires]
    rw [hmove]
    refine ⟨Nat.le_refl begun, hslept, htime _, ⟨fun _ => ⟨rfl, rfl, rfl⟩, ?_, ?_⟩, by simp⟩
    · simp [hexpires]
    · simp [hexpires]
  | true =>
    have hmove : (advance ⟨begun, stop⟩ (.fresh (.choice prompt)) d).2 =
        .go (.clock prompt (begun + prompt.timeout)) := by
      simp [advance, receive, hexpires]
    rw [hmove]
    refine ⟨Nat.le_refl begun, hslept, htime _, rfl, hexpires, rfl, untold_nil.cons rfl, rfl,
      Or.inl ?_⟩
    simp [sleeps, ChoiceStep.sleeps]

/-- If the next step is a question, it is asked in time. -/
theorem Keeps.inTime_cons {task : Task} (keeps : Keeps prompt poll begun log clock (.go task))
    (m : Moment) (move : Move Task) : InTime prompt begun (⟨m, task, move⟩ :: log) := by
  refine List.forall_mem_cons.mpr ⟨?_, keeps.inTime⟩
  rintro p deadline seen ⟨⟩
  obtain ⟨hpending, hbegun, hearly, -⟩ := keeps.stage
  exact ⟨hpending.ends, hbegun, hearly⟩

/-- The clock is looked at: the choice is over, or the desk will ask. -/
theorem Keeps.look {p : Prompt} {deadline : Nat}
    (keeps : Keeps prompt poll begun log clock (.go (.clock p deadline))) (m : Moment) (d : Desk)
    (hlater : clock ≤ m.now) :
    Keeps prompt poll begun
      (⟨m, .clock p deadline, (advance m (.clock p deadline) d).2⟩ :: log) m.now
      (advance m (.clock p deadline) d).2 := by
  have hpending : Pending prompt poll begun log (3 * sleeps log + 1) p deadline clock := keeps.stage
  have hbegun : begun ≤ m.now := Nat.le_trans keeps.begun_le hlater
  by_cases hover : deadline ≤ m.now
  · have hmove : (advance m (.clock p deadline) d).2 = .reply (.choice p.expiredValue) := by
      rw [advance, if_pos hover]
    rw [hmove]
    have huntold : Untold (⟨m, .clock p deadline, .reply (.choice p.expiredValue)⟩ :: log) :=
      hpending.untold.cons rfl
    have hsleeps : sleeps (⟨m, .clock p deadline, .reply (.choice p.expiredValue)⟩ :: log) =
        sleeps log := sleeps_cons _ _
    refine ⟨hbegun, ?_, keeps.inTime_cons m _, ⟨?_, ?_, ?_⟩, ?_⟩
    · rw [hsleeps]
      exact keeps.slept
    · intro hplain
      rw [hpending.expires] at hplain
      cases hplain
    · rw [hpending.same, ← hpending.ends]
      exact fun _ _ => ⟨rfl, hover⟩
    · exact fun _ htold => absurd huntold htold
    · rw [hsleeps, List.length_cons, hpending.length]
      omega
  · have hmove : (advance m (.clock p deadline) d).2 = .go (.askChoice p deadline m.now) := by
      rw [advance, if_neg hover]
    rw [hmove]
    have hsleeps : sleeps (⟨m, .clock p deadline, .go (.askChoice p deadline m.now)⟩ :: log) =
        sleeps log := sleeps_cons _ _
    have hpaced := hpending.paced
    refine ⟨hbegun, ?_, keeps.inTime_cons m _, ⟨hpending.same, hpending.expires, hpending.ends,
      hpending.untold.cons rfl, ?_, ?_⟩, hbegun, Nat.lt_of_not_le hover, Nat.le_refl _⟩
    · rw [hsleeps]
      exact keeps.slept
    · rw [hsleeps, List.length_cons, hpending.length]
    · rw [hsleeps]
      omega

/-- The desk asks whether it should stop: if not, it sleeps for a part of the time that is left. -/
theorem Keeps.ask {p : Prompt} {deadline seen : Nat}
    (keeps : Keeps prompt poll begun log clock (.go (.askChoice p deadline seen))) (m : Moment)
    {d : Desk} (hd : d.pollInterval = poll) (hlater : clock ≤ m.now) :
    Keeps prompt poll begun
      (⟨m, .askChoice p deadline seen, (advance m (.askChoice p deadline seen) d).2⟩ :: log) m.now
      (advance m (.askChoice p deadline seen) d).2 := by
  obtain ⟨hpending, hbegun, hearly, hseen⟩ :
      Pending prompt poll begun log (3 * sleeps log + 2) p deadline seen ∧ begun ≤ seen ∧
        seen < deadline ∧ seen ≤ clock := keeps.stage
  have hnow : begun ≤ m.now := Nat.le_trans keeps.begun_le hlater
  cases hstop : m.stop with
  | true =>
    have hmove : (advance m (.askChoice p deadline seen) d).2 = .reply (.choice p.breakValue) := by
      rw [advance, if_pos hstop]
    rw [hmove]
    have hsleeps : sleeps (⟨m, .askChoice p deadline seen, .reply (.choice p.breakValue)⟩ :: log) =
        sleeps log := sleeps_cons _ _
    have htold :
        ¬ Untold (⟨m, .askChoice p deadline seen, .reply (.choice p.breakValue)⟩ :: log) := by
      intro huntold
      have hanswer := huntold ⟨seen, m.stop⟩ List.mem_cons_self
      rw [hstop] at hanswer
      cases hanswer
    refine ⟨hnow, ?_, keeps.inTime_cons m _, ⟨?_, ?_, ?_⟩, ?_⟩
    · rw [hsleeps]
      exact keeps.slept
    · intro hplain
      rw [hpending.expires] at hplain
      cases hplain
    · exact fun _ huntold => absurd huntold htold
    · intro _ _
      rw [hpending.same]
    · rw [hsleeps, List.length_cons]
      exact Nat.succ_le_succ (Nat.le_of_eq hpending.length)
  | false =>
    have hmove : (advance m (.askChoice p deadline seen) d).2 =
        .go (.sleep p deadline (m.now + min poll (deadline - seen))) := by
      rw [advance, hstop, if_neg Bool.false_ne_true, hd]
    rw [hmove]
    have hsleeps : sleeps (⟨m, .askChoice p deadline seen,
        .go (.sleep p deadline (m.now + min poll (deadline - seen)))⟩ :: log) = sleeps log + 1 :=
      sleeps_cons _ _
    have hmore : (sleeps log + 1) * poll = sleeps log * poll + poll := Nat.succ_mul _ _
    have hpaced := hpending.paced
    have hends := hpending.ends
    refine ⟨hnow, ?_, keeps.inTime_cons m _, hpending.same, hpending.expires, hpending.ends, ?_,
      ?_, ?_⟩
    · rw [hsleeps, hmore]
      omega
    · intro check hmem
      rcases List.mem_cons.mp hmem with rfl | hmem
      · exact hstop
      · exact hpending.untold check hmem
    · rw [hsleeps, List.length_cons, hpending.length]
      omega
    · rw [hsleeps, hmore]
      omega

/-- The desk has slept. -/
theorem Keeps.wake {p : Prompt} {deadline wake : Nat}
    (keeps : Keeps prompt poll begun log clock (.go (.sleep p deadline wake))) (m : Moment)
    (d : Desk) (hlater : clock ≤ m.now) (hdue : wake ≤ m.now) :
    Keeps prompt poll begun
      (⟨m, .sleep p deadline wake, (advance m (.sleep p deadline wake) d).2⟩ :: log) m.now
      (advance m (.sleep p deadline wake) d).2 := by
  have hpending : Pending prompt poll begun log (3 * sleeps log) p deadline wake := keeps.stage
  have hmove : (advance m (.sleep p deadline wake) d).2 = .go (.clock p deadline) := by
    rw [advance, if_pos hdue]
  rw [hmove]
  have hsleeps : sleeps (⟨m, .sleep p deadline wake, .go (.clock p deadline)⟩ :: log) =
      sleeps log := sleeps_cons _ _
  have hpaced := hpending.paced
  refine ⟨Nat.le_trans keeps.begun_le hlater, ?_, keeps.inTime_cons m _,
    hpending.same, hpending.expires, hpending.ends, hpending.untold.cons rfl, ?_, ?_⟩
  · rw [hsleeps]
    exact keeps.slept
  · rw [hsleeps, List.length_cons, hpending.length]
  · rw [hsleeps]
    omega

/-- Every step keeps the invariant. -/
theorem Keeps.step {task : Task} (keeps : Keeps prompt poll begun log clock (.go task)) (m : Moment)
    {d : Desk} (hd : d.pollInterval = poll) (hlater : clock ≤ m.now) (hdue : task.IsDue m.now) :
    Keeps prompt poll begun (⟨m, task, (advance m task d).2⟩ :: log) m.now
      (advance m task d).2 := by
  cases task with
  | clock p deadline => exact keeps.look m d hlater
  | askChoice p deadline seen => exact keeps.ask m hd hlater
  | sleep p deadline wake => exact keeps.wake m d hlater (hdue p deadline wake rfl)
  | fresh | take | ask | await => exact keeps.stage.elim

/-- The invariant holds of every choice. -/
theorem ChoiceCourse.keeps (hpoll : 0 < poll)
    (course : ChoiceCourse prompt poll begun log clock move) :
    Keeps prompt poll begun log clock move := by
  induction course with
  | begin stop d _ => exact keeps_begin hpoll stop d
  | step _ m d hd hlater hdue ih => exact ih.step m hd hlater hdue

/-- All sleeps but the last one take the whole poll interval, so they are no more than that. -/
theorem Keeps.sleeps_le (keeps : Keeps prompt poll begun log clock move) (hpoll : 0 < poll) :
    sleeps log ≤ mostSleeps prompt.timeout poll := by
  have hslept := keeps.slept
  rw [mostSleeps, Nat.le_div_iff_mul_le hpoll]
  exact Nat.le_sub_one_of_lt hslept

/-- A choice that goes on or has a reply has taken three steps for each sleep and three more. -/
theorem Keeps.length_le (keeps : Keeps prompt poll begun log clock move) :
    log.length ≤ 3 * sleeps log + 3 ∧
      ∀ task, move = .go task → log.length < 3 * sleeps log + 3 := by
  have hstage := keeps.stage
  cases move with
  | broken => exact hstage.elim
  | reply reply => exact ⟨hstage.2, nofun⟩
  | go task =>
    have hlength : log.length < 3 * sleeps log + 3 := by
      cases task with
      | clock p deadline =>
        rw [Pending.length hstage]
        omega
      | askChoice p deadline seen =>
        rw [Pending.length hstage.1]
        omega
      | sleep p deadline wake =>
        rw [Pending.length hstage]
        omega
      | fresh | take | ask | await => exact hstage.elim
    exact ⟨Nat.le_of_lt hlength, fun _ _ => hlength⟩

/-- Without any time the desk does not ask. -/
theorem InTime.checks_eq_nil (h : InTime prompt begun log) (hnone : prompt.timeout = 0) :
    checks log = [] := by
  refine List.filterMap_eq_nil_iff.mpr ?_
  rintro ⟨m, task, move⟩ hs
  cases task with
  | askChoice p deadline seen =>
    obtain ⟨hends, hbegun, hearly⟩ := h _ hs p deadline seen rfl
    rw [hends, hnone, Nat.add_zero] at hearly
    exact absurd hearly (Nat.not_lt_of_le hbegun)
  | _ => rfl

/-- A choice goes on, or it has been decided. -/
theorem Keeps.decided (keeps : Keeps prompt poll begun log clock move) :
    (∃ task, move = .go task) ∨
      ∃ reply, move = .reply reply ∧ IsDecided prompt begun log clock reply := by
  have hstage := keeps.stage
  cases move with
  | go task => exact Or.inl ⟨task, rfl⟩
  | reply reply => exact Or.inr ⟨reply, rfl, hstage.1⟩
  | broken => exact hstage.elim

/-! ## A choice that nobody disturbs -/

/-- A choice leaves the desk as it is. -/
theorem Keeps.desk {task : Task} (keeps : Keeps prompt poll begun log clock (.go task)) (m : Moment)
    (d : Desk) : (advance m task d).1 = d := by
  cases task with
  | clock p deadline =>
    rw [advance]
    split <;> rfl
  | askChoice p deadline seen =>
    rw [advance]
    split <;> rfl
  | sleep p deadline wake =>
    rw [advance]
    split <;> rfl
  | fresh | take | ask | await => exact keeps.stage.elim

/-- Whoever waits as long as a task asks for finds it due. -/
theorem Task.isDue_waits (task : Task) (now : Nat) (d : Desk) :
    task.IsDue (max now ((waits task d).getD now)) := by
  rintro prompt deadline wake rfl
  exact Nat.le_max_right now wake

variable {consult : Desk → Desk × Bool}

/-- One step of a desk that works alone, and that the step leaves as it is. -/
theorem runAlone_succ {steps now : Nat} {task : Task} {d d₁ : Desk} {stop : Bool}
    (hconsulted : (if handler.asks task then consult d else (d, false)) = (d₁, stop))
    (hdesk : (advance ⟨now, stop⟩ task d₁).1 = d₁) :
    handler.runAlone consult (steps + 1) now task d =
      match (advance ⟨now, stop⟩ task d₁).2 with
      | .reply reply => (d₁, some reply)
      | .broken => (d₁, none)
      | .go next =>
        handler.runAlone consult steps (max now ((waits next d₁).getD now)) next d₁ := by
  have hadvance : handler.advance ⟨now, stop⟩ task d₁ =
      (d₁, (advance ⟨now, stop⟩ task d₁).2) := Prod.ext hdesk rfl
  simp only [Handler.runAlone, hconsulted, hadvance]
  cases (advance ⟨now, stop⟩ task d₁).2 <;> rfl

/-- A choice that goes on alone, with enough steps, gets its reply. -/
theorem ChoiceCourse.runAlone (hpoll : 0 < poll)
    (hconsult : ∀ d, (consult d).1.pollInterval = d.pollInterval) {steps now : Nat} {task : Task}
    {d : Desk} (course : ChoiceCourse prompt poll begun log clock (.go task))
    (hd : d.pollInterval = poll) (hlater : clock ≤ now) (hdue : task.IsDue now)
    (hsteps : 3 * mostSleeps prompt.timeout poll + 3 ≤ log.length + steps) :
    ∃ d' reply log' clock', handler.runAlone consult steps now task d = (d', some reply) ∧
      ChoiceCourse prompt poll begun log' clock' (.reply reply) := by
  induction steps generalizing log clock now task d with
  | zero =>
    have hlength := (course.keeps hpoll).length_le.2 task rfl
    have hsleeps := (course.keeps hpoll).sleeps_le hpoll
    omega
  | succ steps ih =>
    obtain ⟨d₁, stop, hconsulted, hd₁⟩ : ∃ d₁ stop,
        (if handler.asks task then consult d else (d, false)) = (d₁, stop) ∧
          d₁.pollInterval = poll := by
      cases hasks : handler.asks task with
      | false => exact ⟨d, false, rfl, hd⟩
      | true => exact ⟨_, _, rfl, (hconsult d).trans hd⟩
    have hnext := course.step ⟨now, stop⟩ d₁ hd₁ hlater hdue
    rw [runAlone_succ hconsulted ((course.keeps hpoll).desk ⟨now, stop⟩ d₁)]
    rcases (hnext.keeps hpoll).decided with ⟨task', hmove⟩ | ⟨reply, hmove, -⟩
    · rw [hmove] at hnext ⊢
      refine ih hnext hd₁ (Nat.le_max_left now _) (Task.isDue_waits task' now d₁) ?_
      rw [List.length_cons]
      omega
    · rw [hmove] at hnext ⊢
      exact ⟨d₁, reply, _, _, rfl, hnext⟩

/-- A choice that is answered alone from its first step on. -/
theorem choice_runAlone (hpoll : 0 < poll)
    (hconsult : ∀ d, (consult d).1.pollInterval = d.pollInterval) {steps : Nat} {d : Desk}
    (hd : d.pollInterval = poll) (hsteps : 3 * mostSleeps prompt.timeout poll + 3 ≤ steps) :
    ∃ d' reply log clock,
      handler.runAlone consult steps begun (handler.begin (.choice prompt)) d = (d', some reply) ∧
        ChoiceCourse prompt poll begun log clock (.reply reply) := by
  obtain ⟨steps, rfl⟩ : ∃ rest, steps = rest + 1 := ⟨steps - 1, by omega⟩
  have hfirst : ChoiceCourse prompt poll begun _ begun _ := .begin false d hd
  have hdesk : (advance ⟨begun, false⟩ (.fresh (.choice prompt)) d).1 = d := by
    rw [advance, receive]
    split <;> rfl
  have hconsulted : (if handler.asks (handler.begin (.choice prompt)) then consult d
      else (d, false)) = (d, false) := rfl
  rw [runAlone_succ hconsulted hdesk]
  rcases (hfirst.keeps hpoll).decided with ⟨task, hmove⟩ | ⟨reply, hmove, -⟩
  · rw [hmove] at hfirst
    simp only [handler, hmove]
    refine hfirst.runAlone hpoll hconsult hd (Nat.le_max_left begun _)
      (Task.isDue_waits task begun d) ?_
    rw [List.length_singleton]
    omega
  · rw [hmove] at hfirst
    simp only [handler, hmove]
    exact ⟨d, reply, _, _, rfl, hfirst⟩

end Keeps

/-- Whatever the desk is told when it asks whether to stop, and however the clock goes on as long as
no sleep is cut short, a choice comes to its end: the desk sleeps no more often than the poll
interval goes into the timeout, rounded up.

* A prompt that does not expire is answered with its break value, in the first step.
* Another one is answered with the value for that if the desk was never told to stop, and then the
  time is over; and with the break value if it was.  The desk asks only as long as the clock has not
  shown the end of that time, so what is left of the time when it sleeps is never negative.
* A prompt that expires at once is answered with the value for that, and the desk does not ask.

A choice that a desk works on alone is one of these.  The timeout of a prompt that was read from
an envelope is bounded, so that the clock shows when it is over (`Envelope.deadline?_of_event?`). -/
theorem choice_decided (prompt : Prompt) (poll begun : Nat) (hpoll : Span.ofMillis 1 ≤ poll) :
    (∀ log clock move, ChoiceCourse prompt poll begun log clock move →
      sleeps log ≤ mostSleeps prompt.timeout poll ∧
        log.length ≤ 3 * mostSleeps prompt.timeout poll + 3 ∧ InTime prompt begun log ∧
        ((∃ task, move = .go task) ∨
          ∃ reply, move = .reply reply ∧ IsDecided prompt begun log clock reply) ∧
        (prompt.expires = true → prompt.timeout = 0 →
          checks log = [] ∧ ∀ reply, move = .reply reply → reply = .choice prompt.expiredValue)) ∧
      ∀ (consult : Desk → Desk × Bool) (d : Desk) (steps : Nat),
        (∀ d, (consult d).1.pollInterval = d.pollInterval) → d.pollInterval = poll →
          3 * mostSleeps prompt.timeout poll + 3 ≤ steps →
            ∃ d' reply log clock,
              handler.runAlone consult steps begun (handler.begin (.choice prompt)) d =
                  (d', some reply) ∧
                ChoiceCourse prompt poll begun log clock (.reply reply) := by
  have hpoll : 0 < poll := Nat.lt_of_lt_of_le (by decide) hpoll
  constructor
  · intro log clock move course
    have keeps := course.keeps hpoll
    have hsleeps := keeps.sleeps_le hpoll
    have hlength := keeps.length_le.1
    refine ⟨hsleeps, by omega, keeps.inTime, keeps.decided, ?_⟩
    intro hexpires hnone
    have hchecks := keeps.inTime.checks_eq_nil hnone
    refine ⟨hchecks, ?_⟩
    rintro reply rfl
    refine (keeps.stage.1.expired hexpires ?_).1
    rw [Untold, hchecks]
    exact nofun
  · intro consult d steps hconsult hd hsteps
    exact choice_runAlone hpoll hconsult hd hsteps

/-- A choice of two and a half milliseconds expires after three sleeps at most, of a millisecond
each. -/
theorem choice_decided_short :
    Span.ofMillis 1 ≤ Config.pollInterval { pollIntervalMs := 0 } ∧
      ∃ log clock,
        ChoiceCourse ⟨true, 2500000, -1, 1⟩ (Config.pollInterval { pollIntervalMs := 0 }) 7 log
            clock (.reply (.choice 1)) ∧
          sleeps log ≤ 3 ∧ Untold log ∧ 2500007 ≤ clock := by
  have hpoll := Config.le_pollInterval { pollIntervalMs := 0 }
  obtain ⟨hcourses, halone⟩ := choice_decided ⟨true, 2500000, -1, 1⟩ _ 7 hpoll
  obtain ⟨d, reply, log, clock, hrun, course⟩ :=
    halone (fun d => (d, false)) { pollInterval := Config.pollInterval { pollIntervalMs := 0 } } 12
      (fun _ => rfl) rfl (by decide)
  have hreply : (handler.runAlone (fun d => (d, false)) 12 7
      (handler.begin (.choice ⟨true, 2500000, -1, 1⟩))
        { pollInterval := Config.pollInterval { pollIntervalMs := 0 } }).2 = some (.choice 1) := rfl
  obtain rfl : reply = .choice 1 := by
    rw [hrun] at hreply
    exact Option.some.inj hreply
  obtain ⟨hsleeps, -, -, hdecided, -⟩ := hcourses log clock _ course
  obtain ⟨_, ⟨⟩⟩ | ⟨_, ⟨⟩, hdecided⟩ := hdecided
  have huntold : Untold log :=
    Classical.byContradiction fun htold => absurd (hdecided.told rfl htold) (by decide)
  exact ⟨hpoll, log, clock, course, hsleeps, huntold, (hdecided.expired rfl huntold).2⟩

end Desk

end ConsoleLink
