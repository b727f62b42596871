import ConsoleLink.Proofs.Serving.Log

/-!
# What a handler keeps to

The loop touches the state of its handler at two places only: when the handler works
on an event, and at the very end.

* `Effect` lists what a step of the loop can mean for its handler and for the ledger,
  and `step_effect` says that each step is one of these.
* A `Contract` is an invariant of the handler's state together with what holds of a
  service after each of its steps.
* `Contract.meets` carries a contract through every run, `Contract.services` reads it
  off all services, and `Contract.isFitting` is how a handler is shown to be fitting.
-/

namespace ConsoleLink

namespace ServingLoop

variable {σ τ ω : Type}

/-! ## What a step means for the handler -/

/-- The handler is not at work, and the loop is not over. -/
def Phase.IsBetween : Phase τ → Prop
  | .handling _ | .ended _ | .broken => False
  | _ => True

theorem Phase.IsBetween.ne_handling {phase : Phase τ} (h : phase.IsBetween) (task : τ) :
    phase ≠ .handling task := by
  rintro rfl
  exact h

theorem Phase.IsBetween.ne_broken {phase : Phase τ} (h : phase.IsBetween) : phase ≠ .broken := by
  rintro rfl
  exact h

/-- What a step can mean: the loop before it, the loop after it and the ledger then. -/
inductive Effect (h : Handler σ τ) (m : Moment) (g : Ledger σ τ) (l : ServingLoop σ τ) :
    ServingLoop σ τ → Ledger σ τ → Prop
  /-- The loop was over. -/
  | still (hover : l.isOver = true) : Effect h m g l l g
  /-- The handler had nothing to do with it. -/
  | move (phase : Phase τ) (hbefore : l.phase.IsBetween) (hafter : phase.IsBetween) :
      Effect h m g l (l.enter phase) g
  /-- An event was read. -/
  | begin (event : Event) (hphase : l.phase = .reading) :
      Effect h m g l (l.enter (.handling (h.begin event))) (g.begin event)
  /-- The handler took a step. -/
  | advance (task : τ) (hphase : l.phase = .handling task) (state : σ) (move : Move τ)
      (hadvance : h.advance m task l.state = (state, move)) :
      Effect h m g l { l with state := state, phase := .after move }
        (g.proceed (m, task, l.state) move.reply?)
  /-- The handler finished. -/
  | finish (outcome : Except LinkFault Unit) (hphase : l.phase = .closing outcome) (state : σ)
      (isBroken : Bool) (hfinish : h.finish l.state = (state, isBroken)) :
      Effect h m g l
        { l with state := state, phase := if isBroken then .broken else .ended outcome } g

theorem Ledger.note_between (g : Ledger σ τ) (m : Moment) (s : Shared) {before : ServingLoop σ τ}
    (after : ServingLoop σ τ) (hbefore : ∀ task, before.phase ≠ .handling task)
    (hafter : ∀ task, after.phase ≠ .handling task) : g.note m s before after = g := by
  cases hphase : before.phase with
  | handling task => exact absurd hphase (hbefore task)
  | reading =>
    cases hphase' : after.phase with
    | handling task => exact absurd hphase' (hafter task)
    | _ => simp [Ledger.note, hphase, hphase']
  | _ => simp [Ledger.note, hphase]

/-- A step between two phases in which the handler is not at work. -/
theorem Effect.of_move (h : Handler σ τ) (m : Moment) (s : Shared) (g : Ledger σ τ)
    {l : ServingLoop σ τ} {phase : Phase τ} (hbefore : l.phase.IsBetween)
    (hafter : phase.IsBetween) :
    Effect h m g l (l.enter phase) (g.note m s l (l.enter phase)) := by
  rw [Ledger.note_between g m s _ hbefore.ne_handling hafter.ne_handling]
  exact .move phase hbefore hafter

/-- Every step of the loop has one of the effects. -/
theorem step_effect (h : Handler σ τ) (m : Moment) (s : Shared) (g : Ledger σ τ)
    (l : ServingLoop σ τ) :
    Effect h m g l (l.step h m s).1 (g.note m s l (l.step h m s).1) := by
  cases hphase : l.phase with
  | asking =>
    have hbefore : l.phase.IsBetween := hphase ▸ trivial
    simp only [step, hphase]
    split
    · exact .of_move h m s g hbefore trivial
    · exact .of_move h m s g hbefore trivial
  | listening wake =>
    have hbefore : l.phase.IsBetween := hphase ▸ trivial
    simp only [step, hphase]
    split
    · exact .of_move h m s g hbefore trivial
    · exact .of_move h m s g hbefore trivial
    · split
      · exact .of_move h m s g hbefore trivial
      · exact .of_move h m s g hbefore hbefore
  | reading =>
    have hbefore : l.phase.IsBetween := hphase ▸ trivial
    simp only [step, hphase]
    split
    · rename_i event hevent
      rw [Ledger.note_reading g m hphase rfl hevent]
      exact .begin event hphase
    · exact .of_move h m s g hbefore trivial
  | handling task =>
    cases hadvance : h.advance m task l.state with
    | mk state move =>
      rw [step_handling s hphase hadvance, Ledger.note_handling g m s hphase rfl]
      exact .advance task hphase state move hadvance
  | replying reply =>
    have hbefore : l.phase.IsBetween := hphase ▸ trivial
    simp only [step, hphase]
    split
    · exact .of_move h m s g hbefore trivial
    · exact .of_move h m s g hbefore trivial
  | signalling =>
    have hbefore : l.phase.IsBetween := hphase ▸ trivial
    simp only [step, hphase]
    split
    · exact .of_move h m s g hbefore trivial
    · exact .of_move h m s g hbefore trivial
  | closing outcome =>
    have hnote (after : ServingLoop σ τ) : g.note m s l after = g := by
      simp [Ledger.note, hphase]
    cases hfinish : h.finish l.state with
    | mk state isBroken =>
      have heffect := Effect.finish (m := m) (g := g) outcome hphase state isBroken hfinish
      rw [hnote]
      cases isBroken <;> simpa [step, hphase, hfinish] using heffect
  | ended outcome =>
    have hstep : l.step h m s = (l, s) := by simp only [step, hphase]
    have hnote : g.note m s l l = g := by simp [Ledger.note, hphase]
    rw [hstep, hnote]
    exact .still (by simp [isOver, hphase])
  | broken =>
    have hstep : l.step h m s = (l, s) := by simp only [step, hphase]
    have hnote : g.note m s l l = g := by simp [Ledger.note, hphase]
    rw [hstep, hnote]
    exact .still (by simp [isOver, hphase])

/-! ## Contracts -/

/-- What a handler keeps to, whatever it is asked to serve and whoever calls upon its
state. -/
structure Contract (h : Handler σ τ) (outside : σ → ω → σ → Prop) where
  /-- What always holds of the state. -/
  keeps : σ → Prop
  /-- What holds of a service whose last step was a move. -/
  holds : Service σ τ → Move τ → Prop
  begin : ∀ event, holds { event := event } (.go (h.begin event))
  advance : ∀ {service : Service σ τ} {task : τ} {state state' : σ} {move : Move τ} (m : Moment),
    keeps state → holds service (.go task) → h.advance m task state = (state', move) →
      keeps state' ∧ holds (service.extend (m, task, state) move.reply?) move
  finish : ∀ {state}, keeps state → keeps (h.finish state).1
  call : ∀ {state call state'}, keeps state → outside state call state' → keeps state'

namespace Contract

variable {h : Handler σ τ} {outside : σ → ω → σ → Prop}

/-- A loop and its ledger meet a contract: all services but the last one were answered,
and the last one is as far as the loop. -/
structure Meets (c : Contract h outside) (l : ServingLoop σ τ) (g : Ledger σ τ) : Prop where
  state : c.keeps l.state
  past : ∀ s ∈ g.past, ∃ reply, c.holds s (.reply reply)
  current : ∀ s ∈ g.current, ∃ move, c.holds s move
  answered : (∀ task, l.phase ≠ .handling task) → l.phase ≠ .broken →
    ∀ s ∈ g.current, ∃ reply, c.holds s (.reply reply)
  working : ∀ task, l.phase = .handling task → ∃ s, g.current = some s ∧ c.holds s (.go task)

/-- A step of the loop keeps to the contract. -/
theorem Meets.step {c : Contract h outside} {l l' : ServingLoop σ τ} {g g' : Ledger σ τ}
    {m : Moment} (hmeets : c.Meets l g) (heffect : Effect h m g l l' g') : c.Meets l' g' := by
  cases heffect with
  | still hover => exact hmeets
  | move phase hbefore hafter =>
    have hanswered := hmeets.answered hbefore.ne_handling hbefore.ne_broken
    exact ⟨hmeets.state, hmeets.past, hmeets.current, fun _ _ => hanswered,
      fun task htask => absurd htask (hafter.ne_handling task)⟩
  | begin event hphase =>
    have hbefore : l.phase.IsBetween := hphase ▸ trivial
    have hanswered := hmeets.answered hbefore.ne_handling hbefore.ne_broken
    refine ⟨hmeets.state, ?_, ?_, fun hnot _ => absurd rfl (hnot _), ?_⟩
    · intro s hs
      rcases List.mem_append.mp hs with hpast | hcurrent
      · exact hmeets.past s hpast
      · exact hanswered s (Option.mem_toList.mp hcurrent)
    · rintro s ⟨⟩
      exact ⟨_, c.begin event⟩
    · rintro task ⟨⟩
      exact ⟨_, rfl, c.begin event⟩
  | advance task hphase state move hadvance =>
    obtain ⟨s, hcurrent, hholds⟩ := hmeets.working task hphase
    obtain ⟨hkeeps, hnext⟩ := c.advance m hmeets.state hholds hadvance
    have hcurrent' := Ledger.current_proceed hcurrent (m, task, l.state) move.reply?
    refine ⟨hkeeps, hmeets.past, ?_, ?_, ?_⟩
    · intro s' hs'
      cases hcurrent'.symm.trans hs'
      exact ⟨move, hnext⟩
    · intro hhandling hbroken s' hs'
      cases hcurrent'.symm.trans hs'
      cases move with
      | reply reply => exact ⟨reply, hnext⟩
      | go task => exact absurd rfl (hhandling task)
      | broken => exact absurd rfl hbroken
    · intro task' htask'
      cases move with
      | go task => cases htask'; exact ⟨_, hcurrent', hnext⟩
      | reply reply => cases htask'
      | broken => cases htask'
  | finish outcome hphase state isBroken hfinish =>
    have hkeeps := c.finish hmeets.state
    rw [hfinish] at hkeeps
    have hbefore : l.phase.IsBetween := hphase ▸ trivial
    have hanswered := hmeets.answered hbefore.ne_handling hbefore.ne_broken
    refine ⟨hkeeps, hmeets.past, hmeets.current, fun _ _ => hanswered, ?_⟩
    cases isBroken <;> nofun

variable {start l : ServingLoop σ τ} {log : List (Entry σ τ ω)}

/-- Every run keeps to the contract. -/
theorem meets (c : Contract h outside) (hasking : start.phase = .asking)
    (hstart : c.keeps start.state) (run : Run h outside start log l) :
    c.Meets l (Ledger.of log) := by
  induction run with
  | start =>
    refine ⟨hstart, by simp [Ledger.of], by simp [Ledger.of], by simp [Ledger.of], ?_⟩
    intro task htask
    cases hasking.symm.trans htask
  | @turn log l run m s ih => exact ih.step (step_effect h m s _ l)
  | call run call state hcall ih =>
    exact ⟨c.call ih.state hcall, ih.past, ih.current, ih.answered, ih.working⟩

/-- What a contract says of every service of a run. -/
theorem services (c : Contract h outside) (hasking : start.phase = .asking)
    (hstart : c.keeps start.state) (run : Run h outside start log l) {s : Service σ τ}
    (hs : s ∈ (Ledger.of log).services) : ∃ move, c.holds s move := by
  have hmeets := c.meets hasking hstart run
  rcases List.mem_append.mp hs with hpast | hcurrent
  · obtain ⟨reply, hholds⟩ := hmeets.past s hpast
    exact ⟨_, hholds⟩
  · exact hmeets.current s (Option.mem_toList.mp hcurrent)

/-- A handler is fitting if its contract says so of each service. -/
theorem isFitting (c : Contract h outside) (hasking : start.phase = .asking)
    (hstart : c.keeps start.state)
    (hfits : ∀ s move, c.holds s move → ∀ reply ∈ s.reply, reply.Fits s.event.kind) :
    IsFitting h outside start := by
  intro log l run s hs
  obtain ⟨move, hholds⟩ := c.services hasking hstart run hs
  exact hfits s move hholds

end Contract

end ServingLoop

end ConsoleLink
