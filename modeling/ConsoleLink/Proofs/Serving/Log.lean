import ConsoleLink.Proofs.Envelope.RoundTrip
import ConsoleLink.ServingLoop

/-!
# What happened to a serving loop

A serving loop does not run alone: the child may change what they share before
every step, and others may call upon the state of the handler.

* `Entry` is one thing that happened, and a log lists what happened so far.
* `Run` is every way in which it can have come about: the loop's steps, each on
  any shared state at any moment, and the calls from elsewhere that a relation
  allows.
* A `Service` is the work on one event, from its reading to the reply.
  `Ledger.of` gathers the services of a log, the oldest first.
* `IsFitting` says of a handler that each of its replies fits its event.
* `Phase.IsQuiet` are the phases between two services; `step_quiet` says what the
  loop does in them, and `step_envelope` when it leaves the envelope alone.
-/

namespace ConsoleLink

/-- The reply that a handler's step has found. -/
def Move.reply? {τ : Type} : Move τ → Option Reply
  | .reply answer => some answer
  | _ => none

namespace ServingLoop

/-! ## Runs -/

/-- One thing that happened; `ω` are the calls from elsewhere. -/
inductive Entry (σ τ ω : Type)
  /-- A step of the loop: what it saw, and the loop before and after it. -/
  | turn (m : Moment) (s : Shared) (before after : ServingLoop σ τ)
  /-- A call from elsewhere that may have changed the state of the handler. -/
  | call (call : ω)

variable {σ τ ω : Type}

/-- The runs of a loop, with their logs, the newest entry first.  The loop steps at any
moment and finds any shared state; a call from elsewhere changes the state of the
handler as `outside` allows. -/
inductive Run (h : Handler σ τ) (outside : σ → ω → σ → Prop) (start : ServingLoop σ τ) :
    List (Entry σ τ ω) → ServingLoop σ τ → Prop
  | start : Run h outside start [] start
  | turn {log : List (Entry σ τ ω)} {l : ServingLoop σ τ} (run : Run h outside start log l)
      (m : Moment) (s : Shared) :
      Run h outside start (.turn m s l (l.step h m s).1 :: log) (l.step h m s).1
  | call {log : List (Entry σ τ ω)} {l : ServingLoop σ τ} (run : Run h outside start log l)
      (call : ω) (state : σ) (hcall : outside l.state call state) :
      Run h outside start (.call call :: log) { l with state := state }

/-- The calls of a log, the oldest first. -/
def calls : List (Entry σ τ ω) → List ω
  | [] => []
  | .turn .. :: log => calls log
  | .call call :: log => calls log ++ [call]

/-! ## Services -/

/-- The work on one event. -/
structure Service (σ τ : Type) where
  /-- The event, as the loop read it. -/
  event : Event
  /-- The steps of the handler: when, at which task, and in which state. -/
  steps : List (Moment × τ × σ) := []
  reply : Option Reply := none

/-- The service after another step of the handler, with `reply` if it found one. -/
def Service.extend (s : Service σ τ) (step : Moment × τ × σ) (reply : Option Reply) :
    Service σ τ :=
  { s with steps := s.steps ++ [step], reply := reply }

/-- The services of a loop so far. -/
structure Ledger (σ τ : Type) where
  /-- Those before the last one, the oldest first. -/
  past : List (Service σ τ) := []
  /-- The last one. -/
  current : Option (Service σ τ) := none

namespace Ledger

/-- All services, the oldest first. -/
def services (g : Ledger σ τ) : List (Service σ τ) := g.past ++ g.current.toList

/-- Another event was read. -/
def begin (g : Ledger σ τ) (event : Event) : Ledger σ τ :=
  { past := g.services, current := some { event := event } }

/-- The handler took a step, with `reply` if it found one. -/
def proceed (g : Ledger σ τ) (step : Moment × τ × σ) (reply : Option Reply) : Ledger σ τ :=
  { g with current := g.current.map fun s => s.extend step reply }

/-- What a step of the loop adds. -/
def note (g : Ledger σ τ) (m : Moment) (s : Shared) (before after : ServingLoop σ τ) :
    Ledger σ τ :=
  match before.phase, after.phase with
  | .reading, .handling _ =>
    match s.envelope.event? with
    | .ok event => g.begin event
    | .error _ => g
  | .handling task, .replying reply => g.proceed (m, task, before.state) (some reply)
  | .handling task, _ => g.proceed (m, task, before.state) none
  | _, _ => g

/-- The services that a log tells of. -/
def of : List (Entry σ τ ω) → Ledger σ τ
  | [] => {}
  | .turn m s before after :: log => (of log).note m s before after
  | .call _ :: log => of log

@[simp] theorem services_begin (g : Ledger σ τ) (event : Event) :
    (g.begin event).services = g.services ++ [{ event := event }] := rfl

theorem services_of_current {g : Ledger σ τ} {s : Service σ τ} (h : g.current = some s) :
    g.services = g.past ++ [s] := by
  rw [services, h, Option.toList_some]

theorem current_proceed {g : Ledger σ τ} {s : Service σ τ} (h : g.current = some s)
    (step : Moment × τ × σ) (reply : Option Reply) :
    (g.proceed step reply).current = some (s.extend step reply) := by
  rw [proceed, h, Option.map_some]

end Ledger

/-- Whatever it is asked to serve, the handler answers each event with a reply that
fits it. -/
def IsFitting (h : Handler σ τ) (outside : σ → ω → σ → Prop) (start : ServingLoop σ τ) : Prop :=
  ∀ log l, Run h outside start log l →
    ∀ s ∈ (Ledger.of log).services, ∀ reply ∈ s.reply, reply.Fits s.event.kind

/-! ## Within a service -/

/-- Where the loop is after a step of its handler. -/
def Phase.after : Move τ → Phase τ
  | .go task => .handling task
  | .reply reply => .replying reply
  | .broken => .broken

theorem step_handling {h : Handler σ τ} {m : Moment} {l : ServingLoop σ τ} (s : Shared) {task : τ}
    (hphase : l.phase = .handling task) {state : σ} {move : Move τ}
    (hadvance : h.advance m task l.state = (state, move)) :
    l.step h m s = ({ l with state := state, phase := .after move }, s) := by
  cases move <;> simp [step, hphase, hadvance, Phase.after]

theorem Ledger.note_handling (g : Ledger σ τ) (m : Moment) (s : Shared)
    {before after : ServingLoop σ τ} {task : τ} {move : Move τ}
    (hbefore : before.phase = .handling task) (hafter : after.phase = .after move) :
    g.note m s before after = g.proceed (m, task, before.state) move.reply? := by
  cases move <;> simp [Ledger.note, hbefore, hafter, Phase.after, Move.reply?]

theorem Ledger.note_reading (g : Ledger σ τ) (m : Moment) {s : Shared}
    {before after : ServingLoop σ τ} {task : τ} {event : Event}
    (hbefore : before.phase = .reading) (hafter : after.phase = .handling task)
    (hevent : s.envelope.event? = .ok event) : g.note m s before after = g.begin event := by
  simp [Ledger.note, hbefore, hafter, hevent]

theorem phase_of_outcome? {l : ServingLoop σ τ} {outcome : Except LinkFault Unit}
    (h : l.outcome? = some outcome) : l.phase = .ended outcome := by
  cases hphase : l.phase <;> simp_all [outcome?]

/-! ## Between two services -/

/-- The loop is between two services, or over, and no envelope was to blame. -/
def Phase.IsQuiet : Phase τ → Prop
  | .asking | .listening _ | .broken => True
  | .closing outcome | .ended outcome => ∀ fault, outcome ≠ .error (.envelope fault)
  | .reading | .handling _ | .replying _ | .signalling => False

/-- A quiet loop stays quiet and leaves what is shared, or it takes a request. -/
theorem step_quiet (h : Handler σ τ) (m : Moment) {l : ServingLoop σ τ} (s : Shared)
    (hquiet : l.phase.IsQuiet) :
    ((l.step h m s).1.phase.IsQuiet ∧ (l.step h m s).2 = s) ∨
      ∃ wake left, l.phase = .listening wake ∧ s.request = left + 1 ∧
        l.step h m s = (l.enter .reading, { s with request := left }) := by
  cases hphase : l.phase with
  | asking =>
    left
    cases hstop : m.stop <;> simp [step, hphase, hstop, enter, Phase.IsQuiet]
  | listening wake =>
    cases hrequest : s.request with
    | zero =>
      left
      cases hwait : l.mayWait with
      | false => simp [step, hphase, hrequest, hwait, Signal.take, enter, Phase.IsQuiet]
      | true =>
        simp only [step, hphase, hrequest, hwait, Signal.take]
        split
        · rename_i htaken
          cases htaken
        · rename_i htaken
          cases htaken
        · split <;> simp [enter, Phase.IsQuiet, hphase]
    | succ left =>
      refine Or.inr ⟨wake, left, rfl, rfl, ?_⟩
      simp [step, hphase, hrequest, Signal.take]
  | closing outcome =>
    left
    rw [hphase] at hquiet
    cases hfinish : h.finish l.state with
    | mk state isBroken =>
      cases isBroken <;> simp_all [step, Phase.IsQuiet]
  | ended outcome =>
    left
    simpa [step, hphase] using hquiet
  | broken =>
    left
    simp [step, hphase, Phase.IsQuiet]
  | reading => simp [hphase, Phase.IsQuiet] at hquiet
  | handling task => simp [hphase, Phase.IsQuiet] at hquiet
  | replying reply => simp [hphase, Phase.IsQuiet] at hquiet
  | signalling => simp [hphase, Phase.IsQuiet] at hquiet

/-- Only to read an event and to write a reply does the loop touch the envelope: in
every other phase its step neither depends on the bytes nor changes them. -/
theorem step_envelope (h : Handler σ τ) (m : Moment) {l : ServingLoop σ τ} (s : Shared)
    (bytes : Envelope) (hreading : l.phase ≠ .reading)
    (hreplying : ∀ reply, l.phase ≠ .replying reply) :
    l.step h m { s with envelope := bytes } =
      ((l.step h m s).1, { (l.step h m s).2 with envelope := bytes }) := by
  cases hphase : l.phase with
  | asking => cases hstop : m.stop <;> simp [step, hphase, hstop]
  | listening wake =>
    simp only [step, hphase]
    split <;> try rfl
    split <;> rfl
  | handling task =>
    simp only [step, hphase]
    split <;> simp_all
  | signalling =>
    simp only [step, hphase]
    split <;> rfl
  | closing outcome =>
    simp only [step, hphase]
    split <;> simp_all
  | ended outcome => simp [step, hphase]
  | broken => simp [step, hphase]
  | reading => exact absurd hphase hreading
  | replying reply => exact absurd hphase (hreplying reply)

/-- A quiet loop adds nothing to the ledger. -/
theorem Ledger.note_quiet (g : Ledger σ τ) (m : Moment) (s : Shared) {before : ServingLoop σ τ}
    (after : ServingLoop σ τ) (hquiet : before.phase.IsQuiet) : g.note m s before after = g := by
  cases hphase : before.phase <;> simp_all [Ledger.note, Phase.IsQuiet]

end ServingLoop

end ConsoleLink
