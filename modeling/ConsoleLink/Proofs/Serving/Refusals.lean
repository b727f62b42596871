import ConsoleLink.Proofs.Envelope.Replies
import ConsoleLink.Proofs.Serving.Services

/-!
# When an envelope ends the loop

The loop ends with a fault of the envelope if it cannot read an event or cannot write its
reply.  A fitting handler leaves the first reason only, as long as nobody touches the header
between the two.

* `Handler.Answers` are the replies that a handler can come to, and `Contract.answers` is what
  a contract says of them.
* `lastRead` is the envelope that the loop read its last event from, `HeaderKept` says that
  its header was still there whenever a reply was to be written.
* `Accounted` ties the phase of the loop to that envelope and to the service;
  `Accounted.step` keeps it, and `Run.accounted` carries it through every run.
* `Run.refused` reads off it what ended the loop.
-/

namespace ConsoleLink

open ServingLoop

variable {σ τ ω : Type}

/-! ## The replies of a handler -/

/-- At work on a task, the handler can come to a reply: it steps at any moments, and others
call upon its state in between. -/
inductive Handler.Answers (h : Handler σ τ) (outside : σ → ω → σ → Prop) (reply : Reply) :
    τ → σ → Prop
  | reply {task : τ} {state state' : σ} (m : Moment)
      (hadvance : h.advance m task state = (state', .reply reply)) :
      Answers h outside reply task state
  | go {task task' : τ} {state state' : σ} (m : Moment)
      (hadvance : h.advance m task state = (state', .go task'))
      (rest : Answers h outside reply task' state') : Answers h outside reply task state
  | call {task : τ} {state state' : σ} (call : ω) (hcall : outside state call state')
      (rest : Answers h outside reply task state') : Answers h outside reply task state

namespace ServingLoop

/-- The reply that a handler comes to is the one of a service that keeps to the contract. -/
theorem Contract.answers {h : Handler σ τ} {outside : σ → ω → σ → Prop} (c : Contract h outside)
    {reply : Reply} {task : τ} {state : σ} (hanswers : h.Answers outside reply task state)
    {service : Service σ τ} (hkeeps : c.keeps state) (hholds : c.holds service (.go task)) :
    ∃ done : Service σ τ, done.event = service.event ∧ done.reply = some reply ∧
      c.holds done (.reply reply) := by
  induction hanswers generalizing service with
  | reply m hadvance =>
    exact ⟨service.extend _ (some reply), rfl, rfl, (c.advance m hkeeps hholds hadvance).2⟩
  | go m hadvance _ ih =>
    obtain ⟨hkeeps', hholds'⟩ := c.advance m hkeeps hholds hadvance
    obtain ⟨done, hevent, hreply, hdone⟩ := ih hkeeps' hholds'
    exact ⟨done, hevent, hreply, hdone⟩
  | call call hcall _ ih => exact ih (c.call hkeeps hcall) hholds

/-! ## The header between reading and replying -/

/-- The envelope that the loop read its last event from, or tried to, after another step. -/
def readNext (read : Option Envelope) (s : Shared) (before : ServingLoop σ τ) : Option Envelope :=
  match before.phase with
  | .reading => some s.envelope
  | _ => read

/-- The envelope that the loop read its last event from, or tried to. -/
def lastRead : List (Entry σ τ ω) → Option Envelope
  | [] => none
  | .turn _ s before _ :: log => readNext (lastRead log) s before
  | .call _ :: log => lastRead log

/-- Whenever a reply was to be written, the header was the one that its event was read
with. -/
def HeaderKept : List (Entry σ τ ω) → Prop
  | [] => True
  | .turn _ s before _ :: log =>
    (∀ reply, before.phase = .replying reply →
      ∀ read ∈ lastRead log, read.SameHeader s.envelope) ∧ HeaderKept log
  | .call _ :: log => HeaderKept log

theorem readNext_reading (read : Option Envelope) (s : Shared) {before : ServingLoop σ τ}
    (hphase : before.phase = .reading) : readNext read s before = some s.envelope := by
  rw [readNext, hphase]

theorem readNext_of_ne (read : Option Envelope) (s : Shared) {before : ServingLoop σ τ}
    (hphase : before.phase ≠ .reading) : readNext read s before = read := by
  rw [readNext]
  split
  · rename_i hreading
    exact absurd hreading hphase
  · rfl

/-! ## The phase of the loop and what it has read -/

/-- The event of the last service was read from the envelope that the loop looked at last. -/
structure HasRead (read : Option Envelope) (g : Ledger σ τ) (service : Service σ τ) : Prop where
  event : ∃ bytes, read = some bytes ∧ bytes.event? = .ok service.event
  current : g.current = some service

/-- The envelope that the loop looked at last held no event, for this reason. -/
def WasRefused (read : Option Envelope) (fault : EnvelopeFault) : Prop :=
  ∃ bytes, read = some bytes ∧ bytes.event? = .error fault

/-- The phase of the loop comes from what it has read and what its handler has answered. -/
inductive Accounted (read : Option Envelope) (g : Ledger σ τ) : Phase τ → Prop
  | quiet {phase : Phase τ} (hquiet : phase.IsQuiet) : Accounted read g phase
  | reading : Accounted read g .reading
  | handling {task : τ} {service : Service σ τ} (hread : HasRead read g service) :
      Accounted read g (.handling task)
  | replying {reply : Reply} {service : Service σ τ} (hread : HasRead read g service)
      (hreply : service.reply = some reply) : Accounted read g (.replying reply)
  | signalling : Accounted read g .signalling
  | closing {fault : EnvelopeFault} (hrefused : WasRefused read fault) :
      Accounted read g (.closing (.error (.envelope fault)))
  | ended {fault : EnvelopeFault} (hrefused : WasRefused read fault) :
      Accounted read g (.ended (.error (.envelope fault)))

section Step

variable {h : Handler σ τ} (m : Moment) {s : Shared} {l : ServingLoop σ τ}
  {read : Option Envelope} {g : Ledger σ τ}

theorem step_read (h : Handler σ τ) {event : Event} (hphase : l.phase = .reading)
    (hevent : s.envelope.event? = .ok event) :
    l.step h m s = (l.enter (.handling (h.begin event)), s) := by
  simp only [step, hphase, hevent]

theorem step_refused (h : Handler σ τ) {fault : EnvelopeFault} (hphase : l.phase = .reading)
    (hevent : s.envelope.event? = .error fault) :
    l.step h m s = (l.enter (.closing (.error (.envelope fault))), s) := by
  simp only [step, hphase, hevent]

/-- The loop reads an event, or is refused it. -/
theorem Accounted.of_reading (hphase : l.phase = .reading) :
    Accounted (some s.envelope) (g.note m s l (l.step h m s).1) (l.step h m s).1.phase := by
  cases hevent : s.envelope.event? with
  | ok event =>
    rw [step_read m h hphase hevent, Ledger.note_reading g m hphase rfl hevent]
    exact .handling ⟨⟨_, rfl, hevent⟩, rfl⟩
  | error fault =>
    rw [step_refused m h hphase hevent]
    exact .closing ⟨_, rfl, hevent⟩

/-- The handler goes on with its service. -/
theorem Accounted.of_handling {task : τ} {service : Service σ τ} (hphase : l.phase = .handling task)
    (hread : HasRead read g service) :
    Accounted read (g.note m s l (l.step h m s).1) (l.step h m s).1.phase := by
  cases hadvance : h.advance m task l.state with
  | mk state move =>
    have hread' : HasRead read (g.proceed (m, task, l.state) move.reply?)
        (service.extend (m, task, l.state) move.reply?) :=
      ⟨hread.event, Ledger.current_proceed hread.current _ _⟩
    rw [step_handling s hphase hadvance, Ledger.note_handling g m s hphase rfl]
    cases move with
    | go task => exact .handling hread'
    | reply reply => exact .replying hread' rfl
    | broken => exact .quiet trivial

/-- A reply that fits is written as long as the header is the one that the event was read
with. -/
theorem step_replying {reply : Reply} {service : Service σ τ} (hphase : l.phase = .replying reply)
    (hread : HasRead read g service) (hfits : reply.Fits service.event.kind)
    (hkept : ∀ bytes ∈ read, bytes.SameHeader s.envelope) :
    (l.step h m s).1.phase = .signalling := by
  obtain ⟨bytes, hlast, hevent⟩ := hread.event
  have hkind : s.envelope.kind? = .ok service.event.kind :=
    (hkept bytes hlast).kind?.trans (Envelope.kind?_of_event? hevent)
  obtain ⟨bytes', hput, -⟩ := Envelope.putReply?_of_fits hkind hfits
  simp only [step, hphase, hput, enter]

/-- Every step of the loop accounts for itself. -/
theorem Accounted.step (hphase : Accounted read g l.phase)
    (hfits : ∀ service ∈ g.services, ∀ reply ∈ service.reply, reply.Fits service.event.kind)
    (hkept : ∀ reply, l.phase = .replying reply → ∀ bytes ∈ read, bytes.SameHeader s.envelope) :
    Accounted (readNext read s l) (g.note m s l (l.step h m s).1) (l.step h m s).1.phase := by
  generalize hbefore : l.phase = phase at hphase
  -- in any other phase the envelope that was read last stays the same
  by_cases hreading : l.phase = .reading
  · rw [readNext_reading read s hreading]
    exact .of_reading m hreading
  rw [readNext_of_ne read s hreading]
  cases hphase with
  | quiet hquiet =>
    rcases step_quiet h m s (hbefore ▸ hquiet) with ⟨hstays, -⟩ | ⟨wake, left, -, -, hstep⟩
    · exact .quiet hstays
    · rw [hstep]
      exact .reading
  | reading => exact absurd hbefore hreading
  | handling hread => exact .of_handling m hbefore hread
  | @replying reply service hread hreply =>
    have hmem : service ∈ g.services := by
      simp [Ledger.services, hread.current]
    rw [step_replying m hbefore hread (hfits service hmem reply hreply) (hkept reply hbefore)]
    exact .signalling
  | signalling =>
    simp only [ServingLoop.step, hbefore]
    split
    · exact .quiet trivial
    · exact .quiet fun _ hsame => by cases hsame
  | closing hrefused =>
    simp only [ServingLoop.step, hbefore]
    split
    · exact .ended hrefused
    · exact .quiet trivial
  | ended hrefused =>
    simp only [ServingLoop.step, hbefore]
    exact .ended hrefused

end Step

/-! ## Runs -/

section Runs

variable {h : Handler σ τ} {outside : σ → ω → σ → Prop} {start l : ServingLoop σ τ}
  {log : List (Entry σ τ ω)}

/-- A step whose outcome is known. -/
theorem Run.act (run : Run h outside start log l) (m : Moment) (s s' : Shared)
    (l' : ServingLoop σ τ) (hstep : l.step h m s = (l', s')) :
    Run h outside start (.turn m s l l' :: log) l' := by
  have hrun := run.turn m s
  rw [hstep] at hrun
  exact hrun

/-- Every run of a fitting handler accounts for the phase that the loop is in. -/
theorem Run.accounted (hasking : start.phase = .asking) (hfits : IsFitting h outside start)
    (run : Run h outside start log l) (hkept : HeaderKept log) :
    Accounted (lastRead log) (Ledger.of log) l.phase := by
  induction run with
  | start =>
    rw [hasking]
    exact .quiet trivial
  | turn run m s ih => exact (ih hkept.2).step m (hfits _ _ run) hkept.1
  | call run call state hcall ih => exact ih hkept

/-- If a fault of the envelope has ended the loop, the envelope that it looked at last held no
event, for that reason. -/
theorem Run.refused (hasking : start.phase = .asking) (hfits : IsFitting h outside start)
    (run : Run h outside start log l) (hkept : HeaderKept log) {fault : EnvelopeFault}
    (houtcome : l.outcome? = some (.error (.envelope fault))) :
    WasRefused (lastRead log) fault := by
  have haccounted := run.accounted hasking hfits hkept
  rw [phase_of_outcome? houtcome] at haccounted
  cases haccounted with
  | quiet hquiet => exact absurd rfl (hquiet fault)
  | ended hrefused => exact hrefused

end Runs

end ServingLoop

end ConsoleLink
