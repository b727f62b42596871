import ConsoleLink.Exchange
import ConsoleLink.Proofs.Serving.Log

/-!
# A controller and a client in any order

A controller serves one channel, and a client on the other side of it sends one
event after the other.  Either may take its next small step at any time, and
others may call upon the state of the controller's handler in between.

* `Exchange.Entry` is one thing that happened, `Exchange.Run` every way in which an
  exchange can have got where it is.
* `Exchange.Tally` is what somebody who watches both sides has noted down: the events
  that the client wrote, the requests, the services and the outcomes of the sends.
* `Run.serving` is a run as the serving loop sees it.
* `Run.ask` and `Run.answer` are a send from beginning to end: an event that fits can
  reach the handler, and a reply that fits can reach the child.  `Run.post`, `Run.respond` and
  `Run.receive` are the parts of each side.
-/

namespace ConsoleLink

namespace Exchange

variable {σ τ ω : Type}

/-! ## Runs -/

/-- One thing that happened; `ω` are the calls from elsewhere. -/
inductive Entry (σ τ ω : Type)
  /-- The serving loop took a step, or somebody called upon its handler's state. -/
  | serving (entry : ServingLoop.Entry σ τ ω)
  /-- The client took a step. -/
  | child (before after : Client)
  /-- The client began to send an event. -/
  | send (event : Event)

/-- The runs of an exchange, with their logs, the newest entry first.  Each party acts at
any time, and the controller is told to stop or not in any of its steps.  A client
that is done may send whatever it likes next. -/
inductive Run (h : Handler σ τ) (outside : σ → ω → σ → Prop) (start : Exchange σ τ Client) :
    List (Entry σ τ ω) → Exchange σ τ Client → Prop
  | start : Run h outside start [] start
  | controller {log : List (Entry σ τ ω)} {e : Exchange σ τ Client}
      (run : Run h outside start log e) (m : Moment) :
      Run h outside start
        (.serving (.turn m e.shared e.loop (e.loop.step h m e.shared).1) :: log)
        ((controller h fun e => (e, m.stop)).act m.now e)
  | child {log : List (Entry σ τ ω)} {e : Exchange σ τ Client}
      (run : Run h outside start log e) (now : Nat) :
      Run h outside start (.child e.partner (e.partner.step now e.shared).1 :: log)
        (child.act now e)
  | send {log : List (Entry σ τ ω)} {e : Exchange σ τ Client}
      (run : Run h outside start log e) (event : Event) (hdone : e.partner.outcome?.isSome) :
      Run h outside start (.send event :: log)
        { e with partner := Client.send event e.partner.limit e.partner.mayWait }
  | call {log : List (Entry σ τ ω)} {e : Exchange σ τ Client}
      (run : Run h outside start log e) (call : ω) (state : σ)
      (hcall : outside e.state call state) :
      Run h outside start (.serving (.call call) :: log) (e.withState state)

/-- An exchange in which nothing has happened, with a given state of the handler. -/
def opened (state : σ) : Exchange σ τ Client where
  loop := { state := state, pollInterval := 0 }
  partner := { phase := .done (.ok .ack) }

/-- The controller's step is the step of its loop on what is shared. -/
theorem controller_act (h : Handler σ τ) (m : Moment) (e : Exchange σ τ Client) :
    (controller h fun e => (e, m.stop)).act m.now e =
      { e with
        loop := (e.loop.step h m e.shared).1
        shared := (e.loop.step h m e.shared).2 } :=
  rfl

/-- The child's step is the step of its client on what is shared. -/
theorem child_act (now : Nat) (e : Exchange σ τ Client) :
    child.act now e =
      { e with
        partner := (e.partner.step now e.shared).1
        shared := (e.partner.step now e.shared).2 } :=
  rfl

/-! ## What happened -/

/-- What somebody who watches both sides has noted down. -/
structure Tally (σ τ : Type) where
  /-- The events that the client has written with all their texts accepted, the oldest
  first. -/
  written : List Event := []
  /-- How often the client has signalled a request. -/
  posts : Nat := 0
  /-- How often the loop has taken a request. -/
  taken : Nat := 0
  /-- The services of the loop. -/
  ledger : ServingLoop.Ledger σ τ := {}
  /-- What the sends of the client have come to, the oldest first. -/
  returned : List (Except LinkFault Reply) := []

namespace Tally

/-- The services of the loop, the oldest first. -/
def services (t : Tally σ τ) : List (ServingLoop.Service σ τ) := t.ledger.services

/-- The replies with which sends have returned, the oldest first. -/
def answers (t : Tally σ τ) : List Reply := t.returned.filterMap Except.toOption

/-- What a step of the client adds. -/
def noteChild (t : Tally σ τ) (before after : Client) : Tally σ τ :=
  match before.phase, after.phase with
  | .writing event, .posting => { t with written := t.written ++ [event] }
  | .posting, .checking _ => { t with posts := t.posts + 1 }
  | .done _, _ => t
  | _, .done outcome => { t with returned := t.returned ++ [outcome] }
  | _, _ => t

/-- How many requests a step of the loop has taken. -/
def takenIn (before after : ServingLoop σ τ) : Nat :=
  match before.phase, after.phase with
  | .listening _, .reading => 1
  | _, _ => 0

/-- What an entry adds. -/
def note (t : Tally σ τ) : Entry σ τ ω → Tally σ τ
  | .serving (.turn m s before after) =>
    { t with
      taken := t.taken + takenIn before after
      ledger := t.ledger.note m s before after }
  | .serving (.call _) => t
  | .child before after => t.noteChild before after
  | .send _ => t

/-- What a log tells. -/
def of : List (Entry σ τ ω) → Tally σ τ
  | [] => {}
  | entry :: log => (of log).note entry

end Tally

/-- The part of an entry that concerns the serving loop. -/
def Entry.serving? : Entry σ τ ω → Option (ServingLoop.Entry σ τ ω)
  | .serving entry => some entry
  | _ => none

/-- The calls of a log, the oldest first. -/
def calls (log : List (Entry σ τ ω)) : List ω :=
  ServingLoop.calls (log.filterMap Entry.serving?)

/-- A run is a run of its serving loop. -/
theorem Run.serving {h : Handler σ τ} {outside : σ → ω → σ → Prop}
    {start e : Exchange σ τ Client} {log : List (Entry σ τ ω)} (run : Run h outside start log e) :
    ServingLoop.Run h outside start.loop (log.filterMap Entry.serving?) e.loop := by
  induction run with
  | start => exact .start
  | @controller log e _ m ih => exact .turn ih m e.shared
  | child _ now ih => exact ih
  | send _ event hdone ih => exact ih
  | call _ call state hcall ih => exact .call ih call state hcall

/-- The services noted down are those of the loop. -/
theorem Tally.ledger_of (log : List (Entry σ τ ω)) :
    (Tally.of log).ledger = .of (log.filterMap Entry.serving?) := by
  induction log with
  | nil => rfl
  | cons entry log ih =>
    cases entry with
    | serving entry =>
      cases entry with
      | turn m s before after =>
        simp only [Tally.of, Tally.note, List.filterMap_cons, Entry.serving?,
          ServingLoop.Ledger.of, ih]
      | call call => exact ih
    | child before after =>
      have hkeep : ((Tally.of log).noteChild before after).ledger = (Tally.of log).ledger := by
        rw [Tally.noteChild]
        split <;> rfl
      exact hkeep.trans ih
    | send event => exact ih

/-! ## A send from beginning to end -/

section Round

variable {h : Handler σ τ} {outside : σ → ω → σ → Prop} {start e : Exchange σ τ Client}
  {log : List (Entry σ τ ω)} {loop : ServingLoop σ τ} {client : Client} {shared : Shared}
  {stop : Bool} {now : Nat}

/-- A step of the controller whose outcome is known. -/
theorem Run.turn (run : Run h outside start log ⟨loop, client, shared, stop, now⟩) (m : Moment)
    (loop' : ServingLoop σ τ) (shared' : Shared) (hstep : loop.step h m shared = (loop', shared')) :
    Run h outside start (.serving (.turn m shared loop loop') :: log)
      ⟨loop', client, shared', stop, now⟩ := by
  have hrun := run.controller m
  simp only [controller_act, hstep] at hrun
  exact hrun

/-- A step of the child whose outcome is known. -/
theorem Run.step (run : Run h outside start log ⟨loop, client, shared, stop, now⟩) (time : Nat)
    (client' : Client) (shared' : Shared) (hstep : client.step time shared = (client', shared')) :
    Run h outside start (.child client client' :: log) ⟨loop, client', shared', stop, now⟩ := by
  have hrun := run.child time
  simp only [child_act, hstep] at hrun
  exact hrun

/-- A client can write an event that fits and signal its request. -/
theorem Run.post (run : Run h outside start log e) {event : Event} (hfits : event.Fits)
    (hrequest : e.shared.request = 0) (hdone : e.partner.outcome?.isSome) :
    ∃ log' : List (Entry σ τ ω),
      Run h outside start log'
        { e with
          partner := e.partner.enter (.checking 0)
          shared :=
            { e.shared with envelope := (e.shared.envelope.putEvent event).1, request := 1 } } ∧
      calls log' = calls log ∧
      Tally.of log' =
        { Tally.of log with
          written := (Tally.of log).written ++ [event]
          posts := (Tally.of log).posts + 1 } := by
  obtain ⟨loop, client, ⟨old, request, response, cancel⟩, stop, now⟩ := e
  obtain rfl : request = 0 := hrequest
  have hput := Envelope.putEvent_of_fits old hfits
  have hwrite := (run.send event hdone).step 0 (client.enter .posting)
    ⟨(old.putEvent event).1, 0, response, cancel⟩
    (by simp [Client.step, Client.send, hput, Client.enter])
  have hpost := hwrite.step 0 (client.enter (.checking 0))
    ⟨(old.putEvent event).1, 1, response, cancel⟩
    (by simp [Client.step, Client.enter, Signal.set, Signal.largest])
  refine ⟨_, hpost, rfl, ?_⟩
  simp [Tally.of, Tally.note, Tally.noteChild, Client.enter, Client.send]

/-- An event that fits can come to the handler. -/
theorem Run.ask (run : Run h outside start log e) {event : Event} (hfits : event.Fits)
    (hphase : e.loop.phase = .asking) (hrequest : e.shared.request = 0)
    (hdone : e.partner.outcome?.isSome) :
    ∃ (log' : List (Entry σ τ ω)) (bytes : Envelope), bytes.kind? = .ok event.kind ∧
      Run h outside start log'
        { e with
          loop := e.loop.enter (.handling (h.begin event.onWire))
          partner := e.partner.enter (.checking 0)
          shared := { e.shared with envelope := bytes } } ∧
      calls log' = calls log ∧
      Tally.of log' =
        { Tally.of log with
          written := (Tally.of log).written ++ [event]
          posts := (Tally.of log).posts + 1
          taken := (Tally.of log).taken + 1
          ledger := (Tally.of log).ledger.begin event.onWire } := by
  have hkind := Envelope.kind?_putEvent e.shared.envelope hfits
  have hread := Envelope.event?_putEvent e.shared.envelope hfits
  obtain ⟨log', hpost, hcalls, hlog⟩ := run.post hfits hrequest hdone
  obtain ⟨loop, client, ⟨old, request, response, cancel⟩, stop, now⟩ := e
  obtain rfl : request = 0 := hrequest
  generalize (old.putEvent event).1 = bytes at *
  have hlisten := hpost.turn ⟨0, false⟩ (loop.enter (.listening (0 + loop.pollInterval)))
    ⟨bytes, 1, response, cancel⟩ (by simp_all [ServingLoop.step])
  have htake := hlisten.turn ⟨0, false⟩ (loop.enter .reading) ⟨bytes, 0, response, cancel⟩
    (by simp [ServingLoop.step, ServingLoop.enter, Signal.take])
  have hbegin := htake.turn ⟨0, false⟩ (loop.enter (.handling (h.begin event.onWire)))
    ⟨bytes, 0, response, cancel⟩ (by simp [ServingLoop.step, ServingLoop.enter, hread])
  refine ⟨_, bytes, hkind, hbegin, hcalls, ?_⟩
  simp_all [Tally.of, Tally.note, Tally.takenIn, ServingLoop.Ledger.note, ServingLoop.enter]

/-- A reply that fits can be written and its response signalled. -/
theorem Run.respond (run : Run h outside start log e) {kind : EventKind} {reply : Reply}
    (hfits : reply.Fits kind) (hphase : e.loop.phase = .replying reply)
    (hkind : e.shared.envelope.kind? = .ok kind) (hresponse : e.shared.response = 0) :
    ∃ (log' : List (Entry σ τ ω)) (bytes : Envelope), bytes.reply? = .ok reply.onWire ∧
      Run h outside start log'
        { e with
          loop := e.loop.enter .asking
          shared := { e.shared with envelope := bytes, response := 1 } } ∧
      calls log' = calls log ∧ Tally.of log' = Tally.of log := by
  obtain ⟨loop, client, ⟨old, request, response, cancel⟩, stop, now⟩ := e
  obtain rfl : response = 0 := hresponse
  obtain ⟨bytes, hput, -, hread⟩ := Envelope.putReply?_of_fits hkind hfits
  have hreply := run.turn ⟨0, false⟩ (loop.enter .signalling) ⟨bytes, request, 0, cancel⟩
    (by simp_all [ServingLoop.step])
  have hsignal := hreply.turn ⟨0, false⟩ (loop.enter .asking) ⟨bytes, request, 1, cancel⟩
    (by simp [ServingLoop.step, ServingLoop.enter, Signal.set, Signal.largest])
  refine ⟨_, bytes, hread, hsignal, rfl, ?_⟩
  simp_all [Tally.of, Tally.note, Tally.takenIn, ServingLoop.Ledger.note, ServingLoop.enter]

/-- A client that goes on waiting can take a response and read its reply. -/
theorem Run.receive (run : Run h outside start log e) {started wake : Nat}
    (hclient : e.partner.phase = .checking started)
    (hwaits : e.partner.step 0 e.shared = (e.partner.enter (.waiting started wake), e.shared))
    (hresponse : e.shared.response = 1) {reply : Reply}
    (hread : e.shared.envelope.reply? = .ok reply) :
    ∃ log' : List (Entry σ τ ω),
      Run h outside start log'
        { e with
          partner := e.partner.enter (.done (.ok reply))
          shared := { e.shared with response := 0 } } ∧
      calls log' = calls log ∧
      Tally.of log' =
        { Tally.of log with returned := (Tally.of log).returned ++ [.ok reply] } := by
  obtain ⟨loop, client, ⟨bytes, request, response, cancel⟩, stop, now⟩ := e
  obtain rfl : response = 1 := hresponse
  have hwait := run.step 0 _ _ hwaits
  have htake := hwait.step 0 (client.enter .reading) ⟨bytes, request, 0, cancel⟩
    (by simp [Client.step, Client.enter, Signal.take])
  have hdone := htake.step 0 (client.enter (.done (.ok reply))) ⟨bytes, request, 0, cancel⟩
    (by simp [Client.step, Client.enter, hread])
  refine ⟨_, hdone, rfl, ?_⟩
  simp_all [Tally.of, Tally.note, Tally.noteChild, Client.enter]

/-- A reply that fits can come to the child. -/
theorem Run.answer (run : Run h outside start log e) {kind : EventKind} {reply : Reply}
    (hfits : reply.Fits kind) (hphase : e.loop.phase = .replying reply)
    (hkind : e.shared.envelope.kind? = .ok kind) (hresponse : e.shared.response = 0)
    {started : Nat} (hclient : e.partner.phase = .checking started)
    (hpatient : e.partner.limit = none) :
    ∃ (log' : List (Entry σ τ ω)) (bytes : Envelope),
      Run h outside start log'
        { e with
          loop := e.loop.enter .asking
          partner := e.partner.enter (.done (.ok reply.onWire))
          shared := { e.shared with envelope := bytes } } ∧
      calls log' = calls log ∧
      Tally.of log' =
        { Tally.of log with returned := (Tally.of log).returned ++ [.ok reply.onWire] } := by
  obtain ⟨log₁, bytes, hread, hresponded, hcalls₁, hlog₁⟩ :=
    run.respond hfits hphase hkind hresponse
  have hwaits (s : Shared) : e.partner.step 0 s =
      (e.partner.enter (.waiting started (0 + Client.longestWait)), s) := by
    simp only [Client.step, hclient, hpatient]
  obtain ⟨log₂, hreceived, hcalls₂, hlog₂⟩ :=
    hresponded.receive hclient (hwaits _) rfl hread
  refine ⟨log₂, bytes, ?_, hcalls₂.trans hcalls₁, hlog₂.trans (by rw [hlog₁])⟩
  simpa only [hresponse] using hreceived

end Round

end Exchange

end ConsoleLink
