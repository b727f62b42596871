import ConsoleLink.Proofs.Exchange.Interleaving

/-!
# The stages of an exchange

A controller and a client that waits as long as it takes pass the envelope back and
forth.  Between two steps they are always at one of a few stages.

* `Client.step_writing` and `Client.step_waiting` are what a client does with an event
  and, if it is patient, while it waits.
* `Tally.Settled`, `Tally.Ahead` and `Tally.InService` say how what was noted down on both
  sides hangs together; each has a lemma for each thing that can happen next.
* `Exchange.Stage` lists the stages: where both parties stand, which tokens there are,
  what the envelope holds and what has been noted down.
* `Stage.controller` and `Stage.child` are the steps from stage to stage.
-/

namespace ConsoleLink

/-! ## The client -/

namespace Client

/-- The client has signalled its request and has not taken a response. -/
def Phase.IsWaiting : Phase → Prop
  | .checking _ | .waiting _ _ => True
  | _ => False

/-- The client has nothing in the envelope that matters. -/
def Phase.IsResting : Phase → Prop
  | .writing _ | .done _ => True
  | _ => False

/-- A client that waits as long as it takes, and is able to wait. -/
def IsPatient (c : Client) : Prop := c.limit = none ∧ c.mayWait = true

theorem step_limit (now : Nat) (c : Client) (s : Shared) :
    (c.step now s).1.limit = c.limit ∧ (c.step now s).1.mayWait = c.mayWait := by
  rw [step]
  split
  · split <;> exact ⟨rfl, rfl⟩
  · split <;> exact ⟨rfl, rfl⟩
  · split
    · exact ⟨rfl, rfl⟩
    · split <;> exact ⟨rfl, rfl⟩
  · split
    · exact ⟨rfl, rfl⟩
    · exact ⟨rfl, rfl⟩
    · split <;> exact ⟨rfl, rfl⟩
  · split <;> exact ⟨rfl, rfl⟩
  · exact ⟨rfl, rfl⟩

/-- A client either writes its event or is done with a text that does not fit. -/
theorem step_writing {c : Client} {event : Event} (hphase : c.phase = .writing event) (now : Nat)
    (s : Shared) :
    (event.Fits ∧ c.step now s =
        (c.enter .posting, { s with envelope := (s.envelope.putEvent event).1 })) ∨
      ∃ fault bytes, c.step now s =
        (c.enter (.done (.error (.field fault))), { s with envelope := bytes }) := by
  have hfits := Envelope.putEvent_snd_iff s.envelope event
  cases hput : s.envelope.putEvent event with
  | mk bytes outcome =>
    cases outcome with
    | ok =>
      rw [hput] at hfits
      refine Or.inl ⟨hfits.mp rfl, ?_⟩
      simp only [step, hphase, hput]
    | error fault =>
      refine Or.inr ⟨fault, bytes, ?_⟩
      simp only [step, hphase, hput]

/-- A patient client goes on waiting until it takes a response. -/
theorem step_waiting {c : Client} (hpatient : c.IsPatient) (hwaiting : c.phase.IsWaiting)
    (now : Nat) (s : Shared) :
    ((c.step now s).1.phase.IsWaiting ∧ (c.step now s).2 = s) ∨
      ∃ left, s.response = left + 1 ∧
        c.step now s = (c.enter .reading, { s with response := left }) := by
  obtain ⟨hlimit, hmay⟩ := hpatient
  cases hphase : c.phase with
  | checking started =>
    left
    simp [step, hphase, hlimit, enter, Phase.IsWaiting]
  | waiting started wake =>
    cases hresponse : s.response with
    | zero =>
      left
      simp only [step, hphase, hresponse, hmay, Signal.take]
      split
      · rename_i htaken
        cases htaken
      · rename_i htaken
        cases htaken
      · split <;> simp [enter, Phase.IsWaiting, hphase]
    | succ left =>
      refine Or.inr ⟨left, rfl, ?_⟩
      simp [step, hphase, hresponse, Signal.take]
  | writing event => simp [hphase, Phase.IsWaiting] at hwaiting
  | posting => simp [hphase, Phase.IsWaiting] at hwaiting
  | reading => simp [hphase, Phase.IsWaiting] at hwaiting
  | done outcome => simp [hphase, Phase.IsWaiting] at hwaiting

end Client

namespace Exchange

open ServingLoop

variable {σ τ ω : Type}

/-! ## Stages -/

/-- The envelope holds an event that the controller has not read. -/
def Holds (bytes : Envelope) (event : Event) : Prop :=
  bytes.event? = .ok event.onWire ∧ bytes.kind? = .ok event.kind

/-- Every event was served as it was written, every reply has arrived, and no send has
failed but for a text that does not fit. -/
structure Matches (written : List Event) (services : List (Service σ τ))
    (returned : List (Except LinkFault Reply)) : Prop where
  events : services.map (·.event) = written.map Event.onWire
  replies : services.map (·.reply.map Reply.onWire) =
    (returned.filterMap Except.toOption).map some
  refusals : ∀ fault, .error fault ∈ returned → ∃ field, fault = .field field

/-- A refused text adds neither an event nor a service. -/
theorem Matches.refuse {written : List Event} {services : List (Service σ τ)}
    {returned : List (Except LinkFault Reply)} (h : Matches written services returned)
    (fault : FieldFault) :
    Matches written services (returned ++ [.error (.field fault)]) := by
  refine ⟨h.events, ?_, ?_⟩
  · simpa [List.filterMap_cons, Except.toOption] using h.replies
  · intro fault' hfault'
    rcases List.mem_append.mp hfault' with hold | hnew
    · exact h.refusals fault' hold
    · cases List.mem_singleton.mp hnew
      exact ⟨fault, rfl⟩

/-- A reply that arrives completes the service of its event. -/
theorem Matches.answer {earlier : List Event} {past : List (Service σ τ)}
    {returned : List (Except LinkFault Reply)} (h : Matches earlier past returned)
    {event : Event} {service : Service σ τ} {reply : Reply}
    (hevent : service.event = event.onWire) (hreply : service.reply = some reply) :
    Matches (earlier ++ [event]) (past ++ [service]) (returned ++ [.ok reply.onWire]) := by
  refine ⟨?_, ?_, ?_⟩
  · simp [h.events, hevent]
  · simp [h.replies, hreply, Except.toOption]
  · intro fault hfault
    rcases List.mem_append.mp hfault with hold | hnew
    · exact h.refusals fault hold
    · cases List.mem_singleton.mp hnew

namespace Tally

/-- Nothing is under way. -/
structure Settled (t : Tally σ τ) : Prop where
  history : Matches t.written t.services t.returned
  posts : t.posts = t.services.length
  taken : t.taken = t.services.length

/-- One event was written and has not been read; so many requests for it were signalled
and taken. -/
structure Ahead (t : Tally σ τ) (event : Event) (posts taken : Nat) : Prop where
  history : ∃ earlier, t.written = earlier ++ [event] ∧ Matches earlier t.services t.returned
  posts : t.posts = t.services.length + posts
  taken : t.taken = t.services.length + taken

/-- One event was read and its answer has not arrived. -/
structure InService (t : Tally σ τ) (event : Event) (service : Service σ τ) : Prop where
  history : ∃ earlier, t.written = earlier ++ [event] ∧ Matches earlier t.ledger.past t.returned
  current : t.ledger.current = some service
  event : service.event = event.onWire
  posts : t.posts = t.services.length
  taken : t.taken = t.services.length

/-- An event is written. -/
theorem Settled.write {t : Tally σ τ} (ht : t.Settled) (event : Event) :
    Ahead { t with written := t.written ++ [event] } event 0 0 :=
  ⟨⟨t.written, rfl, ht.history⟩, ht.posts, ht.taken⟩

/-- A text is refused. -/
theorem Settled.refuse {t : Tally σ τ} (ht : t.Settled) (fault : FieldFault) :
    Settled { t with returned := t.returned ++ [.error (.field fault)] } :=
  ⟨ht.history.refuse fault, ht.posts, ht.taken⟩

/-- The request is signalled. -/
theorem Ahead.post {t : Tally σ τ} {event : Event} (ht : t.Ahead event 0 0) :
    Ahead { t with posts := t.posts + 1 } event 1 0 :=
  ⟨ht.history, congrArg (· + 1) ht.posts, ht.taken⟩

/-- The request is taken. -/
theorem Ahead.take {t : Tally σ τ} {event : Event} (ht : t.Ahead event 1 0) :
    Ahead { t with taken := t.taken + 1 } event 1 1 :=
  ⟨ht.history, ht.posts, congrArg (· + 1) ht.taken⟩

/-- The event is read. -/
theorem Ahead.begin {t : Tally σ τ} {event : Event} (ht : t.Ahead event 1 1) :
    InService { t with ledger := t.ledger.begin event.onWire } event
      { event := event.onWire } := by
  have hlength : (t.ledger.begin event.onWire).services.length = t.services.length + 1 := by
    rw [Ledger.services_begin, List.length_append]
    rfl
  exact ⟨ht.history, rfl, rfl, ht.posts.trans hlength.symm, ht.taken.trans hlength.symm⟩

/-- The handler takes a step. -/
theorem InService.proceed {t : Tally σ τ} {event : Event} {service : Service σ τ}
    (ht : t.InService event service) (step : Moment × τ × σ) (reply : Option Reply) :
    InService { t with ledger := t.ledger.proceed step reply } event
      (service.extend step reply) := by
  have hcurrent := Ledger.current_proceed ht.current step reply
  have hlength : (t.ledger.proceed step reply).services.length = t.services.length := by
    rw [Tally.services, Ledger.services_of_current ht.current,
      Ledger.services_of_current hcurrent, List.length_append, List.length_append]
    rfl
  exact ⟨ht.history, hcurrent, ht.event, ht.posts.trans hlength.symm,
    ht.taken.trans hlength.symm⟩

/-- The reply arrives. -/
theorem InService.arrive {t : Tally σ τ} {event : Event} {service : Service σ τ}
    (ht : t.InService event service) {reply : Reply} (hreply : service.reply = some reply) :
    Settled { t with returned := t.returned ++ [.ok reply.onWire] } := by
  obtain ⟨earlier, hwritten, hmatches⟩ := ht.history
  refine ⟨?_, ht.posts, ht.taken⟩
  show Matches t.written t.services _
  rw [hwritten, Tally.services, Ledger.services_of_current ht.current]
  exact hmatches.answer ht.event hreply

end Tally

/-- The stages of an exchange: where the loop and the client are, what they share, and
what has been noted down. -/
inductive Stage : ServingLoop.Phase τ → Client.Phase → Shared → Tally σ τ → Prop
  /-- Nothing is under way. -/
  | rest {phase client s t} (hloop : phase.IsQuiet) (hclient : client.IsResting)
      (hrequest : s.request = 0) (hresponse : s.response = 0) (ht : t.Settled) :
      Stage phase client s t
  /-- The client has written an event. -/
  | posting {phase s t event} (hloop : phase.IsQuiet)
      (hrequest : s.request = 0) (hresponse : s.response = 0)
      (hbytes : Holds s.envelope event) (ht : t.Ahead event 0 0) :
      Stage phase .posting s t
  /-- The client has signalled its request. -/
  | posted {phase client s t event} (hloop : phase.IsQuiet) (hclient : client.IsWaiting)
      (hrequest : s.request = 1) (hresponse : s.response = 0)
      (hbytes : Holds s.envelope event) (ht : t.Ahead event 1 0) :
      Stage phase client s t
  /-- The loop has taken the request. -/
  | taken {client s t event} (hclient : client.IsWaiting)
      (hrequest : s.request = 0) (hresponse : s.response = 0)
      (hbytes : Holds s.envelope event) (ht : t.Ahead event 1 1) :
      Stage .reading client s t
  /-- The handler is at work. -/
  | handling {task client s t event service} (hclient : client.IsWaiting)
      (hrequest : s.request = 0) (hresponse : s.response = 0)
      (hkind : s.envelope.kind? = .ok event.kind) (ht : t.InService event service) :
      Stage (.handling task) client s t
  /-- The handler broke down, and the client waits for ever. -/
  | abandoned {client s t event service} (hclient : client.IsWaiting)
      (hrequest : s.request = 0) (hresponse : s.response = 0) (ht : t.InService event service) :
      Stage .broken client s t
  /-- The handler has found a reply. -/
  | replying {reply client s t event service} (hclient : client.IsWaiting)
      (hrequest : s.request = 0) (hresponse : s.response = 0)
      (hkind : s.envelope.kind? = .ok event.kind) (ht : t.InService event service)
      (hreply : service.reply = some reply) :
      Stage (.replying reply) client s t
  /-- The loop has written the reply. -/
  | signalling {reply client s t event service} (hclient : client.IsWaiting)
      (hrequest : s.request = 0) (hresponse : s.response = 0)
      (hbytes : s.envelope.reply? = .ok reply.onWire) (ht : t.InService event service)
      (hreply : service.reply = some reply) :
      Stage .signalling client s t
  /-- The loop has signalled its response. -/
  | signalled {phase reply client s t event service} (hloop : phase.IsQuiet)
      (hclient : client.IsWaiting) (hrequest : s.request = 0) (hresponse : s.response = 1)
      (hbytes : s.envelope.reply? = .ok reply.onWire) (ht : t.InService event service)
      (hreply : service.reply = some reply) :
      Stage phase client s t
  /-- The client has taken the response. -/
  | reading {phase reply s t event service} (hloop : phase.IsQuiet)
      (hrequest : s.request = 0) (hresponse : s.response = 0)
      (hbytes : s.envelope.reply? = .ok reply.onWire) (ht : t.InService event service)
      (hreply : service.reply = some reply) :
      Stage phase .reading s t

/-! ## Steps of the controller -/

theorem Tally.takenIn_eq_zero {before after : ServingLoop σ τ} (h : after.phase.IsQuiet) :
    Tally.takenIn before after = 0 := by
  cases hafter : after.phase <;> simp_all [Tally.takenIn, ServingLoop.Phase.IsQuiet]

/-- A quiet step of the loop adds nothing. -/
theorem Tally.note_quiet (t : Tally σ τ) (m : Moment) (s : Shared) {before after : ServingLoop σ τ}
    (hbefore : before.phase.IsQuiet) (hafter : after.phase.IsQuiet) :
    t.note (.serving (.turn m s before after : ServingLoop.Entry σ τ ω)) = t := by
  simp only [Tally.note, Tally.takenIn_eq_zero hafter, Ledger.note_quiet _ m s after hbefore,
    Nat.add_zero]

/-- Without a request a quiet loop stays quiet, and nobody notices. -/
theorem step_no_request (h : Handler σ τ) (m : Moment) {l : ServingLoop σ τ} {s : Shared}
    (t : Tally σ τ) (hquiet : l.phase.IsQuiet) (hrequest : s.request = 0) :
    (l.step h m s).1.phase.IsQuiet ∧ (l.step h m s).2 = s ∧
      t.note (.serving (.turn m s l (l.step h m s).1 : ServingLoop.Entry σ τ ω)) = t := by
  rcases step_quiet h m s hquiet with ⟨hstays, hshared⟩ | ⟨wake, left, -, hsome, -⟩
  · exact ⟨hstays, hshared, Tally.note_quiet t m s hquiet hstays⟩
  · omega

/-- A step of the controller takes an exchange from stage to stage. -/
theorem Stage.controller {h : Handler σ τ} {l : ServingLoop σ τ} {client : Client.Phase}
    {s : Shared} {t : Tally σ τ} (hstage : Stage l.phase client s t)
    (hfits : ∀ service ∈ t.services, ∀ reply ∈ service.reply, reply.Fits service.event.kind)
    (m : Moment) :
    Stage (l.step h m s).1.phase client (l.step h m s).2
      (t.note (.serving (.turn m s l (l.step h m s).1 : ServingLoop.Entry σ τ ω))) := by
  generalize hphase : l.phase = phase at hstage
  cases hstage with
  | rest hloop hclient hrequest hresponse ht =>
    obtain ⟨hstays, hshared, ht'⟩ :=
      step_no_request (ω := ω) h m t (hphase ▸ hloop) hrequest
    rw [hshared, ht']
    exact .rest hstays hclient hrequest hresponse ht
  | posting hloop hrequest hresponse hbytes ht =>
    obtain ⟨hstays, hshared, ht'⟩ :=
      step_no_request (ω := ω) h m t (hphase ▸ hloop) hrequest
    rw [hshared, ht']
    exact .posting hstays hrequest hresponse hbytes ht
  | posted hloop hclient hrequest hresponse hbytes ht =>
    subst hphase
    rcases step_quiet h m s hloop with ⟨hstays, hshared⟩ | ⟨wake, left, hlistening, hleft, hstep⟩
    · rw [hshared, Tally.note_quiet t m s hloop hstays]
      exact .posted hstays hclient hrequest hresponse hbytes ht
    · obtain rfl : left = 0 := by omega
      have hnote : t.note (.serving (.turn m s l (l.enter .reading) :
          ServingLoop.Entry σ τ ω)) = { t with taken := t.taken + 1 } := by
        simp only [Tally.note, Ledger.note_quiet _ m s _ hloop]
        simp [Tally.takenIn, hlistening, enter]
      rw [hstep, hnote]
      exact .taken hclient rfl hresponse hbytes ht.take
  | taken hclient hrequest hresponse hbytes ht =>
    rename_i event
    have hstep : l.step h m s = (l.enter (.handling (h.begin event.onWire)), s) := by
      simp only [step, hphase, hbytes.1]
    have hledger : t.ledger.note m s l (l.enter (.handling (h.begin event.onWire))) =
        t.ledger.begin event.onWire := Ledger.note_reading _ m hphase rfl hbytes.1
    have hnote : t.note (.serving (.turn m s l (l.enter (.handling (h.begin event.onWire))) :
        ServingLoop.Entry σ τ ω)) = { t with ledger := t.ledger.begin event.onWire } := by
      simp only [Tally.note, Tally.takenIn, hphase, hledger, Nat.add_zero]
    rw [hstep, hnote]
    exact .handling hclient hrequest hresponse hbytes.2 ht.begin
  | handling hclient hrequest hresponse hkind ht =>
    rename_i task event service
    cases hadvance : h.advance m task l.state with
    | mk state move =>
      have hstep := step_handling s hphase hadvance
      have hledger : t.ledger.note m s l { l with state := state, phase := .after move } =
          t.ledger.proceed (m, task, l.state) move.reply? :=
        Ledger.note_handling _ m s hphase rfl
      have hnote : t.note (.serving (.turn m s l { l with state := state, phase := .after move } :
          ServingLoop.Entry σ τ ω)) =
            { t with ledger := t.ledger.proceed (m, task, l.state) move.reply? } := by
        simp only [Tally.note, Tally.takenIn, hphase, hledger, Nat.add_zero]
      have hservice := ht.proceed (m, task, l.state) move.reply?
      rw [hstep, hnote]
      cases move with
      | go task => exact .handling hclient hrequest hresponse hkind hservice
      | reply reply => exact .replying hclient hrequest hresponse hkind hservice rfl
      | broken => exact .abandoned hclient hrequest hresponse hservice
  | abandoned hclient hrequest hresponse ht =>
    have hstep : l.step h m s = (l, s) := by
      simp only [step, hphase]
    have hquiet : l.phase.IsQuiet := hphase ▸ trivial
    rw [hstep, Tally.note_quiet t m s hquiet hquiet, hphase]
    exact .abandoned hclient hrequest hresponse ht
  | replying hclient hrequest hresponse hkind ht hreply =>
    rename_i reply event service
    have hmem : service ∈ t.services := by
      simp [Tally.services, Ledger.services, ht.current]
    have hfit : reply.Fits event.kind := by
      have hservice := hfits service hmem reply hreply
      rwa [ht.event, Event.kind_onWire] at hservice
    obtain ⟨bytes, hput, hkind', hread⟩ := Envelope.putReply?_of_fits hkind hfit
    have hstep : l.step h m s = (l.enter .signalling, { s with envelope := bytes }) := by
      simp only [step, hphase, hput]
    have hnote : t.note (.serving (.turn m s l (l.enter .signalling) :
        ServingLoop.Entry σ τ ω)) = t := by
      simp [Tally.note, Tally.takenIn, Ledger.note, hphase, enter]
    rw [hstep, hnote]
    exact .signalling hclient hrequest hresponse hread ht hreply
  | signalling hclient hrequest hresponse hbytes ht hreply =>
    have hstep : l.step h m s = (l.enter .asking, { s with response := 1 }) := by
      simp [step, hphase, hresponse, Signal.set, Signal.largest]
    have hnote : t.note (.serving (.turn m s l (l.enter .asking) :
        ServingLoop.Entry σ τ ω)) = t := by
      simp [Tally.note, Tally.takenIn, Ledger.note, hphase, enter]
    rw [hstep, hnote]
    exact .signalled trivial hclient hrequest rfl hbytes ht hreply
  | signalled hloop hclient hrequest hresponse hbytes ht hreply =>
    obtain ⟨hstays, hshared, ht'⟩ :=
      step_no_request (ω := ω) h m t (hphase ▸ hloop) hrequest
    rw [hshared, ht']
    exact .signalled hstays hclient hrequest hresponse hbytes ht hreply
  | reading hloop hrequest hresponse hbytes ht hreply =>
    obtain ⟨hstays, hshared, ht'⟩ :=
      step_no_request (ω := ω) h m t (hphase ▸ hloop) hrequest
    rw [hshared, ht']
    exact .reading hstays hrequest hresponse hbytes ht hreply

/-! ## Steps of the client -/

/-- While a client goes on waiting, and when it takes its response, nothing is noted. -/
theorem Tally.noteChild_waiting (t : Tally σ τ) {before after : Client}
    (hbefore : before.phase.IsWaiting) (hafter : after.phase.IsWaiting ∨ after.phase = .reading) :
    t.noteChild before after = t := by
  rw [Tally.noteChild]
  split <;> simp_all [Client.Phase.IsWaiting]

/-- Without a response a waiting client goes on waiting, and nobody notices. -/
theorem step_no_response {c : Client} (hpatient : c.IsPatient) (hclient : c.phase.IsWaiting)
    (now : Nat) {s : Shared} (t : Tally σ τ) (hresponse : s.response = 0) :
    (c.step now s).1.phase.IsWaiting ∧ (c.step now s).2 = s ∧
      t.noteChild c (c.step now s).1 = t := by
  rcases Client.step_waiting hpatient hclient now s with ⟨hstays, hshared⟩ | ⟨left, hsome, -⟩
  · exact ⟨hstays, hshared, Tally.noteChild_waiting t hclient (Or.inl hstays)⟩
  · omega

/-- A step of the client takes an exchange from stage to stage. -/
theorem Stage.child {phase : ServingLoop.Phase τ} {c : Client} {s : Shared} {t : Tally σ τ}
    (hstage : Stage phase c.phase s t) (hpatient : c.IsPatient) (now : Nat) :
    Stage phase (c.step now s).1.phase (c.step now s).2 (t.noteChild c (c.step now s).1) := by
  generalize hphase : c.phase = client at hstage
  cases hstage with
  | rest hloop hclient hrequest hresponse ht =>
    cases client with
    | writing event =>
      rcases Client.step_writing hphase now s with ⟨hfits, hstep⟩ | ⟨fault, bytes, hstep⟩
      · have hnote : t.noteChild c (c.enter .posting) =
            { t with written := t.written ++ [event] } := by
          simp only [Tally.noteChild, hphase, Client.enter]
        rw [hstep, hnote]
        exact .posting hloop hrequest hresponse
          ⟨Envelope.event?_putEvent _ hfits, Envelope.kind?_putEvent _ hfits⟩ (ht.write event)
      · have hnote : t.noteChild c (c.enter (.done (.error (.field fault)))) =
            { t with returned := t.returned ++ [.error (.field fault)] } := by
          simp only [Tally.noteChild, hphase, Client.enter]
        rw [hstep, hnote]
        exact .rest hloop trivial hrequest hresponse (ht.refuse fault)
    | done outcome =>
      have hstep : c.step now s = (c, s) := by
        simp only [Client.step, hphase]
      have hnote : t.noteChild c c = t := by
        simp only [Tally.noteChild, hphase]
      rw [hstep, hnote, hphase]
      exact .rest hloop hclient hrequest hresponse ht
    | posting => cases hclient
    | checking started => cases hclient
    | waiting started wake => cases hclient
    | reading => cases hclient
  | posting hloop hrequest hresponse hbytes ht =>
    have hstep : c.step now s = (c.enter (.checking now), { s with request := 1 }) := by
      simp [Client.step, hphase, hrequest, Signal.set, Signal.largest]
    have hnote : t.noteChild c (c.enter (.checking now)) = { t with posts := t.posts + 1 } := by
      simp only [Tally.noteChild, hphase, Client.enter]
    rw [hstep, hnote]
    exact .posted hloop trivial rfl hresponse hbytes ht.post
  | posted hloop hclient hrequest hresponse hbytes ht =>
    obtain ⟨hstays, hshared, hnote⟩ := step_no_response hpatient (hphase ▸ hclient) now t hresponse
    rw [hshared, hnote]
    exact .posted hloop hstays hrequest hresponse hbytes ht
  | taken hclient hrequest hresponse hbytes ht =>
    obtain ⟨hstays, hshared, hnote⟩ := step_no_response hpatient (hphase ▸ hclient) now t hresponse
    rw [hshared, hnote]
    exact .taken hstays hrequest hresponse hbytes ht
  | handling hclient hrequest hresponse hkind ht =>
    obtain ⟨hstays, hshared, hnote⟩ := step_no_response hpatient (hphase ▸ hclient) now t hresponse
    rw [hshared, hnote]
    exact .handling hstays hrequest hresponse hkind ht
  | abandoned hclient hrequest hresponse ht =>
    obtain ⟨hstays, hshared, hnote⟩ := step_no_response hpatient (hphase ▸ hclient) now t hresponse
    rw [hshared, hnote]
    exact .abandoned hstays hrequest hresponse ht
  | replying hclient hrequest hresponse hkind ht hreply =>
    obtain ⟨hstays, hshared, hnote⟩ := step_no_response hpatient (hphase ▸ hclient) now t hresponse
    rw [hshared, hnote]
    exact .replying hstays hrequest hresponse hkind ht hreply
  | signalling hclient hrequest hresponse hbytes ht hreply =>
    obtain ⟨hstays, hshared, hnote⟩ := step_no_response hpatient (hphase ▸ hclient) now t hresponse
    rw [hshared, hnote]
    exact .signalling hstays hrequest hresponse hbytes ht hreply
  | signalled hloop hclient hrequest hresponse hbytes ht hreply =>
    subst hphase
    rcases Client.step_waiting hpatient hclient now s with ⟨hstays, hshared⟩ | ⟨left, hleft, hstep⟩
    · rw [hshared, Tally.noteChild_waiting t hclient (Or.inl hstays)]
      exact .signalled hloop hstays hrequest hresponse hbytes ht hreply
    · obtain rfl : left = 0 := by omega
      rw [hstep, Tally.noteChild_waiting t hclient (Or.inr rfl)]
      exact .reading hloop hrequest rfl hbytes ht hreply
  | reading hloop hrequest hresponse hbytes ht hreply =>
    rename_i reply event service
    have hstep : c.step now s = (c.enter (.done (.ok reply.onWire)), s) := by
      simp only [Client.step, hphase, hbytes]
    have hnote : t.noteChild c (c.enter (.done (.ok reply.onWire))) =
        { t with returned := t.returned ++ [.ok reply.onWire] } := by
      simp only [Tally.noteChild, hphase, Client.enter]
    rw [hstep, hnote]
    exact .rest hloop trivial hrequest hresponse (ht.arrive hreply)

end Exchange

end ConsoleLink
