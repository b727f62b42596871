import ConsoleLink.Proofs.Exchange.Stages
import ConsoleLink.Proofs.Serving.Services

/-!
# One event at a time

Whatever order a controller and a patient client act in, at no time do both use the
envelope, every request is served once, and every reply reaches the send that asked
for it.

* `Run.stage` says that every run of a fresh exchange is at one of the stages.
* `Stage.tokens`, `Stage.apart`, `Stage.requests`, `Stage.posts`, `Stage.history` and
  `Stage.no_envelope_fault` say what holds at all of them.
* `half_duplex` puts this together for every interleaving.
-/

namespace ConsoleLink

namespace Exchange

open ServingLoop

variable {σ τ ω : Type}

/-! ## Runs -/

/-- A channel that was just negotiated, with a controller that begins to serve it and a
patient client that has nothing under way.  The envelope may hold anything. -/
structure IsFresh (start : Exchange σ τ Client) : Prop where
  asking : start.loop.phase = .asking
  request : start.shared.request = 0
  response : start.shared.response = 0
  done : start.partner.outcome?.isSome
  patient : start.partner.IsPatient

theorem isFresh_opened (state : σ) : (opened state : Exchange σ τ Client).IsFresh :=
  ⟨rfl, rfl, rfl, rfl, rfl, rfl⟩

/-- A client that is done rests. -/
theorem isResting_of_outcome {c : Client} (h : c.outcome?.isSome) : c.phase.IsResting := by
  cases hphase : c.phase <;> simp_all [Client.outcome?, Client.Phase.IsResting]

/-- Beginning to send changes no stage. -/
theorem Stage.send {phase : ServingLoop.Phase τ} {c : Client} {s : Shared} {t : Tally σ τ}
    (hstage : Stage phase c.phase s t) (hdone : c.outcome?.isSome) (event : Event) :
    Stage phase (.writing event) s t := by
  obtain ⟨outcome, hphase⟩ : ∃ outcome, c.phase = .done outcome := by
    cases hphase : c.phase <;> simp_all [Client.outcome?]
  rw [hphase] at hstage
  cases hstage with
  | rest hloop hclient hrequest hresponse ht =>
    exact .rest hloop trivial hrequest hresponse ht
  | posted hloop hclient => cases hclient
  | taken hclient => cases hclient
  | handling hclient => cases hclient
  | abandoned hclient => cases hclient
  | replying hclient => cases hclient
  | signalling hclient => cases hclient
  | signalled hloop hclient => cases hclient

/-- Every run of a fresh exchange is at one of the stages. -/
theorem Run.stage {h : Handler σ τ} {outside : σ → ω → σ → Prop} {start e : Exchange σ τ Client}
    {log : List (Entry σ τ ω)} (hfresh : start.IsFresh) (hfits : IsFitting h outside start.loop)
    (run : Run h outside start log e) :
    e.partner.IsPatient ∧ Stage e.loop.phase e.partner.phase e.shared (Tally.of log) := by
  induction run with
  | start =>
    refine ⟨hfresh.patient, .rest ?_ (isResting_of_outcome hfresh.done) hfresh.request
      hfresh.response ⟨⟨rfl, rfl, ?_⟩, rfl, rfl⟩⟩
    · rw [hfresh.asking]
      trivial
    · intro fault hfault
      cases hfault
  | @controller log e run m ih =>
    refine ⟨ih.1, ih.2.controller (fun service hservice => ?_) m⟩
    rw [Tally.services, Tally.ledger_of] at hservice
    exact hfits _ _ run.serving service hservice
  | @child log e run now ih =>
    obtain ⟨hlimit, hmay⟩ := Client.step_limit now e.partner e.shared
    exact ⟨⟨hlimit.trans ih.1.1, hmay.trans ih.1.2⟩, ih.2.child ih.1 now⟩
  | send run event hdone ih => exact ⟨ih.1, ih.2.send hdone event⟩
  | call run call state hcall ih => exact ih

/-! ## What holds at every stage -/

section Consequences

variable {phase : ServingLoop.Phase τ} {client : Client.Phase} {s : Shared} {t : Tally σ τ}

theorem Stage.tokens (hstage : Stage phase client s t) : s.request + s.response ≤ 1 := by
  cases hstage <;> omega

/-- Unless the client waits, the loop is at no step that touches the envelope. -/
theorem Stage.apart (hstage : Stage phase client s t) (hclient : ¬client.IsWaiting) :
    phase ≠ .reading ∧ ∀ reply, phase ≠ .replying reply := by
  have hquiet (hloop : phase.IsQuiet) : phase ≠ .reading ∧ ∀ reply, phase ≠ .replying reply := by
    constructor
    · rintro rfl
      exact hloop
    · rintro reply rfl
      exact hloop
  cases hstage with
  | rest hloop => exact hquiet hloop
  | posting hloop => exact hquiet hloop
  | reading hloop => exact hquiet hloop
  | posted hloop hwaiting => exact absurd hwaiting hclient
  | taken hwaiting => exact absurd hwaiting hclient
  | handling hwaiting => exact absurd hwaiting hclient
  | abandoned hwaiting => exact absurd hwaiting hclient
  | replying hwaiting => exact absurd hwaiting hclient
  | signalling hwaiting => exact absurd hwaiting hclient
  | signalled hloop hwaiting => exact absurd hwaiting hclient

/-- How many requests the loop has taken without having read their event. -/
def unread : ServingLoop.Phase τ → Nat
  | .reading => 1
  | _ => 0

theorem unread_quiet (hloop : phase.IsQuiet) : unread phase = 0 := by
  cases phase <;> simp_all [unread, Phase.IsQuiet]

/-- Every request that was signalled is taken once, and every one that was taken is
served once. -/
theorem Stage.requests (hstage : Stage phase client s t) :
    t.posts = t.taken + s.request ∧ t.taken = t.services.length + unread phase := by
  have hserved (hposts : t.posts = t.services.length) (htaken : t.taken = t.services.length)
      (hrequest : s.request = 0) (hunread : unread phase = 0) :
      t.posts = t.taken + s.request ∧ t.taken = t.services.length + unread phase := by omega
  cases hstage with
  | rest hloop _ hrequest _ ht =>
    exact hserved ht.posts ht.taken hrequest (unread_quiet hloop)
  | posting hloop hrequest _ _ ht =>
    exact hserved ht.posts ht.taken hrequest (unread_quiet hloop)
  | posted hloop _ hrequest _ _ ht =>
    rw [ht.posts, ht.taken, hrequest, unread_quiet hloop]
    exact ⟨rfl, rfl⟩
  | taken _ hrequest _ _ ht =>
    rw [ht.posts, ht.taken, hrequest]
    exact ⟨rfl, rfl⟩
  | handling _ hrequest _ _ ht => exact hserved ht.posts ht.taken hrequest rfl
  | abandoned _ hrequest _ ht => exact hserved ht.posts ht.taken hrequest rfl
  | replying _ hrequest _ _ ht => exact hserved ht.posts ht.taken hrequest rfl
  | signalling _ hrequest _ _ ht => exact hserved ht.posts ht.taken hrequest rfl
  | signalled hloop _ hrequest _ _ ht =>
    exact hserved ht.posts ht.taken hrequest (unread_quiet hloop)
  | reading hloop hrequest _ _ ht =>
    exact hserved ht.posts ht.taken hrequest (unread_quiet hloop)

/-- Only for an event that was accepted is a request signalled. -/
theorem Stage.posts (hstage : Stage phase client s t) : t.posts ≤ t.written.length := by
  have hlength {events : List Event} {services : List (Service σ τ)}
      (h : Matches events services t.returned) : services.length = events.length := by
    simpa using congrArg List.length h.events
  have hahead {event posts taken} (ht : t.Ahead event posts taken) (hposts : posts ≤ 1) :
      t.posts ≤ t.written.length := by
    obtain ⟨earlier, hwritten, hmatches⟩ := ht.history
    rw [ht.posts, hwritten, List.length_append, hlength hmatches]
    exact Nat.add_le_add_left hposts _
  have hservice {event service} (ht : t.InService event service) :
      t.posts ≤ t.written.length := by
    obtain ⟨earlier, hwritten, hmatches⟩ := ht.history
    rw [ht.posts, Tally.services, Ledger.services_of_current ht.current, hwritten,
      List.length_append, List.length_append, hlength hmatches]
    exact Nat.le_refl _
  cases hstage with
  | rest _ _ _ _ ht => exact Nat.le_of_eq (ht.posts.trans (hlength ht.history))
  | posting _ _ _ _ ht => exact hahead ht (Nat.zero_le 1)
  | posted _ _ _ _ _ ht => exact hahead ht (Nat.le_refl 1)
  | taken _ _ _ _ ht => exact hahead ht (Nat.le_refl 1)
  | handling _ _ _ _ ht => exact hservice ht
  | abandoned _ _ _ ht => exact hservice ht
  | replying _ _ _ _ ht => exact hservice ht
  | signalling _ _ _ _ ht => exact hservice ht
  | signalled _ _ _ _ _ ht => exact hservice ht
  | reading _ _ _ _ ht => exact hservice ht

/-- All events but at most one have been served and answered; the last one may be on
its way. -/
theorem Stage.history (hstage : Stage phase client s t) :
    ∃ earlier rest served pending, t.written = earlier ++ rest ∧ rest.length ≤ 1 ∧
      t.services = served ++ pending ∧ pending.map (·.event) <+: rest.map Event.onWire ∧
        Matches earlier served t.returned := by
  have hahead {event posts taken} (ht : t.Ahead event posts taken) :
      ∃ earlier rest served pending, t.written = earlier ++ rest ∧ rest.length ≤ 1 ∧
        t.services = served ++ pending ∧ pending.map (·.event) <+: rest.map Event.onWire ∧
          Matches earlier served t.returned := by
    obtain ⟨earlier, hwritten, hmatches⟩ := ht.history
    exact ⟨earlier, [event], t.services, [], hwritten, Nat.le_refl 1, (List.append_nil _).symm,
      List.nil_prefix, hmatches⟩
  have hservice {event service} (ht : t.InService event service) :
      ∃ earlier rest served pending, t.written = earlier ++ rest ∧ rest.length ≤ 1 ∧
        t.services = served ++ pending ∧ pending.map (·.event) <+: rest.map Event.onWire ∧
          Matches earlier served t.returned := by
    obtain ⟨earlier, hwritten, hmatches⟩ := ht.history
    exact ⟨earlier, [event], t.ledger.past, [service], hwritten, Nat.le_refl 1,
      Ledger.services_of_current ht.current, by simp [ht.event], hmatches⟩
  cases hstage with
  | rest _ _ _ _ ht =>
    exact ⟨t.written, [], t.services, [], (List.append_nil _).symm, Nat.zero_le 1,
      (List.append_nil _).symm, List.nil_prefix, ht.history⟩
  | posting _ _ _ _ ht => exact hahead ht
  | posted _ _ _ _ _ ht => exact hahead ht
  | taken _ _ _ _ ht => exact hahead ht
  | handling _ _ _ _ ht => exact hservice ht
  | abandoned _ _ _ ht => exact hservice ht
  | replying _ _ _ _ ht => exact hservice ht
  | signalling _ _ _ _ ht => exact hservice ht
  | signalled _ _ _ _ _ ht => exact hservice ht
  | reading _ _ _ _ ht => exact hservice ht

/-- No envelope ends the loop. -/
theorem Stage.no_envelope_fault (hstage : Stage phase client s t) (fault : EnvelopeFault) :
    phase ≠ .closing (.error (.envelope fault)) ∧ phase ≠ .ended (.error (.envelope fault)) := by
  have hquiet (hloop : phase.IsQuiet) : phase ≠ .closing (.error (.envelope fault)) ∧
      phase ≠ .ended (.error (.envelope fault)) := by
    constructor
    · rintro rfl
      exact hloop fault rfl
    · rintro rfl
      exact hloop fault rfl
  cases hstage with
  | rest hloop => exact hquiet hloop
  | posting hloop => exact hquiet hloop
  | posted hloop => exact hquiet hloop
  | signalled hloop => exact hquiet hloop
  | reading hloop => exact hquiet hloop
  | taken => exact ⟨nofun, nofun⟩
  | handling => exact ⟨nofun, nofun⟩
  | abandoned => exact ⟨nofun, nofun⟩
  | replying => exact ⟨nofun, nofun⟩
  | signalling => exact ⟨nofun, nofun⟩

end Consequences

/-- Reply `n` is the one that was given in service `n`, and that was the service of
event `n`. -/
theorem Matches.answered {earlier : List Event} {served : List (Service σ τ)}
    {returned : List (Except LinkFault Reply)} (h : Matches earlier served returned) {n : Nat}
    {reply : Reply} (hreply : (returned.filterMap Except.toOption)[n]? = some reply) :
    ∃ event service given, earlier[n]? = some event ∧ served[n]? = some service ∧
      service.event = event.onWire ∧ service.reply = some given ∧ reply = given.onWire := by
  have hreplies := congrArg (·[n]?) h.replies
  have hevents := congrArg (·[n]?) h.events
  simp only [List.getElem?_map, hreply, Option.map_some] at hreplies hevents
  obtain ⟨service, hservice, hread⟩ := Option.map_eq_some_iff.mp hreplies
  obtain ⟨given, hgiven, rfl⟩ := Option.map_eq_some_iff.mp hread
  rw [hservice, Option.map_some] at hevents
  obtain ⟨event, hevent, hwire⟩ := Option.map_eq_some_iff.mp hevents.symm
  exact ⟨event, service, given, hevent, hservice, hwire.symm, hgiven, rfl⟩

/-! ## The whole exchange -/

/-- A handler without a memory that answers every event at once. -/
def obliging : Handler Unit Event where
  begin event := event
  advance _ event _ :=
    ((), .reply <|
      match event with
      | .print .. | .title _ | .progress _ => .ack
      | .input .. => .input true "go"
      | .choice prompt => .choice prompt.breakValue
      | .init => .init .pipe .pipe false)
  finish _ := ((), false)
  asks _ := false
  waits _ _ := none

/-- Nobody calls upon the obliging handler, and its replies fit. -/
def obligingContract : Contract obliging fun _ (_ : Empty) _ => False where
  keeps _ := True
  holds s
    | .go event => s.event = event ∧ s.reply = none
    | .reply reply => s.reply = some reply ∧ reply.Fits s.event.kind
    | .broken => False
  begin event := ⟨rfl, rfl⟩
  advance {service task state state' move} m _ hholds hadvance := by
    obtain ⟨rfl, -⟩ := hholds
    have hgo : FitsField "go" 10240 := ⟨by decide, by decide⟩
    cases hadvance
    refine ⟨trivial, rfl, ?_⟩
    cases hevent : service.event <;>
      simp [hevent, Reply.Fits, Reply.matchesKind, Event.kind, Service.extend, hgo]
  finish _ := trivial
  call _ hcall := hcall.elim

/-- Whatever events a patient client sends, whenever the controller is told to stop and
in whatever order the two act:

* there is never more than one token;
* unless the client waits for its response, the controller neither reads nor changes the
  envelope in its next step;
* only for an event that was accepted is a request signalled, each request is taken once,
  each one taken is served once, in the order of the sends, and the handler gets the event
  that was sent, with its time limit as the wire carries it;
* the reply that a send returns is the one that the handler gave to the event of that
  send, a send fails only for a text that does not fit, and at most one event is without
  its answer;
* no envelope ends the loop. -/
theorem half_duplex {h : Handler σ τ} {outside : σ → ω → σ → Prop} {start e : Exchange σ τ Client}
    {log : List (Entry σ τ ω)} (hfresh : start.IsFresh) (hfits : IsFitting h outside start.loop)
    (run : Run h outside start log e) :
    e.shared.request + e.shared.response ≤ 1 ∧
      (¬e.partner.phase.IsWaiting → ∀ m bytes,
        e.loop.step h m { e.shared with envelope := bytes } =
          ((e.loop.step h m e.shared).1,
            { (e.loop.step h m e.shared).2 with envelope := bytes })) ∧
      (Tally.of log).posts ≤ (Tally.of log).written.length ∧
      (Tally.of log).posts = (Tally.of log).taken + e.shared.request ∧
      (Tally.of log).taken = (Tally.of log).services.length + unread e.loop.phase ∧
      (Tally.of log).services.map (·.event) <+: (Tally.of log).written.map Event.onWire ∧
      (∀ (n : Nat) (reply : Reply), (Tally.of log).answers[n]? = some reply →
        ∃ event service given, (Tally.of log).written[n]? = some event ∧
          (Tally.of log).services[n]? = some service ∧ service.event = event.onWire ∧
            service.reply = some given ∧ reply = given.onWire) ∧
      (∀ fault, .error fault ∈ (Tally.of log).returned → ∃ field, fault = .field field) ∧
      (Tally.of log).written.length ≤ (Tally.of log).answers.length + 1 ∧
      ∀ fault, e.loop.outcome? ≠ some (.error (.envelope fault)) := by
  have hstage := (run.stage hfresh hfits).2
  obtain ⟨hposts, htaken⟩ := hstage.requests
  obtain ⟨earlier, rest, served, pending, hwritten, hrest, hservices, hpending, hmatches⟩ :=
    hstage.history
  refine ⟨hstage.tokens, fun hclient m bytes => ?_, hstage.posts, hposts, htaken, ?_, ?_,
    hmatches.refusals, ?_, fun fault houtcome => ?_⟩
  · obtain ⟨hreading, hreplying⟩ := hstage.apart hclient
    exact step_envelope h m e.shared bytes hreading hreplying
  · rw [hservices, hwritten, List.map_append, List.map_append, hmatches.events]
    exact List.prefix_append_right_inj _ |>.mpr hpending
  · intro n reply hreply
    obtain ⟨event, service, given, hevent, hservice, hwire, hgiven, hread⟩ :=
      hmatches.answered hreply
    refine ⟨event, service, given, ?_, ?_, hwire, hgiven, hread⟩
    · rw [hwritten, List.getElem?_append_left (List.getElem?_eq_some_iff.mp hevent).1, hevent]
    · rw [hservices, List.getElem?_append_left (List.getElem?_eq_some_iff.mp hservice).1, hservice]
  · have hevents := congrArg List.length hmatches.events
    have hreplies := congrArg List.length hmatches.replies
    simp only [List.length_map] at hevents hreplies
    rw [hwritten, List.length_append, Tally.answers]
    omega
  · cases hphase : e.loop.phase with
    | ended outcome =>
      simp only [ServingLoop.outcome?, hphase, Option.some.injEq] at houtcome
      exact (hstage.no_envelope_fault fault).2 (houtcome ▸ hphase)
    | _ => simp [ServingLoop.outcome?, hphase] at houtcome

/-- A prompt that was sent and answered. -/
theorem half_duplex_prompt : IsFresh (τ := Event) (opened ()) ∧
    IsFitting obliging (fun _ (_ : Empty) _ => False) (opened ()).loop ∧
      ∃ (log : List (Entry Unit Event Empty)) (e : Exchange Unit Event Client),
        Run obliging (fun _ _ _ => False) (opened ()) log e ∧
          (Tally.of log).written = [.input "> " true] ∧
          (Tally.of log).answers = [.input true "go"] ∧
          e.shared.request + e.shared.response ≤ 1 ∧
          ∃ event service given, (Tally.of log).written[0]? = some event ∧
            (Tally.of log).services[0]? = some service ∧ service.event = event.onWire ∧
              service.reply = some given ∧ .input true "go" = given.onWire := by
  have hfits : IsFitting obliging (fun _ (_ : Empty) _ => False) (opened ()).loop := by
    refine obligingContract.isFitting rfl trivial fun s move hholds reply hreply => ?_
    cases move with
    | go event => simp [hholds.2] at hreply
    | reply given =>
      cases hholds.1.symm.trans hreply
      exact hholds.2
    | broken => exact hholds.elim
  have hevent : (Event.input "> " true).Fits :=
    (Event.fits_input _ _).mpr ⟨by decide, by decide⟩
  have hreply : (Reply.input true "go").Fits .input :=
    (Reply.fits_input "go").mpr ⟨by decide, by decide⟩
  have hstart : Run obliging (fun _ (_ : Empty) _ => False) (opened ()) [] (opened ()) := .start
  obtain ⟨log, bytes, hkind, hasked, -, hlog⟩ := hstart.ask hevent rfl rfl rfl
  have hworked := hasked.turn ⟨0, false⟩ ⟨(), .replying (.input true "go"), 0, true⟩ _ rfl
  obtain ⟨log', bytes', hanswered, -, hlog'⟩ := hworked.answer hreply rfl hkind rfl rfl rfl
  have hwritten : (Tally.of log').written = [.input "> " true] := by
    rw [hlog']
    simp [Tally.of, Tally.note, hlog]
  have hanswers : (Tally.of log').answers = [.input true "go"] := by
    rw [hlog']
    simp [Tally.of, Tally.note, hlog, Tally.answers, Reply.onWire, Except.toOption]
  obtain ⟨htokens, -, -, -, -, -, hreplies, -⟩ := half_duplex (isFresh_opened ()) hfits hanswered
  exact ⟨isFresh_opened (), hfits, log', _, hanswered, hwritten, hanswers, htokens,
    hreplies 0 _ (by rw [hanswers]; rfl)⟩

end Exchange

end ConsoleLink
