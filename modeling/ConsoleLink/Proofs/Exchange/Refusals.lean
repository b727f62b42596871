import ConsoleLink.Proofs.Envelope.Withdrawn
import ConsoleLink.Proofs.Exchange.Sends
import ConsoleLink.Proofs.Serving.Refusals

/-!
# A refused event is never seen

An event with a text that does not fit leaves nothing behind that anybody could take for an
event, and its request is not signalled.  So whatever a client sends before and after it is
exchanged as if the refused event had not been there.

* `Run.trans` puts two runs together.
* `Run.hear` and `Run.work` are the parts of the controller in an exchange, `Run.exchange` is
  the whole of it: after any run a send can be carried through.
* `refusal_unseen` says what becomes of an event that does not fit, and of all sends of a run
  in which some fit and some do not.
-/

namespace ConsoleLink

namespace ServingLoop

/-- The loop waits for a request, or is about to. -/
def Phase.IsServing {τ : Type} : Phase τ → Prop
  | .asking | .listening _ => True
  | _ => False

end ServingLoop

namespace Exchange

open ServingLoop

variable {σ τ ω : Type} {h : Handler σ τ} {outside : σ → ω → σ → Prop}
  {start e : Exchange σ τ Client} {log : List (Entry σ τ ω)}

/-! ## Parts of an exchange -/

/-- A run goes on where another one has stopped. -/
theorem Run.trans (run : Run h outside start log e) {more : List (Entry σ τ ω)}
    {e' : Exchange σ τ Client} (run' : Run h outside e more e') :
    Run h outside start (more ++ log) e' := by
  induction run' with
  | start => exact run
  | controller _ m ih => exact ih.controller m
  | child _ now ih => exact ih.child now
  | send _ event hdone ih => exact ih.send event hdone
  | call _ call state hcall ih => exact ih.call call state hcall

/-- A loop that serves can take a request and hand its event to the handler. -/
theorem Run.hear (run : Run h outside start log e) (hserving : e.loop.phase.IsServing)
    (hrequest : e.shared.request = 1) {event : Event}
    (hread : e.shared.envelope.event? = .ok event) :
    ∃ log' : List (Entry σ τ ω),
      Run h outside start log'
        { e with
          loop := e.loop.enter (.handling (h.begin event))
          shared := { e.shared with request := 0 } } ∧
      (Tally.of log').written = (Tally.of log).written ∧
      (Tally.of log').returned = (Tally.of log).returned := by
  obtain ⟨loop, client, ⟨bytes, request, response, cancel⟩, stop, now⟩ := e
  obtain rfl : request = 1 := hrequest
  obtain ⟨log', wake, hlistening, hlog'⟩ : ∃ log' wake,
      Run h outside start log'
        ⟨loop.enter (.listening wake), client, ⟨bytes, 1, response, cancel⟩, stop, now⟩ ∧
      (Tally.of log').written = (Tally.of log).written ∧
      (Tally.of log').returned = (Tally.of log).returned := by
    cases hphase : loop.phase with
    | asking =>
      refine ⟨_, _, run.turn ⟨0, false⟩ (loop.enter (.listening (0 + loop.pollInterval)))
        ⟨bytes, 1, response, cancel⟩ (by simp [ServingLoop.step, hphase]), rfl, rfl⟩
    | listening wake =>
      have hsame : loop.enter (.listening wake) = loop := by
        cases loop
        cases hphase
        rfl
      exact ⟨log, wake, by rwa [hsame], rfl, rfl⟩
    | _ =>
      rw [hphase] at hserving
      exact hserving.elim
  have htake := hlistening.turn ⟨0, false⟩ (loop.enter .reading) ⟨bytes, 0, response, cancel⟩
    (by simp [ServingLoop.step, ServingLoop.enter, Signal.take])
  have hbegin := htake.turn ⟨0, false⟩ (loop.enter (.handling (h.begin event)))
    ⟨bytes, 0, response, cancel⟩ (by simp [ServingLoop.step, ServingLoop.enter, hread])
  exact ⟨_, hbegin, hlog'⟩

/-- A handler at work can come to each of its replies. -/
theorem Run.work (run : Run h outside start log e) {reply : Reply} {task : τ}
    (hphase : e.loop.phase = .handling task)
    (hanswers : h.Answers outside reply task e.loop.state) :
    ∃ (log' : List (Entry σ τ ω)) (state : σ),
      Run h outside start log'
        { e with loop := { e.loop with state := state, phase := .replying reply } } ∧
      (Tally.of log').written = (Tally.of log).written ∧
      (Tally.of log').returned = (Tally.of log).returned := by
  generalize hstate : e.loop.state = state at hanswers
  induction hanswers generalizing e log with
  | reply m hadvance =>
    subst hstate
    exact ⟨_, _, run.turn m _ _ (step_handling e.shared hphase hadvance), rfl, rfl⟩
  | go m hadvance _ ih =>
    subst hstate
    have hgo := run.turn m _ _ (step_handling e.shared hphase hadvance)
    obtain ⟨log', state, hreplying, hwritten, hreturned⟩ := ih hgo rfl rfl
    exact ⟨log', state, hreplying, hwritten, hreturned⟩
  | call call hcall _ ih =>
    subst hstate
    obtain ⟨log', state, hreplying, hwritten, hreturned⟩ :=
      ih (run.call call _ hcall) hphase rfl
    exact ⟨log', state, hreplying, hwritten, hreturned⟩

/-- With a client that is done there are no tokens. -/
theorem Stage.idle {phase : ServingLoop.Phase τ} {outcome : Except LinkFault Reply} {s : Shared}
    {t : Tally σ τ} (hstage : Stage phase (.done outcome) s t) :
    s.request = 0 ∧ s.response = 0 := by
  cases hstage with
  | rest _ _ hrequest hresponse => exact ⟨hrequest, hresponse⟩
  | posted _ hclient => exact hclient.elim
  | taken hclient => exact hclient.elim
  | handling hclient => exact hclient.elim
  | abandoned hclient => exact hclient.elim
  | replying hclient => exact hclient.elim
  | signalling hclient => exact hclient.elim
  | signalled _ hclient => exact hclient.elim

/-- A reply that is about to be written fits the kind that is pending. -/
theorem Stage.replying_fits {client : Client.Phase} {s : Shared} {t : Tally σ τ} {reply : Reply}
    (hstage : Stage (.replying reply) client s t)
    (hfits : ∀ service ∈ t.services, ∀ reply ∈ service.reply, reply.Fits service.event.kind) :
    ∃ kind, s.envelope.kind? = .ok kind ∧ reply.Fits kind := by
  cases hstage with
  | rest hloop => exact hloop.elim
  | posting hloop => exact hloop.elim
  | posted hloop => exact hloop.elim
  | signalled hloop => exact hloop.elim
  | reading hloop => exact hloop.elim
  | @replying _ _ _ _ event service _ _ _ hkind ht hreply =>
    have hmem : service ∈ t.services := by
      simp [Tally.services, Ledger.services, ht.current]
    have hfit := hfits service hmem reply hreply
    rw [ht.event, Event.kind_onWire] at hfit
    exact ⟨event.kind, hkind, hfit⟩

/-- In a run of a fitting handler all replies fit their events. -/
theorem Run.services_fit (hfits : IsFitting h outside start.loop)
    (run : Run h outside start log e) :
    ∀ service ∈ (Tally.of log).services, ∀ reply ∈ service.reply,
      reply.Fits service.event.kind := by
  intro service hservice
  rw [Tally.services, Tally.ledger_of] at hservice
  exact hfits _ _ run.serving service hservice

/-- After any run, an event that fits can be exchanged for any reply that the handler can come
to: it is the only event that is written, and its send is the only one that returns. -/
theorem Run.exchange (hfresh : start.IsFresh) (hfits : IsFitting h outside start.loop)
    (run : Run h outside start log e) (hdone : e.partner.outcome?.isSome)
    (hserving : e.loop.phase.IsServing) {event : Event} (hevent : event.Fits) {reply : Reply}
    (hanswers : h.Answers outside reply (h.begin event.onWire) e.state) :
    ∃ (more : List (Entry σ τ ω)) (e' : Exchange σ τ Client), Run h outside e more e' ∧
      (Tally.of more).written = [event] ∧ (Tally.of more).returned = [.ok reply.onWire] ∧
        e'.partner.outcome? = some (.ok reply.onWire) ∧ e'.loop.phase.IsServing := by
  obtain ⟨hpatient, hstage⟩ := run.stage hfresh hfits
  obtain ⟨outcome, hphase⟩ := Client.exists_done hdone
  rw [hphase] at hstage
  obtain ⟨hrequest, hresponse⟩ := hstage.idle
  have hbegin : Run h outside e [] e := .start
  obtain ⟨log₁, hposted, -, hlog₁⟩ := hbegin.post hevent hrequest hdone
  obtain ⟨log₂, hheard, hwritten₂, hreturned₂⟩ :=
    hposted.hear hserving rfl (Envelope.event?_putEvent e.shared.envelope hevent)
  obtain ⟨log₃, state, hworked, hwritten₃, hreturned₃⟩ := hheard.work rfl hanswers
  have hwhole := run.trans hworked
  obtain ⟨kind, hkind, hfit⟩ :=
    (hwhole.stage hfresh hfits).2.replying_fits (hwhole.services_fit hfits)
  obtain ⟨log₄, bytes, hanswered, -, hlog₄⟩ :=
    hworked.answer hfit rfl hkind hresponse rfl hpatient.1
  have hwritten : (Tally.of log₃).written = [event] := by
    rw [hwritten₃, hwritten₂, hlog₁]
    rfl
  have hreturned : (Tally.of log₃).returned = [] := by
    rw [hreturned₃, hreturned₂, hlog₁]
    rfl
  refine ⟨log₄, _, hanswered, ?_, ?_, rfl, trivial⟩
  · rw [hlog₄]
    exact hwritten
  · rw [hlog₄, hreturned]
    rfl

/-! ## Refused events between others -/

/-- An event that does not fit has one fault, that of its first text which its field does not
take.

* Whatever an envelope holds, this is the fault with which the event is refused, and nothing is
  pending afterwards.
* A client that is about to write the event is done with that fault after one step, and no
  signal has changed.
* Whatever events a patient client sends and in whatever order it and the controller act, the
  sends that are over are settled one by one: a refused event has its own fault and no service,
  an event that fits has the next service, with the event as the wire carries it, and the reply
  that the handler gave there.
* As long as the loop serves, the next event that fits can be exchanged for any reply that the
  handler can come to. -/
theorem refusal_unseen {event : Event} (hfits : ¬event.Fits) :
    ∃ fault, event.Refused fault ∧
      (∀ bytes : Envelope, (bytes.putEvent event).2 = .error fault ∧
        bytes.Withdrawn event (bytes.putEvent event).1) ∧
      (∀ (c : Client) (now : Nat) (s : Shared), c.phase = .writing event →
        c.step now s =
          (c.enter (.done (.error (.field fault))),
            { s with envelope := (s.envelope.putEvent event).1 })) ∧
      ∀ (σ τ ω : Type) (h : Handler σ τ) (outside : σ → ω → σ → Prop)
        (start e : Exchange σ τ Client) (log : List (Entry σ τ ω)),
        start.IsFresh → IsFitting h outside start.loop → Run h outside start log e →
          (∃ earlier rest served pending, sent log = earlier ++ rest ∧ rest.length ≤ 1 ∧
            (e.partner.outcome?.isSome → rest = []) ∧
            (Tally.of log).services = served ++ pending ∧
            pending.map (·.event) <+: rest.map Event.onWire ∧
            Settles earlier served (Tally.of log).returned) ∧
          (e.partner.outcome?.isSome → e.loop.phase.IsServing →
            ∀ (next : Event) (reply : Reply), next.Fits →
              h.Answers outside reply (h.begin next.onWire) e.state →
                ∃ (more : List (Entry σ τ ω)) (e' : Exchange σ τ Client),
                  Run h outside e more e' ∧ (Tally.of more).written = [next] ∧
                    (Tally.of more).returned = [.ok reply.onWire] ∧
                      e'.partner.outcome? = some (.ok reply.onWire) ∧
                        e'.loop.phase.IsServing) := by
  obtain ⟨fault, hrefused⟩ := Event.exists_refused hfits
  refine ⟨fault, hrefused, fun bytes => ?_, fun c now s hphase => ?_, ?_⟩
  · exact ⟨(Envelope.putEvent_eq_error_iff bytes).mpr hrefused,
      Envelope.withdrawn_putEvent bytes hrefused⟩
  · exact Client.step_of_refused hphase hrefused now s
  · intro σ τ ω h outside start e log hfresh hfitting run
    exact ⟨run.settles hfresh hfitting, fun hdone hserving next reply hnext hanswers =>
      run.exchange hfresh hfitting hdone hserving hnext hanswers⟩

theorem isFitting_obliging :
    IsFitting obliging (fun _ (_ : Empty) _ => False) (opened ()).loop := by
  refine obligingContract.isFitting rfl trivial fun s move hholds reply hreply => ?_
  cases move with
  | go event => simp [hholds.2] at hreply
  | reply given =>
    cases hholds.1.symm.trans hreply
    exact hholds.2
  | broken => exact hholds.elim

/-- A report whose file name fits and whose directory does not. -/
def halfReport : Report where
  operation := .transfer
  side := .localSide
  fileName := "a"
  directory := "b\x00"
  overallPercent := 50
  filePercent := 50
  bytesPerSecond := 1

/-- A prompt after a report that was refused for its directory. -/
theorem refusal_unseen_directory :
    ¬(Event.progress halfReport).Fits ∧
      (∀ bytes : Envelope,
        (bytes.putEvent (.progress halfReport)).2 =
            .error (.embeddedNul "progress directory" 1) ∧
          (bytes.putEvent (.progress halfReport)).1.event? = .error (.unknownEvent 0)) ∧
      ∃ (log more : List (Entry Unit Event Empty)) (e e' : Exchange Unit Event Client),
        Run obliging (fun _ _ _ => False) (opened ()) log e ∧
          sent log = [.progress halfReport] ∧ (Tally.of log).posts = 0 ∧
          (Tally.of log).returned =
            [.error (.field (.embeddedNul "progress directory" 1))] ∧
          Run obliging (fun _ _ _ => False) e more e' ∧
            (Tally.of more).written = [.input "> " true] ∧
              (Tally.of more).returned = [.ok (.input true "go")] := by
  have hname : FitsField "a" 1024 := ⟨by decide, by decide⟩
  have hrefused : (Event.progress halfReport).Refused (.embeddedNul "progress directory" 1) :=
    ⟨[(Layout.progressFileName, "a")], (Layout.progressDirectory, "b\x00"), [], rfl,
      List.forall_mem_singleton.mpr hname, .nul (by decide)⟩
  have hnot := hrefused.not_fits
  obtain ⟨fault, -, hbytes, hclient, hruns⟩ := refusal_unseen hnot
  obtain rfl : fault = .embeddedNul "progress directory" 1 := by
    have hfault := (hbytes Envelope.zero).1
    rw [(Envelope.putEvent_eq_error_iff Envelope.zero).mpr hrefused] at hfault
    cases hfault
    rfl
  have hprompt : (Event.input "> " true).Fits :=
    (Event.fits_input _ _).mpr ⟨by decide, by decide⟩
  have hanswers : obliging.Answers (fun _ (_ : Empty) _ => False) (.input true "go")
      (.input "> " true) () := .reply ⟨0, false⟩ rfl
  have hstart : Run obliging (fun _ (_ : Empty) _ => False) (opened ()) [] (opened ()) := .start
  have hsent := (hstart.send (.progress halfReport) rfl).step 0 _ _ (hclient _ 0 _ rfl)
  obtain ⟨-, hnext⟩ := hruns _ _ _ _ _ _ _ _ (isFresh_opened ()) isFitting_obliging hsent
  obtain ⟨more, e', hmore, hwritten, hreturned, -⟩ := hnext rfl trivial _ _ hprompt hanswers
  exact ⟨hnot, fun bytes => ⟨(hbytes bytes).1, (hbytes bytes).2.noEvent⟩, _, more, _, e', hsent,
    rfl, rfl, rfl, hmore, hwritten, hreturned⟩

end Exchange

end ConsoleLink
