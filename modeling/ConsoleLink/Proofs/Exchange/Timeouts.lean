import ConsoleLink.Proofs.Desk.Commands
import ConsoleLink.Proofs.Envelope.Replies

/-!
# A client that gives up

A client with a time limit may give up on an event that the controller still answers.  Until
it does so for the first time, an exchange is like one with a patient client.  From then on it
is ahead of the controller, by one request for every send that it gave up, and nothing ever
makes up for that.

* `Client.step_limited` compares a client with a limit to the same client without one.
* `Tally.timeouts` counts the sends that were given up, and `Run.stage_of_timeouts` says that
  a run without any is at one of the stages of a patient exchange.
* `underway` counts the requests and responses that are under way; `underway_turn` and
  `underway_step` are its balance for a step of either side, `Run.underway_eq` the one for a run.
* `timeouts_stay` is what holds of every run of a client with a limit, and `late_answers` are
  two runs in which a late answer goes wrong.
-/

namespace ConsoleLink

/-! ## With and without a limit -/

namespace Client

/-- The client, ready to wait as long as it takes. -/
def unlimited (c : Client) : Client := { c with limit := none }

/-- A client with a limit gives up, or does what it would do without one, except that it may
end a single wait earlier. -/
theorem step_limited (c : Client) (now : Nat) (s : Shared) :
    (∃ started limit, c.phase = .checking started ∧
        c.step now s = (c.enter (.done (.error (.noAnswer limit))), s)) ∨
      (c.step now s).2 = (c.unlimited.step now s).2 ∧
        ((c.step now s).1.phase = (c.unlimited.step now s).1.phase ∨
          c.phase.IsWaiting ∧ (c.step now s).1.phase.IsWaiting ∧
            (c.unlimited.step now s).1.phase.IsWaiting) := by
  cases hphase : c.phase with
  | checking started =>
    cases hlimit : c.limit with
    | none =>
      refine Or.inr ⟨?_, Or.inl ?_⟩ <;> simp [step, unlimited, hphase, hlimit, enter]
    | some limit =>
      by_cases hover : limit ≤ now - started
      · refine Or.inl ⟨started, limit, rfl, ?_⟩
        simp [step, hphase, hlimit, hover]
      · refine Or.inr ⟨?_, Or.inr ⟨trivial, ?_, ?_⟩⟩ <;>
          simp [step, unlimited, hphase, hlimit, hover, enter, Phase.IsWaiting]
  | writing event =>
    right
    simp only [step, unlimited, hphase]
    split <;> exact ⟨rfl, Or.inl rfl⟩
  | posting =>
    right
    simp only [step, unlimited, hphase]
    split <;> exact ⟨rfl, Or.inl rfl⟩
  | waiting started wake =>
    right
    simp only [step, unlimited, hphase]
    split
    · exact ⟨rfl, Or.inl rfl⟩
    · exact ⟨rfl, Or.inl rfl⟩
    · split
      · exact ⟨rfl, Or.inl rfl⟩
      · exact ⟨rfl, Or.inl hphase⟩
  | reading =>
    right
    simp only [step, unlimited, hphase]
    split <;> exact ⟨rfl, Or.inl rfl⟩
  | done outcome =>
    right
    simp [step, unlimited, hphase]

end Client

namespace Signal

theorem take_eq_one {mayWait : Bool} {count left : Nat} (h : take mayWait count = .one left) :
    count = left + 1 := by
  cases count with
  | zero => cases mayWait <;> cases h
  | succ count =>
    cases h
    rfl

theorem set_eq_ok {count next : Nat} (h : set count = .ok next) : next = count + 1 := by
  rw [set] at h
  split at h <;> cases h
  rfl

end Signal

namespace Exchange

open ServingLoop

variable {σ τ ω : Type}

/-- The exchange with a client that has a time limit. -/
def limited (e : Exchange σ τ Client) (limit : Span) : Exchange σ τ Client :=
  { e with partner := { e.partner with limit := some limit } }

/-! ## Sends that were given up -/

/-- A send that was given up. -/
def isTimeout : Except LinkFault Reply → Bool
  | .error (.noAnswer _) => true
  | _ => false

namespace Tally

/-- How many sends were given up. -/
def timeouts (t : Tally σ τ) : Nat := t.returned.countP isTimeout

theorem timeouts_returned (t : Tally σ τ) (outcome : Except LinkFault Reply) :
    timeouts { t with returned := t.returned ++ [outcome] } =
      t.timeouts + if isTimeout outcome then 1 else 0 := by
  simp [timeouts, List.countP_append, List.countP_cons]

@[simp] theorem timeouts_note_serving (t : Tally σ τ) (entry : ServingLoop.Entry σ τ ω) :
    (t.note (.serving entry)).timeouts = t.timeouts := by
  cases entry <;> rfl

/-- What a step of the client adds depends on the phases only. -/
theorem noteChild_congr (t : Tally σ τ) {before after before' after' : Client}
    (hbefore : before.phase = before'.phase) (hafter : after.phase = after'.phase) :
    t.noteChild before after = t.noteChild before' after' := by
  rw [noteChild, noteChild, hbefore, hafter]

/-- No step of the client takes back that a send was given up. -/
theorem timeouts_le_noteChild (t : Tally σ τ) (before after : Client) :
    t.timeouts ≤ (t.noteChild before after).timeouts := by
  rw [noteChild]
  split
  · exact Nat.le_refl _
  · exact Nat.le_refl _
  · exact Nat.le_refl _
  · rw [timeouts_returned]
    exact Nat.le_add_right _ _
  · exact Nat.le_refl _

end Tally

/-! ## Before the first of them -/

/-- It does not matter to a stage how the client waits. -/
theorem Stage.wait {phase : ServingLoop.Phase τ} {client client' : Client.Phase} {s : Shared}
    {t : Tally σ τ} (hstage : Stage phase client s t) (hclient : client.IsWaiting)
    (hclient' : client'.IsWaiting) : Stage phase client' s t := by
  cases hstage with
  | rest _ hresting => cases client <;> simp_all [Client.Phase.IsWaiting, Client.Phase.IsResting]
  | posting => cases hclient
  | posted hloop _ hrequest hresponse hbytes ht =>
    exact .posted hloop hclient' hrequest hresponse hbytes ht
  | taken _ hrequest hresponse hbytes ht => exact .taken hclient' hrequest hresponse hbytes ht
  | handling _ hrequest hresponse hkind ht => exact .handling hclient' hrequest hresponse hkind ht
  | abandoned _ hrequest hresponse ht => exact .abandoned hclient' hrequest hresponse ht
  | replying _ hrequest hresponse hkind ht hreply =>
    exact .replying hclient' hrequest hresponse hkind ht hreply
  | signalling _ hrequest hresponse hbytes ht hreply =>
    exact .signalling hclient' hrequest hresponse hbytes ht hreply
  | signalled hloop _ hrequest hresponse hbytes ht hreply =>
    exact .signalled hloop hclient' hrequest hresponse hbytes ht hreply
  | reading => cases hclient

/-- Unless it gives up, a client with a limit takes an exchange from stage to stage. -/
theorem Stage.child_of_timeouts {phase : ServingLoop.Phase τ} {c : Client} {s : Shared}
    {t : Tally σ τ} (hstage : Stage phase c.phase s t) (hmay : c.mayWait = true) (now : Nat)
    (hnone : (t.noteChild c (c.step now s).1).timeouts = 0) :
    Stage phase (c.step now s).1.phase (c.step now s).2 (t.noteChild c (c.step now s).1) := by
  have hpatient : Stage phase (c.unlimited.step now s).1.phase (c.unlimited.step now s).2
      (t.noteChild c.unlimited (c.unlimited.step now s).1) :=
    Stage.child (c := c.unlimited) hstage ⟨rfl, hmay⟩ now
  rcases c.step_limited now s with ⟨started, limit, hphase, hstep⟩ | ⟨hshared, hsame | hwaits⟩
  · -- it gives up, and that is noted down
    have hnote : t.noteChild c (c.enter (.done (.error (.noAnswer limit)))) =
        { t with returned := t.returned ++ [.error (.noAnswer limit)] } := by
      simp only [Tally.noteChild, hphase, Client.enter]
    rw [hstep, hnote, Tally.timeouts_returned] at hnone
    cases hnone
  · have hnote : t.noteChild c (c.step now s).1 =
        t.noteChild c.unlimited (c.unlimited.step now s).1 := t.noteChild_congr rfl hsame
    rw [hshared, hsame, hnote]
    exact hpatient
  · -- it goes on waiting, though not always in the phase of the patient client
    obtain ⟨hbefore, hafter, hafter'⟩ := hwaits
    have hnote' : t.noteChild c.unlimited (c.unlimited.step now s).1 = t :=
      Tally.noteChild_waiting t hbefore (Or.inl hafter')
    rw [hnote'] at hpatient
    rw [hshared, Tally.noteChild_waiting t hbefore (Or.inl hafter)]
    exact hpatient.wait hafter' hafter

section Runs

variable {h : Handler σ τ} {outside : σ → ω → σ → Prop} {start e : Exchange σ τ Client}
  {limit : Span} {log : List (Entry σ τ ω)}

/-- A client that was able to wait stays so. -/
theorem Run.mayWait (run : Run h outside start log e) (hmay : start.partner.mayWait = true) :
    e.partner.mayWait = true := by
  induction run with
  | start => exact hmay
  | controller _ m ih => exact ih
  | child _ now ih => exact (Client.step_limit now _ _).2.trans ih
  | send _ event hdone ih => exact ih
  | call _ call state hcall ih => exact ih

/-- As long as no send was given up, an exchange is at one of the stages. -/
theorem Run.stage_of_timeouts (hfresh : start.IsFresh) (hfits : IsFitting h outside start.loop)
    (run : Run h outside (start.limited limit) log e) (hnone : (Tally.of log).timeouts = 0) :
    Stage e.loop.phase e.partner.phase e.shared (Tally.of log) := by
  have hstart : Run h outside start ([] : List (Entry σ τ ω)) start := .start
  induction run with
  | start => exact (hstart.stage hfresh hfits).2
  | controller run m ih =>
    refine (ih hnone).controller (fun service hservice => ?_) m
    rw [Tally.services, Tally.ledger_of] at hservice
    exact hfits _ _ run.serving service hservice
  | @child log e run now ih =>
    have hbefore : (Tally.of log).timeouts = 0 :=
      Nat.le_zero.mp (Nat.le_trans (Tally.timeouts_le_noteChild _ _ _) (Nat.le_of_eq hnone))
    exact (ih hbefore).child_of_timeouts (run.mayWait hfresh.patient.2) now hnone
  | send run event hdone ih => exact (ih hnone).send hdone event
  | call run call state hcall ih => exact ih hnone

end Runs

/-! ## After the first of them -/

/-- The loop goes on. -/
def IsOpen : ServingLoop.Phase τ → Prop
  | .closing _ | .ended _ | .broken => False
  | _ => True

/-- How many requests the loop has taken without having signalled a response. -/
def unanswered : ServingLoop.Phase τ → Nat
  | .reading | .handling _ | .replying _ | .signalling => 1
  | _ => 0

/-- How many requests the client has signalled without having taken a response or given up. -/
def awaiting : Client.Phase → Nat
  | .checking _ | .waiting _ _ => 1
  | _ => 0

theorem awaiting_done {c : Client} (hdone : c.outcome?.isSome) : awaiting c.phase = 0 := by
  cases hphase : c.phase <;> simp_all [Client.outcome?, awaiting]

/-- How many requests and responses are under way, at the controller or on either way. -/
def underway (l : ServingLoop σ τ) (s : Shared) : Nat := s.request + unanswered l.phase + s.response

/-- A loop that goes on loses nothing that is under way and adds nothing to it.  What it drops
when it closes or breaks down is lost. -/
theorem underway_turn (h : Handler σ τ) (m : Moment) {l : ServingLoop σ τ} (s : Shared)
    (hopen : IsOpen (l.step h m s).1.phase) :
    IsOpen l.phase ∧ underway (l.step h m s).1 (l.step h m s).2 = underway l s := by
  cases hphase : l.phase with
  | asking =>
    refine ⟨trivial, ?_⟩
    cases hstop : m.stop <;> simp [step, hphase, hstop, underway, enter, unanswered]
  | listening wake =>
    refine ⟨trivial, ?_⟩
    cases htaken : Signal.take l.mayWait s.request with
    | one left =>
      have hcount := Signal.take_eq_one htaken
      simp only [step, hphase, htaken, underway, enter, unanswered]
      omega
    | refused => simp [step, hphase, htaken, underway, enter, unanswered]
    | nothing =>
      simp only [step, hphase, htaken]
      split <;> simp [underway, enter, unanswered, hphase]
  | reading =>
    refine ⟨trivial, ?_⟩
    cases hevent : s.envelope.event? with
    | ok event => simp [step, hphase, hevent, underway, enter, unanswered]
    | error fault => simp [step, hphase, hevent, enter, IsOpen] at hopen
  | handling task =>
    refine ⟨trivial, ?_⟩
    cases hadvance : h.advance m task l.state with
    | mk state move =>
      rw [step_handling s hphase hadvance] at hopen ⊢
      cases move with
      | broken => exact hopen.elim
      | _ => simp [underway, unanswered, hphase, Phase.after]
  | replying reply =>
    refine ⟨trivial, ?_⟩
    cases hput : s.envelope.putReply? reply with
    | ok envelope => simp [step, hphase, hput, underway, enter, unanswered]
    | error fault => simp [step, hphase, hput, enter, IsOpen] at hopen
  | signalling =>
    refine ⟨trivial, ?_⟩
    cases hset : Signal.set s.response with
    | ok count =>
      have hcount := Signal.set_eq_ok hset
      simp only [step, hphase, hset, underway, enter, unanswered]
      omega
    | error fault => simp [step, hphase, hset, enter, IsOpen] at hopen
  | closing outcome =>
    simp only [step, hphase] at hopen
    split at hopen <;> exact hopen.elim
  | ended outcome =>
    simp only [step, hphase] at hopen
    exact hopen.elim
  | broken =>
    simp only [step, hphase] at hopen
    exact hopen.elim

/-- A client adds what it asks for and takes what it gets; a send that it gives up stays under
way. -/
theorem underway_step {c : Client} (hmay : c.mayWait = true) (now : Nat) (l : ServingLoop σ τ)
    (s : Shared) (t : Tally σ τ) :
    underway l (c.step now s).2 + t.timeouts + awaiting c.phase =
      underway l s + (t.noteChild c (c.step now s).1).timeouts +
        awaiting (c.step now s).1.phase := by
  cases hphase : c.phase with
  | writing event =>
    rcases Client.step_writing hphase now s with ⟨-, hstep⟩ | ⟨fault, bytes, hstep⟩
    · rw [hstep]
      simp [Tally.noteChild, hphase, Client.enter, underway, awaiting, Tally.timeouts]
    · rw [hstep]
      simp [Tally.noteChild, hphase, Client.enter, underway, awaiting, Tally.timeouts, isTimeout]
  | posting =>
    cases hset : Signal.set s.request with
    | ok count =>
      have hcount := Signal.set_eq_ok hset
      simp only [Client.step, hphase, hset, Tally.noteChild, Client.enter, underway, awaiting,
        Tally.timeouts]
      omega
    | error fault =>
      simp [Client.step, hphase, hset, Tally.noteChild, Client.enter, underway, awaiting,
        Tally.timeouts, isTimeout]
  | checking started =>
    cases hlimit : c.limit with
    | none =>
      simp [Client.step, hphase, hlimit, Tally.noteChild, Client.enter, awaiting]
    | some limit =>
      simp only [Client.step, hphase, hlimit]
      split
      · simp only [Tally.noteChild, hphase, Client.enter, Tally.timeouts_returned, isTimeout,
          awaiting, ↓reduceIte]
        omega
      · simp [Tally.noteChild, hphase, Client.enter, awaiting]
  | waiting started wake =>
    -- which request the response answers nobody can tell; one of them is no longer under way
    cases htaken : Signal.take c.mayWait s.response with
    | one left =>
      have hcount := Signal.take_eq_one htaken
      simp only [Client.step, hphase, htaken, Tally.noteChild, Client.enter, underway, awaiting]
      omega
    | refused =>
      rw [hmay] at htaken
      cases hresponse : s.response <;> rw [hresponse] at htaken <;> cases htaken
    | nothing =>
      simp only [Client.step, hphase, htaken]
      split
      · simp [Tally.noteChild, hphase, Client.enter, awaiting]
      · simp [Tally.noteChild, hphase, awaiting]
  | reading =>
    cases hreply : s.envelope.reply? with
    | ok reply =>
      simp [Client.step, hphase, hreply, Tally.noteChild, Client.enter, awaiting, Tally.timeouts,
        isTimeout]
    | error fault =>
      simp [Client.step, hphase, hreply, Tally.noteChild, Client.enter, awaiting, Tally.timeouts,
        isTimeout]
  | done outcome => simp [Client.step, hphase, Tally.noteChild]

section Runs

variable {h : Handler σ τ} {outside : σ → ω → σ → Prop} {start e : Exchange σ τ Client}
  {limit : Span} {log : List (Entry σ τ ω)}

/-- As long as the loop goes on, the sends that were given up are under way, and so is the one
that the client waits for. -/
theorem Run.underway_eq (hfresh : start.IsFresh) (run : Run h outside (start.limited limit) log e)
    (hopen : IsOpen e.loop.phase) :
    underway e.loop e.shared = (Tally.of log).timeouts + awaiting e.partner.phase := by
  induction run with
  | start =>
    have hnone : unanswered start.loop.phase = 0 := by
      rw [hfresh.asking]
      rfl
    show underway start.loop start.shared = 0 + awaiting start.partner.phase
    rw [underway, hfresh.request, hfresh.response, hnone, awaiting_done hfresh.done]
  | @controller log e run m ih =>
    obtain ⟨hbefore, hsame⟩ := underway_turn h m e.shared hopen
    rw [Tally.of, Tally.timeouts_note_serving, controller_act, hsame]
    exact ih hbefore
  | @child log e run now ih =>
    have hsame := underway_step (run.mayWait hfresh.patient.2) now e.loop e.shared (Tally.of log)
    have hbefore := ih hopen
    show underway e.loop (e.partner.step now e.shared).2 =
      ((Tally.of log).noteChild e.partner (e.partner.step now e.shared).1).timeouts +
        awaiting (e.partner.step now e.shared).1.phase
    omega
  | send run event hdone ih =>
    rw [awaiting_done hdone] at ih
    exact ih hopen
  | call run call state hcall ih => exact ih hopen

end Runs

/-! ## The whole exchange -/

/-- Whatever events a client with a time limit sends, and however late the controller answers
them:

* as long as no send was given up, the reply that a send returns is the one that the handler
  gave to the event of that send, a send fails only for a text that does not fit, and no
  envelope ends the loop;
* as long as the loop goes on, there is one request or response under way for each send that
  was given up, besides the one that the client waits for.  So a send that follows never begins
  with nothing under way but its own request. -/
theorem timeouts_stay {h : Handler σ τ} {outside : σ → ω → σ → Prop} {start e : Exchange σ τ Client}
    {limit : Span} {log : List (Entry σ τ ω)} (hfresh : start.IsFresh)
    (hfits : IsFitting h outside start.loop) (run : Run h outside (start.limited limit) log e) :
    ((Tally.of log).timeouts = 0 →
      (∀ (n : Nat) (reply : Reply), (Tally.of log).answers[n]? = some reply →
        ∃ event service given, (Tally.of log).written[n]? = some event ∧
          (Tally.of log).services[n]? = some service ∧ service.event = event.onWire ∧
            service.reply = some given ∧ reply = given.onWire) ∧
      (∀ fault, .error fault ∈ (Tally.of log).returned → ∃ field, fault = .field field) ∧
      ∀ fault, e.loop.outcome? ≠ some (.error (.envelope fault))) ∧
      (IsOpen e.loop.phase →
        underway e.loop e.shared = (Tally.of log).timeouts + awaiting e.partner.phase) := by
  refine ⟨fun hnone => ?_, run.underway_eq hfresh⟩
  have hstage := run.stage_of_timeouts hfresh hfits hnone
  obtain ⟨earlier, rest, served, pending, hwritten, -, hservices, -, hmatches⟩ := hstage.history
  refine ⟨fun n reply hreply => ?_, hmatches.refusals, fun fault houtcome => ?_⟩
  · obtain ⟨event, service, given, hevent, hservice, hwire, hgiven, hread⟩ :=
      hmatches.answered hreply
    refine ⟨event, service, given, ?_, ?_, hwire, hgiven, hread⟩
    · rw [hwritten, List.getElem?_append_left (List.getElem?_eq_some_iff.mp hevent).1, hevent]
    · rw [hservices, List.getElem?_append_left (List.getElem?_eq_some_iff.mp hservice).1, hservice]
  · exact (hstage.no_envelope_fault fault).2 (phase_of_outcome? houtcome)

/-- An opening that was answered in time and a title that was not: one response will be under
way from then on. -/
theorem timeouts_stay_title : IsFresh (τ := Desk.Task) (opened ({} : Desk)) ∧
    IsFitting Desk.handler Desk.Calls (opened {}).loop ∧
      ∃ (log log' : List (Entry Desk Desk.Task Desk.Call)) (e e' : Exchange Desk Desk.Task Client),
        (Run Desk.handler Desk.Calls ((opened {}).limited 3) log e ∧
          (Tally.of log).timeouts = 0 ∧
          (Tally.of log).answers = [.init .pipe .pipe false] ∧
          ∃ event service given, (Tally.of log).written[0]? = some event ∧
            (Tally.of log).services[0]? = some service ∧ service.event = event.onWire ∧
              service.reply = some given ∧ .init .pipe .pipe false = given.onWire) ∧
        Run Desk.handler Desk.Calls ((opened {}).limited 3) log' e' ∧
          (Tally.of log').returned = [.ok (.init .pipe .pipe false), .error (.noAnswer 3)] ∧
          underway e'.loop e'.shared = 1 := by
  have hfresh : IsFresh (τ := Desk.Task) (opened ({} : Desk)) := isFresh_opened _
  have hfits : IsFitting Desk.handler Desk.Calls (opened {}).loop :=
    Desk.isFitting_calls rfl nofun
  have hreply : (Reply.init .pipe .pipe false).Fits .init := ⟨rfl, nofun⟩
  have htitle : (Event.title "go").Fits := (Event.fits_title _).mpr ⟨by decide, by decide⟩
  have hstart : Run Desk.handler Desk.Calls ((opened {}).limited 3) []
      ((opened {}).limited 3) := .start
  have hwaits (s : Shared) : (⟨.checking 0, some 3, true⟩ : Client).step 0 s =
      (⟨.waiting 0 3, some 3, true⟩, s) := rfl
  obtain ⟨log₁, bytes₁, hkind, hasked, -, hlog₁⟩ := hstart.ask Event.fits_init rfl rfl rfl
  have hworked := hasked.turn ⟨0, false⟩ ⟨{}, .replying (.init .pipe .pipe false), 0, true⟩ _ rfl
  obtain ⟨log₂, bytes₂, hread, hresponded, -, hlog₂⟩ := hworked.respond hreply rfl hkind rfl
  obtain ⟨log₃, hreceived, -, hlog₃⟩ := hresponded.receive rfl (hwaits _) rfl hread
  have htally : (Tally.of log₃).returned = [.ok (.init .pipe .pipe false)] := by
    rw [hlog₃, hlog₂, Tally.of, hlog₁]
    rfl
  have hnone : (Tally.of log₃).timeouts = 0 := by
    rw [Tally.timeouts, htally]
    rfl
  have hanswers : (Tally.of log₃).answers = [.init .pipe .pipe false] := by
    rw [Tally.answers, htally]
    rfl
  have hright := ((timeouts_stay hfresh hfits hreceived).1 hnone).1
  obtain ⟨log₄, bytes₄, -, hasked', -, hlog₄⟩ := hreceived.ask htitle rfl rfl rfl
  have hgaveUp : Run Desk.handler Desk.Calls ((opened {}).limited 3)
      (.child ⟨.checking 0, some 3, true⟩ ⟨.done (.error (.noAnswer 3)), some 3, true⟩ :: log₄)
      ⟨⟨{}, .handling (.fresh (.title "go")), 0, true⟩,
        ⟨.done (.error (.noAnswer 3)), some 3, true⟩, ⟨bytes₄, 0, 0, 0⟩, false, 0⟩ :=
    hasked'.step 3 _ _ rfl
  have htally' : (Tally.of (.child ⟨.checking 0, some 3, true⟩
      ⟨.done (.error (.noAnswer 3)), some 3, true⟩ :: log₄)).returned =
        [.ok (.init .pipe .pipe false), .error (.noAnswer 3)] := by
    rw [Tally.of, hlog₄]
    exact congrArg (· ++ [.error (.noAnswer 3)]) htally
  have hlaw := (timeouts_stay hfresh hfits hgaveUp).2 trivial
  rw [Tally.timeouts, htally'] at hlaw
  refine ⟨hfresh, hfits, log₃, _, _, _, ⟨hreceived, hnone, hanswers, ?_⟩, hgaveUp,
    htally', hlaw⟩
  exact hright 0 _ (by rw [hanswers]; rfl)

/-- Two runs in which a client gives up on a title, and the desk answers it late.

* The answer comes before the client sends an opening.  Its response is taken for the one of
  the opening, which has not been read: the send returns a reply that the desk never gave.
* The answer comes after the client has written the opening, which the desk then fails to
  answer with it: that ends the loop. -/
theorem late_answers :
    (∃ (log : List (Entry Desk Desk.Task Desk.Call)) (e : Exchange Desk Desk.Task Client),
      Run Desk.handler Desk.Calls ((opened {}).limited 3) log e ∧
        (Tally.of log).written = [.title "go", .init] ∧
        (Tally.of log).returned = [.error (.noAnswer 3), .ok (.init .off .off false)] ∧
        (Tally.of log).services.map (fun s => (s.event, s.reply)) = [(.title "go", some .ack)]) ∧
      ∃ (log : List (Entry Desk Desk.Task Desk.Call)) (e : Exchange Desk Desk.Task Client),
        Run Desk.handler Desk.Calls ((opened {}).limited 3) log e ∧
          (Tally.of log).written = [.title "go", .init] ∧
          (Tally.of log).returned = [.error (.noAnswer 3)] ∧
          e.loop.outcome? = some (.error (.envelope (.replyMismatch "init"))) := by
  have hstart : Run Desk.handler Desk.Calls ((opened {}).limited 3) []
      ((opened {}).limited 3) := .start
  have htitle : (Event.title "go").Fits := (Event.fits_title _).mpr ⟨by decide, by decide⟩
  obtain ⟨log₁, bytes₁, hkind, hasked, -, hlog₁⟩ := hstart.ask htitle rfl rfl rfl
  have hgaveUp := hasked.step 3 ⟨.done (.error (.noAnswer 3)), some 3, true⟩ _ rfl
  constructor
  · -- the desk answers first, and the client takes that response for its opening
    have hack : Reply.ack.Fits .title := ⟨rfl, nofun⟩
    have hworked := hgaveUp.turn ⟨3, false⟩ ⟨{}, .replying .ack, 0, true⟩ _ rfl
    obtain ⟨log₂, bytes₂, -, hlate, -, hlog₂⟩ := hworked.respond hack rfl hkind rfl
    obtain ⟨log₃, hposted, -, hlog₃⟩ := hlate.post Event.fits_init rfl rfl
    obtain ⟨_, ⟨rfl⟩, hneutral⟩ := Envelope.reply?_putEvent bytes₂ Event.fits_init
    have hwaits (s : Shared) : (⟨.checking 0, some 3, true⟩ : Client).step 0 s =
        (⟨.waiting 0 3, some 3, true⟩, s) := rfl
    obtain ⟨log₄, hread, -, hlog₄⟩ := hposted.receive rfl (hwaits _) rfl hneutral
    have htally : Tally.of log₄ =
        { written := [.title "go", .init]
          posts := 2
          taken := 1
          ledger := (Tally.of log₂).ledger
          returned := [.error (.noAnswer 3), .ok (.init .off .off false)] } := by
      rw [hlog₄, hlog₃, hlog₂, Tally.of, Tally.of, hlog₁]
      rfl
    refine ⟨log₄, _, hread, ?_, ?_, ?_⟩
    · rw [htally]
    · rw [htally]
    · rw [htally, hlog₂, Tally.of, Tally.of, hlog₁]
      rfl
  · -- the client writes first, and the header tells the desk of an opening
    obtain ⟨log₂, hposted, -, hlog₂⟩ := hgaveUp.post Event.fits_init rfl rfl
    have hkind' := Envelope.kind?_putEvent bytes₁ Event.fits_init
    have hput : (bytes₁.putEvent .init).1.putReply? .ack = .error (.replyMismatch "init") := by
      rw [Envelope.putReply?, Envelope.putReply_of_mismatch hkind' rfl]
      rfl
    have hworked := hposted.turn ⟨3, false⟩ ⟨{}, .replying .ack, 0, true⟩ _ rfl
    have hrefused := hworked.turn ⟨3, false⟩
      ⟨{}, .closing (.error (.envelope (.replyMismatch "init"))), 0, true⟩
      ⟨(bytes₁.putEvent .init).1, 1, 0, 0⟩ (by simp only [ServingLoop.step, hput]; rfl)
    have hended := hrefused.turn ⟨3, false⟩
      ⟨{}, .ended (.error (.envelope (.replyMismatch "init"))), 0, true⟩ _ rfl
    refine ⟨_, _, hended, ?_, ?_, rfl⟩
    · simp only [Tally.of, hlog₂, hlog₁]
      rfl
    · simp only [Tally.of, hlog₂, hlog₁]
      rfl

end Exchange

end ConsoleLink
