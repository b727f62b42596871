import ConsoleLink.Proofs.Conversation.Bridge
import ConsoleLink.Proofs.Session.Executions

/-!
# Everything the console asks for is answered

If both sides take their turns again and again, and the loop is not told to stop while the console
goes on, then each thing that the console does leads to the next one.

* `IsFair` says this of a sequence of acts; `leads_talk` and `leads_serve` are the rules for what
  the console and the loop come to in the end.
* `posts`, `arrives`, `replies` and `hears` take an event to the desk and the answer back.
* `answers`, `expires` and `hands` are what the desk does meanwhile: it answers at once, when a
  choice is over, or with the next command.
* `tells`, `takes` and `looks` put this together, and `comes` does so for a whole conversation.
-/

namespace ConsoleLink

open ServingLoop (Phase)

namespace Bridge

variable {start b : Bridge} {acts : Nat → Act} {wants : Bool} {sink : Option Unit} {t : Talk}
  {n : Nat}

/-! ## Fairness -/

/-- Both sides take their turns again and again and time passes.  The loop is told to stop once the
console has ended, and not before. -/
structure IsFair (start : Bridge) (acts : Nat → Act) : Prop where
  serves : ∀ n, ∃ m ≥ n, (acts m).IsServe
  talks : ∀ n, ∃ m ≥ n, (acts m).IsTalk
  clock : ∀ time, ∃ n, ∀ m ≥ n, ∀ moment, acts m = .serve moment → time ≤ moment.now
  patient : ∀ n moment, acts n = .serve moment → moment.stop = true →
    (run start acts n).partner.isOver = true
  told : ∀ n, (run start acts n).partner.isOver = true →
    ∃ k, ∀ m ≥ k, ∀ moment, acts m = .serve moment → moment.stop = true

theorem Act.exists_of_isServe {act : Act} (h : act.IsServe) : ∃ m, act = .serve m := by
  cases act with
  | serve m => exact ⟨m, rfl⟩
  | _ => cases h

theorem Act.exists_of_isTalk {act : Act} (h : act.IsTalk) : ∃ now, act = .talk now := by
  cases act with
  | talk now => exact ⟨now, rfl⟩
  | _ => cases h

/-- As long as the console goes on, the loop is not told to stop. -/
theorem IsFair.goesOn (hfair : IsFair start acts)
    (hgoing : (run start acts n).partner.isOver = false) (m : Moment) (hact : acts n = .serve m) :
    m.stop = false := by
  by_contra hstop
  have hover := hfair.patient n m hact (by simpa using hstop)
  rw [hgoing] at hover
  cases hover

section Rules

variable (hfair : IsFair start acts)

include hfair

/-- The rule for the console: each of its steps brings it nearer. -/
theorem leads_talk {P : SampleRun → Shared → Prop} (rank : SampleRun → Nat) {Q : Bridge → Prop}
    (hturn : ∀ b now, Rests wants sink t b → P b.partner b.shared →
      Q (b.after (.talk now)) ∨
        (Rests wants sink t (b.after (.talk now)) ∧
          P (b.after (.talk now)).partner (b.after (.talk now)).shared) ∧
            rank (b.after (.talk now)).partner < rank b.partner)
    (hrests : Rests wants sink t (run start acts n))
    (hP : P (run start acts n).partner (run start acts n).shared) :
    ∃ m > n, Q (run start acts m) := by
  refine eventually_of_rank 0
    (P := fun n => Rests wants sink t (run start acts n) ∧
      P (run start acts n).partner (run start acts n).shared)
    (Q := fun n => Q (run start acts n)) (r := fun n => rank (run start acts n).partner) hfair.talks
    ?_ ?_ ⟨hrests, hP⟩
  · intro n hP hother
    obtain ⟨hrests, hpartner, hshared⟩ := hP.1.other hother (hfair.goesOn hP.1.going)
    simp only [run, hpartner, hshared]
    exact ⟨⟨hrests, hP.2⟩, Nat.le_refl _⟩
  · intro n hP hacts
    obtain ⟨now, hact⟩ := Act.exists_of_isTalk hacts
    simp only [run, hact]
    exact (hturn _ now hP.1 hP.2).imp_right fun h => ⟨h.1, fun _ => h.2⟩

/-- The rule for the loop: from some time on, each of its steps brings it nearer. -/
theorem leads_serve (first : Nat) {P : Phase Desk.Task → Shared → Prop}
    (rank : Phase Desk.Task → Nat) {Q : Bridge → Prop}
    (hturn : ∀ k ≥ n, ∀ m, acts k = .serve m → m.stop = false →
      Attends wants sink t (run start acts k) →
      P (run start acts k).loop.phase (run start acts k).shared →
        Q (run start acts (k + 1)) ∨
          (Attends wants sink t (run start acts (k + 1)) ∧
            P (run start acts (k + 1)).loop.phase (run start acts (k + 1)).shared) ∧
              (first ≤ k → rank (run start acts (k + 1)).loop.phase <
                rank (run start acts k).loop.phase))
    (hattends : Attends wants sink t (run start acts n))
    (hP : P (run start acts n).loop.phase (run start acts n).shared) :
    ∃ m > n, Q (run start acts m) := by
  refine eventually_of_rank first
    (P := fun k => n ≤ k ∧ Attends wants sink t (run start acts k) ∧
      P (run start acts k).loop.phase (run start acts k).shared)
    (Q := fun k => Q (run start acts k)) (r := fun k => rank (run start acts k).loop.phase)
    hfair.serves ?_ ?_ ⟨Nat.le_refl n, hattends, hP⟩
  · intro k hP hother
    obtain ⟨hk, hattends, hP⟩ := hP
    obtain ⟨hattends', hphase, hshared⟩ := hattends.other hother
    simp only [run, hphase, hshared]
    exact ⟨⟨Nat.le_succ_of_le hk, hattends', hP⟩, Nat.le_refl _⟩
  · intro k hP hacts
    obtain ⟨hk, hattends, hP⟩ := hP
    obtain ⟨m, hact⟩ := Act.exists_of_isServe hacts
    rcases hturn k hk m hact (hfair.goesOn hattends.going m hact) hattends hP with
      hQ | ⟨hP', hlt⟩
    · exact Or.inl hQ
    · exact Or.inr ⟨⟨Nat.le_succ_of_le hk, hP'⟩, hlt⟩

/-- The rule for one step of the loop. -/
theorem leads_once {P : Phase Desk.Task → Shared → Prop} {Q : Bridge → Prop}
    (hturn : ∀ k ≥ n, ∀ m, acts k = .serve m → m.stop = false →
      Attends wants sink t (run start acts k) →
      P (run start acts k).loop.phase (run start acts k).shared → Q (run start acts (k + 1)))
    (hattends : Attends wants sink t (run start acts n))
    (hP : P (run start acts n).loop.phase (run start acts n).shared) :
    ∃ m > n, Q (run start acts m) := by
  refine leads_serve hfair 0 (fun _ => 0) ?_ hattends hP
  intro k hk m hact hstop hattends hP
  left
  exact hturn k hk m hact hstop hattends hP

end Rules

/-! ## The console -/

/-- The console is about to do what it has decided on. -/
structure Acting (wants : Bool) (sink : Option Unit) (t : Talk) (b : Bridge) : Prop where
  keeps : Keeps wants sink t b
  ready : b.loop.phase.IsReady
  request : b.shared.request = 0
  response : b.shared.response = 0
  status : b.partner.status = SampleRun.statusOf true t.action

theorem Acting.rests (h : Acting wants sink t b) (hgoing : b.partner.isOver = false) :
    Rests wants sink t b :=
  ⟨h.keeps, h.ready, h.request, hgoing⟩

/-- The console has learned something. -/
theorem Keeps.hear (h : Keeps wants sink t b) (heard : SampleConsole.Heard)
    (hready : b.loop.phase.IsReady) (hrequest : b.shared.request = 0)
    (hresponse : b.shared.response = 0) :
    Acting wants sink (t.hear heard) { b with partner := b.partner.hear heard } := by
  have hmarks := h.marks
  have hheard : b.partner.hear heard =
      { b.partner with
        console := (t.console.next heard).1
        status := SampleRun.statusOf true (t.console.next heard).2 } := by
    rw [← h.console, ← h.mayTalk]
    rfl
  rw [hheard]
  exact ⟨⟨⟨hmarks.shows, hmarks.asked, hmarks.attached, hmarks.notified, hmarks.commands⟩,
    h.mayServe, h.mayTalk, rfl, h.cancel⟩, hready, hrequest, hresponse, rfl⟩

/-- How many steps a client is from what it comes to within an exchange. -/
def toReply : Client.Phase → Nat
  | .writing _ => 4
  | .posting => 3
  | .checking _ => 3
  | .waiting .. => 2
  | .reading => 1
  | .done _ => 0

/-- How many steps the console is from what it comes to within an exchange. -/
def distance (r : SampleRun) : Nat :=
  match r.status with
  | .talking client => toReply client.phase
  | _ => 0

theorem distance_talking {r : SampleRun} {client : Client} (hstatus : r.status = .talking client) :
    distance r = toReply client.phase := by
  rw [distance, hstatus]

/-- The console is about to post an event. -/
inductive Posts (event : Event) : SampleRun → Shared → Prop
  | writing {r : SampleRun} {s : Shared} (hstatus : r.status = .talking (Client.send event))
      (hresponse : s.response = 0) : Posts event r s
  | posting {r : SampleRun} {s : Shared}
      (hstatus : r.status = .talking ((Client.send event).enter .posting))
      (hresponse : s.response = 0) (hbytes : Exchange.Holds s.envelope event) : Posts event r s

/-- The console is about to hear a reply. -/
inductive Hears (reply : Reply) : SampleRun → Shared → Prop
  | answered {r : SampleRun} {s : Shared} {client : Client}
      (hstatus : r.status = .talking client) (hpatient : client.IsPatient)
      (hwaiting : client.phase.IsWaiting) (hresponse : s.response = 1)
      (hbytes : s.envelope.reply? = .ok reply) : Hears reply r s
  | reading {r : SampleRun} {s : Shared} {client : Client}
      (hstatus : r.status = .talking client) (hphase : client.phase = .reading)
      (hresponse : s.response = 0) (hbytes : s.envelope.reply? = .ok reply) : Hears reply r s
  | heard {r : SampleRun} {s : Shared} {client : Client}
      (hstatus : r.status = .talking client) (hphase : client.phase = .done (.ok reply))
      (hresponse : s.response = 0) : Hears reply r s

/-- A request was posted, or the loop has taken it. -/
inductive Arrives (event : Event) : Phase Desk.Task → Shared → Prop
  | posted {phase : Phase Desk.Task} {s : Shared} (hready : phase.IsReady)
      (hrequest : s.request = 1) (hbytes : Exchange.Holds s.envelope event) : Arrives event phase s
  | taken {s : Shared} (hrequest : s.request = 0) (hbytes : Exchange.Holds s.envelope event) :
      Arrives event .reading s

theorem step_writes {event : Event} (hfits : event.Fits) (now : Nat) (s : Shared) :
    (Client.send event).step now s =
      ((Client.send event).enter .posting,
        { s with envelope := (s.envelope.putEvent event).1 }) := by
  have hok := (Envelope.putEvent_snd_iff s.envelope event).mpr hfits
  cases hput : s.envelope.putEvent event with
  | mk bytes outcome =>
    rw [hput] at hok
    cases hok
    simp only [Client.step, Client.send, hput]

section Console

variable (hfair : IsFair start acts)

include hfair

/-- An event that fits is posted. -/
theorem posts {event : Event} (hfits : event.Fits)
    (hacting : Acting wants sink t (run start acts n)) (haction : t.action = .send event) :
    ∃ m > n, Attends wants sink t (run start acts m) ∧
      Arrives event (run start acts m).loop.phase (run start acts m).shared := by
  have hstatus : (run start acts n).partner.status = .talking (Client.send event) := by
    rw [hacting.status, haction]
    rfl
  have hgoing : (run start acts n).partner.isOver = false := by
    rw [SampleRun.isOver, SampleRun.exitCode?, hstatus]
    rfl
  refine leads_talk hfair (P := Posts event) distance
    (Q := fun b => Attends wants sink t b ∧ Arrives event b.loop.phase b.shared) ?_
    (hacting.rests hgoing) (.writing hstatus hacting.response)
  intro b now hrests hposts
  cases hposts with
  | writing hstatus hresponse =>
    right
    have hbytes : Exchange.Holds (b.shared.envelope.putEvent event).1 event :=
      ⟨Envelope.event?_putEvent _ hfits, Envelope.kind?_putEvent _ hfits⟩
    obtain ⟨hrests', hstatus', hshared⟩ :=
      hrests.talk hstatus rfl (step_writes hfits now b.shared) hrests.request rfl
    rw [hshared, distance_talking hstatus, distance_talking hstatus']
    exact ⟨⟨hrests', .posting hstatus' hresponse hbytes⟩, Nat.lt_succ_self 3⟩
  | posting hstatus hresponse hbytes =>
    left
    have hkeeps := hrests.keeps
    have hposted : ((Client.send event).enter .posting).step now b.shared =
        ((Client.send event).enter (.checking now), { b.shared with request := 1 }) := by
      simp [Client.step, Client.enter, hrests.request, Signal.set, Signal.largest]
    rw [after_talk, step_talking hstatus rfl, hposted]
    exact ⟨⟨⟨hkeeps.marks, hkeeps.mayServe, hkeeps.mayTalk, hkeeps.console, hkeeps.cancel⟩,
      ⟨_, rfl, ⟨rfl, rfl⟩, trivial⟩, hresponse⟩, .posted hrests.ready rfl hbytes⟩

/-- A reply is heard. -/
theorem hears {reply : Reply} (hrests : Rests wants sink t (run start acts n))
    (hhears : Hears reply (run start acts n).partner (run start acts n).shared) :
    ∃ m > n, Acting wants sink (t.hear (.reply reply)) (run start acts m) := by
  refine leads_talk hfair (P := Hears reply) distance
    (Q := fun b => Acting wants sink (t.hear (.reply reply)) b) ?_ hrests hhears
  intro b now hrests hhears
  cases hhears with
  | @answered client hstatus hpatient hwaiting hresponse hbytes =>
    right
    have hgoing := outcome?_of_waiting hwaiting
    cases hphase : client.phase with
    | checking started =>
      have hlooked : client.step now b.shared =
          (client.enter (.waiting started (now + Client.longestWait)), b.shared) := by
        simp only [Client.step, hphase, hpatient.1]
      obtain ⟨hrests', hstatus', hshared⟩ :=
        hrests.talk hstatus hgoing hlooked hrests.request rfl
      rw [hshared, distance_talking hstatus, distance_talking hstatus', hphase]
      exact ⟨⟨hrests', .answered hstatus' hpatient trivial hresponse hbytes⟩, Nat.lt_succ_self 2⟩
    | waiting started wake =>
      have htaken : client.step now b.shared =
          (client.enter .reading, { b.shared with response := 0 }) := by
        simp [Client.step, hphase, hresponse, Signal.take]
      obtain ⟨hrests', hstatus', hshared⟩ :=
        hrests.talk hstatus hgoing htaken hrests.request rfl
      rw [hshared, distance_talking hstatus, distance_talking hstatus', hphase]
      exact ⟨⟨hrests', .reading hstatus' rfl rfl hbytes⟩, Nat.lt_succ_self 1⟩
    | _ => simp [hphase, Client.Phase.IsWaiting] at hwaiting
  | @reading client hstatus hphase hresponse hbytes =>
    right
    have hgoing : client.outcome? = none := by
      simp only [Client.outcome?, hphase]
    have hread : client.step now b.shared = (client.enter (.done (.ok reply)), b.shared) := by
      simp only [Client.step, hphase, hbytes]
    obtain ⟨hrests', hstatus', hshared⟩ := hrests.talk hstatus hgoing hread hrests.request rfl
    rw [hshared, distance_talking hstatus, distance_talking hstatus', hphase]
    exact ⟨⟨hrests', .heard hstatus' rfl hresponse⟩, Nat.lt_succ_self 0⟩
  | @heard client hstatus hphase hresponse =>
    left
    have houtcome : client.outcome? = some (.ok reply) := by
      simp only [Client.outcome?, hphase]
    have hheard : b.partner.step now b.shared = (b.partner.hear (.reply reply), b.shared) := by
      simp only [SampleRun.step, hstatus, houtcome]
    rw [after_talk, hheard]
    exact hrests.keeps.hear _ hrests.ready hrests.request hresponse

/-- The console looks whether it was told to give up. -/
theorem looks (hacting : Acting wants sink t (run start acts n)) (haction : t.action = .askCancel) :
    ∃ m > n, Acting wants sink (t.hear (.cancelled false)) (run start acts m) := by
  have hstatus : (run start acts n).partner.status = .asking := by
    rw [hacting.status, haction]
    rfl
  have hgoing : (run start acts n).partner.isOver = false := by
    rw [SampleRun.isOver, SampleRun.exitCode?, hstatus]
    rfl
  refine leads_talk hfair (P := fun r s => r.status = .asking ∧ s.response = 0) distance
    (Q := fun b => Acting wants sink (t.hear (.cancelled false)) b) ?_
    (hacting.rests hgoing) ⟨hstatus, hacting.response⟩
  intro b now hrests hasks
  left
  have hkeeps := hrests.keeps
  have hheard : b.partner.step now b.shared = (b.partner.hear (.cancelled false), b.shared) := by
    simp [SampleRun.step, hasks.1, Signal.take, hkeeps.mayTalk, hkeeps.cancel]
  rw [after_talk, hheard]
  exact hkeeps.hear _ hrests.ready hrests.request hasks.2

end Console

/-! ## The loop -/

/-- How many steps the loop is from what it comes to within a service. -/
def remaining : Phase Desk.Task → Nat
  | .asking => 3
  | .listening _ => 2
  | .reading => 1
  | .handling task => task.rank
  | .replying _ => 1
  | _ => 0

/-- The desk is at work on a kind of event, with one of some tasks. -/
structure IsHandling (kind : EventKind) (tasks : Desk.Task → Prop) (phase : Phase Desk.Task)
    (s : Shared) : Prop where
  task : ∃ task, phase = .handling task ∧ tasks task
  request : s.request = 0
  kind : s.envelope.kind? = .ok kind

/-- The loop has a reply, or has written it. -/
inductive Replies (kind : EventKind) (reply : Reply) : Phase Desk.Task → Shared → Prop
  | replying {s : Shared} (hrequest : s.request = 0) (hkind : s.envelope.kind? = .ok kind) :
      Replies kind reply (.replying reply) s
  | signalling {s : Shared} (hrequest : s.request = 0)
      (hbytes : s.envelope.reply? = .ok reply.onWire) : Replies kind reply .signalling s

section Desk

variable {kind : EventKind} {tasks tasks' : Desk.Task → Prop} {task next : Desk.Task}
  {reply : Reply} {m : Moment}

/-- The desk goes on with another task. -/
theorem Attends.go (h : Attends wants sink t b)
    (hhandling : IsHandling kind tasks b.loop.phase b.shared)
    (hphase : b.loop.phase = .handling task)
    (hadvance : Desk.advance m task b.loop.state = (b.loop.state, .go next))
    (hnext : tasks' next) :
    Attends wants sink t (b.after (.serve m)) ∧
      IsHandling kind tasks' (b.after (.serve m)).loop.phase (b.after (.serve m)).shared := by
  obtain ⟨hattends, hphase', hshared⟩ := h.advance hphase hadvance h.keeps.marks rfl
  rw [hphase', hshared]
  exact ⟨hattends, ⟨next, rfl, hnext⟩, hhandling.request, hhandling.kind⟩

/-- The desk goes on with a task of which less is left. -/
theorem remaining_go (h : Attends wants sink t b) (hphase : b.loop.phase = .handling task)
    (hadvance : Desk.advance m task b.loop.state = (b.loop.state, .go next))
    (hlt : next.rank < task.rank) :
    remaining (b.after (.serve m)).loop.phase < remaining b.loop.phase := by
  obtain ⟨-, hphase', -⟩ := h.advance hphase hadvance h.keeps.marks rfl
  rw [hphase', hphase]
  exact hlt

/-- The desk has found a reply. -/
theorem Attends.answer (h : Attends wants sink t b)
    (hhandling : IsHandling kind tasks b.loop.phase b.shared)
    (hphase : b.loop.phase = .handling task) {d : Desk} {t' : Talk}
    (hadvance : Desk.advance m task b.loop.state = (d, .reply reply))
    (hmarks : Marks wants sink b.accepted t' d) (hconsole : t'.console = t.console) :
    Attends wants sink t' (b.after (.serve m)) ∧
      Replies kind reply (b.after (.serve m)).loop.phase (b.after (.serve m)).shared := by
  obtain ⟨hattends, hphase', hshared⟩ := h.advance hphase hadvance hmarks hconsole
  rw [hphase', hshared]
  exact ⟨hattends, .replying hhandling.request hhandling.kind⟩

end Desk

section Loop

variable (hfair : IsFair start acts)

include hfair

/-- A request that was posted is taken, and its event is read. -/
theorem arrives {event : Event} (hattends : Attends wants sink t (run start acts n))
    (harrives : Arrives event (run start acts n).loop.phase (run start acts n).shared) :
    ∃ m > n, Attends wants sink t (run start acts m) ∧
      IsHandling event.kind (· = .fresh event.onWire) (run start acts m).loop.phase
        (run start acts m).shared := by
  refine leads_serve hfair 0 (P := Arrives event) remaining
    (Q := fun b => Attends wants sink t b ∧
      IsHandling event.kind (· = .fresh event.onWire) b.loop.phase b.shared) ?_ hattends harrives
  intro k _ m hact hstop hattends harrives
  rw [run, hact]
  generalize run start acts k = b at hattends harrives ⊢
  generalize hphase : b.loop.phase = phase at harrives ⊢
  cases harrives with
  | posted hready hrequest hbytes =>
    right
    cases phase with
    | asking =>
      have hstep : b.loop.step Desk.handler m b.shared =
          (b.loop.enter (.listening (m.now + b.loop.pollInterval)), b.shared) := by
        simp [ServingLoop.step, hphase, hstop]
      obtain ⟨hattends', hphase', hshared⟩ := hattends.serve hstep hattends.response rfl
      rw [hphase', hshared]
      exact ⟨⟨hattends', .posted trivial hrequest hbytes⟩, fun _ => Nat.lt_succ_self 2⟩
    | listening wake =>
      have hstep := ServingLoop.step_listening hphase hrequest m
      obtain ⟨hattends', hphase', hshared⟩ := hattends.serve hstep hattends.response rfl
      rw [hphase', hshared]
      exact ⟨⟨hattends', .taken rfl hbytes⟩, fun _ => Nat.lt_succ_self 1⟩
    | _ => cases hready
  | taken hrequest hbytes =>
    left
    have hstep := ServingLoop.step_read m Desk.handler hphase hbytes.1
    obtain ⟨hattends', hphase', hshared⟩ := hattends.serve hstep hattends.response rfl
    rw [hphase', hshared]
    exact ⟨hattends', ⟨_, rfl, rfl⟩, hrequest, hbytes.2⟩

/-- A reply that fits is written, and the response is posted. -/
theorem replies {kind : EventKind} {reply : Reply} (hfits : reply.Fits kind)
    (hattends : Attends wants sink t (run start acts n))
    (hreplies : Replies kind reply (run start acts n).loop.phase (run start acts n).shared) :
    ∃ m > n, Rests wants sink t (run start acts m) ∧
      Hears reply.onWire (run start acts m).partner (run start acts m).shared := by
  refine leads_serve hfair 0 (P := Replies kind reply) remaining
    (Q := fun b => Rests wants sink t b ∧ Hears reply.onWire b.partner b.shared) ?_
    hattends hreplies
  intro k _ m hact hstop hattends hreplies
  rw [run, hact]
  generalize run start acts k = b at hattends hreplies ⊢
  generalize hphase : b.loop.phase = phase at hreplies ⊢
  cases hreplies with
  | replying hrequest hkind =>
    right
    obtain ⟨bytes, hput, -, hread⟩ := Envelope.putReply?_of_fits hkind hfits
    have hstep : b.loop.step Desk.handler m b.shared =
        (b.loop.enter .signalling, { b.shared with envelope := bytes }) := by
      simp only [ServingLoop.step, hphase, hput]
    obtain ⟨hattends', hphase', hshared⟩ := hattends.serve hstep hattends.response rfl
    rw [hphase', hshared]
    exact ⟨⟨hattends', .signalling hrequest hread⟩, fun _ => Nat.lt_succ_self 0⟩
  | signalling hrequest hbytes =>
    left
    obtain ⟨client, hstatus, hpatient, hwaiting⟩ := hattends.waits
    have hkeeps := hattends.keeps
    have hstep : b.loop.step Desk.handler m b.shared =
        (b.loop.enter .asking, { b.shared with response := 1 }) := by
      simp [ServingLoop.step, hphase, hattends.response, Signal.set, Signal.largest]
    rw [after_serve, hstep]
    exact ⟨⟨⟨hkeeps.marks, hkeeps.mayServe, hkeeps.mayTalk, hkeeps.console, hkeeps.cancel⟩,
      trivial, hrequest, hattends.going⟩, .answered hstatus hpatient hwaiting rfl hbytes⟩

/-- An event for which the desk need not wait is answered. -/
theorem answers {event : Event} (hinput : event.kind ≠ .input)
    (hexpires : ∀ prompt, event = .choice prompt → prompt.expires = false)
    (hattends : Attends wants sink t (run start acts n))
    (hhandling : IsHandling event.kind (· = .fresh event.onWire) (run start acts n).loop.phase
      (run start acts n).shared) :
    ∃ m > n, Attends wants sink (t.receive event) (run start acts m) ∧
      Replies event.kind (Talk.answer wants event) (run start acts m).loop.phase
        (run start acts m).shared := by
  refine leads_once hfair (P := IsHandling event.kind (· = .fresh event.onWire))
    (Q := fun b => Attends wants sink (t.receive event) b ∧
      Replies event.kind (Talk.answer wants event) b.loop.phase b.shared) ?_ hattends hhandling
  intro k _ m hact hstop hattends hhandling
  rw [run, hact]
  obtain ⟨_, hphase, rfl⟩ := hhandling.task
  obtain ⟨d, hreceive, hmarks⟩ := hattends.keeps.marks.receive m.now hinput hexpires
  have hconsole : (t.receive event).console = t.console := by
    cases event <;> rfl
  exact hattends.answer hhandling hphase hreceive hmarks hconsole

/-! ## Choices -/

section Choices

variable {kind : EventKind} {prompt : Prompt} {deadline : Nat}

/-- A pause of a choice comes to an end. -/
theorem wakes (hattends : Attends wants sink t (run start acts n))
    (hhandling : IsHandling kind (fun task => ∃ wake, task = .sleep prompt deadline wake)
      (run start acts n).loop.phase (run start acts n).shared) :
    ∃ m > n, Attends wants sink t (run start acts m) ∧
      IsHandling kind (· = .clock prompt deadline) (run start acts m).loop.phase
        (run start acts m).shared := by
  obtain ⟨⟨_, hphase, wake, rfl⟩, hrequest, hkind⟩ := hhandling
  obtain ⟨first, htime⟩ := hfair.clock wake
  refine leads_serve hfair first (P := IsHandling kind (· = .sleep prompt deadline wake))
    (fun _ => 0)
    (Q := fun b => Attends wants sink t b ∧
      IsHandling kind (· = .clock prompt deadline) b.loop.phase b.shared) ?_
    hattends ⟨⟨_, hphase, rfl⟩, hrequest, hkind⟩
  intro k _ m hact hstop hattends hhandling
  rw [run, hact]
  obtain ⟨_, hphase, rfl⟩ := hhandling.task
  by_cases hwake : wake ≤ m.now
  · left
    exact hattends.go hhandling hphase (by rw [Desk.advance, if_pos hwake]) rfl
  · right
    refine ⟨hattends.go hhandling hphase (by rw [Desk.advance, if_neg hwake]) rfl, ?_⟩
    intro hk
    exact absurd (htime k hk m hact) hwake

/-- A choice that is not over pauses. -/
theorem pauses (hattends : Attends wants sink t (run start acts n))
    (hhandling : IsHandling kind (fun task => ∃ seen, task = .askChoice prompt deadline seen)
      (run start acts n).loop.phase (run start acts n).shared) :
    ∃ m > n, Attends wants sink t (run start acts m) ∧
      IsHandling kind (fun task => ∃ wake, task = .sleep prompt deadline wake)
        (run start acts m).loop.phase (run start acts m).shared := by
  refine leads_once hfair
    (P := IsHandling kind fun task => ∃ seen, task = .askChoice prompt deadline seen)
    (Q := fun b => Attends wants sink t b ∧
      IsHandling kind (fun task => ∃ wake, task = .sleep prompt deadline wake) b.loop.phase
        b.shared) ?_ hattends hhandling
  intro k _ m hact hstop hattends hhandling
  rw [run, hact]
  obtain ⟨_, hphase, seen, rfl⟩ := hhandling.task
  have hadvance : Desk.advance m (.askChoice prompt deadline seen)
      (run start acts k).loop.state = ((run start acts k).loop.state, .go (.sleep prompt deadline
        (m.now + min (run start acts k).loop.state.pollInterval (deadline - seen)))) := by
    rw [Desk.advance, hstop, if_neg Bool.false_ne_true]
  exact hattends.go hhandling hphase hadvance ⟨_, rfl⟩

/-- The clock is looked at: if the choice is late it is over. -/
theorem ticks {first : Nat}
    (htime : ∀ m ≥ first, ∀ moment, acts m = .serve moment → deadline ≤ moment.now)
    (hattends : Attends wants sink t (run start acts n))
    (hhandling : IsHandling kind (· = .clock prompt deadline) (run start acts n).loop.phase
      (run start acts n).shared) :
    ∃ m > n, (Attends wants sink t (run start acts m) ∧
        Replies kind (.choice prompt.expiredValue) (run start acts m).loop.phase
          (run start acts m).shared) ∨
      n < first ∧ Attends wants sink t (run start acts m) ∧
        IsHandling kind (fun task => ∃ seen, task = .askChoice prompt deadline seen)
          (run start acts m).loop.phase (run start acts m).shared := by
  refine leads_once hfair (P := IsHandling kind (· = .clock prompt deadline))
    (Q := fun b => (Attends wants sink t b ∧
        Replies kind (.choice prompt.expiredValue) b.loop.phase b.shared) ∨
      n < first ∧ Attends wants sink t b ∧
        IsHandling kind (fun task => ∃ seen, task = .askChoice prompt deadline seen) b.loop.phase
          b.shared) ?_ hattends hhandling
  intro k hk m hact hstop hattends hhandling
  rw [run, hact]
  obtain ⟨_, hphase, rfl⟩ := hhandling.task
  by_cases hlate : deadline ≤ m.now
  · left
    exact hattends.answer hhandling hphase (by rw [Desk.advance, if_pos hlate])
      hattends.keeps.marks rfl
  · right
    have hearly : n < first := by
      by_contra hn
      exact hlate (htime k (by omega) m hact)
    exact ⟨hearly, hattends.go hhandling hphase (by rw [Desk.advance, if_neg hlate]) ⟨_, rfl⟩⟩

/-- A choice comes to its end. -/
theorem ends (hattends : Attends wants sink t (run start acts n))
    (hhandling : IsHandling kind (· = .clock prompt deadline) (run start acts n).loop.phase
      (run start acts n).shared) :
    ∃ m > n, Attends wants sink t (run start acts m) ∧
      Replies kind (.choice prompt.expiredValue) (run start acts m).loop.phase
        (run start acts m).shared := by
  obtain ⟨first, htime⟩ := hfair.clock deadline
  -- each round brings the choice nearer to the time at which it is late
  induction hleft : first - n using Nat.strongRecOn generalizing n with
  | ind left ih =>
    obtain ⟨m, hm, hreplies | ⟨hearly, hattends, hpausing⟩⟩ :=
      ticks hfair htime hattends hhandling
    · exact ⟨m, hm, hreplies⟩
    · obtain ⟨k, hk, hattends, hsleeping⟩ := pauses hfair hattends hpausing
      obtain ⟨l, hl, hattends, hlooking⟩ := wakes hfair hattends hsleeping
      obtain ⟨m', hm', hreplies⟩ := ih (first - l) (by omega) hattends hlooking rfl
      exact ⟨m', by omega, hreplies⟩

omit hfair in
/-- A choice that expires is begun.  The wire changes nothing but how long it takes. -/
theorem advance_expires (m : Moment) (hexpires : prompt.expires = true) (d : Desk) :
    ∃ sent deadline, Desk.advance m (.fresh (Event.choice prompt).onWire) d =
        (d, .go (.clock sent deadline)) ∧ sent.expiredValue = prompt.expiredValue :=
  ⟨_, _, if_pos hexpires, rfl⟩

/-- A choice that expires is answered with its value for that. -/
theorem expires (hexpires : prompt.expires = true)
    (hattends : Attends wants sink t (run start acts n))
    (hhandling : IsHandling kind (· = .fresh (Event.choice prompt).onWire)
      (run start acts n).loop.phase (run start acts n).shared) :
    ∃ m > n, Attends wants sink t (run start acts m) ∧
      Replies kind (.choice prompt.expiredValue) (run start acts m).loop.phase
        (run start acts m).shared := by
  obtain ⟨m, hm, sent, deadline, hvalue, hattends, hclock⟩ :
      ∃ m > n, ∃ sent deadline, sent.expiredValue = prompt.expiredValue ∧
        Attends wants sink t (run start acts m) ∧
          IsHandling kind (· = .clock sent deadline) (run start acts m).loop.phase
            (run start acts m).shared := by
    refine leads_once hfair (P := IsHandling kind (· = .fresh (Event.choice prompt).onWire))
      (Q := fun b => ∃ sent deadline, sent.expiredValue = prompt.expiredValue ∧
        Attends wants sink t b ∧ IsHandling kind (· = .clock sent deadline) b.loop.phase b.shared)
      ?_ hattends hhandling
    intro k _ m hact hstop hattends hhandling
    rw [run, hact]
    obtain ⟨_, hphase, rfl⟩ := hhandling.task
    obtain ⟨sent, deadline, hadvance, hvalue⟩ :=
      advance_expires m hexpires (run start acts k).loop.state
    exact ⟨sent, deadline, hvalue, hattends.go hhandling hphase hadvance rfl⟩
  obtain ⟨k, hk, hreplies⟩ := ends hfair hattends hclock
  rw [hvalue] at hreplies
  exact ⟨k, by omega, hreplies⟩

end Choices

/-! ## Commands -/

omit hfair in
/-- The commands in the queue begin with the one that is next, as soon as it was accepted. -/
theorem next_command {command : String} {first k : Nat} {d : Desk}
    (hoffer : t.consumed ++ [command] <+: (run start acts first).accepted)
    (hmarks : Marks wants sink (run start acts k).accepted t d) :
    (first ≤ k → d.queue.commands ≠ []) ∧
      ∀ next rest, d.queue.commands = next :: rest → next = command := by
  have hcommands := hmarks.commands
  constructor
  · intro hk hnone
    have hlength := (hoffer.trans (accepted_grows hk)).length_le
    rw [← hcommands, hnone, List.append_nil, List.length_append] at hlength
    exact Nat.not_succ_le_self _ hlength
  · intro next rest hqueue
    rw [hqueue] at hcommands
    have hone := hoffer.trans (accepted_grows (Nat.le_max_left first k))
    have hother : (run start acts k).accepted <+: (run start acts (max first k)).accepted :=
      accepted_grows (Nat.le_max_right first k)
    rw [← hcommands] at hother
    obtain ⟨more, hone⟩ := hone
    obtain ⟨others, hother⟩ := hother
    have hsame := hother.trans hone.symm
    rw [List.append_assoc, List.append_assoc] at hsame
    exact (List.cons.inj (List.append_cancel_left hsame)).1

/-- An input is answered with the next command. -/
theorem hands {command : String} {kind : EventKind}
    (hoffer : ∃ k, t.consumed ++ [command] <+: (run start acts k).accepted)
    (hattends : Attends wants sink t (run start acts n))
    (hhandling : IsHandling kind Desk.Task.IsInput (run start acts n).loop.phase
      (run start acts n).shared) :
    ∃ m > n, Attends wants sink (t.give command) (run start acts m) ∧
      Replies kind (.input true command) (run start acts m).loop.phase
        (run start acts m).shared := by
  obtain ⟨first, hoffer⟩ := hoffer
  refine leads_serve hfair first (P := IsHandling kind Desk.Task.IsInput) remaining
    (Q := fun b => Attends wants sink (t.give command) b ∧
      Replies kind (.input true command) b.loop.phase b.shared) ?_ hattends hhandling
  intro k _ m hact hstop hattends hhandling
  have hmarks := hattends.keeps.marks
  obtain ⟨hthere, hnext⟩ := next_command hoffer hmarks
  rw [run, hact]
  obtain ⟨task, hphase, hinput⟩ := hhandling.task
  rcases hmarks.advance_input hinput hstop hnext with
    ⟨d, hadvance, hgiven⟩ | ⟨next, hadvance, hinput', hlt⟩
  · left
    exact hattends.answer hhandling hphase hadvance hgiven rfl
  · right
    refine ⟨hattends.go hhandling hphase hadvance hinput', ?_⟩
    intro hk
    exact remaining_go hattends hphase hadvance (hlt (hthere hk))

end Loop

/-! ## Conversations -/

section Conversations

variable (hfair : IsFair start acts)

include hfair

/-- An event that the console decides on comes to the desk. -/
theorem asks {event : Event} (hfits : event.Fits) (haction : t.action = .send event)
    (hacting : Acting wants sink t (run start acts n)) :
    ∃ m > n, Attends wants sink t (run start acts m) ∧
      IsHandling event.kind (· = .fresh event.onWire) (run start acts m).loop.phase
        (run start acts m).shared := by
  obtain ⟨k, hk, hattends, harrives⟩ := posts hfair hfits hacting haction
  obtain ⟨m, hm, hhandling⟩ := arrives hfair hattends harrives
  exact ⟨m, by omega, hhandling⟩

/-- A reply of the desk comes to the console. -/
theorem learns {kind : EventKind} {reply : Reply} (hfits : reply.Fits kind)
    (hwire : reply.onWire = reply) (hattends : Attends wants sink t (run start acts n))
    (hreplies : Replies kind reply (run start acts n).loop.phase (run start acts n).shared) :
    ∃ m > n, Acting wants sink (t.hear (.reply reply)) (run start acts m) := by
  obtain ⟨k, hk, hrests, hhears⟩ := replies hfair hfits hattends hreplies
  rw [hwire] at hhears
  obtain ⟨m, hm, hacting⟩ := hears hfair hrests hhears
  exact ⟨m, by omega, hacting⟩

/-- The console sends an event and hears the answer. -/
theorem tells {event : Event} (hfits : event.Fits) (hinput : event.kind ≠ .input)
    (haction : t.action = .send event) (hacting : Acting wants sink t (run start acts n)) :
    ∃ m > n, Acting wants sink (t.tell wants event) (run start acts m) := by
  obtain ⟨k, hk, hattends, hhandling⟩ := asks hfair hfits haction hacting
  obtain ⟨l, hl, hattends', hreplies⟩ : ∃ l > k,
      Attends wants sink (t.receive event) (run start acts l) ∧
        Replies event.kind (Talk.answer wants event) (run start acts l).loop.phase
          (run start acts l).shared := by
    by_cases hexpires : ∀ prompt, event = .choice prompt → prompt.expires = false
    · exact answers hfair hinput hexpires hattends hhandling
    · simp only [not_forall, Bool.not_eq_false] at hexpires
      obtain ⟨prompt, rfl, hexpires⟩ := hexpires
      have hanswer : Talk.answer wants (.choice prompt) = .choice prompt.expiredValue := by
        rw [Talk.answer, if_pos hexpires]
      rw [hanswer]
      exact Bridge.expires hfair hexpires hattends hhandling
  have hanswer : (Talk.answer wants event).Fits event.kind ∧
      (Talk.answer wants event).onWire = Talk.answer wants event := by
    cases event with
    | input prompt echo => exact absurd rfl hinput
    | _ =>
      refine ⟨⟨rfl, ?_⟩, rfl⟩
      intro command hreply
      cases hreply
  obtain ⟨m, hm, hacting⟩ := learns hfair hanswer.1 hanswer.2 hattends' hreplies
  exact ⟨m, by omega, hacting⟩

/-- The console asks for a command and hears the next one. -/
theorem takes {prompt : String} {echo : Bool} {command : String}
    (hfits : (Event.input prompt echo).Fits) (hcommand : FitsField command 10240)
    (hoffer : ∃ k, t.consumed ++ [command] <+: (run start acts k).accepted)
    (haction : t.action = .send (.input prompt echo))
    (hacting : Acting wants sink t (run start acts n)) :
    ∃ m > n, Acting wants sink (t.take command) (run start acts m) := by
  obtain ⟨k, hk, hattends, hhandling⟩ := asks hfair hfits haction hacting
  obtain ⟨l, hl, hattends, hhandling⟩ : ∃ l > k, Attends wants sink t (run start acts l) ∧
      IsHandling .input Desk.Task.IsInput (run start acts l).loop.phase
        (run start acts l).shared := by
    refine leads_once hfair (P := IsHandling .input (· = .fresh (.input prompt echo)))
      (Q := fun b => Attends wants sink t b ∧
        IsHandling .input Desk.Task.IsInput b.loop.phase b.shared) ?_ hattends hhandling
    intro k _ m hact hstop hattends hhandling
    rw [run, hact]
    obtain ⟨_, hphase, rfl⟩ := hhandling.task
    have hadvance : Desk.advance m (.fresh (.input prompt echo)) (run start acts k).loop.state =
        ((run start acts k).loop.state, .go .take) := rfl
    exact hattends.go hhandling hphase hadvance trivial
  obtain ⟨i, hi, hattends, hreplies⟩ := hands hfair hoffer hattends hhandling
  obtain ⟨m, hm, hacting⟩ :=
    learns hfair ((Reply.fits_input command).mpr hcommand) rfl hattends hreplies
  exact ⟨m, by omega, hacting⟩

/-- **A conversation goes on as far as there are commands for it.** -/
theorem comes {t' : Talk} {commands : List String} (hcomes : Talk.Comes wants t commands t')
    (hfits : ∀ c ∈ commands, FitsField c 10240)
    (hoffer : ∃ k, t.consumed ++ commands <+: (run start acts k).accepted)
    (hacting : Acting wants sink t (run start acts n)) :
    ∃ m ≥ n, Acting wants sink t' (run start acts m) := by
  -- on the steps of the conversation; what was consumed so far is what the offer begins with
  induction hcomes generalizing n with
  | refl t => exact ⟨n, Nat.le_refl n, hacting⟩
  | @tell t t' commands event haction hevent hinput _ ih =>
    have hconsumed : (t.tell wants event).consumed = t.consumed := by
      cases event <;> rfl
    obtain ⟨k, hk, hacting⟩ := tells hfair hevent hinput haction hacting
    obtain ⟨m, hm, hacting⟩ := ih hfits (hconsumed ▸ hoffer) hacting
    exact ⟨m, by omega, hacting⟩
  | @take t t' command commands prompt echo haction hevent _ ih =>
    have hwhole : t.consumed ++ command :: commands = (t.take command).consumed ++ commands :=
      List.append_cons t.consumed command commands
    obtain ⟨l, hoffer⟩ := hoffer
    rw [hwhole] at hoffer
    obtain ⟨k, hk, hacting⟩ := takes hfair hevent (hfits command List.mem_cons_self)
      ⟨l, (List.prefix_append _ commands).trans hoffer⟩ haction hacting
    obtain ⟨m, hm, hacting⟩ := ih (fun c hc => hfits c (List.mem_cons_of_mem _ hc))
      ⟨l, hoffer⟩ hacting
    exact ⟨m, by omega, hacting⟩
  | look haction _ ih =>
    obtain ⟨k, hk, hacting⟩ := looks hfair hacting haction
    obtain ⟨m, hm, hacting⟩ := ih hfits hoffer hacting
    exact ⟨m, by omega, hacting⟩

end Conversations

end Bridge

end ConsoleLink
