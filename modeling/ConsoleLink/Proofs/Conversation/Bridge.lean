import ConsoleLink.Proofs.Conversation.Talk
import ConsoleLink.Proofs.Desk.Commands
import ConsoleLink.Proofs.Desk.Progress
import ConsoleLink.Proofs.Desk.Shown

/-!
# A desk and a sample console on one channel

The two take their steps in any order, and commands may be handed in at any time.

* `Bridge.after` is what one of these acts leads to, `Bridge.run` what a sequence of them does.
* `Marks` says what a conversation has left on the desk; `Marks.receive` and `Marks.give` are what
  an event and a command add, and `Marks.advance_input` is a step of the desk at an input.
* `Rests` and `Attends` are the bridge while the console is to act and while the loop is;
  `Rests.other` and `Attends.other` say that everybody else leaves it so, and `Rests.talk`,
  `Attends.serve` and `Attends.advance` are steps of the one whose turn it is.
-/

namespace ConsoleLink

open ServingLoop (Phase)

/-- The progress notification that was delivered, if it is one. -/
def Delivery.progress? {ρ : Type} : Delivery ρ → Option Transfer
  | .line .. => none
  | .progress _ notification => some notification

/-- The progress notifications delivered so far, the oldest first. -/
def Desk.notified (d : Desk) : List Transfer := d.delivered.filterMap Delivery.progress?

/-- The desk of a session and the sample console on one channel. -/
structure Bridge extends Exchange Desk Desk.Task SampleRun where
  /-- The commands that were accepted so far, the oldest first. -/
  accepted : List String := []

namespace Bridge

/-! ## Acts -/

/-- Something that happens on a bridge. -/
inductive Act
  /-- The loop takes a step. -/
  | serve (m : Moment)
  /-- The console takes a step. -/
  | talk (now : Nat)
  /-- A command is handed in. -/
  | enqueue (text : String)

/-- The loop takes a step. -/
def Act.IsServe : Act → Prop
  | serve _ => True
  | _ => False

/-- The console takes a step. -/
def Act.IsTalk : Act → Prop
  | talk _ => True
  | _ => False

/-- The bridge after an act. -/
def after (b : Bridge) : Act → Bridge
  | .serve m =>
    { b with
      toExchange := (Exchange.controller Desk.handler fun e => (e, m.stop)).act m.now b.toExchange }
  | .talk now => { b with toExchange := Exchange.child.act now b.toExchange }
  | .enqueue text =>
    match b.state.enqueue text with
    | (desk, .ok ()) => { toExchange := b.withState desk, accepted := b.accepted ++ [text] }
    | (desk, .error _) => { b with toExchange := b.withState desk }

/-- The bridge after the first acts of a sequence. -/
def run (start : Bridge) (acts : Nat → Act) : Nat → Bridge
  | 0 => start
  | n + 1 => (run start acts n).after (acts n)

variable {b : Bridge}

theorem after_serve (b : Bridge) (m : Moment) :
    b.after (.serve m) =
      { b with
        loop := (b.loop.step Desk.handler m b.shared).1
        shared := (b.loop.step Desk.handler m b.shared).2 } :=
  rfl

theorem after_talk (b : Bridge) (now : Nat) :
    b.after (.talk now) =
      { b with
        partner := (b.partner.step now b.shared).1
        shared := (b.partner.step now b.shared).2 } :=
  rfl

/-- A command that is handed in is behind all others, or is refused. -/
theorem after_enqueue (b : Bridge) (text : String) :
    ∃ new, (∀ c ∈ new, FitsField c 10240) ∧
      b.after (.enqueue text) =
        { b with
          loop := { b.loop with
            state := { b.loop.state with queue := ⟨b.loop.state.queue.commands ++ new⟩ } }
          accepted := b.accepted ++ new } := by
  cases hrefusal : CommandQueue.refusal? text with
  | none =>
    refine ⟨[text], ?_, ?_⟩
    · intro c hc
      rw [List.mem_singleton.mp hc]
      exact Desk.fits_of_refusal? hrefusal
    · simp only [after, Exchange.state, Desk.enqueue, CommandQueue.enqueue_of_accepted _ hrefusal]
      rfl
  | some fault =>
    refine ⟨[], ?_, ?_⟩
    · intro c hc
      cases hc
    · simp only [after, Exchange.state, Desk.enqueue, CommandQueue.enqueue_of_refused _ hrefusal,
        List.append_nil]
      rfl

/-- Only commands that fit are accepted. -/
theorem fits_accepted {start : Bridge} (hnew : start.accepted = []) (acts : Nat → Act) (n : Nat) :
    ∀ c ∈ (run start acts n).accepted, FitsField c 10240 := by
  induction n with
  | zero =>
    rw [run, hnew]
    intro c hc
    cases hc
  | succ n ih =>
    rw [run]
    cases acts n with
    | serve m => exact ih
    | talk now => exact ih
    | enqueue text =>
      obtain ⟨new, hfits, hafter⟩ := after_enqueue (run start acts n) text
      rw [hafter]
      intro c hc
      rcases List.mem_append.mp hc with hold | hnew
      · exact ih c hold
      · exact hfits c hnew

/-- What was accepted stays so. -/
theorem accepted_grows {start : Bridge} {acts : Nat → Act} {n m : Nat} (hle : n ≤ m) :
    (run start acts n).accepted <+: (run start acts m).accepted := by
  induction hle with
  | refl => exact List.prefix_rfl
  | @step m hle ih =>
    refine ih.trans ?_
    rw [run]
    cases acts m with
    | serve moment => exact List.prefix_rfl
    | talk now => exact List.prefix_rfl
    | enqueue text =>
      obtain ⟨new, -, hafter⟩ := after_enqueue (run start acts m) text
      rw [hafter]
      exact List.prefix_append _ new

/-! ## The desk -/

/-- What a conversation has left on a desk. -/
structure Marks (wants : Bool) (sink : Option Unit) (accepted : List String) (t : Talk)
    (d : Desk) : Prop where
  shows : d.Shows t.stream
  asked : d.wantsProgress = wants
  attached : d.receivers.progress = sink
  notified : d.notified = if sink.isSome then t.reports else []
  commands : t.consumed ++ d.queue.commands = accepted

section Marks

variable {wants : Bool} {sink : Option Unit} {accepted : List String} {t : Talk} {d : Desk}

/-- Commands that are handed in leave everything else. -/
theorem Marks.enqueue (h : Marks wants sink accepted t d) (new : List String) :
    Marks wants sink (accepted ++ new) t { d with queue := ⟨d.queue.commands ++ new⟩ } where
  shows := h.shows.of_eq rfl rfl rfl
  asked := h.asked
  attached := h.attached
  notified := h.notified
  commands := by rw [← h.commands, List.append_assoc]

/-- Lines are no notifications. -/
theorem notified_deliver (d : Desk) (given : List (List Char)) :
    (d.deliver given).1.notified = d.notified := by
  have hlines (lines : List String) :
      (d.receivers.emitLines lines).1.filterMap Delivery.progress? = [] := by
    induction lines with
    | nil => rfl
    | cons line lines ih =>
      rw [Receivers.emitLines]
      split
      · rfl
      · split
        · rfl
        · exact ih
  show (d.delivered ++ (d.receivers.emitLines _).1).filterMap Delivery.progress? = _
  rw [List.filterMap_append, hlines, List.append_nil]
  rfl

/-- A fragment that is shown is seen. -/
theorem Marks.showText (h : Marks wants sink accepted t d) (message : String)
    (fromBeginning : Bool) :
    (d.showText message fromBeginning).2 = false ∧
      Marks wants sink accepted { t with stream := t.stream ++ [(message, fromBeginning)] }
        (d.showText message fromBeginning).1 := by
  obtain ⟨hsound, hshows⟩ := h.shows.showText message fromBeginning
  have hnotified := notified_deliver
    { d with output := (d.output.feed message.toList fromBeginning).2 }
    (d.output.feed message.toList fromBeginning).1
  exact ⟨hsound, hshows, h.asked, h.attached, hnotified.trans h.notified, h.commands⟩

/-- A report is passed on to whom it may concern. -/
theorem Marks.report (h : Marks wants sink accepted t d) (report : Report) :
    Marks wants sink accepted (t.receive (.progress report))
      { d with delivered := d.delivered ++ d.receivers.emitProgress (.ofReport report) } := by
  have hsink := h.attached
  have hnotified := h.notified
  refine ⟨h.shows.of_eq rfl ?_ rfl, h.asked, hsink, ?_, h.commands⟩
  · rw [Desk.lines, Desk.lines, List.filterMap_append]
    cases hprogress : d.receivers.progress <;>
      simp [Receivers.emitProgress, hprogress, Delivery.line?]
  · rw [Desk.notified] at hnotified ⊢
    rw [List.filterMap_append, hnotified]
    cases sink with
    | none => simp [Receivers.emitProgress, hsink]
    | some receiver => simp [Receivers.emitProgress, hsink, Delivery.progress?, Talk.receive]

/-- An event for which the desk need not wait is answered at once. -/
theorem Marks.receive (h : Marks wants sink accepted t d) (now : Nat) {event : Event}
    (hinput : event.kind ≠ .input)
    (hexpires : ∀ prompt, event = .choice prompt → prompt.expires = false) :
    ∃ d', Desk.receive now event.onWire d = (d', .reply (Talk.answer wants event)) ∧
      Marks wants sink accepted (t.receive event) d' := by
  cases event with
  | print message fromBeginning =>
    obtain ⟨hsound, hmarks⟩ := h.showText message fromBeginning
    refine ⟨_, ?_, hmarks⟩
    simp only [Event.onWire, Desk.receive, hsound]
    rfl
  | input prompt echo => exact absurd rfl hinput
  | choice prompt =>
    have hstays := hexpires prompt rfl
    refine ⟨d, ?_, h⟩
    simp [Event.onWire, Desk.receive, Talk.answer, hstays]
  | title text => exact ⟨d, rfl, h⟩
  | init =>
    refine ⟨d, ?_, h⟩
    simp only [Event.onWire, Desk.receive, Talk.answer, h.asked]
  | progress report => exact ⟨_, rfl, h.report report⟩

/-- A command is shown and handed out. -/
theorem Marks.give (h : Marks wants sink accepted t d) {command : String} {rest : List String}
    (hcommands : d.queue.commands = command :: rest) :
    ∃ d', Desk.takeCommand d = (d', .reply (.input true command)) ∧
      Marks wants sink accepted (t.give command) d' := by
  have hdequeue : d.queue.dequeue? = some (command, ⟨rest⟩) := by
    rw [CommandQueue.dequeue?, hcommands]
  have htaken : Marks wants sink accepted { t with consumed := t.consumed ++ [command] }
      { d with queue := ⟨rest⟩ } := by
    refine ⟨h.shows.of_eq rfl rfl rfl, h.asked, h.attached, h.notified, ?_⟩
    rw [← h.commands, hcommands, List.append_assoc]
    rfl
  obtain ⟨hsound, hmarks⟩ := htaken.showText (command ++ "\n") false
  refine ⟨_, ?_, hmarks⟩
  simp only [Desk.takeCommand, hdequeue, hsound]
  rfl

/-- An input is answered with the command that is next, or goes on; it comes nearer to its answer
as soon as there is a command. -/
theorem Marks.advance_input (h : Marks wants sink accepted t d) {m : Moment} {task : Desk.Task}
    {command : String} (hinput : task.IsInput) (hstop : m.stop = false)
    (hnext : ∀ next rest, d.queue.commands = next :: rest → next = command) :
    (∃ d', Desk.advance m task d = (d', .reply (.input true command)) ∧
        Marks wants sink accepted (t.give command) d') ∨
      ∃ next, Desk.advance m task d = (d, .go next) ∧ next.IsInput ∧
        (d.queue.commands ≠ [] → next.rank < task.rank) := by
  cases task with
  | take =>
    cases hcommands : d.queue.commands with
    | nil =>
      right
      refine ⟨.ask, ?_, trivial, fun hthere => absurd rfl hthere⟩
      have hdequeue : d.queue.dequeue? = none := by
        rw [CommandQueue.dequeue?, hcommands]
      rw [Desk.advance, Desk.takeCommand, hdequeue]
    | cons next rest =>
      left
      rw [← hnext next rest hcommands]
      exact h.give hcommands
  | ask =>
    right
    refine ⟨.await (m.now + d.pollInterval), ?_, trivial, fun _ => Nat.lt_succ_self 1⟩
    rw [Desk.advance, hstop, if_neg Bool.false_ne_true]
  | await wake =>
    right
    by_cases hover : (!d.queue.isEmpty || wake ≤ m.now) = true
    · refine ⟨.take, ?_, trivial, fun _ => Nat.lt_succ_self 0⟩
      rw [Desk.advance, if_pos hover]
    · refine ⟨.await wake, ?_, trivial, ?_⟩
      · rw [Desk.advance, if_neg hover]
      · intro hthere
        have hempty : d.queue.isEmpty = false := by
          simpa [CommandQueue.isEmpty] using hthere
        simp [hempty] at hover
  | _ => cases hinput

end Marks

/-! ## Whose turn it is -/

/-- What stays the same on a bridge until something is said. -/
structure Keeps (wants : Bool) (sink : Option Unit) (t : Talk) (b : Bridge) : Prop where
  marks : Marks wants sink b.accepted t b.loop.state
  mayServe : b.loop.mayWait = true
  mayTalk : b.partner.mayWait = true
  console : b.partner.console = t.console
  cancel : b.shared.cancel = 0

/-- The loop has nothing to do before the console acts. -/
structure Rests (wants : Bool) (sink : Option Unit) (t : Talk) (b : Bridge) : Prop where
  keeps : Keeps wants sink t b
  ready : b.loop.phase.IsReady
  request : b.shared.request = 0
  going : b.partner.isOver = false

/-- The console waits until the loop has acted. -/
structure Attends (wants : Bool) (sink : Option Unit) (t : Talk) (b : Bridge) : Prop where
  keeps : Keeps wants sink t b
  waits : ∃ client, b.partner.status = .talking client ∧ client.IsPatient ∧ client.phase.IsWaiting
  response : b.shared.response = 0

section Turns

variable {wants : Bool} {sink : Option Unit} {t : Talk}

theorem Keeps.enqueue (h : Keeps wants sink t b) (new : List String) :
    Keeps wants sink t
      { b with
        loop := { b.loop with
          state := { b.loop.state with queue := ⟨b.loop.state.queue.commands ++ new⟩ } }
        accepted := b.accepted ++ new } :=
  ⟨h.marks.enqueue new, h.mayServe, h.mayTalk, h.console, h.cancel⟩

/-- A loop without a request, which is not told to stop, stays ready. -/
theorem step_ready {l : ServingLoop Desk Desk.Task} {m : Moment} {s : Shared}
    (hready : l.phase.IsReady) (hmay : l.mayWait = true) (hrequest : s.request = 0)
    (hstop : m.stop = false) :
    (l.step Desk.handler m s).1.phase.IsReady ∧ (l.step Desk.handler m s).1.state = l.state ∧
      (l.step Desk.handler m s).1.mayWait = true ∧ (l.step Desk.handler m s).2 = s := by
  cases hphase : l.phase with
  | asking => simp [ServingLoop.step, hphase, hstop, ServingLoop.enter, Phase.IsReady, hmay]
  | listening wake =>
    by_cases htime : wake ≤ m.now <;>
      simp [ServingLoop.step, hphase, hmay, hrequest, Signal.take, htime, ServingLoop.enter,
        Phase.IsReady]
  | _ => simp [hphase, Phase.IsReady] at hready

/-- While the console is to act, everybody else leaves it its turn. -/
theorem Rests.other (h : Rests wants sink t b) {act : Act} (htalk : ¬ act.IsTalk)
    (hstop : ∀ m, act = .serve m → m.stop = false) :
    Rests wants sink t (b.after act) ∧ (b.after act).partner = b.partner ∧
      (b.after act).shared = b.shared := by
  cases act with
  | serve m =>
    obtain ⟨hready, hstate, hmay, hshared⟩ :=
      step_ready h.ready h.keeps.mayServe h.request (hstop m rfl)
    have hkeeps := h.keeps
    rw [after_serve]
    refine ⟨⟨⟨?_, hmay, hkeeps.mayTalk, hkeeps.console, ?_⟩, hready, ?_, h.going⟩, rfl, hshared⟩
    · rw [hstate]
      exact hkeeps.marks
    · rw [hshared]
      exact hkeeps.cancel
    · rw [hshared]
      exact h.request
  | talk now => exact absurd trivial htalk
  | enqueue text =>
    obtain ⟨new, -, hafter⟩ := after_enqueue b text
    rw [hafter]
    exact ⟨⟨h.keeps.enqueue new, h.ready, h.request, h.going⟩, rfl, rfl⟩

/-- A console that waits has not ended. -/
theorem Attends.going (h : Attends wants sink t b) : b.partner.isOver = false := by
  obtain ⟨client, hstatus, -⟩ := h.waits
  rw [SampleRun.isOver, SampleRun.exitCode?, hstatus]
  rfl

theorem step_talking {r : SampleRun} {client : Client} (hstatus : r.status = .talking client)
    (hgoing : client.outcome? = none) (now : Nat) (s : Shared) :
    r.step now s =
      ({ r with status := .talking (client.step now s).1 }, (client.step now s).2) := by
  simp only [SampleRun.step, hstatus, hgoing]

theorem outcome?_of_waiting {client : Client} (hwaiting : client.phase.IsWaiting) :
    client.outcome? = none := by
  cases hphase : client.phase with
  | done outcome => simp [hphase, Client.Phase.IsWaiting] at hwaiting
  | _ => simp [Client.outcome?, hphase]

/-- While the loop is to act, everybody else leaves it its turn. -/
theorem Attends.other (h : Attends wants sink t b) {act : Act} (hserve : ¬ act.IsServe) :
    Attends wants sink t (b.after act) ∧ (b.after act).loop.phase = b.loop.phase ∧
      (b.after act).shared = b.shared := by
  have hkeeps := h.keeps
  cases act with
  | serve m => exact absurd trivial hserve
  | talk now =>
    obtain ⟨client, hstatus, hpatient, hwaiting⟩ := h.waits
    rw [after_talk, step_talking hstatus (outcome?_of_waiting hwaiting)]
    rcases Client.step_waiting hpatient hwaiting now b.shared with
      ⟨hstays, hshared⟩ | ⟨left, hleft, -⟩
    · obtain ⟨hlimit, hmay⟩ := Client.step_limit now client b.shared
      have hpatient' : (client.step now b.shared).1.IsPatient :=
        ⟨hlimit.trans hpatient.1, hmay.trans hpatient.2⟩
      rw [hshared]
      exact ⟨⟨⟨hkeeps.marks, hkeeps.mayServe, hkeeps.mayTalk, hkeeps.console, hkeeps.cancel⟩,
        ⟨_, rfl, hpatient', hstays⟩, h.response⟩, rfl, rfl⟩
    · have hresponse := h.response
      omega
  | enqueue text =>
    obtain ⟨new, -, hafter⟩ := after_enqueue b text
    rw [hafter]
    exact ⟨⟨hkeeps.enqueue new, h.waits, h.response⟩, rfl, rfl⟩

/-! ## Steps of the one whose turn it is -/

/-- A step of the console within an exchange. -/
theorem Rests.talk (h : Rests wants sink t b) {now : Nat} {client client' : Client} {s : Shared}
    (hstatus : b.partner.status = .talking client) (hgoing : client.outcome? = none)
    (hstep : client.step now b.shared = (client', s)) (hrequest : s.request = 0)
    (hcancel : s.cancel = b.shared.cancel) :
    Rests wants sink t (b.after (.talk now)) ∧
      (b.after (.talk now)).partner.status = .talking client' ∧
        (b.after (.talk now)).shared = s := by
  have hkeeps := h.keeps
  rw [after_talk, step_talking hstatus hgoing, hstep]
  exact ⟨⟨⟨hkeeps.marks, hkeeps.mayServe, hkeeps.mayTalk, hkeeps.console,
    hcancel.trans hkeeps.cancel⟩, h.ready, hrequest, rfl⟩, rfl, rfl⟩

/-- A step of the loop that leaves the desk. -/
theorem Attends.serve (h : Attends wants sink t b) {m : Moment} {phase : Phase Desk.Task}
    {s : Shared} (hstep : b.loop.step Desk.handler m b.shared = (b.loop.enter phase, s))
    (hresponse : s.response = 0) (hcancel : s.cancel = b.shared.cancel) :
    Attends wants sink t (b.after (.serve m)) ∧ (b.after (.serve m)).loop.phase = phase ∧
      (b.after (.serve m)).shared = s := by
  have hkeeps := h.keeps
  rw [after_serve, hstep]
  exact ⟨⟨⟨hkeeps.marks, hkeeps.mayServe, hkeeps.mayTalk, hkeeps.console,
    hcancel.trans hkeeps.cancel⟩, h.waits, hresponse⟩, rfl, rfl⟩

/-- A step of the desk, which may leave its mark. -/
theorem Attends.advance (h : Attends wants sink t b) {m : Moment} {task : Desk.Task} {d : Desk}
    {move : Move Desk.Task} {t' : Talk} (hphase : b.loop.phase = .handling task)
    (hadvance : Desk.advance m task b.loop.state = (d, move))
    (hmarks : Marks wants sink b.accepted t' d) (hconsole : t'.console = t.console) :
    Attends wants sink t' (b.after (.serve m)) ∧
      (b.after (.serve m)).loop.phase = .after move ∧ (b.after (.serve m)).shared = b.shared := by
  have hkeeps := h.keeps
  rw [after_serve, ServingLoop.step_handling (h := Desk.handler) b.shared hphase hadvance]
  exact ⟨⟨⟨hmarks, hkeeps.mayServe, hkeeps.mayTalk, hkeeps.console.trans hconsole.symm,
    hkeeps.cancel⟩, h.waits, h.response⟩, rfl, rfl⟩

end Turns

end Bridge

end ConsoleLink
