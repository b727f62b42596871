import ConsoleLink.Proofs.Conversation.Answers

/-!
# How a conversation ends

Once the console has ended the loop is told to stop.  It gives out what was held back, and nothing
happens any more but that commands may be handed in.

* `Leaving` and `Left` are the bridge before and after the loop has ended; `Leaving.serve` is a
  step of the loop, and `stops` and `leaves` say that it ends.
* `IsOpened` is a bridge on which nothing has happened.
* `conversation_ends` is what a whole conversation comes to.
-/

namespace ConsoleLink

open ServingLoop (Phase)

/-- A run that is over does nothing. -/
theorem SampleRun.step_of_isOver {r : SampleRun} (hover : r.isOver = true) (now : Nat)
    (s : Shared) : r.step now s = (r, s) := by
  cases hstatus : r.status with
  | talking client => simp [isOver, exitCode?, hstatus] at hover
  | asking => simp [isOver, exitCode?, hstatus] at hover
  | _ => simp only [step, hstatus]

namespace Bridge

variable {start b : Bridge} {acts : Nat → Act} {wants : Bool} {sink : Option Unit} {t : Talk}
  {n : Nat}

/-! ## The end of the loop -/

/-- The console has ended, and the loop has not. -/
structure Leaving (wants : Bool) (sink : Option Unit) (t : Talk) (b : Bridge) : Prop where
  marks : Marks wants sink b.accepted t b.loop.state
  mayServe : b.loop.mayWait = true
  phase : b.loop.phase.IsReady ∨ b.loop.phase = .closing (.ok ())
  request : b.shared.request = 0
  status : b.partner.status = .ended 0

/-- Both have ended. -/
structure Left (sink : Option Unit) (t : Talk) (b : Bridge) : Prop where
  status : b.partner.status = .ended 0
  phase : b.loop.phase = .ended (.ok ())
  lines : b.loop.state.lines =
    (Terminal.lines (Terminal.ofStream t.stream).shown).map String.ofList
  notified : b.loop.state.notified = if sink.isSome then t.reports else []
  commands : t.consumed ++ b.loop.state.queue.commands = b.accepted

/-- How far a loop that will be told to stop is from its end. -/
def toEnd : Phase Desk.Task → Nat
  | .listening _ => 2
  | .asking => 1
  | _ => 0

theorem toEnd_le (phase : Phase Desk.Task) : toEnd phase ≤ 2 := by
  cases phase <;> simp [toEnd]

/-- A desk that finishes gives out what was held back. -/
theorem Marks.finish {accepted : List String} {d : Desk} (h : Marks wants sink accepted t d) :
    Desk.handler.finish d = (d.flush.1, false) ∧
      d.flush.1.lines = (Terminal.lines (Terminal.ofStream t.stream).shown).map String.ofList ∧
        d.flush.1.notified = if sink.isSome then t.reports else [] := by
  obtain ⟨hsound, hlines⟩ := h.shows.flush
  have hnotified := notified_deliver { d with output := d.output.finish.2 } d.output.finish.1
  refine ⟨?_, hlines, hnotified.trans h.notified⟩
  rw [← hsound]
  rfl

/-- A step of the loop after the console has ended: it ends, or it comes nearer to that once it is
told to stop, or it waits. -/
theorem Leaving.serve (h : Leaving wants sink t b) (m : Moment) :
    Left sink t (b.after (.serve m)) ∨
      Leaving wants sink t (b.after (.serve m)) ∧
        (m.stop = true → toEnd (b.after (.serve m)).loop.phase < toEnd b.loop.phase ∨
          ∃ wake, m.now < wake ∧ b.loop.phase = .listening wake ∧
            (b.after (.serve m)).loop.phase = .listening wake) := by
  have hleaving {phase : Phase Desk.Task}
      (hstep : b.loop.step Desk.handler m b.shared = (b.loop.enter phase, b.shared))
      (hphase : phase.IsReady ∨ phase = .closing (.ok ())) :
      Leaving wants sink t (b.after (.serve m)) := by
    rw [after_serve, hstep]
    exact ⟨h.marks, h.mayServe, hphase, h.request, h.status⟩
  cases hphase : b.loop.phase with
  | asking =>
    right
    cases hstop : m.stop with
    | false =>
      have hstep : b.loop.step Desk.handler m b.shared =
          (b.loop.enter (.listening (m.now + b.loop.pollInterval)), b.shared) := by
        simp [ServingLoop.step, hphase, hstop]
      refine ⟨hleaving hstep (Or.inl trivial), ?_⟩
      intro htold
      cases htold
    | true =>
      have hstep : b.loop.step Desk.handler m b.shared =
          (b.loop.enter (.closing (.ok ())), b.shared) := by
        simp [ServingLoop.step, hphase, hstop]
      refine ⟨hleaving hstep (Or.inr rfl), fun _ => Or.inl ?_⟩
      rw [after_serve, hstep]
      exact Nat.zero_lt_one
  | listening wake =>
    right
    by_cases htime : wake ≤ m.now
    · have hstep : b.loop.step Desk.handler m b.shared = (b.loop.enter .asking, b.shared) := by
        simp [ServingLoop.step, hphase, h.mayServe, h.request, Signal.take, htime]
      refine ⟨hleaving hstep (Or.inl trivial), fun _ => Or.inl ?_⟩
      rw [after_serve, hstep]
      exact Nat.lt_succ_self 1
    · have hstep : b.loop.step Desk.handler m b.shared = (b.loop, b.shared) := by
        simp [ServingLoop.step, hphase, h.mayServe, h.request, Signal.take, htime]
      rw [after_serve, hstep]
      exact ⟨h, fun _ => Or.inr ⟨wake, Nat.lt_of_not_le htime, rfl, hphase⟩⟩
  | closing outcome =>
    left
    obtain rfl : outcome = .ok () := by
      rcases h.phase with hready | hclosing
      · rw [hphase] at hready
        cases hready
      · rw [hphase] at hclosing
        cases hclosing
        rfl
    obtain ⟨hfinish, hlines, hnotified⟩ := h.marks.finish
    have hstep : b.loop.step Desk.handler m b.shared =
        ({ b.loop with state := b.loop.state.flush.1, phase := .ended (.ok ()) }, b.shared) := by
      simp only [ServingLoop.step, hphase, hfinish]
    rw [after_serve, hstep]
    exact ⟨h.status, rfl, hlines, hnotified, h.marks.commands⟩
  | _ =>
    rcases h.phase with hready | hclosing
    · rw [hphase] at hready
      cases hready
    · rw [hphase] at hclosing
      cases hclosing

/-- A console that has ended does nothing. -/
theorem after_talk_of_ended (hstatus : b.partner.status = .ended 0) (now : Nat) :
    b.after (.talk now) = b := by
  have hstep : b.partner.step now b.shared = (b.partner, b.shared) := by
    simp only [SampleRun.step, hstatus]
  rw [after_talk, hstep]

/-- Everybody but the loop leaves it where it is. -/
theorem Leaving.other (h : Leaving wants sink t b) {act : Act} (hserve : ¬ act.IsServe) :
    Leaving wants sink t (b.after act) ∧ (b.after act).loop.phase = b.loop.phase := by
  cases act with
  | serve m => exact absurd trivial hserve
  | talk now =>
    rw [after_talk_of_ended h.status]
    exact ⟨h, rfl⟩
  | enqueue text =>
    obtain ⟨new, -, hafter⟩ := after_enqueue b text
    rw [hafter]
    exact ⟨⟨h.marks.enqueue new, h.mayServe, h.phase, h.request, h.status⟩, rfl⟩

/-- When both have ended, only commands may still be handed in. -/
theorem Left.after (h : Left sink t b) (act : Act) : Left sink t (b.after act) := by
  cases act with
  | serve m =>
    have hstep : b.loop.step Desk.handler m b.shared = (b.loop, b.shared) := by
      simp only [ServingLoop.step, h.phase]
    rw [after_serve, hstep]
    exact h
  | talk now =>
    rw [after_talk_of_ended h.status]
    exact h
  | enqueue text =>
    obtain ⟨new, -, hafter⟩ := after_enqueue b text
    rw [hafter]
    refine ⟨h.status, h.phase, h.lines, h.notified, ?_⟩
    rw [← h.commands, List.append_assoc]

theorem Left.run (h : Left sink t (run start acts n)) {m : Nat} (hm : n ≤ m) :
    Left sink t (Bridge.run start acts m) := by
  induction hm with
  | refl => exact h
  | @step m _ ih => exact ih.after (acts m)

/-- The console goes on leaving until the loop has ended. -/
theorem Leaving.run (h : Leaving wants sink t (run start acts n)) {m : Nat} (hm : n ≤ m) :
    Leaving wants sink t (Bridge.run start acts m) ∨ Left sink t (Bridge.run start acts m) := by
  induction hm with
  | refl => exact Or.inl h
  | @step m _ ih =>
    rcases ih with hleaving | hleft
    · by_cases hserve : (acts m).IsServe
      · obtain ⟨moment, hact⟩ := Act.exists_of_isServe hserve
        rw [Bridge.run, hact]
        exact (hleaving.serve moment).symm.imp_left And.left
      · exact Or.inl (hleaving.other hserve).1
    · exact Or.inr (hleft.after (acts m))

/-- A loop that is told to stop from now on ends. -/
theorem stops (hfair : IsFair start acts) (hleaving : Leaving wants sink t (run start acts n))
    (htold : ∀ m ≥ n, ∀ moment, acts m = .serve moment → moment.stop = true) :
    ∃ k > n, Left sink t (run start acts k) := by
  obtain ⟨wake, hwake⟩ : ∃ wake, ∀ time,
      (run start acts n).loop.phase = .listening time → time = wake := by
    cases hphase : (run start acts n).loop.phase with
    | listening wake => exact ⟨wake, fun time htime => (Phase.listening.inj htime).symm⟩
    | _ =>
      refine ⟨0, ?_⟩
      intro time htime
      cases htime
  obtain ⟨first, htime⟩ := hfair.clock wake
  -- it begins no other wait
  refine eventually_of_rank first
    (P := fun k => n ≤ k ∧ Leaving wants sink t (run start acts k) ∧
      ∀ time, (run start acts k).loop.phase = .listening time → time = wake)
    (Q := fun k => Left sink t (run start acts k))
    (r := fun k => toEnd (run start acts k).loop.phase) hfair.serves ?_ ?_
    ⟨Nat.le_refl n, hleaving, hwake⟩
  · intro k hP hother
    obtain ⟨hk, hleaving, hwake⟩ := hP
    obtain ⟨hleaving', hphase⟩ := hleaving.other hother
    simp only [run, hphase]
    exact ⟨⟨Nat.le_succ_of_le hk, hleaving', hwake⟩, Nat.le_refl _⟩
  · intro k hP hacts
    obtain ⟨hk, hleaving, hwake⟩ := hP
    obtain ⟨m, hact⟩ := Act.exists_of_isServe hacts
    rw [run, hact]
    rcases hleaving.serve m with hleft | ⟨hleaving', hnearer⟩
    · exact Or.inl hleft
    right
    rcases hnearer (htold k hk m hact) with hlt | ⟨time, hearly, hbefore, hafter⟩
    · refine ⟨⟨Nat.le_succ_of_le hk, hleaving', ?_⟩, fun _ => hlt⟩
      intro time hlistening
      rw [hlistening] at hlt
      exact absurd hlt (Nat.not_lt.mpr (toEnd_le _))
    · refine ⟨⟨Nat.le_succ_of_le hk, hleaving', ?_⟩, ?_⟩
      · intro other hlistening
        obtain rfl : time = other := Phase.listening.inj (hafter.symm.trans hlistening)
        exact hwake time hbefore
      · intro hfirst
        have hlate := htime k hfirst m hact
        have hsame := hwake time hbefore
        omega

/-- Once the console has ended the loop ends too. -/
theorem leaves (hfair : IsFair start acts) (hleaving : Leaving wants sink t (run start acts n)) :
    ∃ k, Left sink t (run start acts k) := by
  have hover : (run start acts n).partner.isOver = true := by
    rw [SampleRun.isOver, SampleRun.exitCode?, hleaving.status]
    rfl
  obtain ⟨told, htold⟩ := hfair.told n hover
  rcases hleaving.run (Nat.le_max_left n told) with hleaving | hleft
  · have hlater : ∀ m ≥ max n told, ∀ moment, acts m = .serve moment → moment.stop = true :=
      fun m hm => htold m (Nat.le_trans (Nat.le_max_right n told) hm)
    obtain ⟨k, -, hleft⟩ := stops hfair hleaving hlater
    exact ⟨k, hleft⟩
  · exact ⟨_, hleft⟩

/-! ## Whole conversations -/

/-- A bridge on which nothing has happened, with somebody who receives the lines. -/
structure IsOpened (start : Bridge) : Prop where
  asking : start.loop.phase = .asking
  mayServe : start.loop.mayWait = true
  receiver : start.loop.state.receivers.output = some { receiver := () }
  output : start.loop.state.output = {}
  delivered : start.loop.state.delivered = []
  queue : start.loop.state.queue.commands = []
  partner : start.partner = SampleRun.start
  request : start.shared.request = 0
  response : start.shared.response = 0
  cancel : start.shared.cancel = 0
  accepted : start.accepted = []

/-- The console is about to begin. -/
theorem IsOpened.acting (h : IsOpened start) :
    Acting start.loop.state.wantsProgress start.loop.state.receivers.progress {} start := by
  have hlines : start.loop.state.lines = [] := by
    rw [Desk.lines, h.delivered]
    rfl
  have hnotified : start.loop.state.notified = [] := by
    rw [Desk.notified, h.delivered]
    rfl
  have hshows : start.loop.state.Shows [] := by
    refine ⟨h.receiver, ?_⟩
    rw [h.output, hlines]
    exact Output.renders_nil
  have hmarks : Marks start.loop.state.wantsProgress start.loop.state.receivers.progress
      start.accepted {} start.loop.state := by
    refine ⟨hshows, rfl, rfl, ?_, ?_⟩
    · rw [hnotified, ite_self]
    · rw [h.queue, h.accepted]
      rfl
  have hready : start.loop.phase.IsReady := by
    rw [h.asking]
    trivial
  refine ⟨⟨hmarks, h.mayServe, ?_, ?_, h.cancel⟩, hready, h.request, h.response, ?_⟩
  · rw [h.partner]
    rfl
  · rw [h.partner]
    rfl
  · rw [h.partner]
    rfl

/-- Whatever commands are accepted, and whenever, if both sides take their turns again and again
and nobody asks the console to give up: as soon as one of the commands is to end the console, and
the console is able to obey those before it,

* the console ends with code zero, and the loop ends without a fault;
* exactly the commands up to the first one that ends the console have been handed out, and all
  others wait in the queue;
* exactly the lines have been delivered that make up the greeting and, for each of these commands,
  the prompt, the command and its effect;
* exactly the steps of each `progress` have been reported, if the console was told to report and
  somebody receives the reports. -/
theorem conversation_ends {before rest : List String} {last : String} (hopened : IsOpened start)
    (hfair : IsFair start acts) (haccepted : (run start acts n).accepted = before ++ last :: rest)
    (hbefore : ∀ c ∈ before, SampleConsole.verb c ≠ "exit")
    (hsmall : ∀ c ∈ before, SampleConsole.IsSmall c) (hlast : SampleConsole.verb last = "exit") :
    ∃ k, ∀ m ≥ k,
      (run start acts m).partner.exitCode? = some 0 ∧
        (run start acts m).loop.outcome? = some (.ok ()) ∧
        (run start acts m).accepted =
          before ++ last :: (run start acts m).loop.state.queue.commands ∧
        (run start acts m).loop.state.lines =
          (Terminal.lines (SampleConsole.transcript (before ++ [last]))).map String.ofList ∧
        (run start acts m).loop.state.notified =
          if start.loop.state.receivers.progress.isSome then
            before.flatMap (SampleConsole.notifications start.loop.state.wantsProgress)
          else [] := by
  have hfits := fits_accepted hopened.accepted acts n
  rw [haccepted] at hfits
  obtain ⟨t, hcomes, haction, hconsumed, hreports, hseen⟩ :=
    Talk.comes_exit start.loop.state.wantsProgress
      (fun c hc => hfits c (List.mem_append_left _ hc)) hsmall hbefore hlast
  have hwhole : before ++ last :: rest = before ++ [last] ++ rest :=
    List.append_cons before last rest
  have hoffer : ∃ k, ({} : Talk).consumed ++ (before ++ [last]) <+:
      (run start acts k).accepted := by
    refine ⟨n, ?_⟩
    rw [haccepted, hwhole]
    exact List.prefix_append _ rest
  have hfits' : ∀ c ∈ before ++ [last], FitsField c 10240 := by
    intro c hc
    rw [hwhole] at hfits
    exact hfits c (List.mem_append_left rest hc)
  obtain ⟨l, -, hacting⟩ := comes (n := 0) hfair hcomes hfits' hoffer hopened.acting
  have hleaving : Leaving start.loop.state.wantsProgress start.loop.state.receivers.progress t
      (run start acts l) := by
    refine ⟨hacting.keeps.marks, hacting.keeps.mayServe, Or.inl hacting.ready, hacting.request, ?_⟩
    rw [hacting.status, haction]
    rfl
  obtain ⟨k, hleft⟩ := leaves hfair hleaving
  refine ⟨k, ?_⟩
  intro m hm
  have hleft := hleft.run hm
  refine ⟨?_, ?_, ?_, ?_, ?_⟩
  · rw [SampleRun.exitCode?, hleft.status]
  · rw [ServingLoop.outcome?, hleft.phase]
  · rw [← hleft.commands, hconsumed]
    exact (List.append_cons before last _).symm
  · rw [hleft.lines, hseen]
  · rw [hleft.notified, hreports]

/-! ## Taking turns -/

/-- What happens next if commands are handed in first and both sides then take turns. -/
def turn (commands : List String) (b : Bridge) (n : Nat) : Act :=
  match commands[n]? with
  | some text => .enqueue text
  | none => if n % 2 = 0 then .talk n else .serve { now := n, stop := b.partner.isOver }

/-- The bridge after some turns. -/
def play (start : Bridge) (commands : List String) : Nat → Bridge
  | 0 => start
  | n + 1 => (play start commands n).after (turn commands (play start commands n) n)

/-- The acts of which the turns consist. -/
def turns (start : Bridge) (commands : List String) (n : Nat) : Act :=
  turn commands (play start commands n) n

theorem run_turns (start : Bridge) (commands : List String) (n : Nat) :
    run start (turns start commands) n = play start commands n := by
  induction n with
  | zero => rfl
  | succ n ih =>
    rw [run, ih]
    rfl

/-- A console that has ended stays so. -/
theorem isOver_after (hover : b.partner.isOver = true) (act : Act) :
    (b.after act).partner.isOver = true := by
  cases act with
  | serve m => exact hover
  | talk now =>
    rw [after_talk, SampleRun.step_of_isOver hover]
    exact hover
  | enqueue text =>
    obtain ⟨new, -, hafter⟩ := after_enqueue b text
    rw [hafter]
    exact hover

theorem turn_of_le {commands : List String} (hn : commands.length ≤ n) (b : Bridge) :
    turn commands b n =
      if n % 2 = 0 then .talk n else .serve { now := n, stop := b.partner.isOver } := by
  rw [turn, List.getElem?_eq_none hn]

/-- Only the loop is told what time it is and whether to stop. -/
theorem turn_eq_serve {commands : List String} {m : Moment} (hturn : turn commands b n = .serve m) :
    m = { now := n, stop := b.partner.isOver } := by
  rw [turn] at hturn
  split at hturn
  · cases hturn
  · split at hturn
    · cases hturn
    · exact (Act.serve.inj hturn).symm

theorem isFair_turns (start : Bridge) (commands : List String) :
    IsFair start (turns start commands) where
  serves n := by
    refine ⟨2 * (n + commands.length) + 1, by omega, ?_⟩
    rw [turns, turn_of_le (by omega), if_neg (by omega)]
    trivial
  talks n := by
    refine ⟨2 * (n + commands.length), by omega, ?_⟩
    rw [turns, turn_of_le (by omega), if_pos (by omega)]
    trivial
  clock time := by
    refine ⟨time, fun m hm moment hact => ?_⟩
    rw [turn_eq_serve hact]
    exact hm
  patient n moment hact hstop := by
    rw [turn_eq_serve hact] at hstop
    rw [run_turns]
    exact hstop
  told n hover := by
    refine ⟨n, fun m hm moment hact => ?_⟩
    rw [turn_eq_serve hact, ← run_turns]
    clear hact
    induction hm with
    | refl => exact hover
    | @step m _ ih => exact isOver_after ih _

/-- A bridge on which somebody receives lines and reports. -/
def opened : Bridge where
  loop :=
    { state :=
        { receivers := { output := some { receiver := () }, progress := some () }
          wantsProgress := true }
      pollInterval := 0 }
  partner := .start

/-- A bar of one step is seen once and reported twice; the command behind the one that ends the
console waits. -/
theorem conversation_ends_progress :
    IsOpened opened ∧ IsFair opened (turns opened ["progress 1", "exit", "echo"]) ∧
      (run opened (turns opened ["progress 1", "exit", "echo"]) 3).accepted =
        ["progress 1", "exit", "echo"] ∧
      ∃ k, ∀ m ≥ k,
        (run opened (turns opened ["progress 1", "exit", "echo"]) m).partner.exitCode? = some 0 ∧
          (run opened (turns opened ["progress 1", "exit", "echo"]) m).loop.state.lines =
            ["Sample console ready", "sample> progress 1", "sample.bin 100%", "sample> exit",
              "Bye"] ∧
          (run opened (turns opened ["progress 1", "exit", "echo"]) m).loop.state.notified.length =
            2 := by
  have hopened : IsOpened opened := ⟨rfl, rfl, rfl, rfl, rfl, rfl, rfl, rfl, rfl, rfl, rfl⟩
  have hfair := isFair_turns opened ["progress 1", "exit", "echo"]
  have haccepted : (run opened (turns opened ["progress 1", "exit", "echo"]) 3).accepted =
      ["progress 1", "exit", "echo"] := by
    decide
  have hbefore : ∀ c ∈ ["progress 1"], SampleConsole.verb c ≠ "exit" := by decide
  have hsmall : ∀ c ∈ ["progress 1"], SampleConsole.IsSmall c := by
    intro c hc
    rw [List.mem_singleton.mp hc]
    exact ⟨fun h => absurd (by decide) h, fun _ => by decide⟩
  have hparts : (run opened (turns opened ["progress 1", "exit", "echo"]) 3).accepted =
      ["progress 1"] ++ "exit" :: ["echo"] := haccepted
  obtain ⟨k, hk⟩ := conversation_ends hopened hfair hparts hbefore hsmall (by decide)
  refine ⟨hopened, hfair, haccepted, k, ?_⟩
  intro m hm
  obtain ⟨hcode, -, -, hlines, hnotified⟩ := hk m hm
  refine ⟨hcode, ?_, ?_⟩
  · rw [hlines]
    decide
  · rw [hnotified]
    rfl

end Bridge

end ConsoleLink
