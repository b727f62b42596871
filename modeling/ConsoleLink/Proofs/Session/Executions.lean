import ConsoleLink.Proofs.Desk.Progress
import ConsoleLink.Proofs.Objects.Signals
import ConsoleLink.Proofs.Session.Serving

/-!
# What goes on for ever

An execution goes on from a state of a session without end.  If the loop and the watcher take
their turns again and again, the loop gets on with every request.

* `eventually_of_rank` is the rule for what happens in the end: a rank that every turn lowers and
  nobody else raises.
* `Execution` is an execution, `IsFair` says that both threads take their turns, and `GoesWell`
  that nothing happens which ends the service.
* `turn`, `still` are what a turn of the loop does and what everybody else leaves.
* `takes`, `begins`, `answersInput`, `answersChoice` and `posts` lead a request from its arrival to
  its response, and `answers` puts them together.
-/

namespace ConsoleLink

open ServingLoop (Phase)

/-- A rank that nobody raises, and that every turn lowers from some time on, comes to an end. -/
theorem eventually_of_rank {acts P Q : Nat → Prop} {r : Nat → Nat} (first : Nat)
    (hfair : ∀ n, ∃ m ≥ n, acts m)
    (hother : ∀ n, P n → ¬ acts n → P (n + 1) ∧ r (n + 1) ≤ r n)
    (hact : ∀ n, P n → acts n → Q (n + 1) ∨ P (n + 1) ∧ (first ≤ n → r (n + 1) < r n))
    {n : Nat} (hP : P n) : ∃ m > n, Q m := by
  have hstep (n : Nat) (hP : P n) : Q (n + 1) ∨ P (n + 1) := by
    by_cases hnow : acts n
    · exact (hact n hP hnow).imp_right And.left
    · exact Or.inr (hother n hP hnow).1
  have hstays (d : Nat) : (∃ m > n, Q m) ∨ P (n + d) := by
    induction d with
    | zero => exact Or.inr hP
    | succ d ih =>
      rcases ih with hQ | hP
      · exact Or.inl hQ
      · exact (hstep _ hP).imp_left fun hQ => ⟨n + d + 1, by omega, hQ⟩
  have hends (n : Nat) (hn : first ≤ n) (hP : P n) : ∃ m > n, Q m := by
    induction hrank : r n using Nat.strongRecOn generalizing n with
    | ind k ih =>
      obtain ⟨m, hm, hacts⟩ := hfair n
      obtain ⟨d, rfl⟩ := Nat.exists_eq_add_of_le hm
      clear hm
      -- on the number of steps before the next turn
      induction d generalizing n with
      | zero =>
        rcases hact n hP hacts with hQ | ⟨hP', hlt⟩
        · exact ⟨n + 1, by omega, hQ⟩
        · obtain ⟨m, hm, hQ⟩ := ih _ (hrank ▸ hlt hn) (n + 1) (by omega) hP' rfl
          exact ⟨m, by omega, hQ⟩
      | succ d ihd =>
        have hlater : Q (n + 1) ∨ P (n + 1) ∧ r (n + 1) ≤ r n := by
          by_cases hnow : acts n
          · exact (hact n hP hnow).imp_right fun h => ⟨h.1, Nat.le_of_lt (h.2 hn)⟩
          · exact Or.inr (hother n hP hnow)
        rcases hlater with hQ | ⟨hP', hle⟩
        · exact ⟨n + 1, by omega, hQ⟩
        · have hnext : ∃ m > n + 1, Q m := by
            rcases Nat.lt_or_eq_of_le hle with hlt | heq
            · exact ih _ (hrank ▸ hlt) (n + 1) (by omega) hP' rfl
            · refine ihd (n + 1) (by omega) hP' (heq.trans hrank) ?_
              rw [show n + 1 + d = n + (d + 1) by omega]
              exact hacts
          obtain ⟨m, hm, hQ⟩ := hnext
          exact ⟨m, by omega, hQ⟩
  rcases hstays first with hQ | hP'
  · exact hQ
  · obtain ⟨m, hm, hQ⟩ := hends (n + first) (by omega) hP'
    exact ⟨m, by omega, hQ⟩

namespace Scene

variable {γ : Type}

/-! ## Turns -/

/-- The requests that nobody has taken. -/
def requests (c : Scene γ) : Nat :=
  c.session.channel.elim 0 fun channel => (channel.shared c.system).request

/-- The responses that nobody has taken. -/
def responses (c : Scene γ) : Nat :=
  c.session.channel.elim 0 fun channel => (channel.shared c.system).response

/-- The requests that are not answered: those that nobody has taken, and the one that the loop is
at work on. -/
def outstanding (c : Scene γ) : Nat := c.requests + c.session.serving.elim 0 Phase.busy

/-- A turn of the loop of a session that goes on: what the loop made of its phase and of what it
shares. -/
structure Turn (c c' : Scene γ) (m : Moment) (phase : Phase Desk.Task) (channel : Channel)
    (after : ServingLoop Desk Desk.Task) (shared : Shared) : Prop where
  stop : m.stop = false
  here : c.session.serving = some phase
  before : c.session.channel = some channel
  step : (c.session.loopAt phase).step Desk.handler m (channel.shared c.system) = (after, shared)
  going : after.phase.IsGoing
  serving : c'.session.serving = some after.phase
  desk : c'.session.desk = after.state
  held : c'.session.channel = some channel
  system : c'.system = channel.setShared c.system shared

namespace Turn

variable {c c' : Scene γ} {m : Moment} {phase : Phase Desk.Task} {channel : Channel}
  {after : ServingLoop Desk Desk.Task} {shared : Shared}

theorem counts (turn : Turn c c' m phase channel after shared) :
    c.requests = c.system.count channel.request.id ∧
      c.responses = c.system.count channel.response.id ∧
        c'.requests = (channel.setShared c.system shared).count channel.request.id ∧
          c'.responses = (channel.setShared c.system shared).count channel.response.id := by
  unfold requests responses
  rw [turn.before, turn.held, turn.system]
  exact ⟨rfl, rfl, rfl, rfl⟩

/-- Only to take requests and to post responses does the loop touch the signals. -/
theorem counts_eq (turn : Turn c c' m phase channel after shared) {bytes : Envelope}
    (hshared : shared = { channel.shared c.system with envelope := bytes }) :
    c'.requests = c.requests ∧ c'.responses = c.responses := by
  obtain ⟨hrequests, hresponses, hrequests', hresponses'⟩ := turn.counts
  rw [hshared, Channel.count_envelope] at hrequests' hresponses'
  exact ⟨hrequests'.trans hrequests.symm, hresponses'.trans hresponses.symm⟩

/-- The response that a turn may post. -/
theorem responses_eq (turn : Turn c c' m .signalling channel after shared)
    (hresponse : (c.system.owner? .event channel.response.id).isSome = true) :
    c'.responses = c.responses + 1 := by
  have hnext := ServingLoop.going_signalling (m := m) (l := c.session.loopAt .signalling)
    (s := channel.shared c.system) rfl
  rw [turn.step] at hnext
  obtain ⟨-, rfl⟩ := hnext turn.going
  obtain ⟨-, hresponses, -, hresponses'⟩ := turn.counts
  rw [hresponses', hresponses]
  exact (channel.count_response c.system).2 hresponse

/-- A turn settles no more than it posts responses. -/
theorem outstanding_le (turn : Turn c c' m phase channel after shared)
    (hresponse : (c.system.owner? .event channel.response.id).isSome = true) :
    c.outstanding ≤ c'.outstanding + (c'.responses - c.responses) := by
  obtain ⟨hrequests, -, hrequests', -⟩ := turn.counts
  have hshared := ServingLoop.going_shared (m := m) (l := c.session.loopAt phase)
    (s := channel.shared c.system)
  rw [turn.step] at hshared
  unfold outstanding
  rw [turn.here, turn.serving, Option.elim_some, Option.elim_some]
  rcases hshared turn.going with ⟨⟨bytes, hsame⟩, hbusy⟩ |
    ⟨⟨left, hleft, rfl⟩, hidle, hbusy⟩ | ⟨rfl, hphase, hbusy⟩
  · have hcounts := (turn.counts_eq hsame).1
    have hbusy' : after.phase.busy = phase.busy := hbusy
    omega
  · have htaken : left ≤ c'.requests := by
      rw [hrequests']
      exact channel.count_request c.system hleft
    have hbusy' : after.phase.busy = 1 := hbusy
    have hbefore : c.requests = left + 1 := hrequests.trans hleft
    have hidle' : phase.busy = 0 := hidle
    omega
  · have hsignalling : phase = .signalling := hphase
    subst hsignalling
    have hkept : c.requests ≤ c'.requests := by
      rw [hrequests, hrequests']
      exact (channel.count_response c.system).1 channel.request.id
    have hposted := turn.responses_eq hresponse
    have hbusy' : (Phase.signalling : Phase Desk.Task).busy = 1 := rfl
    omega

/-- A turn with an event. -/
theorem handled {task : Desk.Task} (turn : Turn c c' m (.handling task) channel after shared) :
    after.phase = .after (Desk.advance m task c.session.desk).2 ∧
      c'.session.desk = (Desk.advance m task c.session.desk).1 ∧
        shared = channel.shared c.system := by
  have hstep := ServingLoop.step_desk (l := c.session.loopAt (.handling task)) rfl m
    (channel.shared c.system)
  rw [turn.step] at hstep
  exact ⟨hstep.1, turn.desk.trans hstep.2.1, hstep.2.2⟩

/-- Unless the receiver breaks down, a step of the desk that is the last one leads to a reply. -/
theorem replies {task : Desk.Task} (turn : Turn c c' m (.handling task) channel after shared)
    (hlast : Desk.Move.IsLast (Desk.advance m task c.session.desk).2) :
    ∃ phase, c'.session.serving = some phase ∧ phase.IsReplying := by
  have hgoing := turn.going
  rw [turn.handled.1] at hgoing
  refine ⟨after.phase, turn.serving, ?_⟩
  rw [turn.handled.1]
  exact ServingLoop.after_isLast hlast hgoing

end Turn

/-! ## Executions -/

variable [Program γ]

/-- Something that goes on for ever from a state of a session. -/
structure Execution (s : Scene γ × Current) where
  state : Nat → Scene γ × Current
  label : Nat → Label γ
  start : state 0 = s
  step : ∀ n, Step (label n) (state n) (state (n + 1))

theorem Step.serve_scene {s s' : Scene γ × Current} {now : Nat} (step : Step (.serve now) s s') :
    s'.1 = s.1.serve now := by
  cases step
  rfl

theorem Step.watch_scene {s s' : Scene γ × Current} {now : Nat} (step : Step (.watch now) s s') :
    s'.1 = s.1.watch now := by
  cases step
  rfl

namespace Execution

variable {s : Scene γ × Current}

/-- The scene after some steps. -/
def scene (e : Execution s) (n : Nat) : Scene γ := (e.state n).1

/-- The loop takes a turn. -/
def Serves (e : Execution s) (n : Nat) : Prop := ∃ now, e.label n = .serve now

/-- The watcher takes a turn. -/
def Watches (e : Execution s) (n : Nat) : Prop := ∃ now, e.label n = .watch now

/-- Where the loop is. -/
def IsAt (e : Execution s) (P : Phase Desk.Task → Prop) (n : Nat) : Prop :=
  ∃ phase, (e.scene n).session.serving = some phase ∧ P phase

/-- The loop and the watcher take turns again and again, and time passes. -/
structure IsFair (e : Execution s) : Prop where
  serves : ∀ n, ∃ m ≥ n, e.Serves m
  watches : ∀ n, ∃ m ≥ n, e.Watches m
  clock : ∀ time, ∃ n, ∀ m ≥ n, ∀ now, e.label m = .serve now ∨ e.label m = .watch now → time ≤ now

/-- Nobody tells the session to stop, the child does not end, and nothing goes wrong with the
loop. -/
structure GoesWell (e : Execution s) : Prop where
  undisturbed : ∀ n, (∀ account, e.label n ≠ .abort account) ∧ e.label n ≠ .dispose
  alive : ∀ n, (e.scene n).hasExited.2 = false
  sound : ∀ n, ∀ phase ∈ (e.scene n).session.serving, ¬ phase.IsFaulty

/-- Only the loop takes requests, and an input that waits for a command gets one. -/
structure IsUsed (e : Execution s) : Prop where
  posts : ∀ n, ¬ e.Serves n → (e.scene n).requests ≤ (e.scene (n + 1)).requests
  commands : ∀ n, e.IsAt Phase.IsInput n →
    ∃ m ≥ n, (e.scene m).session.desk.queue.isEmpty = false

variable {e : Execution s} {n : Nat}

theorem isServed (hchild : KeepsTables γ) (hserved : IsServed s) (hwell : e.GoesWell) (n : Nat) :
    IsServed (e.state n) := by
  induction n with
  | zero =>
    rw [e.start]
    exact hserved
  | succ n ih =>
    exact (e.step n).isServed hchild ih (hwell.undisturbed n).1 (hwell.undisturbed n).2

theorem scene_serve {now : Nat} (hlabel : e.label n = .serve now) :
    e.scene (n + 1) = (e.scene n).serve now := by
  have step := e.step n
  rw [hlabel] at step
  exact step.serve_scene

theorem scene_watch {now : Nat} (hlabel : e.label n = .watch now) :
    e.scene (n + 1) = (e.scene n).watch now := by
  have step := e.step n
  rw [hlabel] at step
  exact step.watch_scene

/-- The loop goes on. -/
theorem going (hserved : IsServed (e.state n)) (hwell : e.GoesWell) : e.IsAt Phase.IsGoing n := by
  obtain ⟨phase, hserving, hstopped⟩ := hserved.serving
  refine ⟨phase, hserving, hwell.sound n phase hserving, fun h => ?_⟩
  have hexited := hasExited_of_recorded hserved.child (hstopped h)
  have halive := hwell.alive n
  unfold scene at halive
  rw [hexited] at halive
  cases halive

/-- A turn of the loop, which is not told to stop. -/
theorem turn (hserved : IsServed (e.state n)) (hafter : IsServed (e.state (n + 1)))
    (hwell : e.GoesWell) {now : Nat} (hlabel : e.label n = .serve now) {phase : Phase Desk.Task}
    (hserving : (e.scene n).session.serving = some phase) :
    ∃ channel after shared,
      Turn (e.scene n) (e.scene (n + 1)) ⟨now, false⟩ phase channel after shared := by
  obtain ⟨channel, hchannel⟩ := Option.isSome_iff_exists.mp hserved.channel
  have hscene := scene_serve hlabel
  obtain ⟨c', stop, hsaw, heq⟩ := serve_eq hserving hchannel hserved.stopped now
  have hstop : stop = false := by
    rw [← Bool.not_eq_true]
    intro hstop
    have halive := hwell.alive n
    rw [(hsaw.stop hstop).1] at halive
    cases halive
  have hnext : e.scene (n + 1) = _ := hscene.trans heq
  rw [hstop] at hnext
  have hchannel' : (e.scene (n + 1)).session.channel = some channel := by
    rw [hscene, (serve_frame now _).channel]
    exact hchannel
  obtain ⟨phase', hphase', hgoing⟩ := going hafter hwell
  refine ⟨channel,
    (((e.scene n).session.loopAt phase).step Desk.handler ⟨now, false⟩
      (channel.shared (e.scene n).system)).1,
    (((e.scene n).session.loopAt phase).step Desk.handler ⟨now, false⟩
      (channel.shared (e.scene n).system)).2,
    rfl, hserving, hchannel, rfl, ?_, ?_, ?_, hchannel', ?_⟩
  · rw [hnext] at hphase'
    cases hphase'
    exact hgoing
  · rw [hnext]
    rfl
  · rw [hnext]
    rfl
  · rw [hnext]

/-- Everybody else leaves the loop and its commands. -/
theorem still (hchild : KeepsTables γ) (hserved : IsServed (e.state n)) (hwell : e.GoesWell)
    (hothers : ¬ e.Serves n) :
    (e.scene (n + 1)).session.serving = (e.scene n).session.serving ∧
      ((e.scene n).session.desk.queue.isEmpty = false →
        (e.scene (n + 1)).session.desk.queue.isEmpty = false) := by
  obtain ⟨-, ⟨-, haside⟩ | ⟨w, executable, arguments, -, hscene⟩ | ⟨now, hlabel, -⟩ |
      ⟨now, -, hscene⟩⟩ :=
    (e.step n).aside hchild hserved.current (hwell.undisturbed n).1 (hwell.undisturbed n).2
  · exact ⟨haside.serving, haside.commands⟩
  · rw [((e.state n).1.start_late w executable arguments (Or.inr hserved.started)).1] at hscene
    unfold scene
    rw [hscene]
    exact ⟨rfl, id⟩
  · exact absurd ⟨now, hlabel⟩ hothers
  · obtain ⟨watcher, hwatcher, -⟩ := hserved.watcher
    obtain ⟨h, hprocess⟩ := Option.isSome_iff_exists.mp hserved.process
    obtain ⟨child, hsome⟩ := Option.isSome_iff_exists.mp hserved.child
    unfold scene
    rw [hscene, watch_eq hwatcher hprocess hsome hserved.stopped now]
    exact ⟨rfl, id⟩

/-! ## Progress -/

section Progress

variable (hchild : KeepsTables γ) (hserved : IsServed s) (hfair : e.IsFair) (hwell : e.GoesWell)

include hchild hserved hfair hwell

/-- The rule for the loop: `K` is what everybody else keeps, and from some time on a turn lowers
the rank. -/
theorem leads (first : Nat) {K : Nat → Prop} (hkeeps : ∀ n, K n → ¬ e.Serves n → K (n + 1))
    {P : Phase Desk.Task → Prop} (rank : Phase Desk.Task → Nat) {Q : Nat → Prop}
    (hturn : ∀ n now phase channel after shared, e.label n = .serve now → K n → P phase →
      Turn (e.scene n) (e.scene (n + 1)) ⟨now, false⟩ phase channel after shared →
        Q (n + 1) ∨
          K (n + 1) ∧ P after.phase ∧ (first ≤ n → rank after.phase < rank phase))
    (hK : K n) (hat : e.IsAt P n) : ∃ m > n, Q m := by
  refine eventually_of_rank first (P := fun n => K n ∧ e.IsAt P n)
    (r := fun n => (e.scene n).session.serving.elim 0 rank) hfair.serves
    (fun n hP hothers => ?_) (fun n hP hserves => ?_) ⟨hK, hat⟩
  · obtain ⟨hK, phase, hserving, hphase⟩ := hP
    have hsame := (still hchild (isServed hchild hserved hwell n) hwell hothers).1
    rw [hsame]
    exact ⟨⟨hkeeps n hK hothers, phase, hsame.trans hserving, hphase⟩, Nat.le_refl _⟩
  · obtain ⟨hK, phase, hserving, hphase⟩ := hP
    obtain ⟨now, hlabel⟩ := hserves
    obtain ⟨channel, after, shared, turn⟩ := turn (isServed hchild hserved hwell n)
      (isServed hchild hserved hwell (n + 1)) hwell hlabel hserving
    rcases hturn n now phase channel after shared hlabel hK hphase turn with
      hQ | ⟨hK', hphase', hlt⟩
    · exact Or.inl hQ
    · refine Or.inr ⟨⟨hK', after.phase, turn.serving, hphase'⟩, fun hn => ?_⟩
      rw [turn.serving, hserving]
      exact hlt hn

/-- The rule for one turn. -/
theorem leads_once {P : Phase Desk.Task → Prop} {Q : Nat → Prop}
    (hturn : ∀ n now phase channel after shared, e.label n = .serve now → P phase →
      Turn (e.scene n) (e.scene (n + 1)) ⟨now, false⟩ phase channel after shared → Q (n + 1))
    (hat : e.IsAt P n) : ∃ m > n, Q m :=
  leads hchild hserved hfair hwell 0 (K := fun _ => True) (fun _ _ _ => trivial) (fun _ => 0)
    (fun n now phase channel after shared hlabel _ hphase turn =>
      Or.inl (hturn n now phase channel after shared hlabel hphase turn)) trivial hat

/-- A request that waits is taken. -/
theorem takes (hused : e.IsUsed) (hrequest : 0 < (e.scene n).requests)
    (hat : e.IsAt Phase.IsReady n) : ∃ m > n, e.IsAt (· = .reading) m := by
  refine leads hchild hserved hfair hwell 0 (K := fun n => 0 < (e.scene n).requests)
    (fun n hK hothers => Nat.lt_of_lt_of_le hK (hused.posts n hothers))
    Phase.rank (fun n now phase channel after shared _ hK hphase turn => ?_)
    hrequest hat
  cases phase with
  | asking =>
    have hstep := ServingLoop.step_asking (l := (e.scene n).session.loopAt .asking) Desk.handler
      ⟨now, false⟩ (channel.shared (e.scene n).system) rfl
    rw [turn.step] at hstep
    obtain ⟨rfl, hphase⟩ := hstep
    rw [hphase]
    refine Or.inr ⟨?_, trivial, fun _ => Nat.zero_lt_one⟩
    rw [(turn.counts_eq rfl).1]
    exact hK
  | listening wake =>
    obtain ⟨left, hleft⟩ := Nat.exists_eq_add_of_le' hK
    have hrequest : (channel.shared (e.scene n).system).request = left + 1 :=
      turn.counts.1.symm.trans hleft
    obtain ⟨rfl, rfl⟩ :=
      Prod.mk.inj (turn.step.symm.trans (ServingLoop.step_listening rfl hrequest _))
    exact Or.inl ⟨.reading, turn.serving, rfl⟩
  | _ => cases hphase

/-- The event of a request is answered at once, or the desk waits for a command or for a time. -/
theorem begins (hat : e.IsAt Phase.IsNew n) :
    ∃ m > n, e.IsAt (fun phase => phase.IsReplying ∨ phase.IsWaiting) m := by
  refine leads hchild hserved hfair hwell 0 (K := fun _ => True) (fun _ _ _ => trivial)
    Phase.rank (fun n now phase channel after shared _ _ hphase turn => ?_)
    trivial hat
  rcases hphase with rfl | ⟨event, rfl⟩
  · have hnext := ServingLoop.going_reading (m := ⟨now, false⟩)
      (l := (e.scene n).session.loopAt .reading) (s := channel.shared (e.scene n).system) rfl
    rw [turn.step] at hnext
    obtain ⟨-, event, hphase⟩ := hnext turn.going
    refine Or.inr ⟨trivial, Or.inr ⟨event, hphase⟩, fun _ => ?_⟩
    rw [hphase]
    exact Nat.zero_lt_one
  · left
    obtain ⟨hphase, -, -⟩ := turn.handled
    rcases Desk.advance_fresh ⟨now, false⟩ event (e.scene n).session.desk with
      hlast | htake | ⟨prompt, deadline, hclock⟩
    · obtain ⟨phase, hserving, hreply⟩ := turn.replies hlast
      exact ⟨phase, hserving, Or.inl hreply⟩
    · rw [htake] at hphase
      exact ⟨after.phase, turn.serving, Or.inr (Or.inl ⟨.take, hphase, trivial⟩)⟩
    · rw [hclock] at hphase
      exact ⟨after.phase, turn.serving,
        Or.inr (Or.inr ⟨deadline, .clock prompt deadline, hphase, rfl⟩)⟩

/-- An input is answered. -/
theorem answersInput (hused : e.IsUsed)
    (hat : e.IsAt Phase.IsInput n) :
    ∃ m > n, e.IsAt Phase.IsReplying m := by
  obtain ⟨first, hlater, hcommand⟩ := hused.commands n hat
  have hnow : first ≤ n → (e.scene n).session.desk.queue.isEmpty = false := by
    intro hn
    obtain rfl : first = n := Nat.le_antisymm hn hlater
    exact hcommand
  refine leads hchild hserved hfair hwell first
    (K := fun n => first ≤ n → (e.scene n).session.desk.queue.isEmpty = false)
    (fun n hK hothers hn => ?_) Phase.rank
    (fun n now phase channel after shared _ hK hphase turn => ?_) hnow hat
  · rcases Nat.lt_or_eq_of_le hn with hlt | rfl
    · exact (still hchild (isServed hchild hserved hwell n) hwell hothers).2 (hK (by omega))
    · exact hcommand
  · obtain ⟨task, rfl, hinput⟩ := hphase
    obtain ⟨hphase, hdesk, -⟩ := turn.handled
    rw [hphase]
    by_cases hn : first ≤ n
    · rcases Desk.advance_hasCommand (m := ⟨now, false⟩) rfl hinput (hK hn) with
        hlast | ⟨next, hnext, hinput', hlt⟩
      · exact Or.inl (turn.replies hlast)
      · rw [hnext] at hdesk ⊢
        refine Or.inr ⟨fun _ => ?_, ⟨next, rfl, hinput'⟩, fun _ => hlt⟩
        rw [hdesk]
        exact hK hn
    · rcases Desk.advance_input ⟨now, false⟩ hinput (e.scene n).session.desk with
        hlast | ⟨next, hnext, hinput'⟩
      · exact Or.inl (turn.replies hlast)
      · rw [hnext]
        refine Or.inr ⟨fun hn' => ?_, ⟨next, rfl, hinput'⟩, fun hn' => absurd hn' hn⟩
        obtain rfl : first = n + 1 := by omega
        exact hcommand

/-- A choice is answered when the clock is looked at and its time is over. -/
theorem answersLate {deadline first : Nat}
    (htime : ∀ m ≥ first, ∀ now, e.label m = .serve now → deadline ≤ now) (hn : first ≤ n)
    (hat : e.IsAt (fun phase => ∃ prompt, phase = .handling (.clock prompt deadline)) n) :
    ∃ m > n, e.IsAt Phase.IsReplying m := by
  refine leads hchild hserved hfair hwell 0 (K := fun n => first ≤ n)
    (fun n hK _ => Nat.le_succ_of_le hK) (fun _ => 0)
    (fun n now phase channel after shared hlabel hK hphase turn => ?_) hn hat
  obtain ⟨prompt, rfl⟩ := hphase
  refine Or.inl (turn.replies (Or.inr ⟨.choice prompt.expiredValue, ?_⟩))
  simp only [Desk.advance, htime n hK now hlabel, ↓reduceIte]

/-- A pause of a choice comes to an end. -/
theorem wakes {prompt : Prompt} {deadline wake : Nat}
    (hat : e.IsAt (· = .handling (.sleep prompt deadline wake)) n) :
    ∃ m > n, e.IsAt (fun phase => ∃ prompt, phase = .handling (.clock prompt deadline)) m := by
  obtain ⟨first, htime⟩ := hfair.clock wake
  refine leads hchild hserved hfair hwell first (K := fun _ => True) (fun _ _ _ => trivial)
    (fun _ => 0) (fun n now phase channel after shared hlabel _ hphase turn => ?_) trivial hat
  subst hphase
  have hphase := turn.handled.1
  simp only [Desk.advance] at hphase
  split at hphase
  · exact Or.inl ⟨after.phase, turn.serving, prompt, hphase⟩
  · rename_i hearly
    exact Or.inr ⟨trivial, hphase, fun hn => absurd (htime n hn now (Or.inl hlabel)) hearly⟩

/-- A choice that is not told to stop pauses. -/
theorem pauses {prompt : Prompt} {deadline seen : Nat}
    (hat : e.IsAt (· = .handling (.askChoice prompt deadline seen)) n) :
    ∃ m > n, e.IsAt (fun phase => ∃ wake, phase = .handling (.sleep prompt deadline wake)) m := by
  refine leads_once hchild hserved hfair hwell
    (fun n now phase channel after shared _ hphase turn => ?_) hat
  subst hphase
  exact ⟨after.phase, turn.serving, _, turn.handled.1⟩

/-- A choice is answered. -/
theorem answersChoice {deadline : Nat} (hat : e.IsAt (Phase.IsChoice deadline) n) :
    ∃ m > n, e.IsAt Phase.IsReplying m := by
  obtain ⟨first, htime⟩ := hfair.clock deadline
  have hlate {n : Nat} (hn : first ≤ n) := answersLate hchild hserved hfair hwell
    (fun m hm now hlabel => htime m hm now (Or.inl hlabel)) hn
  -- either it is answered, or its time is over
  obtain ⟨m, hm, hreply | ⟨hfirst, phase, hserving, task, rfl, hdeadline⟩⟩ :
      ∃ m > n, e.IsAt Phase.IsReplying m ∨ first ≤ m ∧ e.IsAt (Phase.IsChoice deadline) m := by
    refine leads hchild hserved hfair hwell first (K := fun _ => True) (fun _ _ _ => trivial)
      (fun _ => 0) (fun n now phase channel after shared hlabel _ hphase turn => ?_) trivial hat
    obtain ⟨task, rfl, hdeadline⟩ := hphase
    rcases Desk.advance_choice ⟨now, false⟩ hdeadline (e.scene n).session.desk with
      hlast | ⟨next, hnext, hdeadline'⟩
    · exact Or.inl (Or.inl (turn.replies hlast))
    · have hphase := turn.handled.1
      rw [hnext] at hphase
      by_cases hn : first ≤ n
      · exact Or.inl (Or.inr ⟨Nat.le_succ_of_le hn, after.phase, turn.serving, next, hphase,
          hdeadline'⟩)
      · exact Or.inr ⟨trivial, ⟨next, hphase, hdeadline'⟩, fun hn' => absurd hn' hn⟩
  · exact ⟨m, hm, hreply⟩
  · have hslept {k : Nat} (hk : m ≤ k) {prompt : Prompt} {wake : Nat}
        (hsleep : e.IsAt (· = .handling (.sleep prompt deadline wake)) k) :
        ∃ m > n, e.IsAt Phase.IsReplying m := by
      obtain ⟨l, hl, hclock⟩ := wakes hchild hserved hfair hwell hsleep
      obtain ⟨l', hl', hreply⟩ := hlate (by omega) hclock
      exact ⟨l', by omega, hreply⟩
    cases task with
    | clock prompt time =>
      cases hdeadline
      obtain ⟨k, hk, hreply⟩ := hlate hfirst ⟨_, hserving, prompt, rfl⟩
      exact ⟨k, by omega, hreply⟩
    | askChoice prompt time seen =>
      cases hdeadline
      obtain ⟨k, hk, phase, hserving', wake, rfl⟩ :=
        pauses hchild hserved hfair hwell ⟨_, hserving, rfl⟩
      exact hslept (Nat.le_of_lt hk) ⟨_, hserving', rfl⟩
    | sleep prompt time wake =>
      cases hdeadline
      exact hslept (Nat.le_refl m) ⟨_, hserving, rfl⟩
    | fresh | take | ask | await => cases hdeadline

/-- A reply is written, and the loop comes to post the response. -/
theorem posts (hat : e.IsAt Phase.IsReplying n) :
    ∃ m > n, e.IsAt (· = .signalling) m := by
  refine leads_once hchild hserved hfair hwell
    (fun n now phase channel after shared _ hphase turn => ?_) hat
  obtain ⟨reply, rfl⟩ := hphase
  have hnext := ServingLoop.going_replying (m := ⟨now, false⟩)
    (l := (e.scene n).session.loopAt (.replying reply)) (s := channel.shared (e.scene n).system) rfl
  rw [turn.step] at hnext
  exact ⟨after.phase, turn.serving, (hnext turn.going).1⟩

/-- Whatever the desk waits for, the loop comes to post a response. -/
theorem answersWaiting (hused : e.IsUsed) (hat : e.IsAt Phase.IsWaiting n) :
    ∃ m > n, e.IsAt (· = .signalling) m := by
  obtain ⟨m, hm, hreply⟩ : ∃ m > n, e.IsAt Phase.IsReplying m := by
    obtain ⟨phase, hserving, hinput | ⟨deadline, hchoice⟩⟩ := hat
    · exact answersInput hchild hserved hfair hwell hused ⟨phase, hserving, hinput⟩
    · exact answersChoice hchild hserved hfair hwell ⟨phase, hserving, hchoice⟩
  obtain ⟨k, hk, hsignalling⟩ := posts hchild hserved hfair hwell hreply
  exact ⟨k, by omega, hsignalling⟩

theorem answersNew (hused : e.IsUsed) (hat : e.IsAt Phase.IsNew n) :
    ∃ m > n, e.IsAt (· = .signalling) m := by
  obtain ⟨m, hm, phase, hserving, hreply | hwaits⟩ := begins hchild hserved hfair hwell hat
  · obtain ⟨k, hk, hsignalling⟩ := posts hchild hserved hfair hwell ⟨phase, hserving, hreply⟩
    exact ⟨k, by omega, hsignalling⟩
  · obtain ⟨k, hk, hsignalling⟩ :=
      answersWaiting hchild hserved hfair hwell hused ⟨phase, hserving, hwaits⟩
    exact ⟨k, by omega, hsignalling⟩

/-- Wherever the loop is, it comes to post a response if there is a request to be answered. -/
theorem answers (hused : e.IsUsed) (houtstanding : 0 < (e.scene n).outstanding) :
    ∃ m ≥ n, e.IsAt (· = .signalling) m := by
  obtain ⟨phase, hserving, hgoing⟩ := going (isServed hchild hserved hwell n) hwell
  rcases hgoing.cases with hready | hnew | hwaits | hreply | hsignalling
  · have hrequest : 0 < (e.scene n).requests := by
      unfold outstanding at houtstanding
      rw [hserving, Option.elim_some, Phase.busy_of_ready hready] at houtstanding
      exact houtstanding
    obtain ⟨m, hm, phase, hserving', hreading⟩ :=
      takes hchild hserved hfair hwell hused hrequest ⟨phase, hserving, hready⟩
    obtain ⟨k, hk, hsignalling⟩ :=
      answersNew hchild hserved hfair hwell hused ⟨phase, hserving', Or.inl hreading⟩
    exact ⟨k, by omega, hsignalling⟩
  · obtain ⟨k, hk, hsignalling⟩ :=
      answersNew hchild hserved hfair hwell hused ⟨phase, hserving, hnew⟩
    exact ⟨k, by omega, hsignalling⟩
  · obtain ⟨k, hk, hsignalling⟩ :=
      answersWaiting hchild hserved hfair hwell hused ⟨phase, hserving, hwaits⟩
    exact ⟨k, by omega, hsignalling⟩
  · obtain ⟨k, hk, hsignalling⟩ := posts hchild hserved hfair hwell ⟨phase, hserving, hreply⟩
    exact ⟨k, by omega, hsignalling⟩
  · exact ⟨n, Nat.le_refl n, phase, hserving, hsignalling⟩

end Progress

end Execution

end Scene

end ConsoleLink
