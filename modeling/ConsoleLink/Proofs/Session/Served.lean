import ConsoleLink.Proofs.Session.Executions
import ConsoleLink.Proofs.Session.LifeCycle

/-!
# A started session is served

Unless the session was told to stop, a start that came out well leaves a serving loop and a watcher
that go on until the child ends, something goes wrong, or the session is told to stop.

* `Execution.answered` counts the responses that the loop posts; `Execution.balance` relates it to
  the requests that are not answered.
* `Execution.looks` follows the watcher.
* `started_is_served` puts it together, and `aborted_start` is the start that is not served: an
  abort before the start is not forgotten.
-/

namespace ConsoleLink

open ServingLoop (Phase)

namespace Scene

variable {γ : Type} [Program γ] {config : Config} {receivers : Receivers Unit} {initial : System}
  {log : List (Entry γ)} {s : Scene γ × Current}

/-! ## The response signal -/

/-- As long as the session holds a channel, its response signal is there. -/
theorem Run.response_isSome (hchild : KeepsTables γ) (run : Run config receivers initial log s)
    {channel : Channel} (hchannel : s.1.session.channel = some channel) :
    (s.1.system.owner? .event channel.response.id).isSome = true := by
  obtain ⟨made, first, lives⟩ := run.lives hchild
  have hmade : made = some channel := by
    rcases lives.channel with ⟨hsame, -⟩ | ⟨hnone, -⟩
    · rw [← hsame, hchannel]
    · rw [hnone] at hchannel
      cases hchannel
  obtain ⟨account, hbalanced⟩ := lives.balanced
  unfold channelHandles at hbalanced
  rw [hchannel] at hbalanced
  obtain ⟨hheld, -⟩ := lives.held channel hmade
  have hfor : channel.response.IsFor (.event, channel.names.response) := by
    cases hheld with
    | cons _ hrest => cases hrest with
      | cons hfor _ => exact hfor
  have hmem : channel.response ∈ channel.handles := List.mem_cons_of_mem _ List.mem_cons_self
  have howned :=
    hbalanced.owned (account, channel.response) (List.mem_map_of_mem hmem) hfor.owner
  rw [hfor.kind] at howned
  rw [howned.1]
  rfl

namespace Execution

variable {e : Execution s} {n : Nat}

theorem run (run : Run config receivers initial log s) (e : Execution s) (n : Nat) :
    ∃ log', Run config receivers initial log' (e.state n) := by
  induction n with
  | zero =>
    rw [e.start]
    exact ⟨log, run⟩
  | succ n ih =>
    obtain ⟨log', run'⟩ := ih
    exact ⟨_, run'.step (e.step n)⟩

/-! ## The balance of requests and responses -/

/-- The responses that the loop posts in a step. -/
def posted (e : Execution s) (n : Nat) : Nat :=
  match e.label n with
  | .serve _ => (e.scene (n + 1)).responses - (e.scene n).responses
  | _ => 0

/-- The responses that the loop has posted so far. -/
def answered (e : Execution s) : Nat → Nat
  | 0 => 0
  | n + 1 => e.answered n + e.posted n

theorem answered_succ (e : Execution s) (n : Nat) :
    e.answered (n + 1) = e.answered n + e.posted n := rfl

theorem posted_serve {now : Nat} (hlabel : e.label n = .serve now) :
    e.posted n = (e.scene (n + 1)).responses - (e.scene n).responses := by
  unfold posted
  rw [hlabel]

theorem answered_mono (e : Execution s) {n m : Nat} (hle : n ≤ m) :
    e.answered n ≤ e.answered m := by
  induction hle with
  | refl => exact Nat.le_refl _
  | step _ ih => exact Nat.le_trans ih (Nat.le_add_right _ _)

section Balance

variable (hchild : KeepsTables γ) (hserved : IsServed s) (hwell : e.GoesWell)
  (hresponse : ∀ n channel, (e.scene n).session.channel = some channel →
    ((e.scene n).system.owner? .event channel.response.id).isSome = true)

include hchild hserved hwell hresponse

/-- A request is settled only by a response. -/
theorem balance_step (hused : e.IsUsed) :
    (e.scene n).outstanding + e.answered n ≤
      (e.scene (n + 1)).outstanding + e.answered (n + 1) := by
  have hnow := isServed hchild hserved hwell n
  by_cases hserves : e.Serves n
  · obtain ⟨now, hlabel⟩ := hserves
    obtain ⟨phase, hserving, -⟩ := going hnow hwell
    obtain ⟨channel, after, shared, turn⟩ :=
      turn hnow (isServed hchild hserved hwell (n + 1)) hwell hlabel hserving
    have hle := turn.outstanding_le (hresponse n channel turn.before)
    have hposted := posted_serve hlabel
    have hanswered := e.answered_succ n
    omega
  · have hposts := hused.posts n hserves
    have hsame := (still hchild hnow hwell hserves).1
    have hanswered := e.answered_succ n
    unfold outstanding
    rw [hsame]
    omega

theorem balance (hused : e.IsUsed) {m : Nat} (hle : n ≤ m) :
    (e.scene n).outstanding + e.answered n ≤ (e.scene m).outstanding + e.answered m := by
  induction hle with
  | refl => exact Nat.le_refl _
  | step _ ih => exact Nat.le_trans ih (balance_step hchild hserved hwell hresponse hused)

/-- A request that is outstanding leads to a response. -/
theorem answered_lt (hfair : e.IsFair) (hused : e.IsUsed)
    (houtstanding : 0 < (e.scene n).outstanding) : ∃ m > n, e.answered n < e.answered m := by
  obtain ⟨m, hm, hat⟩ := answers hchild hserved hfair hwell hused houtstanding
  obtain ⟨k, hk, hlt⟩ : ∃ k > m, e.answered (k - 1) < e.answered k := by
    refine leads_once hchild hserved hfair hwell
      (fun n now phase channel after shared hlabel hphase turn => ?_) hat
    subst hphase
    have hresponses := turn.responses_eq (hresponse n channel turn.before)
    have hposted := posted_serve hlabel
    have hanswered := e.answered_succ n
    rw [Nat.add_sub_cancel]
    omega
  have hle := e.answered_mono (show n ≤ k - 1 by omega)
  exact ⟨k, by omega, by omega⟩

/-- As many responses are posted as requests are outstanding. -/
theorem settles (hfair : e.IsFair) (hused : e.IsUsed) :
    ∃ m ≥ n, (e.scene n).outstanding + e.answered n ≤ e.answered m := by
  -- on the responses that are still to be posted
  have hreaches (target left n : Nat) (hleft : target ≤ e.answered n + left)
      (htarget : target ≤ (e.scene n).outstanding + e.answered n) :
      ∃ m ≥ n, target ≤ e.answered m := by
    induction left generalizing n with
    | zero => exact ⟨n, Nat.le_refl n, hleft⟩
    | succ left ih =>
      by_cases hdone : target ≤ e.answered n
      · exact ⟨n, Nat.le_refl n, hdone⟩
      · obtain ⟨m, hm, hlt⟩ :=
          answered_lt hchild hserved hwell hresponse hfair hused (n := n) (by omega)
        have hbalance :=
          balance hchild hserved hwell hresponse hused (show n ≤ m by omega)
        obtain ⟨k, hk, hreached⟩ := ih m (by omega) (by omega)
        exact ⟨k, by omega, hreached⟩
  exact hreaches _ (e.scene n).outstanding n (Nat.le_of_eq (Nat.add_comm _ _)) (Nat.le_refl _)

end Balance

/-! ## The watcher -/

/-- The watcher looks whether the child has ended, and what it finds out is recorded. -/
structure Looks (e : Execution s) (n : Nat) : Prop where
  watches : e.Watches n
  looking : (e.scene n).session.watcher = some .looking
  recorded : (e.scene (n + 1)).exitCode? = (e.scene n).hasExited.1.exitCode?

/-- Everybody else leaves the watcher. -/
theorem watcher_still (hchild : KeepsTables γ) (hserved : IsServed (e.state n))
    (hwell : e.GoesWell) (hothers : ¬ e.Watches n) :
    (e.scene (n + 1)).session.watcher = (e.scene n).session.watcher := by
  obtain ⟨-, ⟨-, haside⟩ | ⟨w, executable, arguments, -, hscene⟩ | ⟨now, -, hscene⟩ |
      ⟨now, hlabel, -⟩⟩ :=
    (e.step n).aside hchild hserved.current (hwell.undisturbed n).1 (hwell.undisturbed n).2
  · exact haside.watcher
  · rw [((e.state n).1.start_late w executable arguments (Or.inr hserved.started)).1] at hscene
    unfold scene
    rw [hscene]
  · obtain ⟨phase, hserving, -⟩ := hserved.serving
    obtain ⟨channel, hchannel⟩ := Option.isSome_iff_exists.mp hserved.channel
    obtain ⟨c', stop, hsaw, heq⟩ := serve_eq hserving hchannel hserved.stopped now
    unfold scene
    rw [hscene, heq]
    show c'.session.watcher = _
    rw [hsaw.session]
  · exact absurd ⟨now, hlabel⟩ hothers

/-- A turn of the watcher, which is not told to stop. -/
theorem watched (hserved : IsServed (e.state n)) {now : Nat} (hlabel : e.label n = .watch now)
    {watcher : ProcessHandle.Watcher} (hwatcher : (e.scene n).session.watcher = some watcher) :
    ∃ interval h child, (e.scene n).session.process = some h ∧ (e.scene n).child = some child ∧
      (e.scene (n + 1)).session.watcher =
        some (ProcessHandle.watchStep interval now false watcher h child).1 ∧
      (e.scene (n + 1)).session.process =
        some (ProcessHandle.watchStep interval now false watcher h child).2.1 := by
  obtain ⟨h, hprocess⟩ := Option.isSome_iff_exists.mp hserved.process
  obtain ⟨child, hchild⟩ := Option.isSome_iff_exists.mp hserved.child
  refine ⟨(e.scene n).session.config.pollInterval, h, child, hprocess, hchild, ?_⟩
  rw [scene_watch hlabel]
  rw [watch_eq hwatcher hprocess hchild hserved.stopped now]
  exact ⟨rfl, rfl⟩

/-- The watcher looks again and again. -/
theorem looks (hchild : KeepsTables γ) (hserved : IsServed s) (hfair : e.IsFair)
    (hwell : e.GoesWell) : ∃ m ≥ n, e.Looks m := by
  have hlooks {n : Nat} (hlooking : (e.scene n).session.watcher = some .looking) :
      ∃ m ≥ n, e.Looks m := by
    obtain ⟨m, hm, hlooks⟩ : ∃ m > n, e.Looks (m - 1) := by
      refine eventually_of_rank 0 (r := fun _ => 0)
        (P := fun n => (e.scene n).session.watcher = some .looking) hfair.watches
        (fun n hP hothers => ?_) (fun n hP hwatches => Or.inl ?_) hlooking
      · rw [watcher_still hchild (isServed hchild hserved hwell n) hwell hothers]
        exact ⟨hP, Nat.le_refl _⟩
      · obtain ⟨now, hlabel⟩ := hwatches
        obtain ⟨interval, h, child, hprocess, hsome, -, hnext⟩ :=
          watched (isServed hchild hserved hwell n) hlabel hP
        rw [Nat.add_sub_cancel]
        refine ⟨⟨now, hlabel⟩, hP, ?_⟩
        rw [hasExited_eq hprocess hsome]
        unfold exitCode?
        rw [hnext, ProcessHandle.watchStep_looking]
    exact ⟨m - 1, by omega, hlooks⟩
  obtain ⟨watcher, hwatcher, hdone⟩ := (isServed hchild hserved hwell n).watcher
  cases watcher with
  | looking => exact hlooks hwatcher
  | pausing wake =>
    obtain ⟨first, htime⟩ := hfair.clock wake
    obtain ⟨m, hm, hlooking⟩ : ∃ m > n, (e.scene m).session.watcher = some .looking := by
      refine eventually_of_rank first (r := fun _ => 0)
        (P := fun n => (e.scene n).session.watcher = some (.pausing wake)) hfair.watches
        (fun n hP hothers => ?_) (fun n hP hwatches => ?_) hwatcher
      · rw [watcher_still hchild (isServed hchild hserved hwell n) hwell hothers]
        exact ⟨hP, Nat.le_refl _⟩
      · obtain ⟨now, hlabel⟩ := hwatches
        obtain ⟨interval, h, child, -, -, hnext, -⟩ :=
          watched (isServed hchild hserved hwell n) hlabel hP
        rw [hnext]
        simp only [ProcessHandle.watchStep]
        split
        · exact Or.inl rfl
        · rename_i hearly
          exact Or.inr ⟨rfl, fun hn => absurd (htime n hn now (Or.inr hlabel)) hearly⟩
    obtain ⟨k, hk, hlook⟩ := hlooks hlooking
    exact ⟨k, by omega, hlook⟩
  | done =>
    have hexited := hasExited_of_recorded (isServed hchild hserved hwell n).child (hdone rfl)
    have halive := hwell.alive n
    unfold scene at halive
    rw [hexited] at halive
    cases halive

end Execution

/-! ## Started sessions -/

theorem IsServed.shouldStop (hserved : IsServed s) (halive : s.1.hasExited.2 = false) :
    s.1.shouldStop.2 = false := by
  unfold Scene.shouldStop
  rw [hserved.stopped]
  exact halive

/-- A session whose start came out well, and which nobody has told to stop, is served:

* unless the child has ended, neither the loop nor the watcher is to stop, and neither has stopped;
* from there on, however it goes on, and as long as nobody tells the session to stop, the child
  does not end and nothing goes wrong with the loop, this stays so; the watcher looks at the child
  again and again, and every request is answered, an input once there is a command. -/
theorem started_is_served (hchild : KeepsTables γ) (run : Run config receivers initial log s)
    (hstarted : ∃ entry ∈ log, IsStarted entry) (hundisturbed : IsUndisturbed log) :
    (s.1.hasExited.2 = false → s.1.shouldStop.2 = false ∧
      (∃ phase, s.1.session.serving = some phase ∧ ¬ phase.IsStopped) ∧
        ∃ watcher, s.1.session.watcher = some watcher ∧ watcher ≠ .done) ∧
      ∀ e : Execution s, e.IsFair → e.GoesWell →
        (∀ n, (e.scene n).shouldStop.2 = false) ∧ (∀ n, ∃ m ≥ n, e.Looks m) ∧
          (e.IsUsed → ∀ n, ∃ m ≥ n, (e.scene n).outstanding + e.answered n ≤ e.answered m) := by
  have hserved := (run.isServed hchild hundisturbed).2.2 hstarted
  refine ⟨fun halive => ⟨hserved.shouldStop halive, ?_, ?_⟩, fun e hfair hwell =>
    ⟨fun n => ?_, fun n => e.looks hchild hserved hfair hwell, fun hused n => ?_⟩⟩
  · obtain ⟨phase, hserving, hstopped⟩ := hserved.serving
    refine ⟨phase, hserving, fun h => ?_⟩
    rw [hasExited_of_recorded hserved.child (hstopped h)] at halive
    cases halive
  · obtain ⟨watcher, hwatcher, hdone⟩ := hserved.watcher
    refine ⟨watcher, hwatcher, fun h => ?_⟩
    rw [hasExited_of_recorded hserved.child (hdone h)] at halive
    cases halive
  · exact (e.isServed hchild hserved hwell n).shouldStop (hwell.alive n)
  · refine e.settles hchild hserved hwell (fun k channel hchannel => ?_) hfair hused
    obtain ⟨log', run'⟩ := e.run run k
    exact run'.response_isSome hchild hchannel

/-! ## A session in use -/

/-- The loop and the watcher take turns. -/
def takeTurns (c : Scene γ) : Nat → Scene γ
  | 0 => c
  | n + 1 => if n % 2 = 0 then (c.takeTurns n).serve n else (c.takeTurns n).watch n

/-- The loop and the watcher take turns for ever. -/
def Execution.alternating (c : Scene γ) : Execution (c, .idle) where
  state n := (c.takeTurns n, .idle)
  label n := if n % 2 = 0 then .serve n else .watch n
  start := rfl
  step n := by
    rw [takeTurns]
    split
    · exact .serve n _ _
    · exact .watch n _ _

theorem Execution.alternating_isFair (c : Scene γ) : (alternating c).IsFair where
  serves n := by
    refine ⟨2 * n, by omega, 2 * n, ?_⟩
    simp [alternating]
  watches n := by
    refine ⟨2 * n + 1, by omega, 2 * n + 1, ?_⟩
    simp [alternating, show (2 * n + 1) % 2 = 1 by omega]
  clock time := by
    refine ⟨time, fun m hm now hlabel => ?_⟩
    simp only [alternating] at hlabel
    split at hlabel <;> rcases hlabel with heq | heq <;> cases heq <;> exact hm

/-- The loop is at work on an opening, if it is at work. -/
def AtOpening : Phase Desk.Task → Prop
  | .asking | .listening _ | .reading | .signalling => True
  | .handling task => task = .fresh .init
  | .replying reply => reply.Fits .init
  | _ => False

/-- An opening is on its way, or it was answered. -/
structure IsOpening (phase : Phase Desk.Task) (s : Shared) : Prop where
  kind : s.envelope.kind? = .ok .init
  once : s.request + phase.busy + s.response = 1
  phase : AtOpening phase

omit [Program γ] in
theorem IsOpening.sound {phase : Phase Desk.Task} {s : Shared} (hopening : IsOpening phase s) :
    ¬ phase.IsFaulty := by
  have hphase := hopening.phase
  cases phase with
  | closing | ended | broken => cases hphase
  | _ => exact id

omit [Program γ] in
/-- A loop that is able to wait gets on with an opening. -/
theorem IsOpening.step {l : ServingLoop Desk Desk.Task} {s : Shared}
    (hopening : IsOpening l.phase s) (hwait : l.mayWait = true) (now : Nat) :
    IsOpening (l.step Desk.handler ⟨now, false⟩ s).1.phase
      (l.step Desk.handler ⟨now, false⟩ s).2 := by
  obtain ⟨hkind, honce, hat⟩ := hopening
  cases hphase : l.phase with
  | asking =>
    obtain ⟨hshared, hnext⟩ := ServingLoop.step_asking Desk.handler ⟨now, false⟩ s hphase
    rw [hphase] at honce
    rw [hshared, hnext]
    exact ⟨hkind, honce, trivial⟩
  | listening wake =>
    rw [hphase] at honce
    cases hrequest : s.request with
    | zero =>
      simp only [ServingLoop.step, hphase, hrequest, hwait, Signal.take, ↓reduceIte]
      split
      · exact ⟨hkind, honce, trivial⟩
      · rw [hphase]
        exact ⟨hkind, honce, trivial⟩
    | succ left =>
      rw [ServingLoop.step_listening hphase hrequest]
      have honce' : s.request + 0 + s.response = 1 := honce
      refine ⟨hkind, ?_, trivial⟩
      show left + 1 + s.response = 1
      omega
  | reading =>
    have hevent : s.envelope.event? = .ok .init := by
      simp only [Envelope.event?, hkind]
      rfl
    rw [ServingLoop.step_read ⟨now, false⟩ Desk.handler hphase hevent]
    rw [hphase] at honce
    exact ⟨hkind, honce, rfl⟩
  | handling task =>
    rw [hphase] at honce hat
    obtain rfl : task = .fresh .init := hat
    obtain ⟨hnext, -, hshared⟩ := ServingLoop.step_desk hphase ⟨now, false⟩ s
    rw [hnext, hshared]
    exact ⟨hkind, honce, rfl, by simp⟩
  | replying reply =>
    rw [hphase] at honce hat
    obtain ⟨bytes, hput, hkind', -⟩ := Envelope.putReply?_of_fits hkind hat
    simp only [ServingLoop.step, hphase, hput]
    exact ⟨hkind', honce, trivial⟩
  | signalling =>
    rw [hphase] at honce
    have honce' : s.request + 1 + s.response = 1 := honce
    have hset : Signal.set s.response = .ok (s.response + 1) :=
      if_pos (show s.response < 2147483647 by omega)
    simp only [ServingLoop.step, hphase, hset]
    refine ⟨hkind, ?_, trivial⟩
    show s.request + 0 + (s.response + 1) = 1
    omega
  | closing | ended | broken =>
    rw [hphase] at hat
    cases hat

/-- An opening is on its way to a session whose child goes on, or it was answered. -/
structure IsOpened (channel : Channel) (c : Scene γ) : Prop where
  held : c.session.channel = some channel
  separate : channel.IsSeparate c.system
  stopped : c.session.stopped = false
  mayWait : c.session.mayWait = true
  alive : ∃ h child, c.session.process = some h ∧ c.child = some child ∧
    h.poll child = (h, child, none)
  watcher : c.session.watcher.isSome = true
  opening : ∃ phase, c.session.serving = some phase ∧ IsOpening phase (channel.shared c.system)

namespace IsOpened

variable {channel : Channel} {c : Scene γ}

theorem hasExited (hopened : IsOpened channel c) : c.hasExited = (c, false) := by
  obtain ⟨h, child, hprocess, hchild, hpoll⟩ := hopened.alive
  rw [hasExited_eq hprocess hchild, hpoll, ← hprocess, ← hchild]
  rfl

theorem serve (hopened : IsOpened channel c) (now : Nat) : IsOpened channel (c.serve now) := by
  obtain ⟨phase, hserving, hopening⟩ := hopened.opening
  obtain ⟨c', stop, hsaw, heq⟩ := serve_eq hserving hopened.held hopened.stopped now
  have hexited := hopened.hasExited
  obtain rfl : c' = c := by
    rcases hsaw.looked with rfl | hlooked
    · rfl
    · rw [hlooked, hexited]
  have hstop : stop = false := by
    rw [← Bool.not_eq_true]
    intro hstop
    have hdone := (hsaw.stop hstop).1
    rw [hexited] at hdone
    cases hdone
  rw [heq, hstop]
  refine ⟨hopened.held, hopened.separate.same (.setShared channel _ _), hopened.stopped,
    hopened.mayWait, hopened.alive, hopened.watcher, _, rfl, ?_⟩
  rw [Channel.shared_setShared hopened.separate]
  exact IsOpening.step (l := c'.session.loopAt phase) hopening hopened.mayWait now

theorem watch (hopened : IsOpened channel c) (now : Nat) :
    IsOpened channel (c.watch now) ∧ (c.watch now).requests = c.requests := by
  obtain ⟨watcher, hwatcher⟩ := Option.isSome_iff_exists.mp hopened.watcher
  obtain ⟨h, child, hprocess, hchild, hpoll⟩ := hopened.alive
  have hkept : (ProcessHandle.watchStep c.session.config.pollInterval now false watcher h
      child).2 = (h, child) := by
    cases watcher with
    | looking => rw [ProcessHandle.watchStep_looking, hpoll]
    | pausing wake =>
      simp only [ProcessHandle.watchStep]
      split <;> rfl
    | done => rfl
  rw [watch_eq hwatcher hprocess hchild hopened.stopped now, hkept]
  exact ⟨⟨hopened.held, hopened.separate, hopened.stopped, hopened.mayWait,
    ⟨h, child, rfl, rfl, hpoll⟩, rfl, hopened.opening⟩, rfl⟩

theorem takeTurns (hopened : IsOpened channel c) (n : Nat) : IsOpened channel (c.takeTurns n) := by
  induction n with
  | zero => exact hopened
  | succ n ih =>
    rw [Scene.takeTurns]
    split
    · exact ih.serve n
    · exact (ih.watch n).1

theorem goesWell (hopened : IsOpened channel c) : (Execution.alternating c).GoesWell where
  undisturbed n := by
    simp only [Execution.alternating]
    split <;> simp
  alive n := by
    unfold Execution.scene
    rw [Execution.alternating, (hopened.takeTurns n).hasExited]
  sound n phase hphase := by
    obtain ⟨phase', hserving, hopening⟩ := (hopened.takeTurns n).opening
    cases hserving.symm.trans hphase
    exact hopening.sound

theorem isUsed (hopened : IsOpened channel c) : (Execution.alternating c).IsUsed where
  posts n hothers := by
    have hodd : ¬ n % 2 = 0 := by
      intro heven
      refine hothers ⟨n, ?_⟩
      simp only [Execution.alternating, heven, ↓reduceIte]
    have hnext : (Execution.alternating c).scene (n + 1) = (c.takeTurns n).watch n := by
      show c.takeTurns (n + 1) = _
      rw [Scene.takeTurns, if_neg hodd]
    rw [hnext, ((hopened.takeTurns n).watch n).2]
    exact Nat.le_refl _
  commands n hat := by
    obtain ⟨phase, hserving, task, rfl, hinput⟩ := hat
    obtain ⟨phase', hserving', hopening⟩ := (hopened.takeTurns n).opening
    cases hserving'.symm.trans hserving
    obtain rfl : task = .fresh .init := hopening.phase
    cases hinput

end IsOpened

/-! ## Starts that nothing stands in the way of -/

/-- A child that posts an opening. -/
def opener (channel : Channel) : Child :=
  .posting channel [[(Layout.headerEvent, Word.bytes32 EventKind.init.tag)]]

theorem start_fresh (child : Channel → Child) :
    ∃ (w : Surroundings Child) (channel : Channel) (system : System),
      channel.IsSeparate system ∧ channel.shared system = { envelope := Envelope.zero.reset } ∧
        ∀ c : Scene Child, c.session.config = {} → c.session.disposed = false →
          c.session.started = false → c.system = {} →
            c.start w "child" [] =
              ({ c with
                  system := system
                  child := some (child channel)
                  session :=
                    { c.session with
                      started := true
                      instanceName := some channel.names.instanceName
                      channel := some channel
                      process := some { pid := 1 }
                      group := c.session.group.map (·.assign 1)
                      watcher := some .looking
                      serving := some .asking
                      mayWait := true } },
                .ok ()) := by
  obtain ⟨w, channel, system, hcaller, hpid, hseparate, hshared, hspawn⟩ := spawn_fresh child
  refine ⟨w, channel, system, hseparate, hshared,
    fun c hconfig hdisposed hstarted hsystem => ?_⟩
  simp only [start, hspawn c hconfig hdisposed hstarted hsystem, takeIn, startThreads, hcaller,
    hpid, ↓reduceIte]

/-- The opener posts its opening and waits for the answer. -/
theorem runChild_opener {channel : Channel} {c : Scene Child} (now : Nat)
    (hchild : c.child = some (opener channel)) (hseparate : channel.IsSeparate c.system)
    (hshared : channel.shared c.system = { envelope := Envelope.zero.reset }) :
    ∃ wake posted, c.runChild now =
        { c with child := some (.listening channel [] wake), system := posted } ∧
      channel.IsSeparate posted ∧ (channel.shared posted).envelope.kind? = .ok .init ∧
        (channel.shared posted).request = 1 ∧ (channel.shared posted).response = 0 := by
  have hbefore : (channel.shared c.system).request = 0 := by rw [hshared]
  obtain ⟨henvelope, hrequest, hresponse⟩ := Channel.shared_post hseparate
    [(Layout.headerEvent, Word.bytes32 EventKind.init.tag)] (by rw [hbefore]; decide) rfl
  refine ⟨_, _, by rw [runChild, hchild]; rfl,
    hseparate.same ((System.SameTables.modifyRegion _ _ _).trans (.setSignal _ _)), ?_, ?_, ?_⟩
  · have hregion : (c.system.region channel.memory.id).envelope = Envelope.zero.reset :=
      congrArg Shared.envelope hshared
    have hput : ((c.system.region channel.memory.id).putMessage
        [(Layout.headerEvent, Word.bytes32 EventKind.init.tag)]).envelope =
          Envelope.zero.reset.setKind .init := by
      rw [Region.envelope_putMessage _ (by decide), hregion, Envelope.setKind, Envelope.put32]
    rw [henvelope, hput]
    exact Envelope.kind?_setKind (Envelope.hasHeader_reset _) .init
  · rw [hrequest, hbefore]
  · rw [hresponse, hshared]

/-- An opening is posted and answered, while the loop and the watcher take turns. -/
theorem started_is_served_opening :
    ∃ (log : List (Entry Child)) (c : Scene Child) (e : Execution (c, .idle)),
      Run {} .none {} log (c, .idle) ∧ (∃ entry ∈ log, IsStarted entry) ∧ IsUndisturbed log ∧
        e.IsFair ∧ e.GoesWell ∧ e.IsUsed ∧ c.outstanding = 1 ∧ (∃ m, 1 ≤ e.answered m) ∧
          ∃ m, e.Looks m := by
  obtain ⟨w, channel, system, hseparate, hshared, hfresh⟩ := start_fresh opener
  obtain ⟨c, hc⟩ : ∃ c : Scene Child, c = { session := Session.of {} .none } := ⟨_, rfl⟩
  have hstart := hfresh c (by rw [hc]; rfl) (by rw [hc]; rfl) (by rw [hc]; rfl) (by rw [hc])
  obtain ⟨wake, posted, hnext, hseparate', hkind, hrequest, hresponse⟩ :=
    runChild_opener (c := (c.start w "child" []).1) 0 (by rw [hstart])
      (by rw [hstart]; exact hseparate) (by rw [hstart]; exact hshared)
  have run : Run {} .none {} [] (c, .idle) := by
    rw [hc]
    exact .start 0
  have hrun := (run.step (.start w "child" [] c)).step (.child 0 _ _)
  have hstarted : ∃ entry ∈ [⟨(c.start w "child" []).1, .child 0⟩,
      (⟨c, .start w "child" []⟩ : Entry Child)], IsStarted entry :=
    ⟨_, List.mem_cons_of_mem _ List.mem_cons_self, w, "child", [], rfl, by rw [hstart]⟩
  have hundisturbed : IsUndisturbed
      [⟨(c.start w "child" []).1, .child 0⟩, (⟨c, .start w "child" []⟩ : Entry Child)] := by
    simp [isUndisturbed_cons, isUndisturbed_nil]
  have hopened : IsOpened channel ((c.start w "child" []).1.runChild 0) := by
    rw [hnext, hstart, hc]
    have hopening : IsOpening .asking (channel.shared posted) :=
      ⟨hkind, by rw [hrequest, hresponse]; rfl, trivial⟩
    exact ⟨rfl, hseparate', rfl, rfl, ⟨_, _, rfl, rfl, rfl⟩, rfl, .asking, rfl, hopening⟩
  have houtstanding : ((c.start w "child" []).1.runChild 0).outstanding = 1 := by
    rw [hnext, hstart]
    exact hrequest
  have hfair := Execution.alternating_isFair ((c.start w "child" []).1.runChild 0)
  obtain ⟨-, hserves⟩ := started_is_served keepsTables_child hrun hstarted hundisturbed
  obtain ⟨-, hlooks, hanswers⟩ := hserves _ hfair hopened.goesWell
  obtain ⟨m, -, hlook⟩ := hlooks 0
  obtain ⟨k, -, hanswered⟩ := hanswers hopened.isUsed 0
  refine ⟨_, _, _, hrun, hstarted, hundisturbed, hfair, hopened.goesWell, hopened.isUsed,
    houtstanding, ⟨k, ?_⟩, m, hlook⟩
  exact Nat.le_trans (Nat.le_of_eq houtstanding.symm) hanswered

/-- The session is told to stop before it is started.  Its start comes out well all the same, but
its loop and its watcher end at once, and the opening that the child posts is not answered. -/
theorem aborted_start :
    ∃ (log : List (Entry Child)) (s : Scene Child × Current),
      Run {} .none {} log s ∧
        (∃ later started earlier, log = later ++ started :: earlier ∧ IsStarted started ∧
          IsUndisturbed later) ∧
        s.1.hasExited.2 = false ∧ s.1.session.fault = none ∧ s.1.shouldStop.2 = true ∧
          s.1.session.serving = some (.ended (.ok ())) ∧ s.1.session.watcher = some .done ∧
            s.1.outstanding = 1 := by
  obtain ⟨w, channel, system, hseparate, hshared, hfresh⟩ := start_fresh opener
  obtain ⟨c, hc⟩ : ∃ c : Scene Child, c = { session := Session.of {} .none } := ⟨_, rfl⟩
  have habort : c.abort .root = { c with session := { c.session with stopped := true } } := by
    rw [hc]
    rfl
  have hstart := hfresh (c.abort .root) (by rw [habort, hc]; rfl) (by rw [habort, hc]; rfl)
    (by rw [habort, hc]; rfl) (by rw [habort, hc])
  obtain ⟨wake, posted, hnext, hseparate', -, hrequest, -⟩ :=
    runChild_opener (c := ((c.abort .root).start w "child" []).1) 0 (by rw [hstart])
      (by rw [hstart]; exact hseparate) (by rw [hstart]; exact hshared)
  have run : Run {} .none {} [] (c, .idle) := by
    rw [hc]
    exact .start 0
  have hrun := ((((((run.step (.abort .root c)).step (.start w "child" [] _)).step
    (.child 0 _ _)).step (.serve 0 _ _)).step (.serve 0 _ _)).step (.watch 0 _ _))
  refine ⟨_, _, hrun, ⟨[_, _, _, _], _, _, rfl, ⟨w, "child", [], rfl, by rw [hstart]⟩, ?_⟩, ?_⟩
  · simp [isUndisturbed_cons, isUndisturbed_nil]
  · rw [hnext, hstart, habort, hc]
    refine ⟨rfl, rfl, rfl, rfl, rfl, ?_⟩
    -- both steps of the loop write back what they have found
    show (channel.shared (channel.setShared (channel.setShared posted (channel.shared posted))
      (channel.shared (channel.setShared posted (channel.shared posted))))).request = 1
    rw [Channel.shared_setShared (hseparate'.same (.setShared _ _ _)),
      Channel.shared_setShared hseparate']
    exact hrequest

end Scene

end ConsoleLink
