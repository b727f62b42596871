import ConsoleLink.Proofs.Desk.Commands
import ConsoleLink.Proofs.Serving.Requests
import ConsoleLink.Proofs.Session.Frames

/-!
# A session that is being served

A start that came out well leaves a serving loop and a watcher.  Unless the session is told to
stop, both go on until the exit of the child is recorded.

* `Steady` says that a session was not told to stop and that what was recorded stays.
* `Asked` and `serve_eq` say what a step of the serving loop sees and does.
* `IsServed` is the invariant; `start_isServed` establishes it, `Step.isServed` keeps it and
  `Run.isServed` proves it for every history without an abort and a disposal.
-/

namespace ConsoleLink

open ServingLoop (Phase)

/-- The serving loop of a session in a phase. -/
def Session.loopAt (s : Session) (phase : Phase Desk.Task) : ServingLoop Desk Desk.Task where
  state := s.desk
  phase := phase
  pollInterval := s.config.pollInterval
  mayWait := s.mayWait

namespace Scene

variable {γ : Type}

/-! ## What stays -/

/-- The session was not told to stop meanwhile, and no exit code was forgotten. -/
structure Steady (c c' : Scene γ) : Prop where
  stopped : c'.session.stopped = c.session.stopped
  recorded : c.exitCode?.isSome = true → c'.exitCode?.isSome = true

theorem Steady.refl (c : Scene γ) : Steady c c := ⟨rfl, id⟩

theorem Steady.trans {c c' c'' : Scene γ} (first : Steady c c') (second : Steady c' c'') :
    Steady c c'' :=
  ⟨second.stopped.trans first.stopped, fun h => second.recorded (first.recorded h)⟩

theorem withProcess_steady {α : Type} (c : Scene γ) {f : ProcessHandle → γ → ProcessHandle × γ × α}
    (hkeeps : ∀ h child, ProcessHandle.Keeps h child (f h child).1 (f h child).2.1) :
    Steady c (c.withProcess f).1 := by
  rcases c.withProcess_cases f with hsame | ⟨handle, child, hprocess, hchild, heq⟩
  · rw [hsame]
    exact .refl c
  · rw [heq]
    refine ⟨rfl, fun hrecorded => ?_⟩
    unfold exitCode? at hrecorded ⊢
    rw [hprocess, Option.bind_some, Option.isSome_iff_exists] at hrecorded
    obtain ⟨code, hcode⟩ := hrecorded
    exact Option.isSome_iff_exists.mpr ⟨code, (hkeeps handle child).recorded code hcode⟩

variable [Program γ]

theorem hasExited_eq {c : Scene γ} {h : ProcessHandle} {child : γ}
    (hprocess : c.session.process = some h) (hchild : c.child = some child) :
    c.hasExited = ({ c with
        session := { c.session with process := some (h.poll child).1 }
        child := some (h.poll child).2.1 }, (h.poll child).2.2.isSome) := by
  simp only [hasExited, withProcess, hprocess, hchild, Option.join_some]

/-- Whoever sees that the child has ended leaves its exit code behind. -/
theorem hasExited_recorded {c : Scene γ} (hexited : c.hasExited.2 = true) :
    c.hasExited.1.exitCode?.isSome = true := by
  cases hprocess : c.session.process with
  | none => simp [hasExited, withProcess, hprocess] at hexited
  | some h =>
    cases hchild : c.child with
    | none => simp [hasExited, withProcess, hprocess, hchild] at hexited
    | some child =>
      rw [hasExited_eq hprocess hchild] at hexited ⊢
      simpa only [exitCode?, Option.bind_some, ProcessHandle.poll_exitCode] using hexited

/-- A child whose exit code was recorded has ended. -/
theorem hasExited_of_recorded {c : Scene γ} (hsome : c.child.isSome = true)
    (hrecorded : c.exitCode?.isSome = true) : c.hasExited.2 = true := by
  unfold exitCode? at hrecorded
  obtain ⟨child, hchild⟩ := Option.isSome_iff_exists.mp hsome
  cases hprocess : c.session.process with
  | none => simp [hprocess] at hrecorded
  | some h =>
    rw [hprocess, Option.bind_some, Option.isSome_iff_exists] at hrecorded
    obtain ⟨code, hcode⟩ := hrecorded
    rw [hasExited_eq hprocess hchild, ← h.poll_exitCode child,
      (h.poll_keeps child).recorded code hcode]
    rfl

theorem hasExited_steady (c : Scene γ) : Steady c c.hasExited.1 :=
  c.withProcess_steady ProcessHandle.poll_keeps

/-! ## The serving loop -/

/-- What the serving loop sees before a step. -/
structure Asked (c c' : Scene γ) (stop : Bool) : Prop where
  looked : c' = c ∨ c' = c.hasExited.1
  session : c'.session = { c.session with process := c'.session.process }
  system : c'.system = c.system
  steady : Steady c c'
  /-- Unless it was told so, the child has ended. -/
  stop : stop = true → c.hasExited.2 = true ∧ c'.exitCode?.isSome = true

theorem asked {c c' : Scene γ} {asks stop : Bool} (hstopped : c.session.stopped = false)
    (hasked : (if asks then c.shouldStop else (c, false)) = (c', stop)) : Asked c c' stop := by
  have hshould : c.shouldStop = c.hasExited := by
    unfold shouldStop
    rw [hstopped]
    rfl
  rw [hshould] at hasked
  cases asks with
  | false =>
    cases hasked
    exact ⟨Or.inl rfl, rfl, rfl, .refl c, nofun⟩
  | true =>
    have hexited : c.hasExited = (c', stop) := hasked
    have hsteady := c.hasExited_steady
    have hrecorded := c.hasExited_recorded
    have hsame : c.hasExited.1.session =
          { c.session with process := c.hasExited.1.session.process } ∧
        c.hasExited.1.system = c.system := by
      rcases c.withProcess_cases ProcessHandle.poll with hsame | ⟨_, _, -, -, heq⟩
      · have hscene : c.hasExited.1 = c := hsame
        rw [hscene]
        exact ⟨rfl, rfl⟩
      · have hscene : c.hasExited.1 = _ := heq
        rw [hscene]
        exact ⟨rfl, rfl⟩
    rw [hexited] at hsteady hrecorded hsame
    refine ⟨Or.inr (by rw [hexited]), hsame.1, hsame.2, hsteady,
      fun hstop => ⟨?_, hrecorded hstop⟩⟩
    rw [hexited]
    exact hstop

/-- A step of the serving loop, after it has looked whether it should stop. -/
theorem serve_eq {c : Scene γ} {phase : Phase Desk.Task} {channel : Channel}
    (hserving : c.session.serving = some phase) (hchannel : c.session.channel = some channel)
    (hstopped : c.session.stopped = false) (now : Nat) :
    ∃ c' stop, Asked c c' stop ∧
      c.serve now = { c' with
        session := c'.session.withLoop ((c.session.loopAt phase).step Desk.handler ⟨now, stop⟩
          (channel.shared c.system)).1
        system := channel.setShared c.system ((c.session.loopAt phase).step Desk.handler
          ⟨now, stop⟩ (channel.shared c.system)).2 } := by
  have hloop : c.session.loop? = some (c.session.loopAt phase) := by
    unfold Session.loop?
    rw [hserving]
    rfl
  cases hasked : (if (c.session.loopAt phase).asks Desk.handler then c.shouldStop
      else (c, false)) with
  | mk c' stop =>
    have hsaw := asked hstopped hasked
    refine ⟨c', stop, hsaw, ?_⟩
    unfold serve
    simp only [hloop, hchannel, hasked, hsaw.system]

/-! ## Everybody else -/

/-- What is left of the serving loop, its commands and the watcher by whoever is neither. -/
structure Aside (c c' : Scene γ) : Prop extends Steady c c' where
  serving : c'.session.serving = c.session.serving
  commands : c.session.desk.queue.isEmpty = false → c'.session.desk.queue.isEmpty = false
  watcher : c'.session.watcher = c.session.watcher

omit [Program γ] in
theorem Aside.refl (c : Scene γ) : Aside c c := ⟨.refl c, rfl, id, rfl⟩

omit [Program γ] in
theorem withProcess_aside {α : Type} (c : Scene γ) {f : ProcessHandle → γ → ProcessHandle × γ × α}
    (hkeeps : ∀ h child, ProcessHandle.Keeps h child (f h child).1 (f h child).2.1) :
    Aside c (c.withProcess f).1 := by
  have hsteady := c.withProcess_steady hkeeps
  rcases c.withProcess_cases f with hsame | ⟨_, _, -, -, heq⟩
  · rw [hsame]
    exact .refl c
  · rw [heq] at hsteady ⊢
    exact ⟨hsteady, rfl, id, rfl⟩

omit [Program γ] in
theorem aside_of_withProcess {α : Type} {c c' : Scene γ}
    {f : ProcessHandle → γ → ProcessHandle × γ × α} {a : Option α}
    (heq : c.withProcess f = (c', a))
    (hkeeps : ∀ h child, ProcessHandle.Keeps h child (f h child).1 (f h child).2.1) :
    Aside c c' := by
  have haside := c.withProcess_aside hkeeps
  rw [heq] at haside
  exact haside

omit [Program γ] in
theorem offer_aside (text : String) (c : Scene γ) : Aside c (c.offer text) := by
  refine ⟨⟨rfl, id⟩, rfl, fun hthere => ?_, rfl⟩
  show (c.session.desk.queue.enqueue text).1.isEmpty = false
  cases hrefusal : CommandQueue.refusal? text with
  | some fault => rwa [CommandQueue.enqueue_of_refused _ hrefusal]
  | none =>
    rw [CommandQueue.enqueue_of_accepted _ hrefusal]
    simp [CommandQueue.isEmpty]

theorem runChild_aside (now : Nat) (c : Scene γ) : Aside c (c.runChild now) := by
  unfold runChild
  split
  · exact .refl c
  · exact ⟨⟨rfl, id⟩, rfl, id, rfl⟩

theorem closing_aside (now : Nat) (c : Scene γ) (k : ProcessHandle.Closing) :
    Aside c (closingParty.act now (c, k)).1 := by
  simp only [closingParty]
  split
  · rename_i heq
    exact aside_of_withProcess heq fun h child => ProcessHandle.closeStep_keeps _ _ h child
  · rename_i heq
    exact aside_of_withProcess heq fun h child => ProcessHandle.closeStep_keeps _ _ h child

theorem serve_steady (now : Nat) (c : Scene γ) : Steady c (c.serve now) := by
  unfold serve
  split
  · split
    rename_i asked stop hasked
    have hsteady : Steady c asked := by
      split at hasked
      · have hlooked : Steady c c.shouldStop.1 := by
          unfold shouldStop
          split
          · exact .refl c
          · exact c.hasExited_steady
        rw [hasked] at hlooked
        exact hlooked
      · cases hasked
        exact .refl c
    exact ⟨hsteady.stopped, hsteady.recorded⟩
  · exact .refl c

theorem watch_steady (now : Nat) (c : Scene γ) : Steady c (c.watch now) := by
  unfold watch
  split
  · exact .refl c
  · split
    · rename_i heq
      exact (aside_of_withProcess heq
        fun h child => ProcessHandle.watchStep_keeps _ _ _ _ h child).toSteady
    · rename_i heq
      have haside := aside_of_withProcess heq
        fun h child => ProcessHandle.watchStep_keeps _ _ _ _ h child
      exact ⟨haside.stopped, haside.recorded⟩

/-- Who does something to a session, unless it is told to stop: those who start it, its loop, its
watcher, and others, who have to do with neither. -/
theorem Step.aside (hchild : KeepsTables γ) {label : Label γ} {s s' : Scene γ × Current}
    (step : Step label s s') (hcurrent : s.2 ≠ .disposing)
    (habort : ∀ account, label ≠ .abort account) (hdispose : label ≠ .dispose) :
    s'.2 ≠ .disposing ∧ (Frame s.1 s'.1 ∧ Aside s.1 s'.1 ∨
      (∃ w executable arguments, label = .start w executable arguments ∧
        s' = ((s.1.start w executable arguments).1, .idle)) ∨
      (∃ now, label = .serve now ∧ s'.1 = s.1.serve now) ∨
      ∃ now, label = .watch now ∧ s'.1 = s.1.watch now) := by
  cases step with
  | child now c k => exact ⟨hcurrent, Or.inl ⟨runChild_frame hchild now c, runChild_aside now c⟩⟩
  | serve now c k => exact ⟨hcurrent, Or.inr (Or.inr (Or.inl ⟨now, rfl, rfl⟩))⟩
  | watch now c k => exact ⟨hcurrent, Or.inr (Or.inr (Or.inr ⟨now, rfl, rfl⟩))⟩
  | clock now c k =>
    exact ⟨hcurrent, Or.inl ⟨⟨rfl, rfl, rfl, rfl, rfl, rfl, fun _ => rfl, .refl _⟩,
      ⟨rfl, id⟩, rfl, id, rfl⟩⟩
  | start w executable arguments c =>
    exact ⟨nofun, Or.inr (Or.inl ⟨w, executable, arguments, rfl, rfl⟩)⟩
  | enqueue text c => exact ⟨hcurrent, Or.inl ⟨offer_frame text c, offer_aside text c⟩⟩
  | abort account c => exact absurd rfl (habort account)
  | closeNone hprocess => exact ⟨hcurrent, Or.inl ⟨.refl _, .refl _⟩⟩
  | close hprocess => exact ⟨nofun, Or.inl ⟨.refl _, .refl _⟩⟩
  | closing now c k => exact ⟨nofun, Or.inl ⟨(closing_frame now c k).1, closing_aside now c k⟩⟩
  | closed outcome c => exact ⟨nofun, Or.inl ⟨.refl _, .refl _⟩⟩
  | disposeAgain hdisposed => exact absurd rfl hdispose
  | dispose hdisposed => exact absurd rfl hdispose
  | release c => exact absurd rfl hcurrent

/-- A step of the watcher. -/
theorem watch_eq {c : Scene γ} {watcher : ProcessHandle.Watcher} {h : ProcessHandle} {child : γ}
    (hwatcher : c.session.watcher = some watcher) (hprocess : c.session.process = some h)
    (hchild : c.child = some child) (hstopped : c.session.stopped = false) (now : Nat) :
    c.watch now = { c with
      session := { c.session with
        process := some (ProcessHandle.watchStep c.session.config.pollInterval now false watcher h
          child).2.1
        watcher := some (ProcessHandle.watchStep c.session.config.pollInterval now false watcher h
          child).1 }
      child := some (ProcessHandle.watchStep c.session.config.pollInterval now false watcher h
        child).2.2 } := by
  unfold watch
  simp only [hwatcher, withProcess, hprocess, hchild, hstopped]

/-! ## The invariant -/

/-- A session that is being served: its loop and its watcher are there, and neither was stopped
before an exit code was recorded. -/
structure IsServed (s : Scene γ × Current) : Prop where
  started : s.1.session.started = true
  stopped : s.1.session.stopped = false
  current : s.2 ≠ .disposing
  channel : s.1.session.channel.isSome = true
  process : s.1.session.process.isSome = true
  child : s.1.child.isSome = true
  serving : ∃ phase, s.1.session.serving = some phase ∧
    (phase.IsStopped → s.1.exitCode?.isSome = true)
  watcher : ∃ watcher, s.1.session.watcher = some watcher ∧
    (watcher = .done → s.1.exitCode?.isSome = true)

omit [Program γ] in
theorem IsServed.aside {s s' : Scene γ × Current} (hserved : IsServed s)
    (hframe : Frame s.1 s'.1) (haside : Aside s.1 s'.1) (hcurrent : s'.2 ≠ .disposing) :
    IsServed s' := by
  obtain ⟨phase, hserving, hphase⟩ := hserved.serving
  obtain ⟨watcher, hwatcher, hdone⟩ := hserved.watcher
  exact ⟨hframe.started.trans hserved.started, haside.stopped.trans hserved.stopped, hcurrent,
    by rw [hframe.channel]; exact hserved.channel, hframe.process.trans hserved.process,
    hframe.child.trans hserved.child,
    ⟨phase, haside.serving.trans hserving, fun h => haside.recorded (hphase h)⟩,
    ⟨watcher, haside.watcher.trans hwatcher, fun h => haside.recorded (hdone h)⟩⟩

theorem IsServed.serve {s s' : Scene γ × Current} (hserved : IsServed s) (now : Nat)
    (hscene : s'.1 = s.1.serve now) (hcurrent : s'.2 ≠ .disposing) : IsServed s' := by
  obtain ⟨phase, hserving, hphase⟩ := hserved.serving
  obtain ⟨watcher, hwatcher, hdone⟩ := hserved.watcher
  obtain ⟨channel, hchannel⟩ := Option.isSome_iff_exists.mp hserved.channel
  have hframe := serve_frame now s.1
  have hsteady := serve_steady now s.1
  obtain ⟨c', stop, hsaw, heq⟩ := serve_eq hserving hchannel hserved.stopped now
  have hsession := hsaw.session
  rw [← hscene] at hframe hsteady heq
  refine ⟨hframe.started.trans hserved.started, ?_, hcurrent,
    by rw [hframe.channel]; exact hserved.channel, hframe.process.trans hserved.process,
    hframe.child.trans hserved.child, ⟨_, by rw [heq]; rfl, fun hstopped => ?_⟩,
    ⟨watcher, ?_, fun h => ?_⟩⟩
  · exact hsteady.stopped.trans hserved.stopped
  · rcases ServingLoop.step_isStopped _ _ _ _ hstopped with hbefore | hstop
    · exact hsteady.recorded (hphase hbefore)
    · rw [heq]
      exact (hsaw.stop hstop).2
  · rw [heq]
    show c'.session.watcher = _
    rw [hsession]
    exact hwatcher
  · exact hsteady.recorded (hdone h)

theorem IsServed.watch {s s' : Scene γ × Current} (hserved : IsServed s) (now : Nat)
    (hscene : s'.1 = s.1.watch now) (hcurrent : s'.2 ≠ .disposing) : IsServed s' := by
  obtain ⟨phase, hserving, hphase⟩ := hserved.serving
  obtain ⟨watcher, hwatcher, hdone⟩ := hserved.watcher
  obtain ⟨h, hprocess⟩ := Option.isSome_iff_exists.mp hserved.process
  obtain ⟨child, hchild⟩ := Option.isSome_iff_exists.mp hserved.child
  have hframe := watch_frame now s.1
  have heq := watch_eq hwatcher hprocess hchild hserved.stopped now
  have hsteady := watch_steady now s.1
  rw [← hscene] at hframe heq hsteady
  refine ⟨hframe.started.trans hserved.started, ?_, hcurrent,
    by rw [hframe.channel]; exact hserved.channel, hframe.process.trans hserved.process,
    hframe.child.trans hserved.child, ⟨phase, ?_, fun h => hsteady.recorded (hphase h)⟩,
    ⟨_, by rw [heq], fun hover => ?_⟩⟩
  · exact hsteady.stopped.trans hserved.stopped
  · rw [heq]
    exact hserving
  · rcases ProcessHandle.watchStep_done hover with hbefore | hfound
    · exact hsteady.recorded (hdone hbefore)
    · rw [heq]
      exact hfound

theorem Step.isServed (hchild : KeepsTables γ) {label : Label γ} {s s' : Scene γ × Current}
    (step : Step label s s') (hserved : IsServed s) (habort : ∀ account, label ≠ .abort account)
    (hdispose : label ≠ .dispose) : IsServed s' := by
  obtain ⟨hcurrent, ⟨hframe, haside⟩ | ⟨w, executable, arguments, -, hscene⟩ | ⟨now, -, hscene⟩ |
    ⟨now, -, hscene⟩⟩ := step.aside hchild hserved.current habort hdispose
  · exact hserved.aside hframe haside hcurrent
  · rw [(s.1.start_late w executable arguments (Or.inr hserved.started)).1] at hscene
    rw [hscene]
    exact hserved.aside (.refl s.1) (.refl s.1) nofun
  · exact hserved.serve now hscene hcurrent
  · exact hserved.watch now hscene hcurrent

/-! ## Starts that came out well -/

omit [Program γ] in
/-- A child that was started finds a channel. -/
theorem channel_of_spawn {c c' : Scene γ} {w : Surroundings γ} {executable : String}
    {arguments : List String} {child : γ}
    (hspawn : c.spawn w executable arguments = (c', .ok child)) :
    c'.session.channel.isSome = true := by
  have hmade {grant : Bool} {first made : Scene γ} {channel : Channel}
      (hmake : makeChannel w grant first = (made, .ok channel)) :
      (made.makeGroup channel.names).session.channel.isSome = true := by
    have hchannel : made.session.channel = some channel := by
      unfold makeChannel at hmake
      split at hmake
      · cases hmake
      · cases hmake
        rfl
    unfold makeGroup
    split <;> simp [hchannel]
  unfold spawn at hspawn
  split at hspawn
  · cases hspawn
  · split at hspawn
    · cases hspawn
    · unfold spawnFirst at hspawn
      split at hspawn
      · cases hspawn
      · split at hspawn
        · cases hspawn
        · rename_i hmake
          dsimp only at hspawn
          split at hspawn
          · cases hspawn
          · obtain ⟨rfl, -⟩ := Prod.mk.inj hspawn
            exact hmade hmake

/-- A start that came out well. -/
def IsStarted (entry : Entry γ) : Prop :=
  ∃ w executable arguments, entry.label = .start w executable arguments ∧
    (entry.before.start w executable arguments).2 = .ok ()

omit [Program γ] in
theorem start_isServed {c : Scene γ} {w : Surroundings γ} {executable : String}
    {arguments : List String} (hok : (c.start w executable arguments).2 = .ok ())
    (hstopped : c.session.stopped = false) :
    IsServed ((c.start w executable arguments).1, .idle) := by
  have hearly : ¬(c.session.disposed = true ∨ c.session.started = true) := by
    intro hlate
    rw [(c.start_late w executable arguments hlate).1] at hok
    cases hok
  obtain ⟨hdisposed, hstarted⟩ := not_or.mp hearly
  have begun := c.start_first w executable arguments (Bool.eq_false_iff.mpr hdisposed)
    (Bool.eq_false_iff.mpr hstarted)
  cases hspawn : c.spawn w executable arguments with
  | mk c' outcome =>
    cases outcome with
    | error fault =>
      simp only [start, hspawn] at hok
      cases hok
    | ok child =>
      have hchannel := channel_of_spawn hspawn
      rw [hspawn] at begun
      have hstart : c.start w executable arguments =
          (c'.takeIn w.pid child).startThreads w.caller := by
        simp only [start, hspawn]
      rw [hstart] at begun hok ⊢
      unfold startThreads at begun hok ⊢
      split at hok
      · rename_i hthreads
        simp only [hthreads, ↓reduceIte] at begun ⊢
        exact ⟨begun.started, begun.stopped.trans hstopped, nofun, hchannel,
          by rw [begun.process]; rfl, by rw [begun.child]; rfl, ⟨.asking, rfl, nofun⟩,
          ⟨.looking, rfl, nofun⟩⟩
      · cases hok

/-! ## Histories -/

/-- Nobody has told the session to stop, before its start or after it. -/
def IsUndisturbed (log : List (Entry γ)) : Prop :=
  (∀ account, ¬ Happened (.abort account) log) ∧ ¬ Happened .dispose log

omit [Program γ] in
theorem isUndisturbed_nil : IsUndisturbed ([] : List (Entry γ)) :=
  ⟨fun _ ⟨_, hmem⟩ => (nomatch hmem), fun ⟨_, hmem⟩ => nomatch hmem⟩

omit [Program γ] in
theorem isUndisturbed_cons {c : Scene γ} {label : Label γ} {log : List (Entry γ)} :
    IsUndisturbed (⟨c, label⟩ :: log) ↔
      ((∀ account, label ≠ .abort account) ∧ label ≠ .dispose) ∧ IsUndisturbed log := by
  constructor
  · intro ⟨habort, hdispose⟩
    refine ⟨⟨fun account heq => habort account ?_, fun heq => hdispose ?_⟩,
      fun account h => habort account (happened_cons.mpr (Or.inr h)),
      fun h => hdispose (happened_cons.mpr (Or.inr h))⟩
    · exact happened_cons.mpr (Or.inl heq.symm)
    · exact happened_cons.mpr (Or.inl heq.symm)
  · intro ⟨⟨habort, hdispose⟩, haborted, hdisposed⟩
    refine ⟨fun account h => ?_, fun h => ?_⟩
    · exact (happened_cons.mp h).elim (fun heq => habort account heq.symm) (haborted account)
    · exact (happened_cons.mp h).elim (fun heq => hdispose heq.symm) hdisposed

variable {config : Config} {receivers : Receivers Unit} {initial : System}
  {log : List (Entry γ)} {s : Scene γ × Current}

omit [Program γ] in
theorem start_stopped (w : Surroundings γ) (executable : String) (arguments : List String)
    (c : Scene γ) : (c.start w executable arguments).1.session.stopped = c.session.stopped := by
  by_cases hlate : c.session.disposed = true ∨ c.session.started = true
  · rw [(c.start_late w executable arguments hlate).1]
  · obtain ⟨hdisposed, hstarted⟩ := not_or.mp hlate
    exact (c.start_first w executable arguments (Bool.eq_false_iff.mpr hdisposed)
      (Bool.eq_false_iff.mpr hstarted)).stopped

/-- Unless it was told to stop, a session goes on, and it is served once its start came out
well. -/
theorem Run.isServed (hchild : KeepsTables γ) (run : Run config receivers initial log s)
    (hundisturbed : IsUndisturbed log) :
    s.2 ≠ .disposing ∧ s.1.session.stopped = false ∧
      ((∃ entry ∈ log, IsStarted entry) → IsServed s) := by
  induction run with
  | start now => exact ⟨nofun, rfl, fun ⟨_, hmem, _⟩ => nomatch hmem⟩
  | @step log s s' label run step ih =>
    obtain ⟨hlabel, hearlier⟩ := isUndisturbed_cons.mp hundisturbed
    obtain ⟨hcurrent, hstopped, hserved⟩ := ih hearlier
    obtain ⟨hcurrent', hstep⟩ := step.aside hchild hcurrent hlabel.1 hlabel.2
    have hstopped' : s'.1.session.stopped = s.1.session.stopped := by
      rcases hstep with ⟨-, haside⟩ | ⟨w, executable, arguments, -, hscene⟩ | ⟨now, -, hscene⟩ |
        ⟨now, -, hscene⟩
      · exact haside.stopped
      · rw [hscene]
        exact s.1.start_stopped w executable arguments
      · rw [hscene]
        exact (serve_steady now s.1).stopped
      · rw [hscene]
        exact (watch_steady now s.1).stopped
    refine ⟨hcurrent', hstopped'.trans hstopped, fun ⟨entry, hmem, hstarted⟩ => ?_⟩
    rcases List.mem_cons.mp hmem with rfl | hmem
    · obtain ⟨w, executable, arguments, rfl, hok⟩ := hstarted
      cases step with
      | start w executable arguments c => exact start_isServed hok hstopped
    · exact step.isServed hchild (hserved ⟨entry, hmem, hstarted⟩) hlabel.1 hlabel.2

end Scene

end ConsoleLink
