import ConsoleLink.Proofs.Objects.Negotiated
import ConsoleLink.Proofs.Process.Released
import ConsoleLink.Proofs.Session.History

/-!
# What one step changes

Of everything that can happen to a session, only a start and a disposal change what the session
holds and which names are in the tables.

* `Frame` relates scenes between which nothing of this has changed, and `Begun` says what a
  first start leaves behind.
* `start_late` and `start_first` are the two ways in which a start comes out.
* `Step.cases_frame` puts them together.
-/

namespace ConsoleLink

open Negotiation (Phase)
open TableEffect (inHands)

namespace Scene

variable {γ : Type}

/-- The child is untouched once its handle was released. -/
theorem withProcess_cases {α : Type} (c : Scene γ) (f : ProcessHandle → γ → ProcessHandle × γ × α) :
    (c.withProcess f).1 = c ∨ ∃ handle child, c.session.process = some handle ∧
      c.child = some child ∧
        (c.withProcess f).1 = { c with
          session := { c.session with process := some (f handle child).1 }
          child := some (f handle child).2.1 } := by
  unfold withProcess
  split
  · rename_i handle child hprocess hchild
    exact Or.inr ⟨handle, child, hprocess, hchild, rfl⟩
  · exact Or.inl rfl

/-- What all steps but a start and a disposal leave as it is. -/
structure Frame (c c' : Scene γ) : Prop where
  config : c'.session.config = c.session.config
  started : c'.session.started = c.session.started
  disposed : c'.session.disposed = c.session.disposed
  channel : c'.session.channel = c.session.channel
  process : c'.session.process.isSome = c.session.process.isSome
  child : c'.child.isSome = c.child.isSome
  released : (∀ h ∈ c.session.process, h.released = true) → c'.session.process = c.session.process
  tables : c.system.SameTables c'.system

theorem Frame.refl (c : Scene γ) : Frame c c :=
  ⟨rfl, rfl, rfl, rfl, rfl, rfl, fun _ => rfl, .refl _⟩

theorem Frame.trans {c c' c'' : Scene γ} (first : Frame c c') (second : Frame c' c'') :
    Frame c c'' where
  config := second.config.trans first.config
  started := second.started.trans first.started
  disposed := second.disposed.trans first.disposed
  channel := second.channel.trans first.channel
  process := second.process.trans first.process
  child := second.child.trans first.child
  released hreleased := by
    have hsame := first.released hreleased
    rw [second.released (hsame ▸ hreleased), hsame]
  tables := first.tables.trans second.tables

/-! ## Starts -/

/-- What a first start leaves behind: the channel that it made, and the child. -/
structure Begun (w : Surroundings γ) (c c' : Scene γ) (made : Option Channel) (child : Option γ) :
    Prop where
  config : c'.session.config = c.session.config
  started : c'.session.started = true
  disposed : c'.session.disposed = c.session.disposed
  stopped : c'.session.stopped = c.session.stopped
  channel : c'.session.channel = made.or c.session.channel
  process : c'.session.process = (child.map fun _ => { pid := w.pid }).or c.session.process
  child : c'.child = child.or c.child
  system : Activity.Runs w.caller (.holding [], c.system)
    (.holding (made.elim [] fun channel => (Phase.done (.ok channel)).handles), c'.system)
  held : ∀ channel ∈ made, channel.IsHeld

/-- The child is started, and with it the threads. -/
theorem Begun.takeIn {w : Surroundings γ} {c c' : Scene γ} {made : Option Channel}
    (begun : Begun w c c' made none) (child : γ) :
    Begun w c ((c'.takeIn w.pid child).startThreads w.caller).1 made (some child) := by
  unfold startThreads
  split
  · exact ⟨begun.config, begun.started, begun.disposed, begun.stopped, begun.channel, rfl, rfl,
      begun.system, begun.held⟩
  · exact ⟨begun.config, begun.started, begun.disposed, begun.stopped, begun.channel, rfl, rfl,
      begun.system, begun.held⟩

theorem Begun.makeGroup {w : Surroundings γ} {c c' : Scene γ} {made : Option Channel}
    {child : Option γ} (begun : Begun w c c' made child) (names : ChannelNames) :
    Begun w c (c'.makeGroup names) made child := by
  unfold Scene.makeGroup
  split
  · exact ⟨begun.config, begun.started, begun.disposed, begun.stopped, begun.channel,
      begun.process, begun.child, begun.system, begun.held⟩
  · exact begun

/-- A start that is not the first, or comes too late, does nothing. -/
theorem start_late (w : Surroundings γ) (executable : String) (arguments : List String)
    {c : Scene γ} (hlate : c.session.disposed = true ∨ c.session.started = true) :
    c.start w executable arguments =
        (c, .error (if c.session.disposed then .notStarted else .alreadyStarted)) ∧
      (c.spawn w executable arguments).2.toOption = none ∧ c.negotiated? w = none := by
  have hnegotiated : c.negotiated? w = none := by
    unfold negotiated?
    rw [if_pos (by simpa using hlate)]
  have hspawn : c.spawn w executable arguments =
      (c, .error (if c.session.disposed then .notStarted else .alreadyStarted)) := by
    unfold spawn
    cases hdisposed : c.session.disposed with
    | true => rfl
    | false =>
      have hstarted : c.session.started = true := hlate.resolve_left (by simp [hdisposed])
      simp [hstarted]
  refine ⟨?_, ?_, hnegotiated⟩
  · unfold start
    rw [hspawn]
  · rw [hspawn]
    rfl

/-- The channel of a first start. -/
theorem makeChannel_begun (w : Surroundings γ) {c : Scene γ} {identity : Option Identity}
    (hdisposed : c.session.disposed = false) (hstarted : c.session.started = false)
    (hidentity : w.identity? c.session.config = .ok identity) {c' : Scene γ}
    {outcome : Except LinkFault Channel}
    (hmake : makeChannel w identity.isSome
      { c with session := { c.session with started := true } } = (c', outcome)) :
    Begun w c c' (c.negotiated? w) none := by
  have hruns : Activity.Runs w.caller _ _ :=
    runs_negotiate (w.negotiator c.session.config identity.isSome) c.system
  unfold makeChannel at hmake
  unfold negotiated?
  simp only [hdisposed, hstarted, hidentity, Bool.or_self, Bool.false_eq_true, ↓reduceIte]
  split at hmake
  · rename_i fault n system hnegotiate
    cases hmake
    rw [hnegotiate] at hruns ⊢
    exact ⟨rfl, rfl, rfl, rfl, rfl, rfl, rfl, hruns, nofun⟩
  · rename_i channel n system hnegotiate
    cases hmake
    rw [hnegotiate] at hruns ⊢
    refine ⟨rfl, rfl, rfl, rfl, rfl, rfl, rfl, hruns, ?_⟩
    rintro _ ⟨⟩
    exact Negotiator.negotiate_isHeld (congrArg Prod.fst hnegotiate)

/-- Up to the child, a first start makes a channel at most. -/
theorem spawn_begun (w : Surroundings γ) (executable : String) (arguments : List String)
    {c : Scene γ} (hdisposed : c.session.disposed = false) (hstarted : c.session.started = false) :
    Begun w c (c.spawn w executable arguments).1 (c.negotiated? w) none := by
  have hspawn : c.spawn w executable arguments = spawnFirst w executable arguments
      { c with session := { c.session with started := true } } := by
    simp [spawn, hdisposed, hstarted]
  rw [hspawn]
  unfold spawnFirst
  split
  · rename_i fault hidentity
    have hnone : c.negotiated? w = none := by
      have hidentity' : w.identity? c.session.config = .error fault := hidentity
      simp [negotiated?, hdisposed, hstarted, hidentity']
    rw [hnone]
    exact ⟨rfl, rfl, rfl, rfl, rfl, rfl, rfl, .refl, nofun⟩
  · rename_i identity hidentity
    split
    · rename_i hmake
      exact makeChannel_begun w hdisposed hstarted hidentity hmake
    · rename_i channel hmake
      have begun := makeChannel_begun w hdisposed hstarted hidentity hmake
      have hgroup := begun.makeGroup channel.names
      split
      · exact hgroup
      · exact hgroup

theorem start_first (w : Surroundings γ) (executable : String) (arguments : List String)
    {c : Scene γ} (hdisposed : c.session.disposed = false) (hstarted : c.session.started = false) :
    Begun w c (c.start w executable arguments).1 (c.negotiated? w)
      (c.spawn w executable arguments).2.toOption := by
  have begun := spawn_begun w executable arguments hdisposed hstarted
  unfold start
  split
  · rename_i hspawn
    rw [hspawn] at begun ⊢
    exact begun
  · rename_i child hspawn
    rw [hspawn] at begun ⊢
    exact begun.takeIn child

/-! ## Other steps -/

/-- What is done with the handle on the child. -/
theorem withProcess_frame {α : Type} (c : Scene γ) {f : ProcessHandle → γ → ProcessHandle × γ × α}
    (hkeeps : ∀ h child, ProcessHandle.Keeps h child (f h child).1 (f h child).2.1) :
    Frame c (c.withProcess f).1 ∧
      ((∀ h ∈ c.session.process, h.released = true) → (c.withProcess f).1 = c) := by
  rcases c.withProcess_cases f with hsame | ⟨handle, child, hprocess, hchild, heq⟩
  · rw [hsame]
    exact ⟨.refl c, fun _ => rfl⟩
  · have hkept := hkeeps handle child
    rw [heq]
    refine ⟨⟨rfl, rfl, rfl, rfl, by simp [hprocess], by simp [hchild], ?_, .refl _⟩, ?_⟩
    · intro hreleased
      rw [hprocess, (hkept.untouched (hreleased handle hprocess)).1]
    · intro hreleased
      obtain ⟨hh, hc⟩ := hkept.untouched (hreleased handle hprocess)
      rw [hh, hc, ← hprocess, ← hchild]

theorem frame_of_withProcess {α : Type} {c c' : Scene γ}
    {f : ProcessHandle → γ → ProcessHandle × γ × α} {a : Option α}
    (heq : c.withProcess f = (c', a))
    (hkeeps : ∀ h child, ProcessHandle.Keeps h child (f h child).1 (f h child).2.1) :
    Frame c c' ∧ ((∀ h ∈ c.session.process, h.released = true) → c' = c) := by
  have hframe := c.withProcess_frame hkeeps
  rw [heq] at hframe
  exact hframe

theorem offer_frame (text : String) (c : Scene γ) : Frame c (c.offer text) :=
  ⟨rfl, rfl, rfl, rfl, rfl, rfl, fun _ => rfl, .refl _⟩

variable [Program γ]

theorem hasExited_frame (c : Scene γ) : Frame c c.hasExited.1 :=
  (c.withProcess_frame ProcessHandle.poll_keeps).1

theorem shouldStop_frame (c : Scene γ) : Frame c c.shouldStop.1 := by
  unfold shouldStop
  split
  · exact .refl c
  · exact c.hasExited_frame

/-- The child leaves the tables of names as they are. -/
def KeepsTables (γ : Type) [Program γ] : Prop :=
  ∀ now (child : γ) (s : System), s.SameTables (Program.step now child s).2

/-- None of the children makes objects or removes names. -/
theorem keepsTables_child : KeepsTables Child := by
  intro now child s
  show s.SameTables (child.step now s).2
  cases child with
  | sleeping wake code => exact .refl s
  | hanging => exact .refl s
  | console arguments =>
    simp only [Child.step]
    split <;> exact .refl s
  | talking channel run =>
    simp only [Child.step]
    split
    · exact .refl s
    · exact .setShared channel s _
  | messenger arguments messages =>
    simp only [Child.step]
    split <;> exact .refl s
  | posting channel messages =>
    cases messages with
    | nil => exact .refl s
    | cons message rest => exact (System.SameTables.modifyRegion s _ _).trans (.setSignal _ _)
  | listening channel rest wake =>
    simp only [Child.step]
    split
    · exact .setCount s _ _
    · exact .refl s
  | ended code => exact .refl s

theorem runChild_frame (hchild : KeepsTables γ) (now : Nat) (c : Scene γ) :
    Frame c (c.runChild now) := by
  unfold runChild
  split
  · exact .refl c
  · rename_i child hsome
    exact ⟨rfl, rfl, rfl, rfl, rfl, by simp [hsome], fun _ => rfl, hchild now child _⟩

theorem serve_frame (now : Nat) (c : Scene γ) : Frame c (c.serve now) := by
  unfold serve
  split
  · rename_i loop channel hloop hchannel
    split
    rename_i asked stop hasked
    have hframe : Frame c asked := by
      split at hasked
      · have hstop := c.shouldStop_frame
        rw [hasked] at hstop
        exact hstop
      · cases hasked
        exact .refl c
    refine hframe.trans ⟨rfl, rfl, rfl, rfl, rfl, rfl, fun _ => rfl, ?_⟩
    exact .setShared channel asked.system _
  · exact .refl c

theorem watch_frame (now : Nat) (c : Scene γ) : Frame c (c.watch now) := by
  unfold watch
  split
  · exact .refl c
  · rename_i watcher _
    split
    · rename_i c' heq
      exact (frame_of_withProcess heq
        fun h child => ProcessHandle.watchStep_keeps _ _ _ _ h child).1
    · rename_i c' watcher' heq
      have hframe :=
        (frame_of_withProcess heq fun h child => ProcessHandle.watchStep_keeps _ _ _ _ h child).1
      exact hframe.trans ⟨rfl, rfl, rfl, rfl, rfl, rfl, fun _ => rfl, .refl _⟩

theorem closing_frame (now : Nat) (c : Scene γ) (k : ProcessHandle.Closing) :
    Frame c (closingParty.act now (c, k)).1 ∧
      ((∀ h ∈ c.session.process, h.released = true) →
        (closingParty.act now (c, k)).1 = c) := by
  simp only [closingParty]
  split
  · rename_i c' k' heq
    exact frame_of_withProcess heq fun h child => ProcessHandle.closeStep_keeps _ _ h child
  · rename_i c' heq
    exact frame_of_withProcess heq fun h child => ProcessHandle.closeStep_keeps _ _ h child

theorem killAs_keeps (account : Account) (h : ProcessHandle) (child : γ) :
    h.Keeps child (killAs account h child).1 (killAs account h child).2.1 := by
  unfold killAs
  split
  · exact h.kill_keeps child
  · have hkept := h.kill_keeps (Protected.mk child)
    exact ⟨hkept.pid, hkept.released, hkept.recorded, fun hreleased =>
      ⟨(hkept.untouched hreleased).1,
        congrArg Protected.child (hkept.untouched hreleased).2⟩⟩

theorem abort_frame (account : Account) (c : Scene γ) : Frame c (c.abort account) := by
  have hstopped : Frame c { c with session := { c.session with stopped := true } } :=
    ⟨rfl, rfl, rfl, rfl, rfl, rfl, fun _ => rfl, .refl _⟩
  have hcancelled (c : Scene γ) : Frame c c.signalCancel := by
    unfold signalCancel
    split
    · exact .refl c
    · exact ⟨rfl, rfl, rfl, rfl, rfl, rfl, fun _ => rfl, .setSignal _ _⟩
  exact (hstopped.trans (hcancelled _)).trans (withProcess_frame _ (killAs_keeps account)).1

/-- What a step does: a start or a disposal does what it is for, everything else leaves the
state of the session as it is. -/
theorem Step.cases_frame (hchild : KeepsTables γ) {label : Label γ} {s s' : Scene γ × Current}
    (step : Step label s s') :
    (Frame s.1 s'.1 ∧ label ≠ .release ∧ (label = .dispose → s.1.session.disposed = true) ∧
        (∀ w executable arguments, label ≠ .start w executable arguments) ∧
        (s'.2 = .disposing ↔ s.2 = .disposing)) ∨
      (∃ w executable arguments, label = .start w executable arguments ∧ s.2 = .idle ∧
        s' = ((s.1.start w executable arguments).1, .idle)) ∨
      (label = .dispose ∧ s.1.session.disposed = false ∧ s' = (s.1.stopping, .disposing)) ∨
      (label = .release ∧ s.2 = .disposing ∧ s' = (s.1.releaseAll, .idle)) := by
  cases step with
  | child now c k => exact Or.inl ⟨runChild_frame hchild now c, nofun, nofun, nofun, .rfl⟩
  | serve now c k => exact Or.inl ⟨serve_frame now c, nofun, nofun, nofun, .rfl⟩
  | watch now c k => exact Or.inl ⟨watch_frame now c, nofun, nofun, nofun, .rfl⟩
  | clock now c k =>
    exact Or.inl ⟨⟨rfl, rfl, rfl, rfl, rfl, rfl, fun _ => rfl, .refl _⟩, nofun, nofun, nofun, .rfl⟩
  | start w executable arguments c =>
    exact Or.inr (Or.inl ⟨w, executable, arguments, rfl, rfl, rfl⟩)
  | enqueue text c => exact Or.inl ⟨offer_frame text c, nofun, nofun, nofun, .rfl⟩
  | abort account c => exact Or.inl ⟨abort_frame account c, nofun, nofun, nofun, .rfl⟩
  | closeNone hprocess => exact Or.inl ⟨.refl _, nofun, nofun, nofun, .rfl⟩
  | close hprocess => exact Or.inl ⟨.refl _, nofun, nofun, nofun, by simp⟩
  | closing now c k =>
    exact Or.inl ⟨(closing_frame now c k).1, nofun, nofun, nofun, by simp⟩
  | closed outcome c => exact Or.inl ⟨.refl _, nofun, nofun, nofun, by simp⟩
  | disposeAgain hdisposed =>
    exact Or.inl ⟨.refl _, nofun, fun _ => hdisposed, nofun, .rfl⟩
  | dispose hdisposed => exact Or.inr (Or.inr (Or.inl ⟨rfl, hdisposed, rfl⟩))
  | release c => exact Or.inr (Or.inr (Or.inr ⟨rfl, rfl, rfl⟩))

end Scene

end ConsoleLink
