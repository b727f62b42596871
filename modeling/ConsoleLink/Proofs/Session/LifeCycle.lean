import ConsoleLink.Proofs.Session.Frames

/-!
# The life cycle of a session

Whatever is asked of a session, in whatever order, and however far its start has come: it starts
at most one child, holds the names of at most one channel, from when this was made until the
session is disposed of, and after that it touches nothing any more.

* `Lives` is the invariant of a history, by the channel and the child of its start;
  `Run.lives` proves it.
* `IsOver` is what a disposal leaves behind.  Nothing is touched after it
  (`Step.untouched`), and a shutdown has nothing to do (`IsOver.close`).
* `life_cycle` puts it together.
-/

namespace ConsoleLink

open Negotiation (Phase)
open TableEffect (inHands)

namespace Scene

variable {γ : Type}

/-! ## What has happened -/

/-- Only starts make channels and start children. -/
theorem made_of_not_start {label : Label γ} (c : Scene γ)
    (hlabel : ∀ w executable arguments, label ≠ .start w executable arguments) :
    Entry.negotiated? ⟨c, label⟩ = none ∧ Entry.spawned? ⟨c, label⟩ = none := by
  cases label with
  | start w executable arguments => exact absurd rfl (hlabel w executable arguments)
  | _ => exact ⟨rfl, rfl⟩

/-! ## The invariant -/

/-- Whether a start was tried. -/
def WasStarted (log : List (Entry γ)) : Prop :=
  ∃ w executable arguments, Happened (.start w executable arguments) log

/-- The handles of the channel of a scene, if there is one. -/
def channelHandles (c : Scene γ) : List Handle := c.session.channel.elim [] Channel.handles

theorem Begun.balanced {w : Surroundings γ} {c c' : Scene γ} {made : Option Channel}
    {child : Option γ} (begun : Begun w c c' made child) {initial : System}
    (hbalanced : Balanced initial c.system []) :
    Balanced initial c'.system (inHands w.caller.account (made.elim [] Channel.handles)) := by
  have hfirst : Balanced initial c.system
      (inHands w.caller.account (Activity.holding []).handles ++ []) := hbalanced
  have hruns := hfirst.runs begun.system
  rw [List.append_nil] at hruns
  refine hruns.perm (List.Perm.map _ ?_)
  cases made with
  | none => exact .refl []
  | some channel => exact List.reverse_perm channel.handles

/-- The channel goes, and nothing else of this changes. -/
structure Closed (c c' : Scene γ) : Prop where
  started : c'.session.started = c.session.started
  disposed : c'.session.disposed = c.session.disposed
  process : c'.session.process = c.session.process.map ProcessHandle.release
  child : c'.child.isSome = c.child.isSome
  channel : c'.session.channel = none
  system : c'.system = c.session.channel.elim c.system fun channel =>
    channel.close c.system {} c.session.config.verifyHandlesClosed

theorem releaseAll_closed [Program γ] (c : Scene γ) : Closed c c.releaseAll := by
  have hgroup (c' : Scene γ) (hclosed : Closed c c') : Closed c c'.releaseGroup := by
    unfold releaseGroup
    split
    · rename_i hchild
      exact ⟨hclosed.started, hclosed.disposed, hclosed.process,
        by rw [← hclosed.child, hchild]; rfl, hclosed.channel, hclosed.system⟩
    · exact ⟨hclosed.started, hclosed.disposed, hclosed.process, hclosed.child, hclosed.channel,
        hclosed.system⟩
  refine hgroup _ ?_
  unfold closeChannel
  split
  · rename_i hchannel
    have hnone : c.session.channel = none := hchannel
    exact ⟨rfl, rfl, rfl, rfl, hchannel, by rw [hnone]; rfl⟩
  · rename_i channel hchannel
    have hsome : c.session.channel = some channel := hchannel
    exact ⟨rfl, rfl, rfl, rfl, rfl, by rw [hsome]; rfl⟩

/-- What is true of a session, by what has happened to it: `made` is the channel of its start, and
`first` is the child. -/
structure Lives (initial : System) (log : List (Entry γ)) (s : Scene γ × Current)
    (made : Option Channel) (first : Option γ) : Prop where
  negotiated : negotiatedIn log = made.toList
  spawned : spawnedIn log = first.toList
  disposed : s.1.session.disposed = true ↔ Happened .dispose log
  started : WasStarted log → s.1.session.disposed = true ∨ s.1.session.started = true
  unstarted : s.1.session.started = false → made = none ∧ first = none
  process : s.1.session.process.isSome = first.isSome
  child : s.1.child.isSome = first.isSome
  /-- The first disposal is under way, or it is over. -/
  disposing : s.2 = .disposing ↔ s.1.session.disposed = true ∧ ¬ Happened .release log
  channel : s.1.session.channel = made ∧ ¬ Happened .release log ∨
    s.1.session.channel = none ∧ Happened .release log
  /-- The handle on the child has stayed as it was when it was released. -/
  released : ∀ entry ∈ log, entry.label = .release → s.1.session.disposed = true ∧
    s.1.session.process = entry.before.session.process.map ProcessHandle.release
  balanced : ∃ account, Balanced initial s.1.system (inHands account s.1.channelHandles)
  held : ∀ channel ∈ made, channel.IsHeld ∧ ∀ object ∈ channel.names.objects,
    ∃ key, System.key object.1 object.2 = .ok key ∧ key ∉ (initial.names object.1).map Prod.fst

namespace Lives

variable {initial : System} {log : List (Entry γ)} {s s' : Scene γ × Current}
  {made : Option Channel} {first : Option γ}

theorem start (config : Config) (receivers : Receivers Unit) (initial : System) (now : Nat) :
    Lives (γ := γ) initial []
      ({ session := Session.of config receivers, system := initial, now := now }, .idle)
      none none where
  negotiated := rfl
  spawned := rfl
  disposed := ⟨nofun, fun ⟨_, hmem⟩ => nomatch hmem⟩
  started := fun ⟨_, _, _, _, hmem⟩ => nomatch hmem
  unstarted _ := ⟨rfl, rfl⟩
  process := rfl
  child := rfl
  disposing := ⟨nofun, nofun⟩
  channel := Or.inl ⟨rfl, fun ⟨_, hmem⟩ => nomatch hmem⟩
  released _ hmem := nomatch hmem
  balanced := ⟨.root, .start initial⟩
  held := nofun

/-- What neither starts nor disposes keeps everything. -/
theorem frame (lives : Lives initial log s made first) (hframe : Frame s.1 s'.1) {label : Label γ}
    (hmade : Entry.negotiated? ⟨s.1, label⟩ = none ∧ Entry.spawned? ⟨s.1, label⟩ = none)
    (hstarted : WasStarted (⟨s.1, label⟩ :: log) →
      s.1.session.disposed = true ∨ s.1.session.started = true)
    (hdispose : label = .dispose → s.1.session.disposed = true) (hrelease : label ≠ .release)
    (hcurrent : s'.2 = .disposing ↔ s.2 = .disposing) :
    Lives initial (⟨s.1, label⟩ :: log) s' made first := by
  have hreleased : Happened .release (⟨s.1, label⟩ :: log) ↔ Happened .release log := by
    rw [happened_cons]
    exact or_iff_right (Ne.symm hrelease)
  have hhandles : s'.1.channelHandles = s.1.channelHandles := by
    unfold channelHandles
    rw [hframe.channel]
  refine ⟨?_, ?_, ?_, ?_, ?_,
    hframe.process.trans lives.process, hframe.child.trans lives.child, ?_, ?_, ?_, ?_, lives.held⟩
  · rw [negotiatedIn_cons, hmade.1]
    exact lives.negotiated
  · rw [spawnedIn_cons, hmade.2]
    exact lives.spawned
  · rw [hframe.disposed, lives.disposed, happened_cons]
    refine ⟨Or.inr, ?_⟩
    rintro (hlabel | hhappened)
    · exact lives.disposed.mp (hdispose hlabel.symm)
    · exact hhappened
  · rw [hframe.disposed, hframe.started]
    exact hstarted
  · rw [hframe.started]
    exact lives.unstarted
  · rw [hcurrent, hframe.disposed, hreleased]
    exact lives.disposing
  · rw [hframe.channel, hreleased]
    exact lives.channel
  · intro entry hmem hlabel
    rcases List.mem_cons.mp hmem with rfl | hmem
    · exact absurd hlabel hrelease
    · obtain ⟨hdisposed, hprocess⟩ := lives.released entry hmem hlabel
      refine ⟨hframe.disposed.trans hdisposed, (hframe.released fun h hh => ?_).trans hprocess⟩
      rw [hprocess] at hh
      obtain ⟨h', -, rfl⟩ := Option.map_eq_some_iff.mp hh
      rfl
  · obtain ⟨account, hbalanced⟩ := lives.balanced
    rw [hhandles]
    exact ⟨account, hbalanced.same hframe.tables⟩

/-- A session that was not disposed of has everything that it made. -/
theorem not_released (lives : Lives initial log s made first)
    (hdisposed : s.1.session.disposed = false) : ¬ Happened .release log := by
  rintro ⟨c, hmem⟩
  have hover := (lives.released _ hmem rfl).1
  rw [hdisposed] at hover
  cases hover

theorem start_first (lives : Lives initial log s made first)
    (hdisposed : s.1.session.disposed = false) (hstarted : s.1.session.started = false)
    (w : Surroundings γ) (executable : String) (arguments : List String) :
    Lives initial (⟨s.1, .start w executable arguments⟩ :: log)
      ((s.1.start w executable arguments).1, .idle) (s.1.negotiated? w)
      (s.1.spawn w executable arguments).2.toOption := by
  obtain ⟨rfl, rfl⟩ := lives.unstarted hstarted
  have begun := s.1.start_first w executable arguments hdisposed hstarted
  have hdisposed' := begun.disposed.trans hdisposed
  have hreleased : ¬ Happened .release (⟨s.1, .start w executable arguments⟩ :: log) := by
    rw [happened_cons]
    exact not_or.mpr ⟨by simp, lives.not_released hdisposed⟩
  have hnone : s.1.session.channel = none ∧ s.1.session.process = none ∧ s.1.child = none := by
    refine ⟨?_, Option.not_isSome_iff_eq_none.mp ?_, Option.not_isSome_iff_eq_none.mp ?_⟩
    · rcases lives.channel with ⟨hchannel, -⟩ | ⟨hchannel, -⟩ <;> exact hchannel
    · rw [lives.process]
      exact Bool.false_ne_true
    · rw [lives.child]
      exact Bool.false_ne_true
  have hbefore : Balanced initial s.1.system [] := by
    obtain ⟨account, hbalanced⟩ := lives.balanced
    simpa only [channelHandles, hnone.1, Option.elim_none, inHands, List.map_nil] using hbalanced
  have hbalanced := begun.balanced hbefore
  have hchannel : (s.1.start w executable arguments).1.session.channel = s.1.negotiated? w := by
    rw [begun.channel, hnone.1, Option.or_none]
  refine ⟨?_, ?_, ?_, fun _ => Or.inr begun.started, ?_, ?_, ?_, ?_, ?_, ?_, ?_, ?_⟩
  · rw [negotiatedIn_cons, lives.negotiated]
    exact List.append_nil _
  · rw [spawnedIn_cons, lives.spawned]
    exact List.append_nil _
  · rw [begun.disposed, lives.disposed, happened_cons]
    simp
  · intro hunstarted
    rw [begun.started] at hunstarted
    cases hunstarted
  · rw [begun.process, hnone.2.1, Option.or_none, Option.isSome_map]
  · rw [begun.child, hnone.2.2, Option.or_none]
  · rw [hdisposed']
    simp
  · exact Or.inl ⟨hchannel, hreleased⟩
  · intro entry hmem hlabel
    exact absurd ⟨entry.before, hlabel ▸ hmem⟩ hreleased
  · refine ⟨w.caller.account, ?_⟩
    unfold channelHandles
    rw [hchannel]
    exact hbalanced
  · intro channel hmade
    rw [hmade] at hbalanced
    refine ⟨begun.held channel hmade, fun object hobject => ?_⟩
    obtain ⟨key, hkey, hfresh, -⟩ := (begun.held channel hmade).named hbalanced hobject
    exact ⟨key, hkey, hfresh⟩

/-- A disposal begins. -/
theorem stopping (lives : Lives initial log s made first)
    (hdisposed : s.1.session.disposed = false) :
    Lives initial (⟨s.1, .dispose⟩ :: log) (s.1.stopping, .disposing) made first := by
  have hreleased : ¬ Happened .release (⟨s.1, .dispose⟩ :: log) := by
    rw [happened_cons]
    exact not_or.mpr ⟨by simp, lives.not_released hdisposed⟩
  refine ⟨lives.negotiated, lives.spawned, ?_, fun _ => Or.inl rfl, lives.unstarted,
    lives.process, lives.child, ?_, ?_, ?_, lives.balanced, lives.held⟩
  · rw [happened_cons]
    exact ⟨fun _ => Or.inl rfl, fun _ => rfl⟩
  · exact ⟨fun _ => ⟨rfl, hreleased⟩, fun _ => rfl⟩
  · rcases lives.channel with ⟨hchannel, -⟩ | ⟨-, hhappened⟩
    · exact Or.inl ⟨hchannel, hreleased⟩
    · exact absurd hhappened (lives.not_released hdisposed)
  · intro entry hmem hlabel
    exact absurd ⟨entry.before, hlabel ▸ hmem⟩ hreleased

/-- Everything is let go of. -/
theorem release [Program γ] (lives : Lives initial log s made first)
    (hcurrent : s.2 = .disposing) :
    Lives initial (⟨s.1, .release⟩ :: log) (s.1.releaseAll, .idle) made first := by
  obtain ⟨hdisposed, hreleased⟩ := lives.disposing.mp hcurrent
  have hnow : Happened .release (⟨s.1, .release⟩ :: log) := ⟨s.1, List.mem_cons_self⟩
  have hclosed := s.1.releaseAll_closed
  have hdisposed' := hclosed.disposed.trans hdisposed
  refine ⟨lives.negotiated, lives.spawned, ?_, fun _ => Or.inl hdisposed', ?_, ?_, ?_, ?_,
    Or.inr ⟨hclosed.channel, hnow⟩, ?_, ?_, lives.held⟩
  · rw [hclosed.disposed, lives.disposed, happened_cons]
    exact ⟨Or.inr, fun h => h.resolve_left nofun⟩
  · rw [hclosed.started]
    exact lives.unstarted
  · rw [hclosed.process, Option.isSome_map]
    exact lives.process
  · exact hclosed.child.trans lives.child
  · exact ⟨nofun, fun h => absurd hnow h.2⟩
  · intro entry hmem hlabel
    rcases List.mem_cons.mp hmem with rfl | hmem
    · exact ⟨hdisposed', hclosed.process⟩
    · exact absurd ⟨entry.before, hlabel ▸ hmem⟩ hreleased
  · obtain ⟨account, hbalanced⟩ := lives.balanced
    refine ⟨account, ?_⟩
    unfold channelHandles at hbalanced ⊢
    rw [hclosed.channel, hclosed.system]
    cases hchannel : s.1.session.channel with
    | none =>
      rw [hchannel] at hbalanced
      exact hbalanced
    | some channel =>
      rw [hchannel] at hbalanced
      exact hbalanced.close rfl _

end Lives

variable [Program γ] {config : Config} {receivers : Receivers Unit} {initial : System}
  {log : List (Entry γ)} {s s' : Scene γ × Current} {made : Option Channel} {first : Option γ}
  {label : Label γ}

theorem Step.lives (hchild : KeepsTables γ) (step : Step label s s')
    (lives : Lives initial log s made first) :
    ∃ made first, Lives initial (⟨s.1, label⟩ :: log) s' made first := by
  rcases step.cases_frame hchild with ⟨hframe, hrelease, hdispose, hlabel, hcurrent⟩ |
    ⟨w, executable, arguments, rfl, hidle, rfl⟩ | ⟨rfl, hdisposed, rfl⟩ | ⟨rfl, hcurrent, rfl⟩
  · refine ⟨made, first, lives.frame hframe (made_of_not_start s.1 hlabel) ?_ hdispose hrelease
      hcurrent⟩
    rintro ⟨w, executable, arguments, hhappened⟩
    rcases happened_cons.mp hhappened with heq | hhappened
    · exact absurd heq.symm (hlabel w executable arguments)
    · exact lives.started ⟨w, executable, arguments, hhappened⟩
  · obtain ⟨c, k⟩ := s
    obtain rfl : k = .idle := hidle
    by_cases hlate : c.session.disposed = true ∨ c.session.started = true
    · obtain ⟨hstart, hspawn, hnegotiated⟩ := c.start_late w executable arguments hlate
      have hnothing : Entry.negotiated? ⟨c, .start w executable arguments⟩ = none ∧
          Entry.spawned? ⟨c, .start w executable arguments⟩ = none := ⟨hnegotiated, hspawn⟩
      rw [hstart]
      exact ⟨made, first, lives.frame (.refl c) hnothing (fun _ => hlate) nofun nofun .rfl⟩
    · obtain ⟨hdisposed, hstarted⟩ := not_or.mp hlate
      exact ⟨_, _, lives.start_first (Bool.eq_false_iff.mpr hdisposed)
        (Bool.eq_false_iff.mpr hstarted) w executable arguments⟩
  · exact ⟨made, first, lives.stopping hdisposed⟩
  · exact ⟨made, first, lives.release hcurrent⟩

theorem Run.lives (hchild : KeepsTables γ) (run : Run config receivers initial log s) :
    ∃ made first, Lives initial log s made first := by
  induction run with
  | start now => exact ⟨none, none, .start config receivers initial now⟩
  | step run step ih =>
    obtain ⟨made, first, lives⟩ := ih
    exact step.lives hchild lives

/-! ## After a disposal -/

/-- What a disposal leaves behind. -/
structure IsOver (c : Scene γ) : Prop where
  disposed : c.session.disposed = true
  channel : c.session.channel = none
  released : ∀ h ∈ c.session.process, h.released = true

omit [Program γ] in
theorem Lives.isOver (lives : Lives initial log s made first) {disposal : Scene γ}
    (hrelease : ⟨disposal, .release⟩ ∈ log) : IsOver s.1 where
  disposed := (lives.released _ hrelease rfl).1
  channel := by
    rcases lives.channel with ⟨-, hnot⟩ | ⟨hchannel, -⟩
    · exact absurd ⟨disposal, hrelease⟩ hnot
    · exact hchannel
  released h hh := by
    rw [(lives.released _ hrelease rfl).2] at hh
    obtain ⟨h', -, rfl⟩ := Option.map_eq_some_iff.mp hh
    rfl

theorem IsOver.serve {c : Scene γ} (hover : IsOver c) (now : Nat) : c.serve now = c := by
  unfold Scene.serve
  rw [hover.channel]
  split
  · rename_i hnone
    cases hnone
  · rfl

theorem IsOver.watch {c : Scene γ} (hover : IsOver c) (now : Nat) :
    (c.watch now).system = c.system ∧ (c.watch now).child = c.child ∧
      (c.watch now).session.process = c.session.process := by
  unfold Scene.watch
  split
  · exact ⟨rfl, rfl, rfl⟩
  · split
    · rename_i heq
      rw [(frame_of_withProcess heq fun h child => ProcessHandle.watchStep_keeps _ _ _ _ h child).2
        hover.released]
      exact ⟨rfl, rfl, rfl⟩
    · rename_i heq
      rw [(frame_of_withProcess heq fun h child => ProcessHandle.watchStep_keeps _ _ _ _ h child).2
        hover.released]
      exact ⟨rfl, rfl, rfl⟩

theorem IsOver.abort {c : Scene γ} (hover : IsOver c) (account : Account) :
    c.abort account = { c with session := { c.session with stopped := true } } := by
  have hcancel : signalCancel { c with session := { c.session with stopped := true } } =
      { c with session := { c.session with stopped := true } } := by
    unfold signalCancel
    simp only [hover.channel]
  unfold Scene.abort
  simp only [hcancel]
  exact (withProcess_frame _ (killAs_keeps account)).2 hover.released

/-- A step of a shutdown goes by what was recorded. -/
theorem IsOver.closing {c : Scene γ} (hover : IsOver c) {h : ProcessHandle} {child : γ}
    (hprocess : c.session.process = some h) (hchild : c.child = some child)
    {k : ProcessHandle.Closing} (hgoing : closingParty.isDone (c, k) = false)
    (hwaits : k.waits = none) (others : List (Party (Scene γ × ProcessHandle.Closing)))
    (turns : Nat) :
    Turns.run (closingParty :: others) closingParty.isDone (turns + 1) c.now (c, k) =
      Turns.run (closingParty :: others) closingParty.isDone turns c.now
        (c, (ProcessHandle.closeStep c.now k h child).1) := by
  have hact : closingParty.canAct c.now (c, k) = true := by
    have hparty : (closingParty (γ := γ)).waits (c, k) = none := hwaits
    simp only [Party.canAct, hgoing, hparty, Bool.not_false, Bool.and_self]
  have hnext : closingParty.act c.now (c, k) =
      (c, (ProcessHandle.closeStep c.now k h child).1) := by
    refine Prod.ext ((closing_frame c.now c k).2 hover.released) ?_
    simp only [closingParty, withProcess, hprocess, hchild]
  rw [Turns.run_first hgoing hact, hnext]

/-- A shutdown after a disposal tells what had been found out before. -/
theorem IsOver.close {c : Scene γ} (hover : IsOver c)
    (hchild : c.child.isSome = c.session.process.isSome) :
    c.close = (c, c.session.process.map fun h =>
      if h.exitCode.isSome then .exited else .released) := by
  unfold Scene.close
  split
  · rename_i hnone
    rw [hnone]
    rfl
  · rename_i h hprocess
    have hreleased := hover.released h hprocess
    obtain ⟨child, hsome⟩ := Option.isSome_iff_exists.mp (hchild.trans (by rw [hprocess]; rfl))
    have hrun (others : List (Party (Scene γ × ProcessHandle.Closing))) :
        Turns.run (closingParty :: others) closingParty.isDone Turns.plenty c.now
            (c, ProcessHandle.closeBy (c.now + c.session.config.shutdownTimeout)) =
          (c.now, c, .done (if h.exitCode.isSome then .exited else .released)) := by
      obtain ⟨turns, hplenty⟩ : ∃ turns, Turns.plenty = turns + 1 + 1 + 1 := ⟨999999999997, rfl⟩
      rw [hplenty, ProcessHandle.closeBy,
        hover.closing hprocess hsome (k := .waiting (.polling _)) rfl rfl,
        ProcessHandle.closeStep_of_released hreleased]
      cases hcode : h.exitCode with
      | some code =>
        rw [hover.closing hprocess hsome (k := .waiting (.done (some code))) rfl rfl]
        exact Turns.run_goal rfl _ _ _
      | none =>
        have hforcing : (ProcessHandle.closeStep c.now (.waiting (.done none)) h child).1 =
            .forcing := rfl
        rw [hover.closing hprocess hsome (k := .waiting (.done none)) rfl rfl, hforcing,
          hover.closing hprocess hsome (k := .forcing) rfl rfl,
          ProcessHandle.forcing_of_released hreleased hcode]
        exact Turns.run_goal rfl _ _ _
    unfold runWith
    simp only [hrun, hprocess, Option.map_some]

omit [Program γ] in
theorem offer_untouched (text : String) (c : Scene γ) :
    (c.offer text).system = c.system ∧ (c.offer text).child = c.child ∧
      (c.offer text).session.process = c.session.process :=
  ⟨rfl, rfl, rfl⟩

/-- Whoever calls upon a session that was disposed of, and whatever its threads still do, the
child and the system's objects are not touched. -/
theorem Step.untouched (step : Step label s s') (hover : IsOver s.1) (hcurrent : s.2 ≠ .disposing)
    (hlabel : ∀ now, label ≠ .child now) :
    s'.1.system = s.1.system ∧ s'.1.child = s.1.child ∧
      s'.1.session.process = s.1.session.process := by
  cases step with
  | child now c k => exact absurd rfl (hlabel now)
  | serve now c k =>
    rw [hover.serve]
    exact ⟨rfl, rfl, rfl⟩
  | watch now c k => exact hover.watch now
  | clock now c k => exact ⟨rfl, rfl, rfl⟩
  | start w executable arguments c =>
    rw [(c.start_late w executable arguments (Or.inl hover.disposed)).1]
    exact ⟨rfl, rfl, rfl⟩
  | enqueue text c => exact c.offer_untouched text
  | abort account c =>
    rw [hover.abort]
    exact ⟨rfl, rfl, rfl⟩
  | closeNone hprocess => exact ⟨rfl, rfl, rfl⟩
  | close hprocess => exact ⟨rfl, rfl, rfl⟩
  | closing now c k =>
    rw [(closing_frame now c k).2 hover.released]
    exact ⟨rfl, rfl, rfl⟩
  | closed outcome c => exact ⟨rfl, rfl, rfl⟩
  | disposeAgain hdisposed => exact ⟨rfl, rfl, rfl⟩
  | dispose hdisposed =>
    rw [hover.disposed] at hdisposed
    cases hdisposed
  | release c => exact absurd rfl hcurrent

/-! ## The tables -/

omit [Program γ] in
theorem Lives.names_eq (lives : Lives initial log s made first)
    (hnone : negotiatedIn log = [] ∨ Happened .release log) (kind : ObjectKind) :
    s.1.system.names kind = initial.names kind := by
  obtain ⟨account, hbalanced⟩ := lives.balanced
  have hchannel : s.1.session.channel = none := by
    rcases lives.channel with ⟨hchannel, hnot⟩ | ⟨hchannel, -⟩
    · rw [hchannel, ← Option.toList_eq_nil_iff, ← lives.negotiated]
      exact hnone.resolve_right hnot
    · exact hchannel
  unfold channelHandles at hbalanced
  rw [hchannel] at hbalanced
  exact hbalanced.names_eq nofun kind

omit [Program γ] in
theorem Lives.balanced_of_held (lives : Lives initial log s made first) {channel : Channel}
    (hmade : channel ∈ negotiatedIn log) (hheld : ¬ Happened .release log) :
    ∃ account, Balanced initial s.1.system (inHands account channel.handles) := by
  obtain ⟨account, hbalanced⟩ := lives.balanced
  rw [lives.negotiated, Option.mem_toList] at hmade
  have hchannel : s.1.session.channel = some channel := by
    rcases lives.channel with ⟨hchannel, -⟩ | ⟨-, hreleased⟩
    · rw [hchannel, hmade]
    · exact absurd hreleased hheld
  unfold channelHandles at hbalanced
  rw [hchannel] at hbalanced
  exact ⟨account, hbalanced⟩

/-! ## The whole life -/

/-- Whatever has happened to a session so far:

* at most one child was started, and at most one channel made;
* a start after a disposal is refused as not started, any other but the first as already
  started, however the first one came out, and neither changes anything;
* the four names of the channel are good ones, were free before, and are in the tables from when
  it was made until the session is disposed of; apart from them the tables are as they were at
  the beginning, and a disposal in one go leaves nothing else;
* after a disposal nobody touches the child or the system's objects any more, except for the
  child itself, and a shutdown tells whether an exit code had been recorded before. -/
theorem life_cycle (hchild : KeepsTables γ) (run : Run config receivers initial log s) :
    (spawnedIn log).length ≤ 1 ∧ (negotiatedIn log).length ≤ 1 ∧
      (∀ (w : Surroundings γ) (executable : String) (arguments : List String),
        (Happened .dispose log →
          s.1.start w executable arguments = (s.1, .error .notStarted)) ∧
        (WasStarted log → ¬ Happened .dispose log →
          s.1.start w executable arguments = (s.1, .error .alreadyStarted))) ∧
      (∀ channel ∈ negotiatedIn log,
        (∀ object ∈ channel.names.objects, ∃ key, System.key object.1 object.2 = .ok key ∧
          key ∉ (initial.names object.1).map Prod.fst ∧
            (key ∈ (s.1.system.names object.1).map Prod.fst ↔ ¬ Happened .release log)) ∧
        (¬ Happened .release log → ∀ kind, ((s.1.system.names kind).map Prod.fst).Perm
          (channel.names.keys kind ++ (initial.names kind).map Prod.fst))) ∧
      (negotiatedIn log = [] ∨ Happened .release log →
        ∀ kind, s.1.system.names kind = initial.names kind) ∧
      (s.2 = .idle → ∀ kind, s.1.dispose.system.names kind = initial.names kind) ∧
      ∀ disposal, ⟨disposal, .release⟩ ∈ log →
        (∀ (label : Label γ) (s' : Scene γ × Current), Step label s s' →
          (∀ now, label ≠ .child now) →
            s'.1.system = s.1.system ∧ s'.1.child = s.1.child ∧
              s'.1.session.process = s.1.session.process) ∧
        s.1.close = (s.1, if (spawnedIn log).isEmpty then none
          else if disposal.exitCode?.isSome then some .exited else some .released) := by
  obtain ⟨made, first, lives⟩ := run.lives hchild
  refine ⟨?_, ?_, fun w executable arguments => ⟨fun hdispose => ?_, fun hstarted hdispose => ?_⟩,
    fun channel hmade => ⟨fun object hobject => ?_, fun hheld kind => ?_⟩,
    fun hnone kind => lives.names_eq hnone kind, fun hidle kind => ?_,
    fun disposal hrelease => ⟨fun label s' step hlabel => ?_, ?_⟩⟩
  · rw [lives.spawned]
    exact Option.length_toList_le
  · rw [lives.negotiated]
    exact Option.length_toList_le
  · have hdisposed := lives.disposed.mpr hdispose
    rw [(s.1.start_late w executable arguments (Or.inl hdisposed)).1, hdisposed]
    rfl
  · have hlate := lives.started hstarted
    have hnot : s.1.session.disposed = false := by
      rw [← Bool.not_eq_true, lives.disposed]
      exact hdispose
    rw [(s.1.start_late w executable arguments hlate).1, hnot]
    rfl
  · have hmade' := hmade
    rw [lives.negotiated, Option.mem_toList] at hmade'
    obtain ⟨hchannel, hnames⟩ := lives.held channel hmade'
    obtain ⟨key, hkey, hfresh⟩ := hnames object hobject
    refine ⟨key, hkey, hfresh, fun hlisted hreleased => ?_, fun hheld => ?_⟩
    · rw [lives.names_eq (Or.inr hreleased)] at hlisted
      exact hfresh hlisted
    · obtain ⟨account, hbalanced⟩ := lives.balanced_of_held hmade hheld
      obtain ⟨key', hkey', -, hlisted⟩ := hchannel.named hbalanced hobject
      cases hkey.symm.trans hkey'
      exact hlisted
  · obtain ⟨account, hbalanced⟩ := lives.balanced_of_held hmade hheld
    have hnames := (hbalanced.names kind).map Prod.fst
    rw [lives.negotiated, Option.mem_toList] at hmade
    rwa [List.map_append, (lives.held channel hmade).1.map_entries account kind] at hnames
  · obtain ⟨c, k⟩ := s
    obtain rfl : k = .idle := hidle
    obtain ⟨log', -, run', hdispose⟩ := run.dispose
    obtain ⟨made', first', lives'⟩ := run'.lives hchild
    refine lives'.names_eq (Or.inr (by_contra fun hnot => ?_)) kind
    cases lives'.disposing.mpr ⟨lives'.disposed.mpr hdispose, hnot⟩
  · refine step.untouched (lives.isOver hrelease) (fun hcurrent => ?_) hlabel
    exact (lives.disposing.mp hcurrent).2 ⟨disposal, hrelease⟩
  · have hprocess := (lives.released _ hrelease rfl).2
    have hfirst := lives.process
    rw [(lives.isOver hrelease).close (lives.child.trans lives.process.symm), lives.spawned]
    unfold exitCode?
    cases hhandle : disposal.session.process with
    | none =>
      rw [hprocess, hhandle] at hfirst ⊢
      obtain rfl : first = none := Option.not_isSome_iff_eq_none.mp (by rw [← hfirst]; nofun)
      rfl
    | some h =>
      rw [hprocess, hhandle] at hfirst ⊢
      obtain ⟨child, rfl⟩ := Option.isSome_iff_exists.mp hfirst.symm
      simp only [Option.map_some, ProcessHandle.release, Option.toList_some, List.isEmpty_cons,
        Bool.false_eq_true, ↓reduceIte, Option.bind_some]
      rw [apply_ite some]

/-- A start that nothing stands in the way of. -/
theorem spawn_fresh (child : Channel → Child) :
    ∃ (w : Surroundings Child) (channel : Channel) (system : System),
      w.caller = {} ∧ w.pid = 1 ∧ channel.IsSeparate system ∧
        channel.shared system = { envelope := Envelope.zero.reset } ∧
          ∀ c : Scene Child, c.session.config = {} → c.session.disposed = false →
            c.session.started = false → c.system = {} →
              c.spawn w "child" [] =
                ({ c with
                    system := system
                    session :=
                      { c.session with
                        started := true
                        instanceName := some channel.names.instanceName
                        channel := some channel } },
                  .ok (child channel)) := by
  obtain ⟨channel, n, system, hnegotiate, hname, hseparate, hshared⟩ := Negotiator.negotiate_fresh
  obtain ⟨w, hw⟩ : ∃ w : Surroundings Child, w =
      { access := .ofAccounts [] true, stem := "_1_x_", salt := fun _ => 7,
        spawn := fun _ => .ok (child channel) } := ⟨_, rfl⟩
  have hnegotiate' : (w.negotiator {} false).negotiate {} w.caller = (.ok channel, n, system) := by
    rw [hw]
    exact hnegotiate
  have hlaunch (l : Launch) (hl : l.fault? = none) : w.launch l = .ok (child channel) := by
    rw [hw, Surroundings.launch, hl]
    rfl
  have hfault : (Launch.of "child" [] {} "_1_x_7").fault? = none := by decide +kernel
  refine ⟨w, channel, system, by rw [hw], by rw [hw], hseparate, hshared,
    fun c hconfig hdisposed hstarted hsystem => ?_⟩
  have hidentity : w.identity? {} = .ok none := rfl
  simp only [spawn, hdisposed, hstarted, spawnFirst, hconfig, hidentity, makeChannel, hsystem,
    hnegotiate', Bool.false_eq_true, ↓reduceIte, Option.isSome_none, Surroundings.grant,
    Session.launchOf, makeGroup, hname]
  exact congrArg _ (hlaunch _ hfault)

/-- A child is started, its channel is made, and the session is disposed of before an exit code
was recorded. -/
theorem life_cycle_disposed :
    ∃ (w : Surroundings Child) (log : List (Entry Child)) (c : Scene Child),
      Run {} .none {} log (c, .idle) ∧ spawnedIn log = [.hanging] ∧
        (∀ kind, c.system.names kind = []) ∧ (c.start w "child" []).2 = .error .notStarted ∧
          c.close.2 = some .released := by
  obtain ⟨w, _, _, -, -, -, -, hfresh⟩ := spawn_fresh fun _ => .hanging
  obtain ⟨c, hc⟩ : ∃ c : Scene Child, c = { session := Session.of {} .none } := ⟨_, rfl⟩
  have hspawn := hfresh c (by rw [hc]; rfl) (by rw [hc]; rfl) (by rw [hc]; rfl) (by rw [hc])
  have begun := c.start_first w "child" [] (by rw [hc]; rfl) (by rw [hc]; rfl)
  rw [hspawn] at begun
  have hdisposed : (c.start w "child" []).1.session.disposed = false := by
    rw [begun.disposed, hc]
    rfl
  have run : Run {} .none {} [] (c, .idle) := by
    rw [hc]
    exact .start 0
  have hover := ((run.step (.start w "child" [] c)).step (.dispose hdisposed)).step (.release _)
  obtain ⟨-, -, hstart, -, hnames, -, hreleased⟩ := life_cycle keepsTables_child hover
  obtain ⟨-, hclose⟩ := hreleased _ List.mem_cons_self
  refine ⟨w, _, _, hover, ?_, fun kind => ?_, ?_, ?_⟩
  · rw [spawnedIn_cons, spawnedIn_cons, spawnedIn_cons]
    simp only [Entry.spawned?, hspawn]
    rfl
  · rw [hnames (Or.inr ⟨_, List.mem_cons_self⟩)]
    cases kind <;> rfl
  · rw [(hstart w "child" []).1 ⟨_, List.mem_cons_of_mem _ List.mem_cons_self⟩]
  · rw [hclose, spawnedIn_cons, spawnedIn_cons, spawnedIn_cons]
    simp only [Entry.spawned?, hspawn, exitCode?, stopping, begun.process]
    rfl

end Scene

end ConsoleLink
