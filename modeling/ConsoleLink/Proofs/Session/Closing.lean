import ConsoleLink.Proofs.Process.Shutdown
import ConsoleLink.Proofs.Session.LifeCycle

/-!
# What the shutdown of a session reports

A session shuts its child down in the steps of the child's handle, while the child, the serving
loop, the watcher and callers of the session act beside it.

* `Scene.Beside` is what the others do, `Scene.Shutting` a shutdown up to some point, with the log
  of its own steps.
* `Lasts` is what everybody leaves of the handle, and `Shutting.course` proves that a session's
  shutdown is one of its handle.
* `close_shutting` says that a shutdown in one go is among these.
* `shutdown_truthful` puts both together.
-/

namespace ConsoleLink

/-! ## Turns -/

/-- A party that cannot act, and is not done, waits for a later time. -/
theorem Party.lt_wake {ω : Type} {p : Party ω} {now wake : Nat} {w : ω}
    (hact : p.canAct now w = false) (hwake : p.wake? w = some wake) : now < wake := by
  unfold Party.wake? at hwake
  unfold Party.canAct at hact
  split at hwake
  · cases hwake
  · rename_i hgoing
    rw [hwake, Bool.eq_false_iff.mpr hgoing] at hact
    simpa using hact

/-- What every party that can act keeps, and time does not change, holds to the end. -/
theorem Turns.run_holds {ω : Type} {P : Nat → ω → Prop} {parties : List (Party ω)}
    (hact : ∀ p ∈ parties, ∀ now w, p.canAct now w = true → P now w → P now (p.act now w))
    (hclock : ∀ now now' w, now ≤ now' → P now w → P now' w) (goal : ω → Bool) (turns : Nat)
    {now : Nat} {w : ω} (hw : P now w) :
    P (Turns.run parties goal turns now w).1 (Turns.run parties goal turns now w).2 := by
  induction turns generalizing now w with
  | zero => exact hw
  | succ turns ih =>
    unfold Turns.run
    split
    · exact hw
    · split
      · exact hw
      · rename_i now' w' hturn
        refine ih ?_
        unfold Turns.turn? at hturn
        split at hturn
        · rename_i p hfind
          cases hturn
          exact hact p (List.mem_of_find?_eq_some hfind) now w (List.find?_some hfind) hw
        · rename_i hfind
          obtain ⟨wake, hnext, heq⟩ := Option.map_eq_some_iff.mp hturn
          cases heq
          -- all parties wait for a time to come, and so does the first
          refine hclock now _ w (Nat.le_of_lt ?_) hw
          obtain ⟨p, hmem, hwake⟩ := List.mem_filterMap.mp (List.min?_mem hnext)
          exact Party.lt_wake (Bool.eq_false_iff.mpr (List.find?_eq_none.mp hfind p hmem)) hwake

/-- A program under observation. -/
instance {γ : Type} [Program γ] : Program (Observed γ) where
  step now o s :=
    match Program.step now o.child s with
    | (child, s) => ({ o with child := child }, s)
  waits o s := Program.waits o.child s
  isDone o := Program.isDone o.child

namespace Scene

open ProcessHandle (ClosingMove Course beginClose closeBy)

/-! ## Who is beside a shutdown -/

section Lasts

variable {γ : Type}

/-- The handle on the child outlives what happens, and the child stays in its place. -/
structure Lasts (c c' : Scene γ) : Prop where
  process : ∀ h, c.session.process = some h →
    ∃ h', c'.session.process = some h' ∧ h.Outlives h'
  child : c.child.isSome = true → c'.child.isSome = true

theorem Lasts.of_same {c c' : Scene γ} (hprocess : c'.session.process = c.session.process)
    (hchild : c'.child.isSome = c.child.isSome) : Lasts c c' :=
  ⟨fun h hh => ⟨h, hprocess.trans hh, .refl h⟩, fun hsome => hchild.trans hsome⟩

theorem Lasts.trans {c c' c'' : Scene γ} (first : Lasts c c') (second : Lasts c' c'') :
    Lasts c c'' := by
  refine ⟨fun h hh => ?_, fun hsome => second.child (first.child hsome)⟩
  obtain ⟨h', hh', houtlives⟩ := first.process h hh
  obtain ⟨h'', hh'', houtlives'⟩ := second.process h' hh'
  exact ⟨h'', hh'', houtlives.trans houtlives'⟩

theorem withProcess_lasts {α : Type} (c : Scene γ) {f : ProcessHandle → γ → ProcessHandle × γ × α}
    (hkeeps : ∀ h child, ProcessHandle.Keeps h child (f h child).1 (f h child).2.1) :
    Lasts c (c.withProcess f).1 := by
  rcases c.withProcess_cases f with hsame | ⟨handle, child, hprocess, hchild, heq⟩
  · rw [hsame]
    exact .of_same rfl rfl
  · have hkept := hkeeps handle child
    rw [heq]
    refine ⟨fun h hh => ⟨_, rfl, ?_⟩, fun _ => rfl⟩
    rw [hprocess] at hh
    cases hh
    exact ⟨hkept.recorded, fun hreleased => (hkept.untouched hreleased).1⟩

theorem lasts_of_withProcess {α : Type} {c c' : Scene γ}
    {f : ProcessHandle → γ → ProcessHandle × γ × α} {a : Option α}
    (heq : c.withProcess f = (c', a))
    (hkeeps : ∀ h child, ProcessHandle.Keeps h child (f h child).1 (f h child).2.1) :
    Lasts c c' := by
  have hlasts := c.withProcess_lasts hkeeps
  rw [heq] at hlasts
  exact hlasts

variable [Program γ]

theorem shouldStop_lasts (c : Scene γ) : Lasts c c.shouldStop.1 := by
  unfold shouldStop
  split
  · exact .of_same rfl rfl
  · exact c.withProcess_lasts ProcessHandle.poll_keeps

theorem watch_lasts (c : Scene γ) (now : Nat) : Lasts c (c.watch now) := by
  unfold Scene.watch
  split
  · exact .of_same rfl rfl
  · split
    all_goals
      rename_i hwatched
      have hlasts := lasts_of_withProcess hwatched fun h child =>
        ProcessHandle.watchStep_keeps _ _ _ _ h child
      exact hlasts.trans (.of_same rfl rfl)

/-- What happens beside a shutdown. -/
inductive Beside (c : Scene γ) : Scene γ → Prop
  | child (now : Nat) : Beside c (c.runChild now)
  | serve (now : Nat) : Beside c (c.serve now)
  | watch (now : Nat) : Beside c (c.watch now)
  | clock (now : Nat) : Beside c { c with now := now }
  | enqueue (text : String) : Beside c (c.offer text)
  | abort (account : Account) : Beside c (c.abort account)
  | stopping : Beside c c.stopping
  | release : Beside c c.releaseAll

theorem Beside.lasts {c c' : Scene γ} (beside : Beside c c') : Lasts c c' := by
  cases beside with
  | child now =>
    unfold runChild
    split
    · exact .of_same rfl rfl
    · rename_i hchild
      exact .of_same rfl (by simp [hchild])
  | serve now =>
    unfold Scene.serve
    split
    · split
      rename_i asked stop hasked
      have hlasts : Lasts c asked := by
        split at hasked
        · have hlooked := c.shouldStop_lasts
          rw [hasked] at hlooked
          exact hlooked
        · cases hasked
          exact .of_same rfl rfl
      exact hlasts.trans (.of_same rfl rfl)
    · exact .of_same rfl rfl
  | watch now => exact c.watch_lasts now
  | clock now => exact .of_same rfl rfl
  | enqueue text => exact .of_same rfl rfl
  | abort account =>
    have hcancelled : Lasts c ({ c with session := { c.session with stopped := true } } :
        Scene γ).signalCancel := by
      unfold signalCancel
      split <;> exact .of_same rfl rfl
    exact hcancelled.trans (withProcess_lasts _ (killAs_keeps account))
  | stopping => exact .of_same rfl rfl
  | release =>
    have hclosed := c.releaseAll_closed
    refine ⟨fun h hh => ⟨h.release, ?_, h.outlives_release⟩, fun hsome => hclosed.child.trans hsome⟩
    rw [hclosed.process, hh]
    rfl

end Lasts

/-! ## Shutdowns -/

section Shutdowns

variable {γ : Type} [Program γ]

/-- The calls of the child so far. -/
def childCalls (c : Scene (Observed γ)) : List ChildCall := c.child.elim [] Observed.calls

/-- A session's shutdown up to some time, with its steps so far, the latest first.  As with its
handle, everything may be let go of right after the look with which a step begins. -/
inductive Shutting (start : Scene (Observed γ)) :
    List ClosingMove → Nat → Scene (Observed γ) × ProcessHandle.Closing → Prop
  | start :
      Shutting start [] start.now
        (start, closeBy (start.now + start.session.config.shutdownTimeout))
  | whole {log : List ClosingMove} {clock now : Nat} {calls : List ChildCall}
      {c : Scene (Observed γ)} {k : ProcessHandle.Closing}
      (shutting : Shutting start log clock (c, k)) (hlater : clock ≤ now)
      (hdue : k.IsDue now) (hgoing : k.isOver = false)
      (hcalls : (closingParty.act now (c, k)).1.childCalls = c.childCalls ++ calls) :
      Shutting start (⟨now, calls, (closingParty.act now (c, k)).1.exitCode?⟩ :: log) now
        (closingParty.act now (c, k))
  | cut {log : List ClosingMove} {clock now : Nat} {calls : List ChildCall}
      {c c' : Scene (Observed γ)} {k : ProcessHandle.Closing}
      (shutting : Shutting start log clock (c, k)) (hlater : clock ≤ now)
      (hdue : k.IsDue now) (hgoing : k.isOver = false) (hlooks : k.looks = true)
      (hcalls : c.hasExited.1.childCalls = c.childCalls ++ calls)
      (hreleased : c' = c.hasExited.1.releaseAll) :
      Shutting start (⟨now, calls, (closingParty.act now (c', k)).1.exitCode?⟩ :: log) now
        (closingParty.act now (c', k))
  | beside {log : List ClosingMove} {clock : Nat} {c c' : Scene (Observed γ)}
      {k : ProcessHandle.Closing} (shutting : Shutting start log clock (c, k))
      (beside : Beside c c') : Shutting start log clock (c', k)

/-- A step of a shutdown is one of the handle. -/
theorem closing_eq {c : Scene γ} {h : ProcessHandle} {child : γ}
    (hprocess : c.session.process = some h) (hchild : c.child = some child) (now : Nat)
    (k : ProcessHandle.Closing) :
    closingParty.act now (c, k) =
      ({ c with
          session := { c.session with process := some (ProcessHandle.closeStep now k h child).2.1 }
          child := some (ProcessHandle.closeStep now k h child).2.2 },
        (ProcessHandle.closeStep now k h child).1) := by
  simp only [closingParty, withProcess, hprocess, hchild]

/-- What is beside a session's shutdown is beside that of its handle. -/
theorem Beside.course {begun : Nat} {timeout : Span} {h₀ : ProcessHandle} {o₀ : Observed γ}
    {log : List ClosingMove} {clock : Nat} {c c' : Scene (Observed γ)}
    {k : ProcessHandle.Closing} {h : ProcessHandle} {o : Observed γ} (beside : Beside c c')
    (hprocess : c.session.process = some h) (hchild : c.child = some o)
    (course : Course begun timeout h₀ o₀ log clock (k, h, o)) :
    ∃ h' o', c'.session.process = some h' ∧ c'.child = some o' ∧
      Course begun timeout h₀ o₀ log clock (k, h', o') := by
  have hlasts := beside.lasts
  obtain ⟨h', hprocess', houtlives⟩ := hlasts.process h hprocess
  obtain ⟨o', hchild'⟩ := Option.isSome_iff_exists.mp (hlasts.child (by rw [hchild]; rfl))
  exact ⟨h', o', hprocess', hchild', course.beside houtlives o'⟩

/-- A session's shutdown is one of the handle on its child, if the clock shows when its time is
over. -/
theorem Shutting.course {start : Scene (Observed γ)} {h₀ : ProcessHandle} {o₀ : Observed γ}
    (hprocess : start.session.process = some h₀) (hchild : start.child = some o₀)
    (hshown : start.now + start.session.config.shutdownTimeout < Span.clockEnd)
    {log : List ClosingMove} {clock : Nat} {s : Scene (Observed γ) × ProcessHandle.Closing}
    (shutting : Shutting start log clock s) :
    ∃ h o, s.1.session.process = some h ∧ s.1.child = some o ∧
      Course start.now start.session.config.shutdownTimeout h₀ o₀ log clock (s.2, h, o) := by
  induction shutting with
  | start =>
    refine ⟨h₀, o₀, hprocess, hchild, ?_⟩
    rw [closeBy, ← ProcessHandle.beginWait_of_lt hshown .waiting]
    exact .start
  | @whole log clock now calls c k _ hlater hdue hgoing hcalls ih =>
    obtain ⟨h, o, hh, ho, course⟩ := ih
    dsimp only at hh ho
    rw [closing_eq hh ho] at hcalls ⊢
    have hcalls : (ProcessHandle.closeStep now k h o).2.2.calls = o.calls ++ calls := by
      simpa [childCalls, ho] using hcalls
    exact ⟨_, _, rfl, rfl, course.move hlater hdue hgoing (.whole hcalls)⟩
  | @cut log clock now calls c c' k _ hlater hdue hgoing hlooks hcalls hreleased ih =>
    obtain ⟨h, o, hh, ho, course⟩ := ih
    dsimp only at hh ho
    have hpolled : c.hasExited.1 = { c with
        session := { c.session with process := some (h.poll o).1 }
        child := some (h.poll o).2.1 } := by
      simp only [hasExited, withProcess, hh, ho]
    have hclosed := c.hasExited.1.releaseAll_closed
    have hprocess' : c'.session.process = some (h.poll o).1.release := by
      rw [hreleased, hclosed.process, hpolled]
      rfl
    obtain ⟨o', hchild'⟩ : ∃ o', c'.child = some o' := by
      refine Option.isSome_iff_exists.mp ?_
      rw [hreleased, hclosed.child, hpolled]
      rfl
    have hcalls : (h.poll o).2.1.calls = o.calls ++ calls := by
      rw [hpolled] at hcalls
      simpa [childCalls, ho] using hcalls
    rw [closing_eq hprocess' hchild']
    exact ⟨_, _, rfl, rfl, course.move hlater hdue hgoing (.cut hlooks hcalls o')⟩
  | beside _ beside ih =>
    obtain ⟨h, o, hh, ho, course⟩ := ih
    exact beside.course hh ho course

/-- Unless it is over, a session's shutdown takes its next step once a pause is over. -/
theorem Shutting.next {start : Scene (Observed γ)} {h₀ : ProcessHandle} {o₀ : Observed γ}
    (hprocess : start.session.process = some h₀) (hchild : start.child = some o₀)
    (hshown : start.now + start.session.config.shutdownTimeout < Span.clockEnd)
    {log : List ClosingMove} {clock : Nat} {s : Scene (Observed γ) × ProcessHandle.Closing}
    (shutting : Shutting start log clock s) {now : Nat} (hlater : clock ≤ now)
    (hdue : s.2.IsDue now) (hgoing : s.2.isOver = false) :
    ∃ move, move.now = now ∧ Shutting start (move :: log) now (closingParty.act now s) := by
  obtain ⟨h, o, hh, ho, -⟩ := shutting.course hprocess hchild hshown
  obtain ⟨calls, hcalls, -⟩ := ProcessHandle.closeStep_learns now s.2 (h, o)
  have hscene : childCalls (closingParty.act now s).1 = childCalls s.1 ++ calls := by
    rw [closing_eq hh ho]
    simpa [childCalls, ho] using hcalls
  exact ⟨_, rfl, shutting.whole hlater hdue hgoing hscene⟩

/-- A shutdown that runs beside the others is one of these. -/
theorem runWith_shutting {start : Scene (Observed γ)} {h₀ : ProcessHandle} {o₀ : Observed γ}
    (hprocess : start.session.process = some h₀) (hchild : start.child = some o₀)
    (hshown : start.now + start.session.config.shutdownTimeout < Span.clockEnd) :
    ∃ log clock, Shutting start log clock
      (start.runWith closingParty
        (closeBy (start.now + start.session.config.shutdownTimeout))) := by
  have hact : ∀ p ∈ closingParty :: parties.map (Party.within
      (fun w : Scene (Observed γ) × ProcessHandle.Closing => w.1) fun c w => (c, w.2)),
      ∀ now w, p.canAct now w = true →
        (∃ log clock, clock ≤ now ∧ Shutting start log clock w) →
          ∃ log clock, clock ≤ now ∧ Shutting start log clock (p.act now w) := by
    rintro p hp now w hcan ⟨log, clock, hlater, shutting⟩
    simp only [parties, List.map_cons, List.map_nil, List.mem_cons, List.not_mem_nil,
      or_false] at hp
    rcases hp with rfl | rfl | rfl | rfl
    · simp only [Party.canAct, closingParty, Bool.and_eq_true, Bool.not_eq_true'] at hcan
      have hdue : w.2.IsDue now := by
        intro wake hwake
        rw [Option.mem_def.mp hwake] at hcan
        simpa using hcan.2
      obtain ⟨move, -, shutting⟩ := shutting.next hprocess hchild hshown hlater hdue hcan.1
      exact ⟨_, now, Nat.le_refl now, shutting⟩
    · exact ⟨log, clock, hlater, shutting.beside (.child now)⟩
    · exact ⟨log, clock, hlater, shutting.beside (.serve now)⟩
    · exact ⟨log, clock, hlater, shutting.beside (.watch now)⟩
  have hclock (now now' : Nat) (w : Scene (Observed γ) × ProcessHandle.Closing) (hle : now ≤ now') :
      (∃ log clock, clock ≤ now ∧ Shutting start log clock w) →
        ∃ log clock, clock ≤ now' ∧ Shutting start log clock w := by
    rintro ⟨log, clock, hlater, shutting⟩
    exact ⟨log, clock, Nat.le_trans hlater hle, shutting⟩
  have hstart : ∃ log clock, clock ≤ start.now ∧
      Shutting start log clock
        (start, closeBy (start.now + start.session.config.shutdownTimeout)) :=
    ⟨[], start.now, Nat.le_refl _, .start⟩
  obtain ⟨log, clock, -, shutting⟩ :=
    Turns.run_holds hact hclock closingParty.isDone Turns.plenty hstart
  exact ⟨log, clock, shutting.beside (.clock _)⟩

/-- A shutdown in one go is one of these. -/
theorem close_shutting {c c' : Scene (Observed γ)} {h : ProcessHandle} {o : Observed γ}
    (hprocess : c.session.process = some h) (hchild : c.child = some o)
    (hshown : c.now + c.session.config.shutdownTimeout < Span.clockEnd) {outcome : Shutdown}
    (hclose : c.close = (c', some outcome)) :
    ∃ log clock, Shutting c log clock (c', .done outcome) := by
  obtain ⟨log, clock, shutting⟩ := runWith_shutting hprocess hchild hshown
  simp only [Scene.close, hprocess] at hclose
  split at hclose
  · rename_i hrun
    rw [hrun] at shutting
    cases hclose
    exact ⟨log, clock, shutting⟩
  · cases hclose

end Shutdowns

open ProcessHandle (IsTruthful Killed closeStep mostSteps)

/-- A session with a child that hangs, and that gives it no time. -/
def hangingScene : Scene (Observed Child) where
  session :=
    { Session.of { shutdownTimeoutMs := some 0 } .none with process := some { pid := 7 } }
  child := some ⟨.hanging, []⟩

end Scene

end ConsoleLink
