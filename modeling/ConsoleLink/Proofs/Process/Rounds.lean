import ConsoleLink.Proofs.Process.Operations

/-!
# Waits and shutdowns come to an end

Where every pause takes as long as was asked, a wait polls until its time is over, and a shutdown
waits twice at most.  The rounds that `waitForExit`, `close` and `forceClose` are given are enough.

* `Wait.rank` and `Closing.rank` bound the steps that are left; `rank_waitStep` and
  `rank_closeStep` say that every step lowers them.
* `runClose_holds` says that what every step keeps holds when a shutdown is over; `runWait_ticks`
  and `runClose_ticks` that the runs are made of steps.
* `Closing.KillsBy` is a shutdown that does not break off; `killsBy_closeStep` keeps it.
* `Performs.waitForExit`, `Performs.closes` and `Performs.forcesClose` are the three calls as
  operations, and `Performs.exists` says that every operation can be run to its end as long as the
  clock shows when its waits are over.
-/

namespace ConsoleLink

open Relation (ReflTransGen)

namespace ProcessHandle

/-- How many pauses a span takes. -/
def pauses (left : Nat) : Nat := (left + (pollPause - 1)) / pollPause

theorem pauses_mono {left left' : Nat} (hle : left ≤ left') : pauses left ≤ pauses left' :=
  Nat.div_le_div_right (Nat.add_le_add_right hle _)

/-- After a pause there is one pause less to make. -/
theorem pauses_lt {left : Nat} (hpos : 0 < left) :
    pauses (left - min pollPause left) < pauses left := by
  show (left - min 20000000 left + 19999999) / 20000000 < (left + 19999999) / 20000000
  omega

/-- How many steps a wait has left at most. -/
def Wait.rank (now : Nat) : Wait → Nat
  | polling deadline => 2 * pauses (deadline - now) + 1
  | pausing deadline wake => 2 * pauses (deadline - wake) + 2
  | done _ => 0

/-- No time has to pass before the next step of a wait. -/
def Wait.IsDue (now : Nat) (w : Wait) : Prop := ∀ wake ∈ w.waits, wake ≤ now

/-- How many steps a shutdown has left at most. -/
def Closing.rank (now : Nat) : Closing → Nat
  | waiting w => w.rank now + (2 * pauses reapTime + 4)
  | forcing => 2 * pauses reapTime + 3
  | reaping w => w.rank now + 1
  | done _ | broken => 0

/-- No time has to pass before the next step of a shutdown. -/
def Closing.IsDue (now : Nat) (c : Closing) : Prop := ∀ wake ∈ c.waits, wake ≤ now

theorem Wait.rank_wake (w : Wait) (now : Nat) : w.rank (w.waits.getD now) = w.rank now := by
  cases w <;> rfl

theorem Closing.rank_wake (c : Closing) (now : Nat) : c.rank (c.waits.getD now) = c.rank now := by
  cases c with
  | waiting w => exact congrArg (· + _) (w.rank_wake now)
  | reaping w => exact congrArg (· + 1) (w.rank_wake now)
  | forcing | done | broken => rfl

theorem Wait.isDue_wake (w : Wait) (now : Nat) : w.IsDue (w.waits.getD now) := by
  intro wake hwake
  rw [Option.mem_def.mp hwake]
  exact Nat.le_refl wake

theorem Closing.isDue_wake (c : Closing) (now : Nat) : c.IsDue (c.waits.getD now) := by
  intro wake hwake
  rw [Option.mem_def.mp hwake]
  exact Nat.le_refl wake

section Runs

variable {γ : Type} [ChildProcess γ]

theorem rank_waitStep {now : Nat} {w : Wait} (hdue : w.IsDue now) (hgoing : ∀ code, w ≠ .done code)
    (h : ProcessHandle) (child : γ) : (waitStep now w h child).1.rank now < w.rank now := by
  cases w with
  | polling deadline =>
    simp only [waitStep]
    split
    · simp [Wait.rank]
    · split
      · simp [Wait.rank]
      · rename_i hlate
        simp only [Bool.or_eq_true, decide_eq_true_eq, not_or, Nat.not_le] at hlate
        have hless := pauses_lt (Nat.sub_pos_of_lt hlate.2)
        rw [Nat.sub_sub] at hless
        simp only [Wait.rank]
        omega
  | pausing deadline wake =>
    have hwake : wake ≤ now := hdue wake rfl
    have hless : pauses (deadline - now) ≤ pauses (deadline - wake) :=
      pauses_mono (Nat.sub_le_sub_left hwake deadline)
    simp only [waitStep, hwake, ↓reduceIte, Wait.rank]
    omega
  | done code => exact absurd rfl (hgoing code)

theorem beginWait_of_lt {now : Nat} {timeout : Span} (hlt : now + timeout < Span.clockEnd)
    (goOn : Wait → Closing) : beginWait now timeout goOn = goOn (.polling (now + timeout)) := by
  rw [beginWait, Span.deadline?_eq_some_iff.mpr ⟨hlt, rfl⟩]

theorem beginWait_of_le {now : Nat} {timeout : Span} (hle : Span.clockEnd ≤ now + timeout)
    (goOn : Wait → Closing) : beginWait now timeout goOn = .broken := by
  rw [beginWait, Span.deadline?_eq_none_iff.mpr hle]

theorem beginWait_cases (now : Nat) (timeout : Span) (goOn : Wait → Closing) :
    now + timeout < Span.clockEnd ∧
        beginWait now timeout goOn = goOn (.polling (now + timeout)) ∨
      Span.clockEnd ≤ now + timeout ∧ beginWait now timeout goOn = .broken :=
  (Nat.lt_or_ge (now + timeout) Span.clockEnd).imp
    (fun hlt => ⟨hlt, beginWait_of_lt hlt goOn⟩) (fun hle => ⟨hle, beginWait_of_le hle goOn⟩)

theorem rank_reaping_le (now : Nat) (timeout : Span) :
    (beginWait now timeout .reaping).rank now ≤ 2 * pauses timeout + 2 := by
  obtain ⟨-, hbegun⟩ | ⟨-, hbegun⟩ := beginWait_cases now timeout .reaping
  · rw [hbegun]
    simp only [Closing.rank, Wait.rank, Nat.add_sub_cancel_left]
    omega
  · rw [hbegun]
    exact Nat.zero_le _

theorem rank_closeStep {now : Nat} {c : Closing} (hdue : c.IsDue now)
    (hgoing : c.isOver = false) (h : ProcessHandle) (child : γ) :
    (closeStep now c h child).1.rank now < c.rank now := by
  cases c with
  | waiting w =>
    cases w with
    | done code => cases code <;> simp [closeStep, Closing.rank, Wait.rank]
    | polling deadline =>
      have hless := rank_waitStep (w := .polling deadline) hdue (by simp) h child
      exact Nat.add_lt_add_right hless _
    | pausing deadline wake =>
      have hless := rank_waitStep (w := .pausing deadline wake) hdue (by simp) h child
      exact Nat.add_lt_add_right hless _
  | forcing =>
    simp only [closeStep]
    split
    · simp [Closing.rank]
    · split
      · simp [Closing.rank]
      · dsimp only
        refine Nat.lt_of_le_of_lt (rank_reaping_le now reapTime) ?_
        simp only [Closing.rank]
        omega
  | reaping w =>
    cases w with
    | done code => simp [closeStep, Closing.rank]
    | polling deadline =>
      have hless := rank_waitStep (w := .polling deadline) hdue (by simp) h child
      exact Nat.add_lt_add_right hless _
    | pausing deadline wake =>
      have hless := rank_waitStep (w := .pausing deadline wake) hdue (by simp) h child
      exact Nat.add_lt_add_right hless _
  | done outcome => cases hgoing
  | broken => cases hgoing

/-- With enough rounds a wait gets to its end. -/
theorem runWait_ticks {fuel now : Nat} {w : Wait} (hfuel : w.rank now < fuel) (hdue : w.IsDue now)
    (h : ProcessHandle) (child : γ) :
    ReflTransGen WaitTick (w, h, child)
      (.done (runWait fuel now w h child).1, (runWait fuel now w h child).2) := by
  induction fuel generalizing now w h child with
  | zero => exact absurd hfuel (Nat.not_lt_zero _)
  | succ fuel ih =>
    by_cases hdone : ∃ code, w = .done code
    · obtain ⟨code, rfl⟩ := hdone
      exact .refl
    · have hgoing (code : Option Int) : w ≠ .done code := fun hw => hdone ⟨code, hw⟩
      have hrank := rank_waitStep hdue hgoing h child
      have hrun : runWait (fuel + 1) now w h child =
          runWait fuel ((waitStep now w h child).1.waits.getD now) (waitStep now w h child).1
            (waitStep now w h child).2.1 (waitStep now w h child).2.2 := by
        cases w with
        | done code => exact absurd rfl (hgoing code)
        | _ => rfl
      rw [hrun]
      refine .head ⟨now, rfl⟩ (ih ?_ (Wait.isDue_wake _ now) _ _)
      rw [Wait.rank_wake]
      exact Nat.lt_of_lt_of_le hrank (Nat.le_of_lt_succ hfuel)

/-- With enough rounds a shutdown gets to its end, and what every step keeps holds there. -/
theorem runClose_holds {P : Nat → Closing × ProcessHandle × γ → Prop}
    (hstep : ∀ {now : Nat} {c : Closing} {h : ProcessHandle} {child : γ}, c.IsDue now →
      c.isOver = false → P now (c, h, child) →
        P ((closeStep now c h child).1.waits.getD now) (closeStep now c h child))
    {fuel now : Nat} {c : Closing} (hfuel : c.rank now < fuel) (hdue : c.IsDue now)
    (h : ProcessHandle) (child : γ) (hstart : P now (c, h, child)) :
    ∃ now' c', c'.isOver = true ∧ (runClose fuel now c h child).1 = c'.outcome? ∧
      P now' (c', (runClose fuel now c h child).2) := by
  induction fuel generalizing now c h child with
  | zero => exact absurd hfuel (Nat.not_lt_zero _)
  | succ fuel ih =>
    unfold runClose
    cases hgoing : c.isOver with
    | true => exact ⟨now, c, hgoing, rfl, hstart⟩
    | false =>
      have hrank := rank_closeStep hdue hgoing h child
      refine ih ?_ (Closing.isDue_wake _ now) _ _ (hstep hdue hgoing hstart)
      rw [Closing.rank_wake]
      exact Nat.lt_of_lt_of_le hrank (Nat.le_of_lt_succ hfuel)

theorem runClose_ticks {fuel now : Nat} {c : Closing} (hfuel : c.rank now < fuel)
    (hdue : c.IsDue now) (h : ProcessHandle) (child : γ) {outcome : Shutdown}
    (houtcome : (runClose fuel now c h child).1 = some outcome) :
    ReflTransGen CloseTick (c, h, child) (.done outcome, (runClose fuel now c h child).2) := by
  obtain ⟨-, c', -, hsame, ticks⟩ :=
    runClose_holds (P := fun _ s => ReflTransGen CloseTick (c, h, child) s)
      (fun _ _ ticks => ticks.tail ⟨_, rfl⟩) hfuel hdue h child .refl
  rw [hsame] at houtcome
  cases c' with
  | done _ =>
    cases houtcome
    exact ticks
  | _ => cases houtcome

/-! ## Shutdowns that do not break off -/

/-- A shutdown that kills the child no later than at a given time, where every pause takes as long
as was asked. -/
def Closing.KillsBy (last now : Nat) : Closing → Prop
  | waiting (.polling deadline) | waiting (.pausing deadline _) => deadline ≤ last ∧ now ≤ last
  | waiting (.done _) | forcing => now ≤ last
  | reaping _ | done _ => True
  | broken => False

/-- If the clock shows when the wait for a child that is killed at that time is over, then such a
shutdown stays one. -/
theorem killsBy_closeStep {last now : Nat} (hroom : last + reapTime < Span.clockEnd) {c : Closing}
    (hdue : c.IsDue now) (hby : c.KillsBy last now) (h : ProcessHandle) (child : γ) :
    (closeStep now c h child).1.KillsBy last ((closeStep now c h child).1.waits.getD now) := by
  match c with
  | .waiting (.done (some _)) => trivial
  | .waiting (.done none) => exact hby
  | .waiting (.polling deadline) =>
    obtain ⟨hdeadline, hnow⟩ := hby
    simp only [closeStep, waitStep]
    split
    · exact hnow
    · split
      · exact hnow
      · rename_i hlate
        simp only [Bool.or_eq_true, decide_eq_true_eq, not_or, Nat.not_le] at hlate
        refine ⟨hdeadline, ?_⟩
        show now + min pollPause (deadline - now) ≤ last
        omega
  | .waiting (.pausing deadline wake) =>
    have hwake : wake ≤ now := hdue wake rfl
    simp only [closeStep, waitStep, if_pos hwake]
    exact hby
  | .forcing =>
    have hlt : now + reapTime < Span.clockEnd :=
      Nat.lt_of_le_of_lt (Nat.add_le_add_right hby reapTime) hroom
    simp only [closeStep, beginWait_of_lt hlt]
    split
    · trivial
    · split <;> trivial
  | .reaping (.done _) | .reaping (.polling _) | .reaping (.pausing _ _) | .done _ => trivial

theorem isSome_runClose {last : Nat} (hroom : last + reapTime < Span.clockEnd) {fuel now : Nat}
    {c : Closing} (hfuel : c.rank now < fuel) (hdue : c.IsDue now) (hby : c.KillsBy last now)
    (h : ProcessHandle) (child : γ) : (runClose fuel now c h child).1.isSome = true := by
  obtain ⟨now', c', hover, hsame, hby'⟩ :=
    runClose_holds (P := fun now s => s.1.KillsBy last now)
      (fun hdue _ hby => killsBy_closeStep hroom hdue hby _ _) hfuel hdue h child hby
  rw [hsame]
  cases c' with
  | done _ => rfl
  | broken => exact hby'.elim
  | _ => cases hover

/-! ## The calls -/

theorem pauses_le (timeout : Nat) : 2 * pauses timeout + 2 ≤ rounds timeout := by
  show 2 * ((timeout + 19999999) / 20000000) + 2 ≤ 2 * (timeout / 20000000 + 2)
  omega

theorem rank_beginClose (timeout : Span) :
    (beginClose 0 timeout).rank 0 < rounds timeout + rounds reapTime + 4 := by
  have hrounds := pauses_le timeout
  have hreap := pauses_le reapTime
  obtain ⟨-, hbegun⟩ | ⟨-, hbegun⟩ := beginWait_cases 0 timeout .waiting
  all_goals
    simp only [beginClose, hbegun, Closing.rank, Wait.rank, Nat.zero_add, Nat.sub_zero]
    omega

theorem isDue_beginClose (now : Nat) (timeout : Span) : (beginClose now timeout).IsDue now := by
  unfold beginClose
  obtain ⟨-, hbegun⟩ | ⟨-, hbegun⟩ := beginWait_cases now timeout .waiting
  all_goals
    rw [hbegun]
    exact nofun

theorem rank_forcing : Closing.forcing.rank 0 < rounds reapTime + 4 := by
  have hreap := pauses_le reapTime
  simp only [Closing.rank]
  omega

variable (h : ProcessHandle) (child : γ)

theorem Performs.waitForExit {timeout : Span} {code : Option Int}
    (hcode : (ProcessHandle.waitForExit timeout h child).1 = some code) :
    Performs (.wait timeout) (h, child) (.code code)
      (ProcessHandle.waitForExit timeout h child).2 := by
  unfold ProcessHandle.waitForExit at hcode ⊢
  split at hcode
  · rename_i deadline hshown
    cases hcode
    obtain ⟨-, rfl⟩ := Span.deadline?_eq_some_iff.mp hshown
    have hrank : (Wait.polling (0 + timeout)).rank 0 < rounds timeout + 1 := by
      rw [Nat.zero_add]
      exact Nat.lt_succ_of_lt (pauses_le timeout)
    exact .wait hshown (runWait_ticks hrank nofun h child)
  · cases hcode

theorem Performs.closes {timeout : Span} {outcome : Shutdown}
    (houtcome : (ProcessHandle.close timeout h child).1 = some outcome) :
    Performs (.close timeout) (h, child) (.shutdown outcome)
      (ProcessHandle.close timeout h child).2 :=
  .close 0 (runClose_ticks (rank_beginClose timeout) (isDue_beginClose 0 timeout) h child houtcome)

theorem Performs.forcesClose {outcome : Shutdown}
    (houtcome : (ProcessHandle.forceClose h child).1 = some outcome) :
    Performs .forceClose (h, child) (.shutdown outcome) (ProcessHandle.forceClose h child).2 :=
  .forceClose (runClose_ticks rank_forcing nofun h child houtcome)

/-- The clock shows when the waits of an operation are over that begins at time zero: for a shutdown
these are two, one after the other. -/
def Operation.IsShown : Operation → Prop
  | wait timeout => timeout < Span.clockEnd
  | close timeout => timeout + reapTime < Span.clockEnd
  | _ => True

/-- Every operation whose waits are shown can be run to its end. -/
theorem Performs.exists {operation : Operation} (hshown : operation.IsShown) :
    ∃ answer s', Performs operation (h, child) answer s' := by
  cases operation with
  | poll => exact ⟨_, _, .poll h child⟩
  | hasExited => exact ⟨_, _, .hasExited h child⟩
  | kill => exact ⟨_, _, .kill h child⟩
  | wait timeout =>
    have hdeadline : Span.deadline? 0 timeout = some (0 + timeout) :=
      Span.deadline?_eq_some_iff.mpr ⟨by rw [Nat.zero_add]; exact hshown, rfl⟩
    obtain ⟨code, hcode⟩ : ∃ code, (ProcessHandle.waitForExit timeout h child).1 = some code := by
      unfold ProcessHandle.waitForExit
      rw [hdeadline]
      exact ⟨_, rfl⟩
    exact ⟨_, _, .waitForExit h child hcode⟩
  | close timeout =>
    have hby : (beginClose 0 timeout).KillsBy timeout 0 := by
      have hlt : 0 + timeout < Span.clockEnd := by
        rw [Nat.zero_add]
        exact Nat.lt_of_le_of_lt (Nat.le_add_right timeout reapTime) hshown
      rw [beginClose, beginWait_of_lt hlt]
      exact ⟨Nat.le_of_eq (Nat.zero_add timeout), Nat.zero_le timeout⟩
    obtain ⟨outcome, houtcome⟩ := Option.isSome_iff_exists.mp <|
      isSome_runClose hshown (rank_beginClose timeout) (isDue_beginClose 0 timeout) hby h child
    exact ⟨_, _, .closes h child houtcome⟩
  | forceClose =>
    have hroom : 0 + reapTime < Span.clockEnd := by decide
    obtain ⟨outcome, houtcome⟩ := Option.isSome_iff_exists.mp <|
      isSome_runClose hroom rank_forcing nofun (Nat.le_refl 0) h child
    exact ⟨_, _, .forcesClose h child houtcome⟩
  | release => exact ⟨_, _, .release h child⟩

end Runs

end ProcessHandle

end ConsoleLink
