import ConsoleLink.Process.Child

/-!
# A child that was let go

Whatever is done with the handle on a child, an exit code that was recorded stays, and a child
that was let go is never touched again.

* `ProcessHandle.Keeps` says this of a handle and its child before and after.
* `poll_keeps`, `kill_keeps`, `waitStep_keeps`, `closeStep_keeps` and `watchStep_keeps` prove it
  for everything that is done with a handle.
-/

namespace ConsoleLink

namespace ProcessHandle

variable {γ : Type}

/-- What stays of a handle and its child when something is done with them. -/
structure Keeps (h : ProcessHandle) (child : γ) (h' : ProcessHandle) (child' : γ) : Prop where
  pid : h'.pid = h.pid
  released : h'.released = h.released
  recorded : ∀ code, h.exitCode = some code → h'.exitCode = some code
  untouched : h.released = true → h' = h ∧ child' = child

theorem Keeps.refl (h : ProcessHandle) (child : γ) : Keeps h child h child :=
  ⟨rfl, rfl, fun _ hcode => hcode, fun _ => ⟨rfl, rfl⟩⟩

theorem Keeps.trans {h h' h'' : ProcessHandle} {child child' child'' : γ}
    (first : Keeps h child h' child') (second : Keeps h' child' h'' child'') :
    Keeps h child h'' child'' where
  pid := second.pid.trans first.pid
  released := second.released.trans first.released
  recorded code hcode := second.recorded code (first.recorded code hcode)
  untouched hreleased := by
    obtain ⟨rfl, rfl⟩ := first.untouched hreleased
    exact second.untouched hreleased

/-- A child that was not let go may change. -/
theorem Keeps.of_held {h : ProcessHandle} (hheld : h.released = false) (child child' : γ) :
    Keeps h child h child' := by
  refine ⟨rfl, rfl, fun _ hcode => hcode, fun hreleased => ?_⟩
  rw [hheld] at hreleased
  cases hreleased

variable [ChildProcess γ]

theorem poll_keeps (h : ProcessHandle) (child : γ) :
    Keeps h child (h.poll child).1 (h.poll child).2.1 := by
  unfold poll
  split
  · exact .refl h child
  · rename_i hnone
    split
    · exact .refl h child
    · rename_i hheld
      split
      · refine ⟨rfl, rfl, fun code hcode => ?_, fun hreleased => absurd hreleased hheld⟩
        rw [hnone] at hcode
        cases hcode
      · exact .of_held (Bool.eq_false_iff.mpr hheld) child _
      · exact .of_held (Bool.eq_false_iff.mpr hheld) child _

/-- What a poll finds out is recorded. -/
theorem poll_exitCode (h : ProcessHandle) (child : γ) :
    (h.poll child).1.exitCode = (h.poll child).2.2 := by
  unfold poll
  split
  · assumption
  · rename_i hnone
    split
    · exact hnone
    · split
      · rfl
      · exact hnone
      · exact hnone

theorem poll_of_released {h : ProcessHandle} (hreleased : h.released = true) (child : γ) :
    h.poll child = (h, child, h.exitCode) := by
  unfold poll
  split
  · rename_i hcode
    rw [hcode]
  · rename_i hnone
    rw [if_pos hreleased, hnone]

/-- A shutdown does not wait for a child that was let go. -/
theorem closeStep_of_released {h : ProcessHandle} (hreleased : h.released = true)
    (now deadline : Nat) (child : γ) :
    closeStep now (.waiting (.polling deadline)) h child =
      (.waiting (.done h.exitCode), h, child) := by
  simp only [closeStep, waitStep, poll_of_released hreleased]
  cases h.exitCode with
  | some code => rfl
  | none => simp [hreleased]

/-- Nor does it kill such a child. -/
theorem forcing_of_released {h : ProcessHandle} (hreleased : h.released = true)
    (hnone : h.exitCode = none) (now : Nat) (child : γ) :
    closeStep now .forcing h child = (.done .released, h, child) := by
  simp only [closeStep, poll_of_released hreleased, hnone, hreleased, ↓reduceIte]

theorem kill_keeps (h : ProcessHandle) (child : γ) :
    Keeps h child (h.kill child).1 (h.kill child).2.1 := by
  have hpoll := h.poll_keeps child
  unfold kill
  split
  · rename_i hpolled
    rw [hpolled] at hpoll
    exact hpoll
  · rename_i hpolled
    rw [hpolled] at hpoll
    split
    · exact hpoll
    · rename_i hheld
      exact hpoll.trans (.of_held (Bool.eq_false_iff.mpr hheld) _ _)

theorem waitStep_keeps (now : Nat) (w : Wait) (h : ProcessHandle) (child : γ) :
    Keeps h child (waitStep now w h child).2.1 (waitStep now w h child).2.2 := by
  have hpoll := h.poll_keeps child
  cases w with
  | polling deadline =>
    simp only [waitStep]
    split
    · rename_i hpolled
      rw [hpolled] at hpoll
      exact hpoll
    · rename_i hpolled
      rw [hpolled] at hpoll
      split <;> exact hpoll
  | pausing deadline wake =>
    simp only [waitStep]
    split <;> exact .refl h child
  | done code => exact .refl h child

theorem closeStep_keeps (now : Nat) (c : Closing) (h : ProcessHandle) (child : γ) :
    Keeps h child (closeStep now c h child).2.1 (closeStep now c h child).2.2 := by
  have hpoll := h.poll_keeps child
  cases c with
  | waiting w =>
    match w with
    | .done (some code) => exact .refl h child
    | .done none => exact .refl h child
    | .polling deadline => exact waitStep_keeps now (.polling deadline) h child
    | .pausing deadline wake => exact waitStep_keeps now (.pausing deadline wake) h child
  | forcing =>
    simp only [closeStep]
    split
    · rename_i hpolled
      rw [hpolled] at hpoll
      exact hpoll
    · rename_i hpolled
      rw [hpolled] at hpoll
      split
      · exact hpoll
      · rename_i hheld
        exact hpoll.trans (.of_held (Bool.eq_false_iff.mpr hheld) _ _)
  | reaping w =>
    match w with
    | .done code => exact .refl h child
    | .polling deadline => exact waitStep_keeps now (.polling deadline) h child
    | .pausing deadline wake => exact waitStep_keeps now (.pausing deadline wake) h child
  | done outcome => exact .refl h child
  | broken => exact .refl h child

theorem watchStep_keeps (interval : Span) (now : Nat) (stop : Bool) (w : Watcher)
    (h : ProcessHandle) (child : γ) :
    Keeps h child (watchStep interval now stop w h child).2.1
      (watchStep interval now stop w h child).2.2 := by
  have hpoll := h.poll_keeps child
  cases w with
  | looking =>
    simp only [watchStep]
    split
    · exact .refl h child
    · split
      · rename_i hpolled
        rw [hpolled] at hpoll
        exact hpoll
      · rename_i hpolled
        rw [hpolled] at hpoll
        exact hpoll
  | pausing wake =>
    simp only [watchStep]
    split <;> exact .refl h child
  | done => exact .refl h child

/-- A watcher that is not told to stop looks whether the child has ended. -/
theorem watchStep_looking (interval : Span) (now : Nat) (h : ProcessHandle) (child : γ) :
    (watchStep interval now false .looking h child).2 = ((h.poll child).1, (h.poll child).2.1) := by
  simp only [watchStep, Bool.false_eq_true, ↓reduceIte]
  split
  · rename_i hpolled
    rw [hpolled]
  · rename_i hpolled
    rw [hpolled]

/-- A watcher that is not told to stop goes on until it has found an exit code. -/
theorem watchStep_done {interval : Span} {now : Nat} {w : Watcher} {h : ProcessHandle} {child : γ}
    (hdone : (watchStep interval now false w h child).1 = .done) :
    w = .done ∨ (watchStep interval now false w h child).2.1.exitCode.isSome = true := by
  have hcode := h.poll_exitCode child
  cases w with
  | looking =>
    right
    simp only [watchStep, Bool.false_eq_true, ↓reduceIte] at hdone ⊢
    split at hdone
    · rename_i hpolled
      rw [hpolled] at hcode
      exact Option.isSome_iff_exists.mpr ⟨_, hcode⟩
    · cases hdone
  | pausing wake =>
    simp only [watchStep] at hdone
    split at hdone <;> cases hdone
  | done => exact Or.inl rfl

end ProcessHandle

end ConsoleLink
