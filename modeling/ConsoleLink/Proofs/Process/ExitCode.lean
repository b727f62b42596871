import ConsoleLink.Proofs.Process.Rounds

/-!
# An exit is seen once, and a child is let go once

Whatever a child answers, a handle records the first exit code that it finds and stops asking.
Nor does it ask after it has let go of the child.

* `Run.handle_eq` says what a handle is after a sequence of operations, in terms of the calls.
* `Run.settled` says what operations come to that ask nothing of the child.
* `exit_seen_once` puts this together.
-/

namespace ConsoleLink

namespace ProcessHandle

section Runs

variable {γ : Type} [ChildProcess γ]

/-- The record is what the calls have found first, and the child was let go if that was among the
operations. -/
theorem Run.handle_eq {s s' : ProcessHandle × Observed γ} {log : List (Operation × Answer)}
    (run : Run s log s') :
    ∃ new, s'.2.calls = s.2.calls ++ new ∧
      s'.1 =
        { s.1 with
          exitCode := s.1.exitCode.or (found new)
          released := s.1.released || (log.map Prod.fst).contains .release } := by
  induction run with
  | nil s => exact ⟨[], by simp, by simp [found]⟩
  | @cons s s' s'' operation answer rest first run ih =>
    obtain ⟨more, hcalls, hhandle⟩ := ih
    have hfirst := first.learns
    by_cases hrelease : operation = .release
    · rw [if_pos hrelease] at hfirst
      subst hfirst hrelease
      exact ⟨more, hcalls, by simp [hhandle, release]⟩
    · rw [if_neg hrelease] at hfirst
      obtain ⟨new, hcalls', hhandle'⟩ := hfirst
      refine ⟨new ++ more, by rw [hcalls, hcalls', List.append_assoc], ?_⟩
      have hne : (Operation.release == operation) = false := beq_false_of_ne (Ne.symm hrelease)
      rw [hhandle, hhandle']
      simp [found, List.findSome?_append, Option.or_assoc, hne]

/-- Once the exit is recorded or the child was let go, nothing is asked of the child, the record
stays, and every operation comes to what the record says. -/
theorem Run.settled {s s' : ProcessHandle × γ} {log : List (Operation × Answer)}
    (run : Run s log s') (hsettled : s.1.IsSettled) :
    s'.2 = s.2 ∧ s'.1.exitCode = s.1.exitCode ∧
      ∀ entry ∈ log, entry.2 = entry.1.settledAnswer s.1.exitCode := by
  induction run with
  | nil s => exact ⟨rfl, rfl, nofun⟩
  | @cons s s' s'' operation answer rest first run ih =>
    obtain ⟨hstate, hanswer⟩ := first.settled hsettled
    have hcode : s'.1.exitCode = s.1.exitCode := by
      rw [hstate]
      split <;> rfl
    have hsettled' : s'.1.IsSettled := by
      rw [hstate]
      split
      · exact Or.inr rfl
      · exact hsettled
    obtain ⟨hchild, hrecord, hanswers⟩ := ih hsettled'
    have hsame : s'.2 = s.2 := by rw [hstate]
    refine ⟨hchild.trans hsame, hrecord.trans hcode, fun entry hentry => ?_⟩
    rcases List.mem_cons.mp hentry with rfl | hrest
    · exact hanswer
    · rw [← hcode]
      exact hanswers entry hrest

/-- Whatever a child answers, and in whatever order and on whatever clock operations are run to
their ends on a new handle:

* the handle has recorded the first exit code that a look at the child has found, and it has let
  go of the child if one of the operations was to do so;
* once a code is recorded or the child was let go, whatever is done makes no call of the child
  and leaves the record: a poll, a wait and a look at the exit give what was recorded, a kill
  succeeds, and a shutdown comes out as an exit if one is recorded, and else as a release;
* an operation whose calls find no exit code, be it that they fail, leaves the handle, except for
  letting go of the child;
* and every operation can be run to its end, as long as the clock shows when its waits are over. -/
theorem exit_seen_once {pid : Nat} {child : γ} {earlier : List (Operation × Answer)}
    {h : ProcessHandle} {o : Observed γ}
    (run : Run ({ pid := pid }, (⟨child, []⟩ : Observed γ)) earlier (h, o)) :
    h.pid = pid ∧ h.exitCode = found o.calls ∧
      (h.released = true ↔ .release ∈ earlier.map Prod.fst) ∧
      (h.exitCode.isSome = true ∨ h.released = true →
        ∀ (later : List (Operation × Answer)) (h' : ProcessHandle) (o' : Observed γ),
          Run (h, o) later (h', o') →
            o' = o ∧ h'.exitCode = h.exitCode ∧
              ∀ entry ∈ later, entry.2 = entry.1.settledAnswer h.exitCode) ∧
      (∀ (operation : Operation) (answer : Answer) (h' : ProcessHandle) (o' : Observed γ)
        (new : List ChildCall), Performs operation (h, o) answer (h', o') →
          o'.calls = o.calls ++ new → (∀ call ∈ new, call.code? = none) →
            h' = if operation = .release then h.release else h) ∧
      ∀ operation : Operation, operation.IsShown →
        ∃ answer s', Performs operation (h, o) answer s' := by
  obtain ⟨calls, hcalls, hhandle⟩ := run.handle_eq
  refine ⟨?_, ?_, ?_, ?_, ?_, fun _ => Performs.exists h o⟩
  · rw [show h = _ from hhandle]
  · rw [show h = _ from hhandle, show o.calls = _ from hcalls]
    rfl
  · rw [show h = _ from hhandle]
    simp
  · intro hsettled later h' o' run'
    exact run'.settled hsettled
  · intro operation answer h' o' new performs hnew hnothing
    have hlearns := performs.learns
    by_cases hrelease : operation = .release
    · rw [if_pos hrelease] at hlearns ⊢
      exact congrArg Prod.fst hlearns
    · rw [if_neg hrelease] at hlearns ⊢
      obtain ⟨new', hnew', hhandle'⟩ := hlearns
      obtain rfl : new' = new := List.append_cancel_left (hnew'.symm.trans hnew)
      have hfound : found new' = none := List.findSome?_eq_none_iff.mpr hnothing
      rw [show h' = _ from hhandle', hfound, Option.or_none]

end Runs

/-- A child that runs, cannot be asked, cannot be killed, and then ends with code 3. -/
def stubborn : ScriptedChild where
  answers := [.ok none, .error .denied, .ok (some 3)]
  killFault := some .notPermitted

/-- What comes of three looks at that child, the second by a kill. -/
def stubbornCalls : List ChildCall :=
  [.look (.ok none), .look (.error .denied), .kill (.error .notPermitted), .look (.ok (some 3))]

/-- That child after some of the calls. -/
def stubbornAfter (polls kills : Nat) : Observed ScriptedChild where
  child := { stubborn with answers := stubborn.answers.drop (min polls 2), polls, kills }
  calls := stubbornCalls.take (polls + kills)

/-- The exit code is recorded at the third look.  After that the child is let go, and neither a
kill nor a shutdown asks anything of it. -/
theorem exit_seen_once_stubborn :
    Run ({ pid := 7 }, (⟨stubborn, []⟩ : Observed ScriptedChild))
        [(.poll, .code none), (.kill, .kill (.error .notPermitted)), (.poll, .code (some 3))]
        ({ pid := 7, exitCode := some 3 }, stubbornAfter 3 1) ∧
      ∃ (later : List (Operation × Answer)) (h' : ProcessHandle) (o' : Observed ScriptedChild),
        later.map Prod.fst = [.release, .kill, .close 5, .poll] ∧
          Run ({ pid := 7, exitCode := some 3 }, stubbornAfter 3 1) later (h', o') ∧
          o' = stubbornAfter 3 1 ∧ h'.exitCode = some 3 ∧
          ∀ entry ∈ later, entry.2 = entry.1.settledAnswer (some 3) := by
  have hearlier : Run ({ pid := 7 }, (⟨stubborn, []⟩ : Observed ScriptedChild))
      [(.poll, .code none), (.kill, .kill (.error .notPermitted)), (.poll, .code (some 3))]
      ({ pid := 7, exitCode := some 3 }, stubbornAfter 3 1) :=
    .cons (.poll { pid := 7 } (stubbornAfter 0 0))
      (.cons (.kill { pid := 7 } (stubbornAfter 1 0))
        (.cons (.poll { pid := 7 } (stubbornAfter 2 1)) (.nil _)))
  have hclose : Performs (.close 5)
      ({ pid := 7, exitCode := some 3, released := true }, stubbornAfter 3 1) (.shutdown .exited)
      ({ pid := 7, exitCode := some 3, released := true }, stubbornAfter 3 1) := by
    refine .close 0 ?_
    rw [beginClose, beginWait_of_lt (by decide)]
    exact .head ⟨0, rfl⟩ (.single ⟨0, rfl⟩)
  have hlater : Run ({ pid := 7, exitCode := some 3 }, stubbornAfter 3 1)
      [(.release, .released), (.kill, .kill (.ok ())), (.close 5, .shutdown .exited),
        (.poll, .code (some 3))]
      ({ pid := 7, exitCode := some 3, released := true }, stubbornAfter 3 1) :=
    .cons (.release _ _) (.cons (.kill _ _) (.cons hclose (.cons (.poll _ _) (.nil _))))
  obtain ⟨-, -, -, hafter, -, -⟩ := exit_seen_once hearlier
  exact ⟨hearlier, _, _, _, rfl, hlater, hafter (Or.inl rfl) _ _ _ hlater⟩

end ProcessHandle

end ConsoleLink
