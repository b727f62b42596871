import ConsoleLink.Proofs.Conversation.Talk

/-!
# The bar of a progress

A progress draws its bar once for each step and once before the first one, and reports each of these
if it was told to.  The product behind a percentage has to fit 32 bits, and at the step 42949673 it
does not: a longer progress breaks down there.

* `Sends` says what the console sends, whatever it hears meanwhile.
* `percents` are the percentages that a progress comes to, and `rounds` is what is sent of them.
* `sends_round` is one of them, and `sends_rounds` any number in a row.
* `percents_pairwise`, `le_hundred`, `getLast?_percents` and `report_percent` are about the
  percentages.
* `progress_rounds` says what a command for a progress comes to.
-/

namespace ConsoleLink

namespace SampleConsole

/-! ## What the console sends -/

/-- The console sends some events one after the other, whatever it hears, and then comes to another
point. -/
inductive Sends : SampleConsole × Action → List Event → SampleConsole × Action → Prop
  | nothing (s : SampleConsole × Action) : Sends s [] s
  | send {s s' : SampleConsole × Action} {event : Event} {events : List Event}
      (haction : s.2 = .send event) (hnext : ∀ heard, Sends (s.1.next heard) events s') :
      Sends s (event :: events) s'

variable {c : SampleConsole} {s s' s'' : SampleConsole × Action}

theorem Sends.append {first second : List Event} (hfirst : Sends s first s')
    (hsecond : Sends s' second s'') : Sends s (first ++ second) s'' := by
  induction hfirst with
  | nothing => exact hsecond
  | send haction _ ih => exact .send haction fun heard => ih heard hsecond

/-- The percentages of some steps. -/
def percentsOf (steps : Nat) (which : List Nat) : List Nat :=
  which.map fun step => step * 100 / steps

/-- What is sent of a percentage. -/
def round (wantsProgress : Bool) (percent : Nat) : List Event :=
  (if wantsProgress then [.progress (report percent)] else []) ++ [.print (bar percent) true]

/-- What is sent of some percentages. -/
def rounds (wantsProgress : Bool) (percents : List Nat) : List Event :=
  percents.flatMap (round wantsProgress)

/-- What was reported. -/
def reportsIn (events : List Event) : List Report :=
  events.filterMap fun
    | .progress report => some report
    | _ => none

/-- What was drawn in place of something else. -/
def redrawsIn (events : List Event) : List String :=
  events.filterMap fun
    | .print message true => some message
    | _ => none

theorem reportsIn_rounds (wantsProgress : Bool) (percents : List Nat) :
    reportsIn (rounds wantsProgress percents) =
      if wantsProgress then percents.map report else [] := by
  induction percents with
  | nil => cases wantsProgress <;> rfl
  | cons percent percents ih =>
    rw [rounds, List.flatMap_cons, reportsIn, List.filterMap_append]
    rw [rounds, reportsIn] at ih
    rw [ih]
    cases wantsProgress <;> rfl

theorem redrawsIn_rounds (wantsProgress : Bool) (percents : List Nat) :
    redrawsIn (rounds wantsProgress percents) = percents.map bar := by
  induction percents with
  | nil => rfl
  | cons percent percents ih =>
    rw [rounds, List.flatMap_cons, redrawsIn, List.filterMap_append]
    rw [rounds, redrawsIn] at ih
    rw [ih]
    cases wantsProgress <;> rfl

/-! ## The steps of a bar -/

/-- The last step of which the percentage can be found. -/
def lastStep : Nat := 42949672

theorem percent?_of_le {step : Nat} (hstep : step ≤ lastStep) (steps : Nat) :
    percent? step steps = some (step * 100 / steps) := by
  have hsmall : step * 100 < 4294967296 := by
    rw [lastStep] at hstep
    omega
  rw [percent?, if_pos hsmall]

theorem percent?_of_lt {step : Nat} (hstep : lastStep < step) (steps : Nat) :
    percent? step steps = none := by
  have hlarge : ¬ step * 100 < 4294967296 := by
    rw [lastStep] at hstep
    omega
  rw [percent?, if_neg hlarge]

open Talk (behind)

/-- The bar is drawn, whatever comes of it. -/
theorem sends_draw {step : Nat} (hstep : step ≤ lastStep) (steps : Nat) :
    Sends (c.draw step steps) [.print (bar (step * 100 / steps)) true]
      (behind c.wantsProgress step steps) := by
  rw [draw, percent?_of_le hstep]
  exact .send rfl fun _ => .nothing _

/-- A step is reported if this is wanted, and the bar is drawn. -/
theorem sends_round {step : Nat} (hstep : step ≤ lastStep) (steps : Nat) :
    Sends (c.beginStep step steps) (round c.wantsProgress (step * 100 / steps))
      (behind c.wantsProgress step steps) := by
  obtain ⟨stage, wantsProgress⟩ := c
  cases wantsProgress with
  | false => exact sends_draw hstep steps
  | true =>
    rw [beginStep, if_pos rfl, percent?_of_le hstep]
    exact .send rfl fun _ => sends_draw hstep steps

/-- Some steps in a row. -/
theorem sends_rounds {left step last steps : Nat} (hleft : step + left = last)
    (hlast : last ≤ lastStep) (hsteps : last ≤ steps) :
    Sends (c.beginStep step steps)
      (rounds c.wantsProgress (percentsOf steps (List.range' step (left + 1))))
      (behind c.wantsProgress last steps) := by
  induction left generalizing step c with
  | zero =>
    obtain rfl : step = last := hleft
    rw [percentsOf, List.range'_one, List.map_singleton, rounds, List.flatMap_singleton]
    exact sends_round hlast steps
  | succ left ih =>
    have hbefore : step < last := by omega
    have hround : Sends (c.beginStep step steps) (round c.wantsProgress (step * 100 / steps)) _ :=
      sends_round (Nat.le_of_lt (Nat.lt_of_lt_of_le hbefore hlast)) steps
    rw [behind, if_pos (Nat.lt_of_lt_of_le hbefore hsteps)] at hround
    exact hround.append (ih (by omega))

/-- Past the last step the console breaks down. -/
theorem beginStep_of_lt {step : Nat} (hstep : lastStep < step) (steps : Nat) :
    (c.beginStep step steps).2 = .overflow := by
  rw [beginStep, draw, percent?_of_lt hstep]
  split <;> rfl

/-! ## The percentages of a progress -/

/-- How many steps a command asks for; there is always one. -/
def stepsOf (command : String) : Nat := max (count command) 1

/-- The percentages that a command for a progress comes to. -/
def percents (command : String) : List Nat :=
  percentsOf (stepsOf command) (List.range (min (stepsOf command) lastStep + 1))

variable {command : String}

theorem stepsOf_pos (command : String) : 0 < stepsOf command := Nat.le_max_right _ 1

theorem length_percents (command : String) :
    (percents command).length = min (stepsOf command) lastStep + 1 := by
  rw [percents, percentsOf, List.length_map, List.length_range]

theorem percents_pairwise (command : String) : (percents command).Pairwise (· ≤ ·) := by
  refine List.pairwise_map.mpr ((List.pairwise_lt_range).imp fun {a b} hlt => ?_)
  exact Nat.div_le_div_right (Nat.mul_le_mul_right 100 (Nat.le_of_lt hlt))

theorem head?_percents (command : String) : (percents command).head? = some 0 := by
  rw [percents, percentsOf, List.range_succ_eq_map, List.map_cons, List.head?_cons, Nat.zero_mul,
    Nat.zero_div]

/-- A percentage belongs to one of the steps. -/
theorem exists_of_mem_percents {percent : Nat} (hmem : percent ∈ percents command) :
    ∃ step ≤ min (stepsOf command) lastStep, step * 100 / stepsOf command = percent := by
  obtain ⟨step, hstep, hpercent⟩ := List.mem_map.mp hmem
  exact ⟨step, Nat.le_of_lt_succ (List.mem_range.mp hstep), hpercent⟩

theorem le_hundred {percent : Nat} (hmem : percent ∈ percents command) : percent ≤ 100 := by
  obtain ⟨step, hstep, rfl⟩ := exists_of_mem_percents hmem
  exact Nat.div_le_of_le_mul (Nat.mul_le_mul_right 100 (Nat.le_trans hstep (Nat.min_le_left _ _)))

theorem getLast?_percents (command : String) :
    (percents command).getLast? =
      some (min (stepsOf command) lastStep * 100 / stepsOf command) := by
  rw [percents, percentsOf, List.range_succ, List.map_append, List.map_singleton,
    List.getLast?_concat]

/-- A progress that is not too long ends at hundred. -/
theorem getLast?_percents_of_le (hcount : stepsOf command ≤ lastStep) :
    (percents command).getLast? = some 100 := by
  rw [getLast?_percents, Nat.min_eq_left hcount,
    Nat.mul_div_cancel_left 100 (stepsOf_pos command)]

/-- A progress that is too long does not come to its hundred. -/
theorem lt_hundred (hcount : lastStep < stepsOf command) {percent : Nat}
    (hmem : percent ∈ percents command) : percent < 100 := by
  obtain ⟨step, hstep, rfl⟩ := exists_of_mem_percents hmem
  have hless : step < stepsOf command :=
    Nat.lt_of_le_of_lt hstep (Nat.lt_of_le_of_lt (Nat.min_le_right _ _) hcount)
  refine (Nat.div_lt_iff_lt_mul (stepsOf_pos command)).mpr ?_
  rw [Nat.mul_comm 100]
  exact Nat.mul_lt_mul_of_pos_right hless (by decide)

/-- A percentage is reported as it is. -/
theorem report_percent {percent : Nat} (hpercent : percent ≤ 100) :
    (report percent).overallPercent.toNat = percent ∧
      (report percent).filePercent.toNat = percent := by
  have hexact : percent.toUInt32.toNat = percent := by
    rw [Nat.toUInt32_eq, UInt32.toNat_ofNat']
    exact Nat.mod_eq_of_lt (by omega)
  exact ⟨hexact, hexact⟩

/-! ## All of a progress -/

theorem obey_progress (c : SampleConsole) (hverb : verb command = "progress") :
    c.obey command = c.beginStep 0 (stepsOf command) := by
  rw [obey_eq, hverb]
  rfl

/-- What is sent of a progress, and where the console is after that. -/
theorem sends_percents (c : SampleConsole) (hverb : verb command = "progress") :
    Sends (c.obey command) (rounds c.wantsProgress (percents command))
      (behind c.wantsProgress (min (stepsOf command) lastStep) (stepsOf command)) := by
  rw [obey_progress c hverb, percents, List.range_eq_range']
  exact sends_rounds (Nat.zero_add _) (Nat.min_le_right _ _) (Nat.min_le_left _ _)

/-- A progress that is not too long goes on with a line feed. -/
theorem behind_of_le (wantsProgress : Bool) {steps : Nat} (hsteps : steps ≤ lastStep) :
    (behind wantsProgress (min steps lastStep) steps).2 = print "\n" := by
  rw [Nat.min_eq_left hsteps, behind, if_neg (Nat.lt_irrefl steps)]
  rfl

/-- A progress that is too long breaks down. -/
theorem behind_of_lt (wantsProgress : Bool) {steps : Nat} (hsteps : lastStep < steps) :
    (behind wantsProgress (min steps lastStep) steps).2 = .overflow := by
  rw [Nat.min_eq_right (Nat.le_of_lt hsteps), behind, if_pos hsteps]
  exact beginStep_of_lt (Nat.lt_succ_self lastStep) steps

/-- What a command for a progress comes to.  It never divides by zero.  Its percentages begin at
zero, do not decrease and do not exceed hundred, each fits its fields, each is drawn, and each is
reported just before if this is wanted.  There is one for each step and one before them, up to
hundred and with a line feed behind it, as long as the product of the last step fits 32 bits;
otherwise the console breaks down at the first step that has none, and did not come to hundred. -/
theorem progress_rounds (c : SampleConsole) {command : String}
    (hverb : verb command = "progress") :
    c.obey command = c.beginStep 0 (stepsOf command) ∧ 0 < stepsOf command ∧
    ∃ after, Sends (c.obey command) (rounds c.wantsProgress (percents command)) after ∧
      redrawsIn (rounds c.wantsProgress (percents command)) = (percents command).map bar ∧
      reportsIn (rounds c.wantsProgress (percents command)) =
        (if c.wantsProgress then (percents command).map report else []) ∧
      (percents command).Pairwise (· ≤ ·) ∧ (percents command).head? = some 0 ∧
      (∀ percent ∈ percents command, percent ≤ 100 ∧
        (report percent).overallPercent.toNat = percent ∧
        (report percent).filePercent.toNat = percent) ∧
      (count command ≤ 42949672 →
        (percents command).length = max (count command) 1 + 1 ∧
        (percents command).getLast? = some 100 ∧ after.2 = print "\n") ∧
      (42949672 < count command →
        (percents command).length = 42949673 ∧ (∀ percent ∈ percents command, percent < 100) ∧
        after.2 = .overflow) := by
  refine ⟨obey_progress c hverb, stepsOf_pos command, _, sends_percents c hverb,
    redrawsIn_rounds _ _, reportsIn_rounds _ _, percents_pairwise command, head?_percents command,
    fun percent hmem => ⟨le_hundred hmem, report_percent (le_hundred hmem)⟩, ?_, ?_⟩
  · intro hcount
    have hsteps : stepsOf command ≤ lastStep := Nat.max_le.mpr ⟨hcount, by decide⟩
    refine ⟨?_, getLast?_percents_of_le hsteps, behind_of_le c.wantsProgress hsteps⟩
    rw [length_percents, Nat.min_eq_left hsteps, stepsOf]
  · intro hcount
    have hsteps : lastStep < stepsOf command := Nat.lt_of_lt_of_le hcount (Nat.le_max_left _ 1)
    refine ⟨?_, fun percent => lt_hundred hsteps, behind_of_lt c.wantsProgress hsteps⟩
    rw [length_percents, Nat.min_eq_right (Nat.le_of_lt hsteps), lastStep]

/-- Three steps are reported and drawn, and one before them. -/
theorem progress_rounds_three :
    verb "progress 3" = "progress" ∧
      ∃ after,
        Sends (({ stage := .reading, wantsProgress := true } : SampleConsole).obey "progress 3")
          (rounds true [0, 33, 66, 100]) after ∧ after.2 = print "\n" := by
  have hverb : verb "progress 3" = "progress" := by decide
  have hpercents : percents "progress 3" = [0, 33, 66, 100] := by decide
  obtain ⟨-, -, after, hsends, -, -, -, -, -, hshort, -⟩ :=
    progress_rounds { stage := .reading, wantsProgress := true } hverb
  rw [hpercents] at hsends
  exact ⟨hverb, after, hsends, (hshort (by decide)).2.2⟩

/-- A progress of one step more than there is a product for breaks down just before its end. -/
theorem progress_overflow :
    verb "progress 42949673" = "progress" ∧ count "progress 42949673" = 42949673 ∧
      (percents "progress 42949673").length = 42949673 ∧
      (percents "progress 42949673").getLast? = some 99 ∧
      ∃ after, Sends (({ stage := .reading } : SampleConsole).obey "progress 42949673")
        (rounds false (percents "progress 42949673")) after ∧ after.2 = .overflow := by
  have hverb : verb "progress 42949673" = "progress" := by decide
  have hcount : count "progress 42949673" = 42949673 := by decide
  have hsteps : stepsOf "progress 42949673" = lastStep + 1 := by
    rw [stepsOf, hcount]
    rfl
  have hlong : lastStep < stepsOf "progress 42949673" := by
    rw [hsteps]
    exact Nat.lt_succ_self lastStep
  refine ⟨hverb, hcount, ?_, ?_, _, sends_percents _ hverb, behind_of_lt _ hlong⟩
  · rw [length_percents, Nat.min_eq_right (Nat.le_of_lt hlong), lastStep]
  · rw [getLast?_percents, Nat.min_eq_right (Nat.le_of_lt hlong), hsteps, lastStep]

end SampleConsole

end ConsoleLink
