import ConsoleLink.Proofs.Envelope.RoundTrip
import ConsoleLink.Proofs.Output.Terminal
import ConsoleLink.SampleConsole
import ConsoleLink.Transfer

/-!
# What a conversation with the sample console comes to

The sample console obeys one command after the other.  What it does about a command depends on
nothing but the command, and on whether it was told to report progress.

* `Talk` is how far a conversation has come; `Talk.tell`, `Talk.take` and `Talk.hear` are its steps
  with a desk that is never told to stop, and `Talk.Comes` is any number of them.
* `SampleConsole.effect` is what is seen of a command, `SampleConsole.notifications` is what is
  reported, and `SampleConsole.IsSmall` are the commands that the console is able to obey.
* `comes_command` says that a command comes to just that, and `comes_exit` does so for all
  commands up to the one that ends the console.
-/

namespace ConsoleLink

/-! ## Texts that fit -/

theorem Wide.length_append (a b : String) :
    Wide.length (a ++ b) = Wide.length a + Wide.length b := by
  simp [Wide.length, Wide.ofString]

theorem FitsField.append {a b : String} {capacity : Nat} (ha : '\x00' ∉ a.toList)
    (hb : '\x00' ∉ b.toList) (hlength : Wide.length a + Wide.length b < capacity) :
    FitsField (a ++ b) capacity := by
  refine ⟨?_, by rw [Wide.length_append]; exact hlength⟩
  rw [String.toList_append, List.mem_append]
  exact fun h => h.elim ha hb

/-- A text is its verb, or its verb, a space and the rest. -/
theorem Text.splitAtSpace_cases (text : String) :
    text = (splitAtSpace text).1 ∧ (splitAtSpace text).2 = "" ∨
      text = (splitAtSpace text).1 ++ " " ++ (splitAtSpace text).2 := by
  have hparts := List.takeWhile_append_dropWhile (p := (· != ' ')) (l := text.toList)
  cases hrest : text.toList.dropWhile (· != ' ') with
  | nil =>
    left
    rw [hrest, List.append_nil] at hparts
    refine ⟨?_, by simp [splitAtSpace, hrest]⟩
    rw [splitAtSpace, hparts, String.ofList_toList]
  | cons c rest =>
    right
    have hspace : c = ' ' := by
      have hhead := List.head?_dropWhile_not (· != ' ') text.toList
      rw [hrest] at hhead
      simpa using hhead
    rw [hrest, hspace] at hparts
    apply String.toList_inj.mp
    simp [splitAtSpace, hrest, hparts]

namespace SampleConsole

/-! ## What a command is for -/

/-- The part of a command before its first space. -/
def verb (command : String) : String := (Text.splitAtSpace command).1

/-- The part of a command behind its first space. -/
def argument (command : String) : String := (Text.splitAtSpace command).2

/-- How many steps are asked for. -/
def count (command : String) : Nat :=
  (Text.natOf? 4294967296 (Text.trim (argument command))).getD 4

/-- How many milliseconds are asked for. -/
def millis (command : String) : Nat :=
  (Text.natOf? 18446744073709551616 (Text.trim (argument command))).getD 0

/-- The verbs that the console knows. -/
def verbs : List String := ["echo", "progress", "choice", "title", "exit", ""]

/-- What is seen of a command below it. -/
def effect (command : String) : String :=
  if verb command = "echo" then argument command ++ "\n"
  else if verb command = "progress" then "sample.bin 100%\n"
  else if verb command = "choice" then
    if 0 < millis command then "choice result 1\n" else "choice result -1\n"
  else if verb command = "title" then ""
  else if verb command = "exit" then "Bye\n"
  else if verb command = "" then ""
  else "Unknown command: " ++ verb command ++ "\n"

/-- What is reported of some of the steps of a bar. -/
def reported (wantsProgress : Bool) (steps : Nat) (which : List Nat) : List Transfer :=
  if wantsProgress then which.map fun step => .ofReport (report (step * 100 / steps)) else []

/-- What is reported while a command is obeyed. -/
def notifications (wantsProgress : Bool) (command : String) : List Transfer :=
  if verb command = "progress" then
    reported wantsProgress (max (count command) 1) (List.range (max (count command) 1 + 1))
  else []

/-- What is seen of a command: the prompt, the command and its effect. -/
def seen (command : String) : List Char := (promptText ++ command ++ "\n" ++ effect command).toList

/-- What the console prints first. -/
def greeting : String := "Sample console ready\n"

/-- What is seen of a conversation. -/
def transcript (commands : List String) : List Char :=
  greeting.toList ++ commands.flatMap seen

/-- The console can name the verb of a command, and count its steps. -/
structure IsSmall (command : String) : Prop where
  named : verb command ∉ verbs → Wide.length (verb command) ≤ 10221
  counted : verb command = "progress" → count command ≤ 42949672

theorem seen_eq (command : String) :
    seen command = (promptText ++ command ++ "\n").toList ++ (effect command).toList :=
  String.toList_append

theorem obey_eq (c : SampleConsole) (command : String) :
    c.obey command =
      if verb command = "echo" then c.enter .printing (print (argument command ++ "\n"))
      else if verb command = "progress" then c.beginStep 0 (max (count command) 1)
      else if verb command = "choice" then
        c.enter .choosing (.send (.choice (choicePrompt (millis command))))
      else if verb command = "title" then c.enter .printing (.send (.title (argument command)))
      else if verb command = "exit" then c.enter .leaving (print "Bye\n")
      else if verb command = "" then c.enter .looking .askCancel
      else c.enter .printing (print ("Unknown command: " ++ verb command ++ "\n")) :=
  rfl

theorem obey_exit (c : SampleConsole) {command : String} (hexit : verb command = "exit") :
    c.obey command = c.enter .leaving (print "Bye\n") := by
  rw [obey_eq, hexit]
  rfl

theorem obey_unknown (c : SampleConsole) {command : String} (hunknown : verb command ∉ verbs) :
    c.obey command =
      c.enter .printing (print ("Unknown command: " ++ verb command ++ "\n")) := by
  simp only [verbs, List.mem_cons, List.not_mem_nil, or_false, not_or] at hunknown
  obtain ⟨hecho, hprogress, hchoice, htitle, hexit, hempty⟩ := hunknown
  rw [obey_eq, if_neg hecho, if_neg hprogress, if_neg hchoice, if_neg htitle, if_neg hexit,
    if_neg hempty]

/-- The parts of a command that fits have no zeros, and are no longer than it. -/
theorem fits_parts {command : String} {capacity : Nat} (hfits : FitsField command capacity) :
    '\x00' ∉ (verb command).toList ∧ '\x00' ∉ (argument command).toList ∧
      Wide.length (verb command) + Wide.length (argument command) < capacity ∧
        (argument command = "" ∨
          Wide.length (verb command) + 1 + Wide.length (argument command) < capacity) := by
  obtain ⟨hnul, hlength⟩ := hfits
  have hempty : Wide.length "" = 0 := by decide
  have hspace : Wide.length " " = 1 := by decide
  rcases Text.splitAtSpace_cases command with ⟨hwhole, hrest⟩ | hwhole
  · have hargument : argument command = "" := hrest
    have hcommand : verb command = command := hwhole.symm
    rw [hargument, hcommand, hempty]
    exact ⟨hnul, by decide, hlength, Or.inl rfl⟩
  · have hcommand : command = verb command ++ " " ++ argument command := hwhole
    have hsum : Wide.length command =
        Wide.length (verb command) + 1 + Wide.length (argument command) := by
      rw [← hspace, ← Wide.length_append, ← Wide.length_append, ← hcommand]
    rw [hcommand, String.toList_append, String.toList_append, List.mem_append,
      List.mem_append] at hnul
    refine ⟨fun h => hnul (Or.inl (Or.inl h)), fun h => hnul (Or.inr h), ?_, Or.inr ?_⟩ <;> omega

theorem reported_append (wantsProgress : Bool) (steps : Nat) (first second : List Nat) :
    reported wantsProgress steps (first ++ second) =
      reported wantsProgress steps first ++ reported wantsProgress steps second := by
  cases wantsProgress with
  | false => rfl
  | true => exact List.map_append

theorem fits_threePlaces {percent : Nat} (hpercent : percent ≤ 100) :
    FitsField (threePlaces percent) 4 := by
  have hall : ∀ percent < 101, '\x00' ∉ (threePlaces percent).toList ∧
      Wide.length (threePlaces percent) < 4 := by
    decide
  exact hall percent (by omega)

/-- A bar fits a print, and does not begin with a line feed. -/
theorem fits_bar {percent : Nat} (hpercent : percent ≤ 100) :
    FitsField (bar percent) 10240 ∧ (bar percent).toList.head? ≠ some '\n' := by
  obtain ⟨hnul, hlength⟩ := fits_threePlaces hpercent
  have hbar : bar percent = "sample.bin " ++ threePlaces percent ++ "%" := rfl
  have hbefore : Wide.length "sample.bin " = 11 := by decide
  have hbehind : Wide.length "%" = 1 := by decide
  rw [hbar]
  refine ⟨⟨by simpa using hnul, ?_⟩, by simp⟩
  rw [Wide.length_append, Wide.length_append, hbefore, hbehind]
  omega

end SampleConsole

/-! ## Conversations -/

open SampleConsole (Action Heard)

/-- How far a conversation has come. -/
structure Talk where
  console : SampleConsole := {}
  /-- What the console does next. -/
  action : Action := SampleConsole.start
  /-- What was printed, and the commands as they were shown. -/
  stream : List (String × Bool) := []
  reports : List Transfer := []
  consumed : List String := []

namespace Talk

/-- The console learns something. -/
def hear (t : Talk) (heard : Heard) : Talk :=
  { t with console := (t.console.next heard).1, action := (t.console.next heard).2 }

/-- What an event leaves behind. -/
def receive (t : Talk) : Event → Talk
  | .print message fromBeginning => { t with stream := t.stream ++ [(message, fromBeginning)] }
  | .progress report => { t with reports := t.reports ++ [.ofReport report] }
  | _ => t

/-- The answer to an event for which no command is needed. -/
def answer (wantsProgress : Bool) : Event → Reply
  | .choice prompt => .choice (if prompt.expires then prompt.expiredValue else prompt.breakValue)
  | .init => .init .pipe .pipe wantsProgress
  | _ => .ack

/-- The console sends an event and hears the answer. -/
def tell (wantsProgress : Bool) (t : Talk) (event : Event) : Talk :=
  (t.receive event).hear (.reply (answer wantsProgress event))

/-- A command is shown and handed out. -/
def give (t : Talk) (command : String) : Talk :=
  { t with
    stream := t.stream ++ [(command ++ "\n", false)]
    consumed := t.consumed ++ [command] }

/-- The console asks for a command and hears it. -/
def take (t : Talk) (command : String) : Talk :=
  (t.give command).hear (.reply (.input true command))

/-- A conversation goes on from one state to another, and uses up commands. -/
inductive Comes (wantsProgress : Bool) : Talk → List String → Talk → Prop
  | refl (t : Talk) : Comes wantsProgress t [] t
  | tell {t t' : Talk} {commands : List String} {event : Event}
      (haction : t.action = .send event) (hfits : event.Fits) (hinput : event.kind ≠ .input)
      (rest : Comes wantsProgress (t.tell wantsProgress event) commands t') :
      Comes wantsProgress t commands t'
  | take {t t' : Talk} {command : String} {commands : List String} {prompt : String} {echo : Bool}
      (haction : t.action = .send (.input prompt echo)) (hfits : (Event.input prompt echo).Fits)
      (rest : Comes wantsProgress (t.take command) commands t') :
      Comes wantsProgress t (command :: commands) t'
  | look {t t' : Talk} {commands : List String} (haction : t.action = .askCancel)
      (rest : Comes wantsProgress (t.hear (.cancelled false)) commands t') :
      Comes wantsProgress t commands t'

variable {wantsProgress : Bool} {t t' t'' : Talk} {commands more : List String}

theorem Comes.trans (first : Comes wantsProgress t commands t')
    (second : Comes wantsProgress t' more t'') :
    Comes wantsProgress t (commands ++ more) t'' := by
  induction first with
  | refl t => exact second
  | tell haction hfits hinput _ ih => exact .tell haction hfits hinput (ih second)
  | take haction hfits _ ih => exact .take haction hfits (ih second)
  | look haction _ ih => exact .look haction (ih second)

/-! ## The commands one by one -/

section Commands

variable {stream : List (String × Bool)} {reports : List Transfer} {consumed : List String}

/-- A conversation in which the console has come to a stage. -/
def of (stage : SampleConsole × Action) (stream : List (String × Bool)) (reports : List Transfer)
    (consumed : List String) : Talk :=
  { console := stage.1, action := stage.2, stream, reports, consumed }

/-- A conversation between two commands. -/
def between (wantsProgress : Bool) (stream : List (String × Bool)) (reports : List Transfer)
    (consumed : List String) : Talk :=
  of ({ stage := .looking, wantsProgress }, .askCancel) stream reports consumed

/-- The last print of a command. -/
theorem comes_printing (stage : SampleConsole.Stage) (message : String)
    (hfits : FitsField message 10240) :
    Comes wantsProgress
      (of (({ stage, wantsProgress } : SampleConsole).enter .printing (SampleConsole.print message))
        stream reports consumed) []
      (between wantsProgress (stream ++ [(message, false)]) reports consumed) :=
  .tell rfl ((Event.fits_print message false).mpr hfits) nofun (.refl _)

/-- What the console does behind a step of a bar. -/
def behind (wantsProgress : Bool) (step steps : Nat) : SampleConsole × Action :=
  let console : SampleConsole := { stage := .drawing step steps, wantsProgress }
  if step < steps then console.beginStep (step + 1) steps
  else console.enter .printing (SampleConsole.print "\n")

/-- The bar is drawn again. -/
theorem comes_draw (stage : SampleConsole.Stage) {step steps : Nat} (hstep : step ≤ steps)
    (hsteps : steps ≤ 42949672) :
    Comes wantsProgress
      (of (({ stage, wantsProgress } : SampleConsole).draw step steps) stream reports consumed) []
      (of (behind wantsProgress step steps)
        (stream ++ [(SampleConsole.bar (step * 100 / steps), true)]) reports consumed) := by
  have hsmall : step * 100 < 4294967296 := by omega
  have hpercent : step * 100 / steps ≤ 100 := by
    refine Nat.div_le_of_le_mul ?_
    omega
  rw [SampleConsole.draw, SampleConsole.percent?, if_pos hsmall]
  exact .tell rfl ((Event.fits_print _ _).mpr (SampleConsole.fits_bar hpercent).1) nofun (.refl _)

/-- A step of a bar: it is reported if this is wanted, and the bar is drawn again. -/
theorem comes_step (stage : SampleConsole.Stage) {step steps : Nat} (hstep : step ≤ steps)
    (hsteps : steps ≤ 42949672) :
    Comes wantsProgress
      (of (({ stage, wantsProgress } : SampleConsole).beginStep step steps) stream reports
        consumed) []
      (of (behind wantsProgress step steps)
        (stream ++ [(SampleConsole.bar (step * 100 / steps), true)])
        (reports ++ SampleConsole.reported wantsProgress steps [step]) consumed) := by
  cases wantsProgress with
  | false =>
    rw [SampleConsole.reported, if_neg Bool.false_ne_true, List.append_nil]
    exact comes_draw stage hstep hsteps
  | true =>
    have hsmall : step * 100 < 4294967296 := by omega
    have hfits : (Event.progress (SampleConsole.report (step * 100 / steps))).Fits := by
      have hname : FitsField "sample.bin" 1024 := ⟨by decide, by decide⟩
      have hdirectory : FitsField "/" 1024 := ⟨by decide, by decide⟩
      exact (Event.fits_progress _).mpr ⟨hname, hdirectory⟩
    rw [SampleConsole.beginStep, if_pos rfl, SampleConsole.percent?, if_pos hsmall]
    exact .tell rfl hfits nofun (comes_draw (.reporting step steps) hstep hsteps)

/-- The bar in place of whatever was drawn before. -/
theorem ofStream_bar (stream : List (String × Bool)) {percent : Nat} (hpercent : percent ≤ 100) :
    Terminal.ofStream (stream ++ [(SampleConsole.bar percent, true)]) =
      { Terminal.ofStream stream with redraw := some (SampleConsole.bar percent).toList } := by
  rw [Terminal.ofStream_append, Terminal.put, if_pos rfl,
    if_neg (SampleConsole.fits_bar hpercent).2]

/-- All steps of a bar that are left.  The last bar takes the place of all others. -/
theorem comes_steps (stage : SampleConsole.Stage) {left step steps : Nat}
    (hleft : step + left = steps) (hsteps : steps ≤ 42949672) :
    ∃ stream', Comes wantsProgress
        (of (({ stage, wantsProgress } : SampleConsole).beginStep step steps) stream reports
          consumed) []
        (of (({ stage := .drawing steps steps, wantsProgress } : SampleConsole).enter .printing
            (SampleConsole.print "\n")) stream'
          (reports ++ SampleConsole.reported wantsProgress steps (List.range' step (left + 1)))
          consumed) ∧
      Terminal.ofStream stream' =
        { Terminal.ofStream stream with
          redraw := some (SampleConsole.bar (steps * 100 / steps)).toList } := by
  -- each bar takes the place of the one before, so only the last one counts
  induction left generalizing step stage stream reports with
  | zero =>
    obtain rfl : step = steps := hleft
    have hcomes : Comes wantsProgress (of (({ stage, wantsProgress } : SampleConsole).beginStep step
        step) stream reports consumed) [] _ := comes_step stage (Nat.le_refl step) hsteps
    have hpercent : step * 100 / step ≤ 100 := Nat.div_le_of_le_mul (Nat.le_refl _)
    rw [behind, if_neg (Nat.lt_irrefl step)] at hcomes
    exact ⟨_, hcomes, ofStream_bar stream hpercent⟩
  | succ left ih =>
    have hstep : step < steps := by omega
    have hnext : step + 1 + left = steps := by omega
    have hcomes : Comes wantsProgress (of (({ stage, wantsProgress } : SampleConsole).beginStep step
        steps) stream reports consumed) [] _ := comes_step stage (Nat.le_of_lt hstep) hsteps
    have hpercent : step * 100 / steps ≤ 100 := by
      refine Nat.div_le_of_le_mul ?_
      omega
    rw [behind, if_pos hstep] at hcomes
    obtain ⟨stream', hrest, hshown⟩ := ih (.drawing step steps) hnext
    refine ⟨stream', ?_, ?_⟩
    · have hboth := hcomes.trans hrest
      rw [List.append_assoc, ← SampleConsole.reported_append] at hboth
      exact hboth
    · rw [hshown, ofStream_bar stream hpercent]

/-- What is printed stands behind what was seen. -/
theorem ofStream_print {text : List Char} (htext : (Terminal.ofStream stream).shown = text)
    (message : String) :
    Terminal.ofStream (stream ++ [(message, false)]) = { text := text ++ message.toList } := by
  rw [Terminal.ofStream_append, ← htext]
  rfl

/-- What a command comes to: the console comes back, and its effect is seen. -/
def Obeys (wantsProgress : Bool) (stage : SampleConsole × Action) (stream : List (String × Bool))
    (reports : List Transfer) (consumed : List String) (notifications : List Transfer)
    (effect : String) : Prop :=
  ∀ text : List Char, Terminal.ofStream stream = { text := text } →
    ∃ stream', Comes wantsProgress (of stage stream reports consumed) []
        (between wantsProgress stream' (reports ++ notifications) consumed) ∧
      Terminal.ofStream stream' = { text := text ++ effect.toList }

variable {stage : SampleConsole.Stage} {command : String}

theorem obeys_print {message : String} (hfits : FitsField message 10240) :
    Obeys wantsProgress
      (({ stage, wantsProgress } : SampleConsole).enter .printing (SampleConsole.print message))
      stream reports consumed [] message := by
  intro text htext
  have hshown : (Terminal.ofStream stream).shown = text := by
    rw [htext, Terminal.shown]
    exact List.append_nil text
  rw [List.append_nil]
  exact ⟨_, comes_printing stage message hfits, ofStream_print hshown message⟩

theorem obeys_title {title : String} (hfits : FitsField title 10240) :
    Obeys wantsProgress
      (({ stage, wantsProgress } : SampleConsole).enter .printing (.send (.title title)))
      stream reports consumed [] "" := by
  intro text htext
  rw [List.append_nil]
  refine ⟨stream, .tell rfl ((Event.fits_title title).mpr hfits) nofun (.refl _), ?_⟩
  rw [htext, String.toList_empty, List.append_nil]

theorem obeys_empty :
    Obeys wantsProgress (({ stage, wantsProgress } : SampleConsole).enter .looking .askCancel)
      stream reports consumed [] "" := by
  intro text htext
  rw [List.append_nil]
  refine ⟨stream, .refl _, ?_⟩
  rw [htext, String.toList_empty, List.append_nil]

/-- The answer to a choice is printed. -/
theorem obeys_chosen {prompt : Prompt} {value : Int32}
    (hvalue : answer wantsProgress (.choice prompt) = .choice value)
    (hfits : FitsField s!"choice result {value.toInt}\n" 10240) :
    Obeys wantsProgress
      (({ stage, wantsProgress } : SampleConsole).enter .choosing (.send (.choice prompt)))
      stream reports consumed [] s!"choice result {value.toInt}\n" := by
  intro text htext
  have hprint : Obeys wantsProgress (({ stage := .choosing, wantsProgress } : SampleConsole).enter
      .printing (SampleConsole.print s!"choice result {value.toInt}\n")) stream reports consumed []
        s!"choice result {value.toInt}\n" := obeys_print hfits
  obtain ⟨stream', hcomes, hseen⟩ := hprint text htext
  refine ⟨stream', .tell rfl (Event.fits_choice prompt) nofun ?_, hseen⟩
  rw [tell, hvalue]
  exact hcomes

/-- A choice that expires comes to its value for that, and else to its break value. -/
theorem obeys_choice (millis : Nat) :
    Obeys wantsProgress
      (({ stage, wantsProgress } : SampleConsole).enter .choosing
        (.send (.choice (SampleConsole.choicePrompt millis))))
      stream reports consumed []
      (if 0 < millis then "choice result 1\n" else "choice result -1\n") := by
  by_cases hmillis : 0 < millis
  · have hvalue : answer wantsProgress (.choice (SampleConsole.choicePrompt millis)) =
        .choice 1 := by
      simp [answer, SampleConsole.choicePrompt, hmillis]
    have hprinted : s!"choice result {(1 : Int32).toInt}\n" = "choice result 1\n" := by decide
    rw [if_pos hmillis, ← hprinted]
    exact obeys_chosen hvalue ⟨by decide, by decide⟩
  · have hvalue : answer wantsProgress (.choice (SampleConsole.choicePrompt millis)) =
        .choice (-1) := by
      simp [answer, SampleConsole.choicePrompt, hmillis]
    have hprinted : s!"choice result {(-1 : Int32).toInt}\n" = "choice result -1\n" := by decide
    rw [if_neg hmillis, ← hprinted]
    exact obeys_chosen hvalue ⟨by decide, by decide⟩

/-- A bar is drawn to its end. -/
theorem obeys_progress {steps : Nat} (hpositive : 0 < steps) (hsteps : steps ≤ 42949672) :
    Obeys wantsProgress (({ stage, wantsProgress } : SampleConsole).beginStep 0 steps)
      stream reports consumed
      (SampleConsole.reported wantsProgress steps (List.range (steps + 1)))
      "sample.bin 100%\n" := by
  intro text htext
  obtain ⟨stream', hcomes, hstream⟩ : ∃ stream',
      Comes wantsProgress (of (({ stage, wantsProgress } : SampleConsole).beginStep 0 steps)
        stream reports consumed) [] _ ∧ _ :=
    comes_steps stage (Nat.zero_add steps) hsteps
  have hfull : SampleConsole.bar (steps * 100 / steps) = "sample.bin 100%" := by
    rw [Nat.mul_div_cancel_left 100 hpositive]
    decide
  have hshown : (Terminal.ofStream stream').shown = text ++ "sample.bin 100%".toList := by
    rw [hstream, htext, hfull]
    rfl
  have hfits : FitsField "\n" 10240 := ⟨by decide, by decide⟩
  refine ⟨stream' ++ [("\n", false)], ?_, ?_⟩
  · rw [List.range_eq_range']
    exact hcomes.trans (comes_printing _ "\n" hfits)
  · rw [ofStream_print hshown, List.append_assoc]
    rfl

/-- The console obeys a command that it is able to obey. -/
theorem obeys (hfits : FitsField command 10240) (hsmall : SampleConsole.IsSmall command)
    (hexit : SampleConsole.verb command ≠ "exit") :
    Obeys wantsProgress (({ stage, wantsProgress } : SampleConsole).obey command) stream reports
      consumed (SampleConsole.notifications wantsProgress command)
      (SampleConsole.effect command) := by
  obtain ⟨hverb, hargument, hlength, -⟩ := SampleConsole.fits_parts hfits
  have hfeed : Wide.length "\n" = 1 := by decide
  rw [SampleConsole.obey_eq, SampleConsole.effect, SampleConsole.notifications]
  by_cases hecho : SampleConsole.verb command = "echo"
  · have hother : SampleConsole.verb command ≠ "progress" := by
      rw [hecho]
      decide
    rw [if_pos hecho, if_pos hecho, if_neg hother]
    have hfour : Wide.length (SampleConsole.verb command) = 4 := by
      rw [hecho]
      decide
    exact obeys_print (.append hargument (by decide) (by rw [hfeed]; omega))
  rw [if_neg hecho, if_neg hecho]
  by_cases hprogress : SampleConsole.verb command = "progress"
  · rw [if_pos hprogress, if_pos hprogress, if_pos hprogress]
    exact obeys_progress (by omega) (by have hcount := hsmall.counted hprogress; omega)
  rw [if_neg hprogress, if_neg hprogress, if_neg hprogress]
  by_cases hchoice : SampleConsole.verb command = "choice"
  · rw [if_pos hchoice, if_pos hchoice]
    exact obeys_choice (SampleConsole.millis command)
  rw [if_neg hchoice, if_neg hchoice]
  by_cases htitle : SampleConsole.verb command = "title"
  · rw [if_pos htitle, if_pos htitle]
    exact obeys_title ⟨hargument, by omega⟩
  rw [if_neg htitle, if_neg htitle, if_neg hexit, if_neg hexit]
  by_cases hempty : SampleConsole.verb command = ""
  · rw [if_pos hempty, if_pos hempty]
    exact obeys_empty
  · rw [if_neg hempty, if_neg hempty]
    have hunknown : SampleConsole.verb command ∉ SampleConsole.verbs := by
      simp [SampleConsole.verbs, hecho, hprogress, hchoice, htitle, hexit, hempty]
    have hshort := hsmall.named hunknown
    have hbefore : Wide.length "Unknown command: " = 17 := by decide
    refine obeys_print (.append ?_ (by decide) ?_)
    · simpa using hverb
    · rw [Wide.length_append, hbefore, hfeed]
      omega

/-! ## All commands -/

/-- A command is asked for, shown and handed out. -/
theorem comes_prompt (wantsProgress : Bool) (stream : List (String × Bool))
    (reports : List Transfer) (consumed : List String) (command : String) :
    Comes wantsProgress (between wantsProgress stream reports consumed) [command]
      (of (({ stage := .reading, wantsProgress } : SampleConsole).obey command)
        (stream ++ [(SampleConsole.promptText, false)] ++ [(command ++ "\n", false)]) reports
        (consumed ++ [command])) := by
  have hprompt : FitsField SampleConsole.promptText 10240 := ⟨by decide, by decide⟩
  refine .look rfl (.tell rfl ((Event.fits_print _ false).mpr hprompt) nofun ?_)
  exact .take rfl ((Event.fits_input _ true).mpr hprompt) (.refl _)

theorem shown_of_text {text : List Char} (htext : Terminal.ofStream stream = { text := text }) :
    (Terminal.ofStream stream).shown = text := by
  rw [htext]
  exact List.append_nil text

/-- What is seen once a command was shown behind its prompt. -/
theorem ofStream_prompt {text : List Char} (htext : Terminal.ofStream stream = { text := text })
    (command : String) :
    Terminal.ofStream
        (stream ++ [(SampleConsole.promptText, false)] ++ [(command ++ "\n", false)]) =
      { text := text ++ (SampleConsole.promptText ++ command ++ "\n").toList } := by
  have hprompt := ofStream_print (shown_of_text htext) SampleConsole.promptText
  rw [ofStream_print (shown_of_text hprompt) (command ++ "\n")]
  simp

/-- A command that is asked for and obeyed. -/
theorem comes_command (wantsProgress : Bool) (reports : List Transfer) (consumed : List String)
    (hfits : FitsField command 10240) (hsmall : SampleConsole.IsSmall command)
    (hexit : SampleConsole.verb command ≠ "exit") {text : List Char}
    (htext : Terminal.ofStream stream = { text := text }) :
    ∃ stream', Comes wantsProgress (between wantsProgress stream reports consumed) [command]
        (between wantsProgress stream'
          (reports ++ SampleConsole.notifications wantsProgress command) (consumed ++ [command])) ∧
      Terminal.ofStream stream' = { text := text ++ SampleConsole.seen command } := by
  obtain ⟨stream', hcomes, hseen⟩ :=
    obeys hfits hsmall hexit _ (ofStream_prompt htext command)
  refine ⟨stream', (comes_prompt wantsProgress stream reports consumed command).trans hcomes, ?_⟩
  rw [hseen, SampleConsole.seen_eq, List.append_assoc]

/-- Commands that are asked for and obeyed one after the other. -/
theorem comes_commands (wantsProgress : Bool) (reports : List Transfer) (consumed : List String)
    {commands : List String} (hfits : ∀ c ∈ commands, FitsField c 10240)
    (hsmall : ∀ c ∈ commands, SampleConsole.IsSmall c)
    (hexit : ∀ c ∈ commands, SampleConsole.verb c ≠ "exit") {text : List Char}
    (htext : Terminal.ofStream stream = { text := text }) :
    ∃ stream', Comes wantsProgress (between wantsProgress stream reports consumed) commands
        (between wantsProgress stream'
          (reports ++ commands.flatMap (SampleConsole.notifications wantsProgress))
          (consumed ++ commands)) ∧
      Terminal.ofStream stream' = { text := text ++ commands.flatMap SampleConsole.seen } := by
  induction commands generalizing stream reports consumed text with
  | nil =>
    refine ⟨stream, ?_, ?_⟩
    · simpa using Comes.refl _
    · simpa using htext
  | cons command commands ih =>
    obtain ⟨middle, hfirst, hmiddle⟩ := comes_command wantsProgress reports consumed
      (hfits command List.mem_cons_self) (hsmall command List.mem_cons_self)
      (hexit command List.mem_cons_self) htext
    obtain ⟨stream', hrest, hseen⟩ :=
      ih (reports ++ SampleConsole.notifications wantsProgress command) (consumed ++ [command])
        (fun c hc => hfits c (List.mem_cons_of_mem _ hc))
        (fun c hc => hsmall c (List.mem_cons_of_mem _ hc))
        (fun c hc => hexit c (List.mem_cons_of_mem _ hc)) hmiddle
    refine ⟨stream', ?_, ?_⟩
    · have hboth := hfirst.trans hrest
      simpa [List.append_assoc] using hboth
    · rw [hseen, List.flatMap_cons, List.append_assoc]

/-- A conversation opens with a greeting. -/
theorem comes_start (wantsProgress : Bool) :
    Comes wantsProgress {} []
      (between wantsProgress [(SampleConsole.greeting, false)] [] []) := by
  have hgreeting : FitsField SampleConsole.greeting 10240 := ⟨by decide, by decide⟩
  refine .tell rfl Event.fits_init nofun (.tell rfl ?_ nofun (.refl _))
  exact (Event.fits_print _ false).mpr hgreeting

/-- The console says good-bye and ends. -/
theorem comes_leave (wantsProgress : Bool) (reports : List Transfer) (consumed : List String)
    (hexit : SampleConsole.verb command = "exit") {text : List Char}
    (htext : Terminal.ofStream stream = { text := text }) :
    ∃ t, Comes wantsProgress (between wantsProgress stream reports consumed) [command] t ∧
      t.action = .exit 0 ∧ t.consumed = consumed ++ [command] ∧ t.reports = reports ∧
        Terminal.ofStream t.stream = { text := text ++ SampleConsole.seen command } := by
  have heffect : SampleConsole.effect command = "Bye\n" := by
    rw [SampleConsole.effect, hexit]
    rfl
  have hbye : FitsField "Bye\n" 10240 := ⟨by decide, by decide⟩
  have hprompt := comes_prompt wantsProgress stream reports consumed command
  rw [SampleConsole.obey_exit _ hexit] at hprompt
  refine ⟨_, hprompt.trans (.tell rfl ((Event.fits_print _ false).mpr hbye) nofun (.refl _)), rfl,
    rfl, rfl, ?_⟩
  refine (ofStream_print (shown_of_text (ofStream_prompt htext command)) "Bye\n").trans ?_
  rw [SampleConsole.seen_eq, heffect, List.append_assoc]

/-- All commands up to the one that ends the console. -/
theorem comes_exit (wantsProgress : Bool) {before : List String} {last : String}
    (hfits : ∀ c ∈ before, FitsField c 10240) (hsmall : ∀ c ∈ before, SampleConsole.IsSmall c)
    (hbefore : ∀ c ∈ before, SampleConsole.verb c ≠ "exit")
    (hlast : SampleConsole.verb last = "exit") :
    ∃ t, Comes wantsProgress {} (before ++ [last]) t ∧ t.action = .exit 0 ∧
      t.consumed = before ++ [last] ∧
        t.reports = before.flatMap (SampleConsole.notifications wantsProgress) ∧
          (Terminal.ofStream t.stream).shown = SampleConsole.transcript (before ++ [last]) := by
  have hnothing : (Terminal.ofStream []).shown = [] := rfl
  obtain ⟨stream, hcommands, htext⟩ := comes_commands wantsProgress [] [] hfits hsmall hbefore
    (ofStream_print hnothing SampleConsole.greeting)
  rw [List.nil_append, List.nil_append] at hcommands
  obtain ⟨t, hleave, haction, hconsumed, hreports, hseen⟩ := comes_leave wantsProgress
    (before.flatMap (SampleConsole.notifications wantsProgress)) before hlast htext
  have hcomes := (comes_start wantsProgress).trans (hcommands.trans hleave)
  refine ⟨t, hcomes, haction, hconsumed, hreports, ?_⟩
  rw [shown_of_text hseen, SampleConsole.transcript, List.flatMap_append,
    List.flatMap_singleton, List.nil_append, List.append_assoc]

end Commands

end Talk

end ConsoleLink
