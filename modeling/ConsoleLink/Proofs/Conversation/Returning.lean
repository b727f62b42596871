import ConsoleLink.Proofs.Conversation.Ending
import ConsoleLink.Proofs.Envelope.Parts

/-!
# How the console comes back to its prompt

A command that was accepted fits the field of an answer, and what the console prints for it is made
from a part of it.  A verb that the console does not know is printed behind eighteen more units than
the command has, and so the longest of these verbs do not fit a print.

* `SampleRun.writes?` is the event that a run is about to write, and `SampleRun.IsBroken` are the
  runs that a text broke; `IsBroken.step` and `partner_run` say that they stay so.
* `partner_run` says that a console that is over does nothing.
* `Prompts` is a console that asks for the next command.
* `delivers` takes a command to the console, `returns`, `leaves_at_exit` and `fails` say what it
  comes to, and `command_handled` puts them together.
-/

namespace ConsoleLink

/-! ## Runs that a text breaks -/

/-- A client that writes an event which is refused reports why. -/
theorem Client.step_refused {client : Client} {event : Event} {fault : FieldFault}
    (hphase : client.phase = .writing event) (hrefused : event.Refused fault)
    (now : Nat) (s : Shared) :
    client.step now s =
      (client.enter (.done (.error (.field fault))),
        { s with envelope := (s.envelope.putEvent event).1 }) := by
  have herror := (Envelope.putEvent_eq_error_iff s.envelope).mpr hrefused
  cases hput : s.envelope.putEvent event with
  | mk bytes outcome =>
    rw [hput] at herror
    cases herror
    simp only [Client.step, hphase, hput]

namespace SampleRun

/-- The event that a run is about to write. -/
def writes? (r : SampleRun) : Option Event :=
  match r.status with
  | .talking client =>
    match client.phase with
    | .writing event => some event
    | _ => none
  | _ => none

/-- A text breaks the run: it is about to write an event that does not fit, or has tried to. -/
inductive IsBroken (r : SampleRun) : Prop
  | writing {event : Event} (hwrites : r.writes? = some event) (hfits : ¬ event.Fits)
  | refused {client : Client} {fault : FieldFault} (hstatus : r.status = .talking client)
      (hphase : client.phase = .done (.error (.field fault)))
  | failed {fault : FieldFault} (hstatus : r.status = .failed (.field fault))

variable {r : SampleRun} {event : Event} {fault : FieldFault}

theorem writes?_eq_some_iff :
    r.writes? = some event ↔
      ∃ client, r.status = .talking client ∧ client.phase = .writing event := by
  constructor
  · intro hwrites
    rw [writes?] at hwrites
    split at hwrites
    · rename_i client hstatus
      split at hwrites
      · rename_i other hphase
        rw [Option.some.inj hwrites] at hphase
        exact ⟨client, hstatus, hphase⟩
      · cases hwrites
    · cases hwrites
  · rintro ⟨client, hstatus, hphase⟩
    simp only [writes?, hstatus, hphase]

/-- A run that is broken stays so. -/
theorem IsBroken.step (h : r.IsBroken) (now : Nat) (s : Shared) : (r.step now s).1.IsBroken := by
  cases h with
  | @writing event hwrites hfits =>
    obtain ⟨client, hstatus, hphase⟩ := writes?_eq_some_iff.mp hwrites
    obtain ⟨fault, hrefused⟩ := Event.exists_refused hfits
    have hgoing : client.outcome? = none := by simp only [Client.outcome?, hphase]
    rw [Bridge.step_talking hstatus hgoing, Client.step_refused hphase hrefused]
    exact .refused rfl rfl
  | @refused client fault hstatus hphase =>
    have houtcome : client.outcome? = some (.error (.field fault)) := by
      simp only [Client.outcome?, hphase]
    have hfailed : (r.step now s).1.status = .failed (.field fault) := by
      simp only [SampleRun.step, hstatus, houtcome]
    exact .failed hfailed
  | @failed fault hstatus =>
    have hfailed : (r.step now s).1.status = .failed (.field fault) := by
      simp only [SampleRun.step, hstatus]
    exact .failed hfailed

/-- A run that has ended with a code was not broken. -/
theorem not_isBroken_of_ended {code : Nat} (hended : r.status = .ended code) : ¬ r.IsBroken := by
  rintro (⟨hwrites, -⟩ | ⟨hrefused, -⟩ | hfailed)
  · obtain ⟨client, htalking, -⟩ := writes?_eq_some_iff.mp hwrites
    cases hended.symm.trans htalking
  · cases hended.symm.trans hrefused
  · cases hended.symm.trans hfailed

/-- A run that is about to write an event that fits is not broken. -/
theorem not_isBroken_of_writes (hwrites : r.writes? = some event) (hfits : event.Fits) :
    ¬ r.IsBroken := by
  obtain ⟨client, htalking, hphase⟩ := writes?_eq_some_iff.mp hwrites
  rintro (⟨hother, hlong⟩ | ⟨hrefused, hdone⟩ | hfailed)
  · exact hlong (Option.some.inj (hwrites.symm.trans hother) ▸ hfits)
  · cases htalking.symm.trans hrefused
    cases hphase.symm.trans hdone
  · cases htalking.symm.trans hfailed

end SampleRun

namespace Bridge

variable {start b : Bridge} {acts : Nat → Act} {wants : Bool} {sink : Option Unit} {t : Talk}
  {n m : Nat} {before rest : List String} {command : String}

/-- Only the console changes what it is doing. -/
theorem partner_after {act : Act} (htalk : ¬ act.IsTalk) : (b.after act).partner = b.partner := by
  cases act with
  | serve m => rfl
  | talk now => exact absurd trivial htalk
  | enqueue text =>
    obtain ⟨new, -, hafter⟩ := after_enqueue b text
    rw [hafter]

/-- What a step of the console keeps up is kept up on the bridge. -/
theorem partner_run {P : SampleRun → Prop} (hstep : ∀ r now s, P r → P (r.step now s).1)
    (hP : P (run start acts n).partner) (hm : n ≤ m) : P (run start acts m).partner := by
  induction hm with
  | refl => exact hP
  | @step m _ ih =>
    rw [run]
    by_cases htalk : (acts m).IsTalk
    · obtain ⟨now, hact⟩ := Act.exists_of_isTalk htalk
      rw [hact, after_talk]
      exact hstep _ now _ ih
    · rw [partner_after htalk]
      exact ih

/-- A console that is over stays what it is. -/
theorem partner_of_isOver (hover : (run start acts n).partner.isOver = true) (hm : n ≤ m) :
    (run start acts m).partner = (run start acts n).partner := by
  refine partner_run (P := (· = (run start acts n).partner)) ?_ rfl hm
  rintro r now s rfl
  rw [SampleRun.step_of_isOver hover]

/-- A console that no text has broken was only about to write events that fit. -/
theorem fits_of_writes (hsound : ¬ (run start acts m).partner.IsBroken) (hn : n ≤ m) {event : Event}
    (hwrites : (run start acts n).partner.writes? = some event) : event.Fits := by
  by_contra hfits
  exact hsound (partner_run (fun _ now s h => h.step now s) (.writing hwrites hfits) hn)

/-! ## The next prompt -/

/-- The console has heard some commands and asks for the next one. -/
structure Prompts (consumed : List String) (b : Bridge) : Prop where
  stage : b.partner.console.stage = .reading
  status : b.partner.status = .talking (Client.send (.input SampleConsole.promptText true))
  commands : consumed ++ b.loop.state.queue.commands = b.accepted

theorem Prompts.isOver {consumed : List String} (h : Prompts consumed b) :
    b.partner.isOver = false := by
  rw [SampleRun.isOver, SampleRun.exitCode?, h.status]
  rfl

theorem Prompts.not_isBroken {consumed : List String} (h : Prompts consumed b) :
    ¬ b.partner.IsBroken := by
  have hwrites : b.partner.writes? = some (.input SampleConsole.promptText true) :=
    SampleRun.writes?_eq_some_iff.mpr ⟨_, h.status, rfl⟩
  exact SampleRun.not_isBroken_of_writes hwrites
    ((Event.fits_input _ true).mpr ⟨by decide, by decide⟩)

/-- A console that asks for the next command has been sound so far. -/
theorem Prompts.sound {consumed : List String} (h : Prompts consumed (run start acts m))
    (hn : n ≤ m) :
    (run start acts n).partner.isOver = false ∧
      ∀ event, (run start acts n).partner.writes? = some event → event.Fits := by
  refine ⟨?_, fun event hwrites => fits_of_writes h.not_isBroken hn hwrites⟩
  by_contra hover
  have hgoing := h.isOver
  rw [partner_of_isOver (by simpa using hover) hn] at hgoing
  exact hover hgoing

/-! ## What a command comes to -/

/-- The text for a verb that the console does not know is refused if the verb is too long. -/
theorem refused_unknown (hfits : FitsField command 10240)
    (hlong : 10221 < Wide.length (SampleConsole.verb command)) :
    (Event.print ("Unknown command: " ++ SampleConsole.verb command ++ "\n") false).Refused
      (.tooLong "print message" (Wide.length (SampleConsole.verb command) + 18) 10240) := by
  obtain ⟨hnul, -, -, -⟩ := SampleConsole.fits_parts hfits
  have hlength : Wide.length ("Unknown command: " ++ SampleConsole.verb command ++ "\n") =
      Wide.length (SampleConsole.verb command) + 18 := by
    have hbefore : Wide.length "Unknown command: " = 17 := by decide
    have hbehind : Wide.length "\n" = 1 := by decide
    rw [Wide.length_append, Wide.length_append, hbefore, hbehind]
    omega
  refine ⟨[], (Layout.printMessage, _), [], rfl, nofun, ?_⟩
  rw [← hlength]
  refine .long ((Wide.nulPosition_eq_none_iff _).mpr ?_) ?_
  · simpa using hnul
  · rw [hlength]
    show 10240 ≤ _
    omega

/-- The console tries to write an event that is refused. -/
inductive Tries (event : Event) (fault : FieldFault) : SampleRun → Shared → Prop
  | writing {r : SampleRun} {s : Shared} (hstatus : r.status = .talking (Client.send event)) :
      Tries event fault r s
  | refused {r : SampleRun} {s : Shared}
      (hstatus : r.status =
        .talking ((Client.send event).enter (.done (.error (.field fault))))) :
      Tries event fault r s

section Fair

variable (hfair : IsFair start acts)

include hfair

/-- A console that decides on an event that is refused fails. -/
theorem fails {event : Event} {fault : FieldFault} (hrefused : event.Refused fault)
    (haction : t.action = .send event) (hacting : Acting wants sink t (run start acts n)) :
    ∃ k > n, ∀ m ≥ k, (run start acts m).partner.status = .failed (.field fault) := by
  have hstatus : (run start acts n).partner.status = .talking (Client.send event) := by
    rw [hacting.status, haction]
    rfl
  have hgoing : (run start acts n).partner.isOver = false := by
    rw [SampleRun.isOver, SampleRun.exitCode?, hstatus]
    rfl
  obtain ⟨k, hk, hfailed⟩ : ∃ k > n,
      (run start acts k).partner.status = .failed (.field fault) := by
    refine leads_talk hfair (P := Tries event fault) distance
      (Q := fun b => b.partner.status = .failed (.field fault)) ?_ (hacting.rests hgoing)
      (.writing hstatus)
    intro b now hrests htries
    cases htries with
    | writing hstatus =>
      right
      obtain ⟨hrests', hstatus', -⟩ := hrests.talk hstatus rfl
        (Client.step_refused rfl hrefused now b.shared) hrests.request rfl
      rw [distance_talking hstatus, distance_talking hstatus']
      exact ⟨⟨hrests', .refused hstatus'⟩, Nat.zero_lt_succ 3⟩
    | refused hstatus =>
      left
      have hfails : b.partner.step now b.shared =
          ({ b.partner with status := .failed (.field fault) }, b.shared) := by
        simp only [SampleRun.step, hstatus, Client.outcome?, Client.enter]
      rw [after_talk, hfails]
  have hover : (run start acts k).partner.isOver = true := by
    rw [SampleRun.isOver, SampleRun.exitCode?, hfailed]
    rfl
  refine ⟨k, hk, ?_⟩
  intro m hm
  rw [partner_of_isOver hover hm, hfailed]

/-- A command comes to the console once those before it have been obeyed. -/
theorem delivers (hopened : IsOpened start)
    (haccepted : (run start acts n).accepted = before ++ command :: rest)
    (hbefore : ∀ c ∈ before, SampleConsole.verb c ≠ "exit")
    (hsmall : ∀ c ∈ before, SampleConsole.IsSmall c) :
    FitsField command 10240 ∧ ∃ k stream reports text,
      Terminal.ofStream stream = { text := text } ∧
      Acting start.loop.state.wantsProgress start.loop.state.receivers.progress
        (.of (({ stage := .reading, wantsProgress := start.loop.state.wantsProgress } :
          SampleConsole).obey command) stream reports (before ++ [command])) (run start acts k) := by
  have hwhole : before ++ command :: rest = before ++ [command] ++ rest :=
    List.append_cons before command rest
  have hfits : ∀ c ∈ before ++ [command], FitsField c 10240 := by
    have hall := fits_accepted hopened.accepted acts n
    rw [haccepted, hwhole] at hall
    exact fun c hc => hall c (List.mem_append_left rest hc)
  have hoffer : ∃ k, ({} : Talk).consumed ++ (before ++ [command]) <+:
      (run start acts k).accepted := by
    refine ⟨n, ?_⟩
    rw [haccepted, hwhole]
    exact List.prefix_append _ rest
  have hnothing : (Terminal.ofStream []).shown = [] := rfl
  obtain ⟨stream, hcommands, htext⟩ := Talk.comes_commands start.loop.state.wantsProgress [] []
    (fun c hc => hfits c (List.mem_append_left _ hc)) hsmall hbefore
    (Talk.ofStream_print hnothing SampleConsole.greeting)
  rw [List.nil_append, List.nil_append] at hcommands
  have hcomes := (Talk.comes_start _).trans
    (hcommands.trans (Talk.comes_prompt _ stream _ before command))
  obtain ⟨k, -, hacting⟩ := comes (n := 0) hfair hcomes hfits hoffer hopened.acting
  exact ⟨hfits command (List.mem_append_right before List.mem_cons_self), k, _, _, _,
    Talk.ofStream_prompt htext command, hacting⟩

/-- A console that is told to end does so. -/
theorem leaves_at_exit (hexit : SampleConsole.verb command = "exit") {c : SampleConsole}
    {stream : List (String × Bool)} {reports : List Transfer} {consumed : List String}
    (hacting : Acting wants sink (.of (c.obey command) stream reports consumed)
      (run start acts n)) :
    ∃ k, ∀ m ≥ k, (run start acts m).partner.status = .ended 0 := by
  have hbye : FitsField "Bye\n" 10240 := ⟨by decide, by decide⟩
  rw [SampleConsole.obey_exit c hexit] at hacting
  obtain ⟨k, -, hacting⟩ := tells hfair ((Event.fits_print _ false).mpr hbye) nofun rfl hacting
  have hended : (run start acts k).partner.status = .ended 0 := hacting.status
  have hover : (run start acts k).partner.isOver = true := by
    rw [SampleRun.isOver, SampleRun.exitCode?, hended]
    rfl
  refine ⟨k, ?_⟩
  intro m hm
  rw [partner_of_isOver hover hm, hended]

/-- A console between two commands asks for the next one. -/
theorem prompts {stream : List (String × Bool)} {reports : List Transfer} {consumed : List String}
    (hacting : Acting wants sink (.between wants stream reports consumed) (run start acts n)) :
    ∃ k, Prompts consumed (run start acts k) := by
  have hprompt : FitsField SampleConsole.promptText 10240 := ⟨by decide, by decide⟩
  obtain ⟨l, -, hlooked⟩ := looks hfair hacting rfl
  obtain ⟨k, -, hasked⟩ := tells hfair ((Event.fits_print _ false).mpr hprompt) nofun rfl hlooked
  refine ⟨k, ?_, hasked.status, hasked.keeps.marks.commands⟩
  rw [hasked.keeps.console]
  rfl

/-- A console that obeys a command comes back to its prompt. -/
theorem returns (hfits : FitsField command 10240) (hsmall : SampleConsole.IsSmall command)
    (hexit : SampleConsole.verb command ≠ "exit") {stage : SampleConsole.Stage}
    {stream : List (String × Bool)} {reports : List Transfer} {consumed : List String}
    {text : List Char} (htext : Terminal.ofStream stream = { text := text })
    (hacting : Acting wants sink (.of (({ stage, wantsProgress := wants } : SampleConsole).obey
      command) stream reports consumed) (run start acts n)) :
    ∃ k, Prompts consumed (run start acts k) := by
  obtain ⟨stream', hcomes, -⟩ := Talk.obeys hfits hsmall hexit text htext
  have hoffer : ∃ k, consumed ++ [] <+: (run start acts k).accepted := by
    refine ⟨n, ?_⟩
    rw [List.append_nil, ← hacting.keeps.marks.commands]
    exact List.prefix_append consumed _
  obtain ⟨m, -, hbetween⟩ := comes hfair hcomes nofun hoffer hacting
  exact prompts hfair hbetween

end Fair

/-! ## Commands that are handed in first -/

/-- A command that fits is accepted. -/
theorem accepted_after_enqueue (b : Bridge) {text : String} (hfits : FitsField text 10240) :
    (b.after (.enqueue text)).accepted = b.accepted ++ [text] := by
  have hnul := (Wide.nulPosition_eq_none_iff text).mpr hfits.1
  have hlength : ¬ CommandQueue.limit ≤ Wide.length text := Nat.not_le.mpr hfits.2
  have hrefusal : CommandQueue.refusal? text = none := by
    simp only [CommandQueue.refusal?, hnul, if_neg hlength]
  simp only [after, Desk.enqueue, CommandQueue.enqueue_of_accepted _ hrefusal]

/-- The turns begin with the commands. -/
theorem accepted_play {commands : List String} (hfits : ∀ c ∈ commands, FitsField c 10240)
    (hn : n ≤ commands.length) :
    (play start commands n).accepted = start.accepted ++ commands.take n := by
  induction n with
  | zero => rw [play, List.take_zero, List.append_nil]
  | succ n ih =>
    have hturn : turn commands (play start commands n) n = .enqueue commands[n] := by
      rw [turn, List.getElem?_eq_getElem hn]
    rw [play, hturn, accepted_after_enqueue _ (hfits _ (List.getElem_mem hn)),
      ih (Nat.le_of_succ_le hn), List.append_assoc, List.take_append_getElem hn]

theorem accepted_turns {commands : List String} (hfits : ∀ c ∈ commands, FitsField c 10240) :
    (run opened (turns opened commands) commands.length).accepted = commands := by
  rw [run_turns, accepted_play hfits (Nat.le_refl _), List.take_length]
  rfl

/-! ## Handling a command -/

/-- What a command comes to that was accepted, once the console has obeyed those before it.  If its
count is not too large for a progress,

* a console that is told to end does so with code zero, and never is about to write an event that
  does not fit;
* another one comes back to its prompt, having heard this command last, and neither ends before nor
  is about to write an event that does not fit, unless it does not know the verb and this has more
  than 10221 units;
* in that case it fails, since the text that names the verb does not fit a print. -/
theorem command_handled (hopened : IsOpened start) (hfair : IsFair start acts)
    (haccepted : (run start acts n).accepted = before ++ command :: rest)
    (hbefore : ∀ c ∈ before, SampleConsole.verb c ≠ "exit")
    (hsmall : ∀ c ∈ before, SampleConsole.IsSmall c)
    (hcounted : SampleConsole.verb command = "progress" →
      SampleConsole.count command ≤ 42949672) :
    (SampleConsole.verb command = "exit" →
      ∃ k, (∀ m ≥ k, (run start acts m).partner.exitCode? = some 0) ∧
        ∀ m event, (run start acts m).partner.writes? = some event → event.Fits) ∧
    (SampleConsole.verb command ≠ "exit" →
      (SampleConsole.verb command ∉ SampleConsole.verbs →
        Wide.length (SampleConsole.verb command) ≤ 10221) →
      ∃ k, Prompts (before ++ [command]) (run start acts k) ∧
        ∀ m ≤ k, (run start acts m).partner.isOver = false ∧
          ∀ event, (run start acts m).partner.writes? = some event → event.Fits) ∧
    (SampleConsole.verb command ∉ SampleConsole.verbs →
      10221 < Wide.length (SampleConsole.verb command) →
      ∃ k, ∀ m ≥ k, (run start acts m).partner.status = .failed (.field
        (.tooLong "print message" (Wide.length (SampleConsole.verb command) + 18) 10240))) := by
  obtain ⟨hfits, n', stream, reports, text, htext, hacting⟩ :=
    delivers hfair hopened haccepted hbefore hsmall
  refine ⟨?_, ?_, ?_⟩
  · intro hexit
    obtain ⟨k, hended⟩ := leaves_at_exit hfair hexit hacting
    refine ⟨k, ?_, ?_⟩
    · intro m hm
      rw [SampleRun.exitCode?, hended m hm]
    · intro m event hwrites
      have hlast := hended (max m k) (Nat.le_max_right m k)
      exact fits_of_writes (SampleRun.not_isBroken_of_ended hlast) (Nat.le_max_left m k) hwrites
  · intro hexit hnamed
    obtain ⟨k, hprompts⟩ := returns hfair hfits ⟨hnamed, hcounted⟩ hexit htext hacting
    exact ⟨k, hprompts, fun m hm => hprompts.sound hm⟩
  · intro hunknown hlong
    rw [SampleConsole.obey_unknown _ hunknown] at hacting
    obtain ⟨k, -, hfailed⟩ := fails hfair (refused_unknown hfits hlong) rfl hacting
    exact ⟨k, hfailed⟩

/-- A command that the console does not know leads back to the prompt. -/
theorem command_handled_bogus :
    IsOpened opened ∧ IsFair opened (turns opened ["bogus", "exit"]) ∧
      (run opened (turns opened ["bogus", "exit"]) 2).accepted = ["bogus", "exit"] ∧
      ∃ k, Prompts ["bogus"] (run opened (turns opened ["bogus", "exit"]) k) := by
  have hopened : IsOpened opened := ⟨rfl, rfl, rfl, rfl, rfl, rfl, rfl, rfl, rfl, rfl, rfl⟩
  have hfair := isFair_turns opened ["bogus", "exit"]
  have haccepted : (run opened (turns opened ["bogus", "exit"]) 2).accepted =
      [] ++ "bogus" :: ["exit"] :=
    accepted_turns (by decide)
  obtain ⟨-, hback, -⟩ := command_handled hopened hfair haccepted nofun nofun (by decide)
  obtain ⟨k, hprompts, -⟩ := hback (by decide) (fun _ => by decide)
  exact ⟨hopened, hfair, haccepted, k, hprompts⟩

/-- A verb of some units. -/
def crosses (length : Nat) : String := String.ofList (List.replicate length 'x')

theorem verb_crosses (length : Nat) : SampleConsole.verb (crosses length) = crosses length := by
  have hother : ('x' != ' ') = true := by decide
  rw [SampleConsole.verb, Text.splitAtSpace, crosses, String.toList_ofList,
    List.takeWhile_replicate, if_pos hother]

theorem length_crosses (length : Nat) : Wide.length (crosses length) = length := by
  have hone : (Wide.ofChar 'x').length = 1 := by decide
  rw [Wide.length, Wide.ofString, crosses, String.toList_ofList, List.length_flatMap,
    List.map_replicate, List.sum_replicate_nat, hone, Nat.mul_one]

theorem fits_crosses {length capacity : Nat} (hlength : length < capacity) :
    FitsField (crosses length) capacity := by
  refine ⟨?_, by rwa [length_crosses]⟩
  rw [crosses, String.toList_ofList]
  intro hmem
  cases List.eq_of_mem_replicate hmem

/-- A verb of 10222 units is accepted, and the console fails over it. -/
theorem crosses_break :
    IsOpened opened ∧ IsFair opened (turns opened [crosses 10222, "exit"]) ∧
      (run opened (turns opened [crosses 10222, "exit"]) 2).accepted = [crosses 10222, "exit"] ∧
      SampleConsole.verb (crosses 10222) ∉ SampleConsole.verbs ∧
      ∃ k, ∀ m ≥ k, (run opened (turns opened [crosses 10222, "exit"]) m).partner.status =
        .failed (.field (.tooLong "print message" 10240 10240)) := by
  have hopened : IsOpened opened := ⟨rfl, rfl, rfl, rfl, rfl, rfl, rfl, rfl, rfl, rfl, rfl⟩
  have hfits : FitsField (crosses 10222) 10240 := fits_crosses (by decide)
  have hexit : FitsField "exit" 10240 := by decide
  have hlength : Wide.length (SampleConsole.verb (crosses 10222)) = 10222 := by
    rw [verb_crosses, length_crosses]
  -- a verb that the console knows is short
  have hunknown : SampleConsole.verb (crosses 10222) ∉ SampleConsole.verbs := by
    intro hknown
    have hshort : ∀ verb ∈ SampleConsole.verbs, Wide.length verb < 10222 := by decide
    have hlt := hshort _ hknown
    omega
  generalize crosses 10222 = command at hfits hlength hunknown ⊢
  have hfair := isFair_turns opened [command, "exit"]
  have haccepted : (run opened (turns opened [command, "exit"]) 2).accepted =
      [] ++ command :: ["exit"] :=
    accepted_turns (List.forall_mem_cons.mpr ⟨hfits, List.forall_mem_singleton.mpr hexit⟩)
  obtain ⟨-, n, _, _, _, -, hacting⟩ := delivers hfair hopened haccepted nofun nofun
  rw [SampleConsole.obey_unknown _ hunknown] at hacting
  obtain ⟨k, -, hfailed⟩ := fails hfair (refused_unknown hfits (by omega)) rfl hacting
  rw [hlength] at hfailed
  exact ⟨hopened, hfair, haccepted, hunknown, k, hfailed⟩

end Bridge

end ConsoleLink
