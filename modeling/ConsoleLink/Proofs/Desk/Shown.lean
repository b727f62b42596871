import ConsoleLink.Proofs.Desk.Service
import ConsoleLink.Proofs.Exchange.Interleaving
import ConsoleLink.Proofs.Output.Terminal

/-!
# What a child prints arrives as lines

As long as somebody receives the lines of a desk, they are what a terminal would show.

* `shown` is what a service adds to a terminal: what was printed, or the command that was
  handed out.
* `Shows` ties a desk to a terminal; `Shows.advance` keeps this over every step of the
  desk and `Shows.flush` reads off the lines at the end.
* `Follows` is the invariant of a serving loop, and `lines_shown` what follows for every
  run of it.
-/

namespace ConsoleLink

/-- The line that was delivered, if it is one. -/
def Delivery.line? {ρ : Type} : Delivery ρ → Option String
  | .line _ text => some text
  | .progress .. => none

/-- A receiver that does not break down gets all lines. -/
theorem Receivers.emitLines_of_sound {ρ : Type} {r : Receivers ρ} {receiver : ρ}
    (h : r.output = some { receiver := receiver }) (lines : List String) :
    r.emitLines lines = (lines.map (.line receiver), false) := by
  induction lines with
  | nil => rfl
  | cons line lines ih => simp [emitLines, h, ih]

namespace Desk

open ServingLoop

/-! ## Desks and terminals -/

/-- The lines delivered so far, the oldest first. -/
def lines (d : Desk) : List String := d.delivered.filterMap Delivery.line?

/-- What a service adds to what is seen. -/
def shown (s : Service Desk Task) : List (String × Bool) :=
  match s.event with
  | .print message fromBeginning => [(message, fromBeginning)]
  | .input .. => (popped s).map fun command => (command ++ "\n", false)
  | _ => []

/-- Somebody receives the lines of a desk, and they are those of a terminal. -/
structure Shows (d : Desk) (stream : List (String × Bool)) : Prop where
  receiver : d.receivers.output = some { receiver := () }
  renders : d.output.Renders (d.lines.map String.toList) (.ofStream stream)

section Steps

variable {d d' : Desk} {stream : List (String × Bool)}

theorem deliver_of_sound (h : d.receivers.output = some { receiver := () })
    (given : List (List Char)) :
    (d.deliver given).2 = false ∧
      (d.deliver given).1.lines = d.lines ++ given.map String.ofList := by
  have hgiven (texts : List String) :
      (texts.map (Delivery.line ())).filterMap Delivery.line? = texts := by
    induction texts with
    | nil => rfl
    | cons text texts ih => simpa [Delivery.line?] using ih
  rw [deliver, Receivers.emitLines_of_sound h]
  refine ⟨rfl, ?_⟩
  rw [lines, lines, List.filterMap_append, hgiven]

theorem toList_map_ofList (given : List (List Char)) :
    (given.map String.ofList).map String.toList = given := by
  simp [Function.comp_def]

/-- A fragment that is shown is seen. -/
theorem Shows.showText (h : Shows d stream) (message : String) (fromBeginning : Bool) :
    (d.showText message fromBeginning).2 = false ∧
      Shows (d.showText message fromBeginning).1 (stream ++ [(message, fromBeginning)]) := by
  have hfeed := h.renders.feed message.toList fromBeginning
  rw [Desk.showText]
  cases hlines : d.output.feed message.toList fromBeginning with
  | mk given output =>
    rw [hlines] at hfeed
    obtain ⟨hsound, hdelivered⟩ :=
      deliver_of_sound (d := { d with output := output }) h.receiver given
    refine ⟨hsound, h.receiver, ?_⟩
    rw [hdelivered, List.map_append, toList_map_ofList, Terminal.ofStream_append]
    exact hfeed

/-- What is done without the lines changes nothing of what is seen. -/
theorem Shows.of_eq (h : Shows d stream) (houtput : d'.output = d.output)
    (hlines : d'.lines = d.lines) (hreceiver : d'.receivers.output = d.receivers.output) :
    Shows d' stream :=
  ⟨hreceiver.trans h.receiver, houtput ▸ hlines ▸ h.renders⟩

/-- In the end all lines that are seen have been delivered. -/
theorem Shows.flush (h : Shows d stream) :
    d.flush.2 = false ∧
      d.flush.1.lines = (Terminal.lines (Terminal.ofStream stream).shown).map String.ofList := by
  rw [Desk.flush]
  have hfinish := h.renders.finish
  cases hlines : d.output.finish with
  | mk given output =>
    rw [hlines] at hfinish
    obtain ⟨hsound, hdelivered⟩ :=
      deliver_of_sound (d := { d with output := output }) h.receiver given
    refine ⟨hsound, ?_⟩
    rw [hdelivered, ← hfinish, List.map_append, List.map_map]
    simp [lines, Function.comp_def]

end Steps

/-! ## Steps of a service -/

/-- What is seen after a move: the service adds its part when it is answered, and nothing
before. -/
def ShowsAfter (d : Desk) (stream : List (String × Bool)) (s : Service Desk Task) :
    Move Task → Prop
  | .go _ => Shows d stream
  | .reply _ => Shows d (stream ++ shown s)
  | .broken => False

section Services

variable {d d' : Desk} {stream : List (String × Bool)} {s : Service Desk Task} {m : Moment}
  {task : Task} {move : Move Task}

/-- A reply that leaves the lines alone, in a service that adds nothing. -/
theorem Shows.showsAfter (h : Shows d stream) (hshown : shown s = []) (reply : Reply) :
    ShowsAfter d stream s (.reply reply) := by
  rw [ShowsAfter, hshown, List.append_nil]
  exact h

/-- The first step shows what is printed. -/
theorem Shows.receive (h : Shows d stream) {now : Nat}
    (hreceive : receive now s.event d = (d', move)) :
    ShowsAfter d' stream (s.extend (m, .fresh s.event, d) move.reply?) move := by
  cases hevent : s.event with
  | print message fromBeginning =>
    obtain ⟨hsound, hshows⟩ := h.showText message fromBeginning
    rw [hevent] at hreceive
    simp only [Desk.receive, hsound, replyUnless, Prod.mk.injEq] at hreceive
    obtain ⟨rfl, rfl⟩ := hreceive
    simpa [ShowsAfter, shown, Service.extend, hevent] using hshows
  | input prompt echo =>
    rw [hevent] at hreceive
    cases hreceive
    exact h
  | choice prompt =>
    rw [hevent] at hreceive
    simp only [Desk.receive] at hreceive
    split at hreceive <;> cases hreceive
    · exact h
    · exact h.showsAfter (by simp [shown, Service.extend, hevent]) _
  | title text =>
    rw [hevent] at hreceive
    cases hreceive
    exact h.showsAfter (by simp [shown, Service.extend, hevent]) _
  | init =>
    rw [hevent] at hreceive
    cases hreceive
    exact h.showsAfter (by simp [shown, Service.extend, hevent]) _
  | progress report =>
    rw [hevent] at hreceive
    cases hreceive
    have hlines : (d.delivered ++ d.receivers.emitProgress (.ofReport report)).filterMap
        Delivery.line? = d.lines := by
      rw [List.filterMap_append]
      cases hprogress : d.receivers.progress <;>
        simp [lines, Receivers.emitProgress, hprogress, Delivery.line?]
    have hkeep : Shows { d with
        delivered := d.delivered ++ d.receivers.emitProgress (.ofReport report) } stream :=
      h.of_eq rfl hlines rfl
    exact hkeep.showsAfter (by simp [shown, Service.extend, hevent]) _

/-- A service whose event is an input adds the commands that it took. -/
theorem shown_of_input (hkind : s.event.kind = .input) :
    shown s = (popped s).map fun command => (command ++ "\n", false) := by
  cases hevent : s.event with
  | input prompt echo => simp [shown, hevent]
  | _ => simp [hevent, Event.kind] at hkind

/-- Every step shows what the service adds. -/
theorem Shows.advance (h : Shows d stream) (hstands : Stands s (.go task))
    (hadvance : advance m task d = (d', move)) :
    ShowsAfter d' stream (s.extend (m, task, d) move.reply?) move := by
  obtain ⟨hun, hreach⟩ := hstands
  cases task with
  | fresh event =>
    subst hreach
    exact h.receive hadvance
  | take =>
    simp only [Desk.advance, takeCommand, CommandQueue.dequeue?] at hadvance
    cases hcommands : d.queue.commands with
    | nil =>
      rw [hcommands] at hadvance
      cases hadvance
      exact h
    | cons command rest =>
      have htake : Shows { d with queue := ⟨rest⟩ } stream := h.of_eq rfl rfl rfl
      obtain ⟨hsound, hshows⟩ := htake.showText (command ++ "\n") false
      simp only [hcommands, hsound, replyUnless, Prod.mk.injEq] at hadvance
      obtain ⟨rfl, rfl⟩ := hadvance
      have hshown : shown (s.extend (m, .take, d) (some (.input true command))) =
          [(command ++ "\n", false)] := by
        rw [shown_of_input (s := s.extend _ _) hreach, popped_extend, hun.popped]
        simp [taken?, hcommands]
      rw [← hshown] at hshows
      exact hshows
  | ask =>
    simp only [Desk.advance] at hadvance
    split at hadvance <;> cases hadvance
    · refine h.showsAfter ?_ _
      rw [shown_of_input (s := s.extend _ _) hreach.1, hun.popped_extend rfl]
      rfl
    · exact h
  | await limit =>
    simp only [Desk.advance] at hadvance
    split at hadvance <;> cases hadvance <;> exact h
  | clock prompt deadline =>
    simp only [Desk.advance] at hadvance
    split at hadvance <;> cases hadvance
    · exact h.showsAfter (by simp [shown, Service.extend, show s.event = _ from hreach]) _
    · exact h
  | askChoice prompt deadline seen =>
    simp only [Desk.advance] at hadvance
    split at hadvance <;> cases hadvance
    · exact h.showsAfter (by simp [shown, Service.extend, show s.event = _ from hreach]) _
    · exact h
  | sleep prompt deadline limit =>
    simp only [Desk.advance] at hadvance
    split at hadvance <;> cases hadvance <;> exact h

end Services

/-! ## Runs -/

/-- What may be done to a desk from elsewhere: anything but to its output, to what was
delivered and to who receives the lines. -/
def LeavesOutput (d : Desk) (_ : Unit) (d' : Desk) : Prop :=
  d'.output = d.output ∧ d'.delivered = d.delivered ∧ d'.receivers.output = d.receivers.output

/-- The fragments of all services so far. -/
def stream (g : Ledger Desk Task) : List (String × Bool) := g.services.flatMap shown

/-- A loop has delivered what its services show. -/
structure Follows (l : ServingLoop Desk Task) (g : Ledger Desk Task) : Prop where
  working : ∀ task, l.phase = .handling task → Shows l.state (g.past.flatMap shown)
  between : l.phase.IsBetween → Shows l.state (stream g)
  ended : ∀ outcome, l.phase = .ended outcome →
    l.state.lines = (Terminal.lines (Terminal.ofStream (stream g)).shown).map String.ofList
  sound : l.phase ≠ .broken

section Follows

variable {l l' : ServingLoop Desk Task} {g g' : Ledger Desk Task}

theorem Follows.of_working {task : Task} (hphase : l.phase = .handling task)
    (h : Shows l.state (g.past.flatMap shown)) : Follows l g := by
  refine ⟨fun _ _ => h, fun hbetween => ?_, fun outcome hended => ?_, fun hbroken => ?_⟩
  · exact absurd hphase (hbetween.ne_handling task)
  · cases hphase.symm.trans hended
  · cases hphase.symm.trans hbroken

theorem Follows.of_between (hphase : l.phase.IsBetween) (h : Shows l.state (stream g)) :
    Follows l g := by
  refine ⟨fun task htask => ?_, fun _ => h, fun outcome hended => ?_, hphase.ne_broken⟩
  · exact absurd htask (hphase.ne_handling task)
  · rw [hended] at hphase
    exact hphase.elim

theorem Follows.of_ended {outcome : Except LinkFault Unit} (hphase : l.phase = .ended outcome)
    (h : l.state.lines =
      (Terminal.lines (Terminal.ofStream (stream g)).shown).map String.ofList) :
    Follows l g := by
  refine ⟨fun task htask => ?_, fun hbetween => ?_, fun _ _ => h, fun hbroken => ?_⟩
  · cases hphase.symm.trans htask
  · rw [hphase] at hbetween
    exact hbetween.elim
  · cases hphase.symm.trans hbroken

/-- A step of the loop delivers what it makes its services show. -/
theorem Follows.step {m : Moment} (h : Follows l g) (hmeets : (work LeavesOutput).Meets l g)
    (heffect : Effect handler m g l l' g') : Follows l' g' := by
  cases heffect with
  | still hover => exact h
  | move phase hbefore hafter => exact .of_between hafter (h.between hbefore)
  | begin event hphase =>
    have hbefore : l.phase.IsBetween := hphase ▸ trivial
    exact .of_working rfl (h.between hbefore)
  | advance task hphase state move hadvance =>
    obtain ⟨s, hcurrent, hstands⟩ := hmeets.working task hphase
    have hshows := (h.working task hphase).advance hstands hadvance
    cases move with
    | go task => exact .of_working rfl hshows
    | reply reply =>
      have hcurrent' := Ledger.current_proceed hcurrent (m, task, l.state) (some reply)
      refine .of_between trivial ?_
      rw [stream, Move.reply?, Ledger.services_of_current hcurrent', List.flatMap_append,
        List.flatMap_singleton]
      exact hshows
    | broken => exact hshows.elim
  | finish outcome hphase state isBroken hfinish =>
    have hbefore : l.phase.IsBetween := hphase ▸ trivial
    obtain ⟨hsound, hlines⟩ := (h.between hbefore).flush
    obtain rfl : l.state.flush.2 = isBroken := congrArg Prod.snd hfinish
    obtain rfl : l.state.flush.1 = state := congrArg Prod.fst hfinish
    rw [hsound]
    exact .of_ended rfl hlines

end Follows

/-- A desk with a command whose lines somebody receives. -/
def watched : Desk where
  queue := ⟨["go"]⟩
  receivers := { output := some { receiver := () } }

/-- Whatever a child sends, whatever is in the queue and however the loop ends:

* whenever the handler is not at work, before a response is signalled as well, exactly
  those lines have been delivered that have ended on a terminal that was told what was
  printed and which commands were handed out;
* when the loop is over, exactly the lines that the terminal shows have been delivered;
* and it does not break down. -/
theorem lines_shown {start l : ServingLoop Desk Task} {log : List (Entry Desk Task Unit)}
    (hasking : start.phase = .asking) (houtput : start.state.output = {})
    (hlines : start.state.lines = [])
    (hreceiver : start.state.receivers.output = some { receiver := () })
    (run : Run handler LeavesOutput start log l) :
    (l.phase.IsBetween → l.state.lines =
        (Terminal.complete (Terminal.ofStream (stream (.of log))).text).map String.ofList) ∧
      (∀ outcome, l.phase = .ended outcome → l.state.lines =
        (Terminal.lines (Terminal.ofStream (stream (.of log))).shown).map String.ofList) ∧
      l.phase ≠ .broken := by
  have hfollows : Follows l (.of log) := by
    induction run with
    | start =>
      have hshows : Shows start.state [] := by
        refine ⟨hreceiver, ?_⟩
        rw [houtput, hlines]
        exact Output.renders_nil
      exact .of_between (hasking ▸ trivial) hshows
    | @turn log l run m s ih =>
      have hmeets := (work LeavesOutput).meets hasking trivial run
      exact ih.step hmeets (step_effect handler m s _ l)
    | call run call state hcall ih =>
      obtain ⟨houtput, hdelivered, hreceiver⟩ := hcall
      have hlines : state.lines = _ := congrArg (List.filterMap Delivery.line?) hdelivered
      exact ⟨fun task htask => (ih.working task htask).of_eq houtput hlines hreceiver,
        fun hbetween => (ih.between hbetween).of_eq houtput hlines hreceiver,
        fun outcome hended => hlines.trans (ih.ended outcome hended), ih.sound⟩
  refine ⟨fun hbetween => ?_, hfollows.ended, hfollows.sound⟩
  have hcomplete := (hfollows.between hbetween).renders.complete
  rw [← hcomplete, List.map_map]
  simp [Function.comp_def]

/-- A redraw, and a command that is shown behind it. -/
theorem lines_shown_redraw :
    ∃ (log : List (Entry Desk Task Unit)) (l : ServingLoop Desk Task),
      Run handler LeavesOutput { state := watched, pollInterval := 0 } log l ∧
        l.phase = .ended (.ok ()) ∧ stream (.of log) = [("10%", true), ("go\n", false)] ∧
        l.state.lines = ["10%go"] := by
  have hprint : (Event.print "10%" true).Fits :=
    (Event.fits_print _ _).mpr ⟨by decide, by decide⟩
  have hinput : (Event.input "> " true).Fits :=
    (Event.fits_input _ _).mpr ⟨by decide, by decide⟩
  have hack : Reply.ack.Fits .print := ⟨rfl, nofun⟩
  have hgo : (Reply.input true "go").Fits .input :=
    (Reply.fits_input "go").mpr ⟨by decide, by decide⟩
  have hstart : Exchange.Run handler LeavesOutput (Exchange.opened watched) []
    (Exchange.opened watched) := .start
  obtain ⟨log₁, bytes₁, hkind₁, hasked₁, -, hlog₁⟩ := hstart.ask hprint rfl rfl rfl
  have hprinted := hasked₁.turn ⟨0, false⟩
    ⟨{ watched with output := { held := some "10%".toList } }, .replying .ack, 0, true⟩ _ rfl
  obtain ⟨log₂, bytes₂, hanswered, -, hlog₂⟩ := hprinted.answer hack rfl hkind₁ rfl rfl rfl
  obtain ⟨log₃, bytes₃, hkind₃, hasked₃, -, hlog₃⟩ := hanswered.ask hinput rfl rfl rfl
  have hlooking := hasked₃.turn ⟨0, false⟩
    ⟨{ watched with output := { held := some "10%".toList } }, .handling .take, 0, true⟩ _ rfl
  have htaken := hlooking.turn ⟨0, false⟩
    ⟨{ receivers := watched.receivers, delivered := [.line () "10%go"] },
      .replying (.input true "go"), 0, true⟩ _ rfl
  obtain ⟨log₄, bytes₄, hreplied, -, hlog₄⟩ := htaken.answer hgo rfl hkind₃ rfl rfl rfl
  have hclosed := hreplied.turn ⟨0, true⟩
    ⟨{ receivers := watched.receivers, delivered := [.line () "10%go"] },
      .closing (.ok ()), 0, true⟩ _ rfl
  have hflushed := hclosed.turn ⟨0, true⟩
    ⟨{ receivers := watched.receivers, delivered := [.line () "10%go"] },
      .ended (.ok ()), 0, true⟩ _ rfl
  obtain ⟨log₅, e, hended, hphase, hstream⟩ : ∃ log₅ e,
      Exchange.Run handler LeavesOutput (Exchange.opened watched) log₅ e ∧
        e.loop.phase = .ended (.ok ()) ∧
        stream (Exchange.Tally.of log₅).ledger = [("10%", true), ("go\n", false)] := by
    refine ⟨_, _, hflushed, rfl, ?_⟩
    simp only [Exchange.Tally.of, Exchange.Tally.note, hlog₄, hlog₃, hlog₂, hlog₁]
    rfl
  rw [Exchange.Tally.ledger_of] at hstream
  obtain ⟨-, hlines, -⟩ := lines_shown rfl rfl rfl rfl hended.serving
  refine ⟨_, _, hended.serving, hphase, hstream, ?_⟩
  rw [hlines _ hphase, hstream]
  rfl

end Desk

end ConsoleLink
