import ConsoleLink.Proofs.Desk.Commands
import ConsoleLink.Proofs.Serving.Refusals

/-!
# The answers of a desk always fit

A desk answers an input with a command out of its queue, and the queue takes only what the
answer field of an envelope holds.  So the two of them and the envelope agree on the limits,
and no reply of a desk is ever refused.

* `CommandQueue.Reaches` are the queues that accepted and refused commands and the taking of
  commands can lead to.
* `Handled` is what others may do to a desk at work, and `answering` the contract that it
  keeps to all the same.
* `Served.onWire` says that nothing of its replies is lost on the way.
* `keeps_protocol` says what follows for every event and for every run of a serving loop.
-/

namespace ConsoleLink

/-! ## Queues -/

/-- The queues that a queue can become. -/
inductive CommandQueue.Reaches (q : CommandQueue) : CommandQueue → Prop
  | refl : Reaches q q
  /-- A command was handed in, and accepted or not. -/
  | enqueue {q' : CommandQueue} (reach : Reaches q q') (text : String) :
      Reaches q (q'.enqueue text).1
  /-- A command was taken. -/
  | dequeue {q' q'' : CommandQueue} (reach : Reaches q q') {command : String}
      (htaken : q'.dequeue? = some (command, q'')) : Reaches q q''

namespace CommandQueue

/-- A command that is handed in is refused, or it fits and is behind all others. -/
theorem commands_enqueue (q : CommandQueue) (text : String) :
    (q.enqueue text).1 = q ∨
      FitsField text 10240 ∧ (q.enqueue text).1.commands = q.commands ++ [text] := by
  cases hrefusal : refusal? text with
  | some fault =>
    left
    rw [enqueue_of_refused q hrefusal]
  | none =>
    right
    rw [enqueue_of_accepted q hrefusal]
    exact ⟨Desk.fits_of_refusal? hrefusal, rfl⟩

/-- Where every command fits the answer field, it stays so. -/
theorem Reaches.fits {q q' : CommandQueue} (reach : q.Reaches q')
    (hfits : ∀ command ∈ q.commands, FitsField command 10240) :
    ∀ command ∈ q'.commands, FitsField command 10240 := by
  induction reach with
  | refl => exact hfits
  | @enqueue q' _ text ih =>
    rcases q'.commands_enqueue text with hrefused | ⟨hnew, hcommands⟩
    · rwa [hrefused]
    · rw [hcommands]
      intro command hcommand
      rcases List.mem_append.mp hcommand with hold | hlast
      · exact ih command hold
      · cases List.mem_singleton.mp hlast
        exact hnew
  | @dequeue q' q'' _ taken htaken ih =>
    obtain ⟨commands⟩ := q'
    cases commands with
    | nil => cases htaken
    | cons first rest =>
      cases htaken
      exact fun command hcommand => ih command (List.mem_cons_of_mem _ hcommand)

end CommandQueue

namespace Desk

open ServingLoop

/-! ## What a desk keeps to -/

/-- What others may do to a desk: hand in commands, take some, and change anything but the
queue. -/
def Handled (d : Desk) (_ : Unit) (d' : Desk) : Prop := d.queue.Reaches d'.queue

/-- Whatever others do to it, a desk whose commands fit answers each event, and with what
fits. -/
def answering : Contract handler Handled where
  keeps := IsKept
  holds s move := Stands s move ∧ ∀ command ∈ popped s, FitsField command 10240
  begin event := ⟨(work Handled).begin event, nofun⟩
  advance _ hkept hholds hadvance := by
    obtain ⟨hkept', hpopped⟩ := hkept.extend hadvance hholds.2
    exact ⟨hkept', stands_advance hholds.1 hadvance, hpopped⟩
  finish hkept := hkept
  call hkept hhandled := hhandled.fits hkept

/-- Nothing of the reply of a service is lost on the way to the child. -/
theorem Served.onWire {s : Service Desk Task} (h : Served s) {reply : Reply}
    (hreply : s.reply = some reply) : reply.onWire = reply := by
  cases reply with
  | input accepted text =>
    cases accepted with
    | true => rfl
    | false =>
      rw [(h.refusal text hreply).1]
      rfl
  | _ => rfl

/-- The replies of a desk whose commands fit are replies to its events that fit, and arrive as
they are. -/
theorem fits_of_answers {d : Desk} (hkept : IsKept d) {event : Event} {reply : Reply}
    (hanswers : handler.Answers Handled reply (handler.begin event) d) :
    reply.Fits event.kind ∧ reply.onWire = reply := by
  obtain ⟨done, rfl, hreply, hstands, hpopped⟩ :=
    answering.answers hanswers hkept (answering.begin event)
  exact ⟨hstands.fits hpopped reply hreply, hstands.served.onWire hreply⟩

/-- Whatever commands were handed in and taken, and whatever else its state is, a desk never
breaks the protocol:

* if it comes to a reply to an event that was read from an envelope, and the header is still
  the same, then the reply is accepted and the child reads that very reply, whatever the other
  bytes have become;
* a serving loop in which no header changes between an event and its reply ends with a fault
  of the envelope only if the last event could not be read for that very reason, and this is
  never a reply of the wrong kind or a text that does not fit. -/
theorem keeps_protocol {d : Desk} (hqueue : ({} : CommandQueue).Reaches d.queue) :
    (∀ (bytes bytes' : Envelope) (event : Event) (reply : Reply), bytes.event? = .ok event →
      handler.Answers Handled reply (handler.begin event) d → bytes.SameHeader bytes' →
        (bytes'.putReply reply).2 = .ok () ∧
          (bytes'.putReply reply).1.reply? = .ok reply) ∧
      ∀ (start l : ServingLoop Desk Task) (log : List (Entry Desk Task Unit)),
        start.phase = .asking → start.state = d → Run handler Handled start log l →
          HeaderKept log → ∀ fault, l.outcome? = some (.error (.envelope fault)) →
            WasRefused (lastRead log) fault ∧ (∀ name, fault ≠ .replyMismatch name) ∧
              ∀ cause, fault ≠ .field cause := by
  have hkept : IsKept d := hqueue.fits nofun
  constructor
  · intro bytes bytes' event reply hevent hanswers hheader
    obtain ⟨hfits, hwire⟩ := fits_of_answers hkept hanswers
    have hkind : bytes'.kind? = .ok event.kind :=
      hheader.kind?.trans (Envelope.kind?_of_event? hevent)
    obtain ⟨bytes'', hput, -, hread⟩ := Envelope.putReply_of_fits hkind hfits
    rw [hput]
    exact ⟨rfl, hwire ▸ hread⟩
  · rintro start l log hasking rfl run hheader fault houtcome
    have hfits : IsFitting handler Handled start :=
      answering.isFitting hasking hkept fun s move hholds => hholds.1.fits hholds.2
    obtain ⟨bytes, hlast, hevent⟩ := run.refused hasking hfits hheader houtcome
    have hreason := Envelope.event?_eq_error hevent
    refine ⟨⟨bytes, hlast, hevent⟩, ?_, ?_⟩
    · rintro name rfl
      exact hreason
    · rintro cause rfl
      exact hreason

/-- One command was taken and one is left, a third one was refused.  The command that is left
answers a prompt in an envelope whose payload has changed; and a loop ends where no event is
pending. -/
theorem keeps_protocol_go :
    ({} : CommandQueue).Reaches ⟨["go"]⟩ ∧
      (∃ (bytes bytes' : Envelope), bytes.event? = .ok (.input "> " true) ∧
        bytes.SameHeader bytes' ∧
          handler.Answers Handled (.input true "go") (handler.begin (.input "> " true))
            { queue := ⟨["go"]⟩ } ∧
          (bytes'.putReply (.input true "go")).1.reply? = .ok (.input true "go")) ∧
      ∃ (log : List (Entry Desk Task Unit)) (l : ServingLoop Desk Task),
        Run handler Handled { state := { queue := ⟨["go"]⟩ }, pollInterval := 0 } log l ∧
          HeaderKept log ∧ l.outcome? = some (.error (.envelope (.unknownEvent 0))) ∧
            WasRefused (lastRead log) (.unknownEvent 0) := by
  have hqueue : ({} : CommandQueue).Reaches ⟨["go"]⟩ :=
    (((CommandQueue.Reaches.refl.enqueue "on").enqueue "\x00").enqueue "go").dequeue rfl
  have hprotocol := keeps_protocol (d := { queue := ⟨["go"]⟩ }) hqueue
  refine ⟨hqueue, ?_, ?_⟩
  · -- the prompt, and its envelope with another word in the payload
    have hfits : (Event.input "> " true).Fits :=
      (Event.fits_input _ _).mpr ⟨by decide, by decide⟩
    have hevent := Envelope.event?_putEvent Envelope.zero hfits
    have hheader (bytes : Envelope) : bytes.SameHeader (bytes.put32 100 7) := by
      refine ⟨?_, ?_, ?_⟩ <;>
        exact Envelope.get32_put32_of_ne bytes 7 (by decide)
    have htaken : advance ⟨0, false⟩ .take { queue := ⟨["go"]⟩ } =
      ((takeCommand { queue := ⟨["go"]⟩ }).1, .reply (.input true "go")) := rfl
    have hanswers : handler.Answers Handled (.input true "go")
        (handler.begin (.input "> " true)) { queue := ⟨["go"]⟩ } :=
      .go ⟨0, false⟩ rfl (.reply ⟨0, false⟩ htaken)
    exact ⟨_, _, hevent, hheader _, hanswers,
      (hprotocol.1 _ _ _ _ hevent hanswers (hheader _)).2⟩
  · -- a request for an envelope without an event
    have hnone := Envelope.event?_reset Envelope.zero
    generalize Envelope.zero.reset = bytes at hnone
    have hstart : Run handler Handled ⟨{ queue := ⟨["go"]⟩ }, .asking, 0, true⟩ [] _ := .start
    have hlistening := hstart.act ⟨0, false⟩ ⟨bytes, 1, 0, 0⟩ _
      ⟨{ queue := ⟨["go"]⟩ }, .listening 0, 0, true⟩ rfl
    have hreading := hlistening.act ⟨0, false⟩ ⟨bytes, 1, 0, 0⟩ _
      ⟨{ queue := ⟨["go"]⟩ }, .reading, 0, true⟩ rfl
    have hclosing := hreading.act ⟨0, false⟩ ⟨bytes, 0, 0, 0⟩ ⟨bytes, 0, 0, 0⟩
      ⟨{ queue := ⟨["go"]⟩ }, .closing (.error (.envelope (.unknownEvent 0))), 0, true⟩
      (step_refused _ _ rfl hnone)
    have hended := hclosing.act ⟨0, false⟩ ⟨bytes, 0, 0, 0⟩ _
      ⟨{ queue := ⟨["go"]⟩ }, .ended (.error (.envelope (.unknownEvent 0))), 0, true⟩ rfl
    have hkept := hprotocol.2 _ _ _ rfl rfl hended (by simp [HeaderKept]) _ rfl
    exact ⟨_, _, hended, by simp [HeaderKept], rfl, hkept.1⟩

end Desk

end ConsoleLink
