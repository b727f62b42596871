import ConsoleLink.Desk
import ConsoleLink.Proofs.Serving.Services

/-!
# How a desk serves an event

A desk works on an event in several steps, and a command can arrive before each of
them.

* `taken?` is the command that a step takes, `popped` are those of a whole service, and
  `advance_queue` says that nothing else leaves the queue.
* `Served` is what holds of every service: it takes one command at most, answers with
  the command that it took, and turns the child down only when there was none.
* `Reaches` says which way a service has gone when it has come to a task.
* `work` is the contract that says so of all services, whatever is done to the desk from
  elsewhere.
-/

namespace ConsoleLink

/-- The command that a reply hands out. -/
def Reply.command? : Reply → Option String
  | .input true command => some command
  | _ => none

namespace Desk

open ServingLoop

/-! ## What leaves the queue -/

@[simp] theorem showText_queue (d : Desk) (message : String) (fromBeginning : Bool) :
    (d.showText message fromBeginning).1.queue = d.queue := rfl

/-- The command that a step takes. -/
def taken? : Moment × Task × Desk → Option String
  | (_, .take, d) => d.queue.commands.head?
  | _ => none

/-- A step takes at most the oldest command, and leaves all others. -/
theorem advance_queue (m : Moment) (task : Task) (d : Desk) :
    d.queue.commands =
      (taken? (m, task, d)).toList ++ (advance m task d).1.queue.commands := by
  cases task with
  | fresh event =>
    cases event with
    | choice prompt => cases hexpires : prompt.expires <;> simp [advance, receive, taken?, hexpires]
    | _ => simp [advance, receive, taken?]
  | take =>
    cases hcommands : d.queue.commands with
    | nil => simp [advance, takeCommand, CommandQueue.dequeue?, taken?, hcommands]
    | cons command rest => simp [advance, takeCommand, CommandQueue.dequeue?, taken?, hcommands]
  | ask => cases hstop : m.stop <;> simp [advance, taken?, hstop]
  | await limit => simp only [advance, taken?]; split <;> rfl
  | clock prompt deadline => simp only [advance, taken?]; split <;> rfl
  | askChoice prompt deadline seen => simp only [advance, taken?]; split <;> rfl
  | sleep prompt deadline limit => simp only [advance, taken?]; split <;> rfl

/-! ## Services -/

/-- The commands that a service has taken. -/
def popped (s : Service Desk Task) : List String := s.steps.filterMap taken?

theorem popped_extend (s : Service Desk Task) (step : Moment × Task × Desk)
    (reply : Option Reply) : popped (s.extend step reply) = popped s ++ (taken? step).toList := by
  rw [popped, Service.extend, List.filterMap_append]
  cases htaken : taken? step <;> simp [popped, htaken]

/-- A service takes one command at most, and only for an input; a reply hands out what was
taken; and the child is turned down only if a look into the queue found nothing and the
desk was told to stop right after. -/
structure Served (s : Service Desk Task) : Prop where
  one : (popped s).length ≤ 1
  input : popped s ≠ [] → s.event.kind = .input
  answer : ∀ reply ∈ s.reply, popped s = reply.command?.toList
  refusal : ∀ text, s.reply = some (.input false text) →
    text = "" ∧ ∃ earlier m d m' d', s.steps = earlier ++ [(m, .take, d), (m', .ask, d')] ∧
      d.queue.commands = [] ∧ m'.stop = true

/-- A service that has taken nothing and is not answered. -/
structure Untouched (s : Service Desk Task) : Prop where
  popped : popped s = []
  reply : s.reply = none

theorem Untouched.served {s : Service Desk Task} (h : Untouched s) : Served s := by
  refine ⟨?_, ?_, ?_, ?_⟩
  · simp [h.popped]
  · simp [h.popped]
  · simp [h.reply]
  · simp [h.reply]

/-- Which way a service has gone when it has come to a task. -/
def Reaches (s : Service Desk Task) : Task → Prop
  | .fresh event => s.event = event
  | .take | .await _ => s.event.kind = .input
  | .ask => s.event.kind = .input ∧
      ∃ earlier m d, s.steps = earlier ++ [(m, .take, d)] ∧ d.queue.commands = []
  | .clock prompt _ | .askChoice prompt _ _ | .sleep prompt _ _ => s.event = .choice prompt

/-- How a service stands after a move. -/
def Stands (s : Service Desk Task) : Move Task → Prop
  | .go task => Untouched s ∧ Reaches s task
  | .reply reply =>
    s.reply = some reply ∧ reply.matchesKind s.event.kind = true ∧ Served s
  | .broken => s.reply = none ∧ Served s

/-! ## Steps of a service -/

section Steps

variable {s : Service Desk Task} {m : Moment} {task : Task} {d : Desk}

/-- A step that takes nothing leaves nothing taken. -/
theorem Untouched.popped_extend (h : Untouched s) (htaken : taken? (m, task, d) = none)
    (reply : Option Reply) : Desk.popped (s.extend (m, task, d) reply) = [] := by
  rw [Desk.popped_extend, h.popped, htaken]
  rfl

/-- A step that takes nothing and does not answer. -/
theorem Untouched.extend (h : Untouched s) (htaken : taken? (m, task, d) = none) :
    Untouched (s.extend (m, task, d) none) :=
  ⟨h.popped_extend htaken none, rfl⟩

/-- A step that takes nothing and gives a reply that is no input. -/
theorem Untouched.stands_reply (h : Untouched s) (htaken : taken? (m, task, d) = none)
    {reply : Reply} (hmatch : reply.matchesKind s.event.kind = true)
    (hinput : ∀ accepted text, reply ≠ .input accepted text) :
    Stands (s.extend (m, task, d) (some reply)) (.reply reply) := by
  have hpopped := h.popped_extend htaken (some reply)
  refine ⟨rfl, hmatch, by simp [hpopped], by simp [hpopped], ?_, ?_⟩
  · rintro _ ⟨⟩
    rw [hpopped]
    cases reply with
    | input accepted text => exact absurd rfl (hinput accepted text)
    | _ => rfl
  · rintro text ⟨⟩
    exact absurd rfl (hinput false text)

/-- A step that turns an input down, after a look into an empty queue. -/
theorem Untouched.stands_refusal (h : Untouched s) (hreach : Reaches s .ask)
    (hstop : m.stop = true) :
    Stands (s.extend (m, .ask, d) (some (.input false ""))) (.reply (.input false "")) := by
  obtain ⟨hkind, earlier, m', d', hsteps, hempty⟩ := hreach
  have hpopped : Desk.popped (s.extend (m, .ask, d) (some (.input false ""))) = [] :=
    h.popped_extend rfl _
  refine ⟨rfl, ?_, by simp [hpopped], by simp [hpopped], ?_, ?_⟩
  · show Reply.matchesKind _ s.event.kind = true
    rw [hkind]
    rfl
  · rintro _ ⟨⟩
    rw [hpopped]
    rfl
  · rintro _ ⟨⟩
    refine ⟨rfl, earlier, m', d', m, d, ?_, hempty, hstop⟩
    rw [Service.extend, hsteps, List.append_assoc]
    rfl

/-- A step that takes a command of an input, with the answer if it gives one. -/
theorem Untouched.served_take (h : Untouched s) (hkind : s.event.kind = .input)
    {command : String} (htaken : taken? (m, task, d) = some command) {reply : Option Reply}
    (hreply : ∀ given ∈ reply, given = .input true command) :
    Served (s.extend (m, task, d) reply) := by
  have hpopped : Desk.popped (s.extend (m, task, d) reply) = [command] := by
    rw [Desk.popped_extend, h.popped, htaken]
    rfl
  refine ⟨by simp [hpopped], fun _ => hkind, ?_, ?_⟩
  · intro given hgiven
    rw [hpopped, hreply given hgiven]
    rfl
  · intro text htext
    cases hreply _ htext

/-- The first step keeps the service on its way. -/
theorem stands_receive (hun : Untouched s) (now : Nat) {d' : Desk} {move : Move Task}
    (hreceive : receive now s.event d = (d', move)) :
    Stands (s.extend (m, .fresh s.event, d) move.reply?) move := by
  have htaken : taken? (m, .fresh s.event, d) = none := rfl
  have hextend := hun.extend htaken
  have hreply {reply : Reply} (hmatch : reply.matchesKind s.event.kind = true)
      (hinput : ∀ accepted text, reply ≠ .input accepted text) :
      Stands (s.extend (m, .fresh s.event, d) (some reply)) (.reply reply) :=
    hun.stands_reply htaken hmatch hinput
  cases hevent : s.event with
  | print message fromBeginning =>
    rw [hevent] at hreceive hreply hextend
    simp only [receive, replyUnless, Prod.mk.injEq] at hreceive
    obtain ⟨-, rfl⟩ := hreceive
    split
    · exact ⟨rfl, hextend.served⟩
    · exact hreply rfl nofun
  | input prompt echo =>
    rw [hevent] at hreceive hextend
    cases hreceive
    exact ⟨hextend, congrArg Event.kind hevent⟩
  | choice prompt =>
    rw [hevent] at hreceive hreply hextend
    simp only [receive] at hreceive
    split at hreceive
    · cases hreceive
      exact ⟨hextend, hevent⟩
    · cases hreceive
      exact hreply rfl nofun
  | title text =>
    rw [hevent] at hreceive hreply
    cases hreceive
    exact hreply rfl nofun
  | init =>
    rw [hevent] at hreceive hreply
    cases hreceive
    exact hreply rfl nofun
  | progress report =>
    rw [hevent] at hreceive hreply
    cases hreceive
    exact hreply rfl nofun

/-- Every step keeps the service on its way. -/
theorem stands_advance (hstands : Stands s (.go task)) {d' : Desk} {move : Move Task}
    (hadvance : advance m task d = (d', move)) :
    Stands (s.extend (m, task, d) move.reply?) move := by
  obtain ⟨hun, hreach⟩ := hstands
  cases task with
  | fresh event =>
    subst hreach
    exact stands_receive hun m.now hadvance
  | take =>
    simp only [advance, takeCommand, CommandQueue.dequeue?] at hadvance
    cases hcommands : d.queue.commands with
    | nil =>
      rw [hcommands] at hadvance
      cases hadvance
      have htaken : taken? (m, .take, d) = none := by simp [taken?, hcommands]
      exact ⟨hun.extend htaken, hreach, s.steps, m, d, rfl, hcommands⟩
    | cons command rest =>
      simp only [hcommands, replyUnless, Prod.mk.injEq] at hadvance
      obtain ⟨-, rfl⟩ := hadvance
      have htaken : taken? (m, .take, d) = some command := by simp [taken?, hcommands]
      split
      · exact ⟨rfl, hun.served_take hreach htaken nofun⟩
      · refine ⟨rfl, ?_, hun.served_take hreach htaken ?_⟩
        · show Reply.matchesKind _ s.event.kind = true
          rw [hreach]
          rfl
        · rintro _ ⟨⟩
          rfl
  | ask =>
    simp only [advance] at hadvance
    split at hadvance
    · rename_i hstop
      cases hadvance
      exact hun.stands_refusal hreach hstop
    · cases hadvance
      exact ⟨hun.extend rfl, hreach.1⟩
  | await limit =>
    simp only [advance] at hadvance
    split at hadvance
    · cases hadvance
      exact ⟨hun.extend rfl, hreach⟩
    · cases hadvance
      exact ⟨hun.extend rfl, hreach⟩
  | clock prompt deadline =>
    have hkind : s.event.kind = .choice := congrArg Event.kind hreach
    simp only [advance] at hadvance
    split at hadvance
    · cases hadvance
      exact hun.stands_reply rfl (by rw [hkind]; rfl) nofun
    · cases hadvance
      exact ⟨hun.extend rfl, hreach⟩
  | askChoice prompt deadline seen =>
    have hkind : s.event.kind = .choice := congrArg Event.kind hreach
    simp only [advance] at hadvance
    split at hadvance
    · cases hadvance
      exact hun.stands_reply rfl (by rw [hkind]; rfl) nofun
    · cases hadvance
      exact ⟨hun.extend rfl, hreach⟩
  | sleep prompt deadline limit =>
    simp only [advance] at hadvance
    split at hadvance
    · cases hadvance
      exact ⟨hun.extend rfl, hreach⟩
    · cases hadvance
      exact ⟨hun.extend rfl, hreach⟩

end Steps

/-! ## The contract -/

/-- Whatever is done to a desk from elsewhere, its services go this way. -/
def work {ω : Type} (outside : Desk → ω → Desk → Prop) : Contract handler outside where
  keeps _ := True
  holds := Stands
  begin _ := ⟨⟨rfl, rfl⟩, rfl⟩
  advance _ _ hstands hadvance := ⟨trivial, stands_advance hstands hadvance⟩
  finish _ := trivial
  call _ _ := trivial

theorem Stands.served {s : Service Desk Task} {move : Move Task} (h : Stands s move) :
    Served s := by
  cases move with
  | go task => exact h.1.served
  | reply reply => exact h.2.2
  | broken => exact h.2

theorem Stands.matchesKind {s : Service Desk Task} {move : Move Task} (h : Stands s move) :
    ∀ reply ∈ s.reply, reply.matchesKind s.event.kind = true := by
  intro given hgiven
  cases move with
  | go task => cases h.1.reply.symm.trans hgiven
  | reply reply =>
    cases h.1.symm.trans hgiven
    exact h.2.1
  | broken => cases h.1.symm.trans hgiven

end Desk

end ConsoleLink
