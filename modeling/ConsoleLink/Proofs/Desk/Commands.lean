import ConsoleLink.Proofs.Desk.Service
import ConsoleLink.Proofs.Exchange.HalfDuplex

/-!
# Every command is handed out once and in order

Commands may be handed in at any time while a desk serves a child.

* `Calls` are the calls upon a desk, `accepted` are the commands that it accepted.
* `isFitting_calls` says that the answers of a desk fit, since only commands that fit are
  accepted.
* `commands_kept` is the balance of every run of a serving loop: what was accepted has
  been taken by a service or waits in the queue.
* `answered_popped` turns services into answers, and `commands_in_order` is the balance
  with the child on the other side.
-/

namespace ConsoleLink

namespace Desk

open ServingLoop
open Exchange (Tally)

/-! ## Calls -/

/-- A call upon a desk. -/
inductive Call
  /-- A command was handed in, and accepted or not. -/
  | enqueue (text : String) (accepted : Bool)
  /-- Something that leaves the commands alone. -/
  | other

/-- What a call does. -/
inductive Calls : Desk → Call → Desk → Prop
  | accept {d d' : Desk} {text : String} (h : d.enqueue text = (d', .ok ())) :
      Calls d (.enqueue text true) d'
  | refuse {d d' : Desk} {text : String} {fault : LinkFault}
      (h : d.enqueue text = (d', .error fault)) : Calls d (.enqueue text false) d'
  | other {d d' : Desk} (h : d'.queue = d.queue) : Calls d .other d'

/-- An accepted command fits the answer field. -/
theorem fits_of_refusal? {text : String} (h : CommandQueue.refusal? text = none) :
    FitsField text 10240 := by
  cases hnul : Wide.nulPosition text with
  | some position => simp [CommandQueue.refusal?, hnul] at h
  | none =>
    refine ⟨(Wide.nulPosition_eq_none_iff text).mp hnul, ?_⟩
    simp only [CommandQueue.refusal?, hnul] at h
    split at h
    · cases h
    · rename_i hlength
      exact Nat.lt_of_not_le hlength

/-- An accepted command is behind all others. -/
theorem enqueue_eq_ok {d d' : Desk} {text : String} (h : d.enqueue text = (d', .ok ())) :
    d'.queue.commands = d.queue.commands ++ [text] ∧ FitsField text 10240 := by
  cases hqueue : d.queue.enqueue text with
  | mk queue outcome =>
    rw [enqueue, hqueue] at h
    cases h
    obtain ⟨hrefusal, hcommands⟩ := CommandQueue.enqueue_eq_ok hqueue
    exact ⟨hcommands, fits_of_refusal? hrefusal⟩

/-- A command that is refused leaves the desk as it was. -/
theorem enqueue_eq_error {d d' : Desk} {text : String} {fault : LinkFault}
    (h : d.enqueue text = (d', .error fault)) : d' = d := by
  cases hqueue : d.queue.enqueue text with
  | mk queue outcome =>
    rw [enqueue, hqueue] at h
    cases h
    rw [CommandQueue.enqueue_eq_error hqueue]

/-- Every command of a desk fits the answer field. -/
def IsKept (d : Desk) : Prop := ∀ command ∈ d.queue.commands, FitsField command 10240

theorem Calls.isKept {d d' : Desk} {call : Call} (hkept : IsKept d) (h : Calls d call d') :
    IsKept d' := by
  cases h with
  | accept h =>
    obtain ⟨hcommands, hfits⟩ := enqueue_eq_ok h
    intro command hcommand
    rw [hcommands] at hcommand
    rcases List.mem_append.mp hcommand with hold | hnew
    · exact hkept command hold
    · cases List.mem_singleton.mp hnew
      exact hfits
  | refuse h => exact enqueue_eq_error h ▸ hkept
  | other h =>
    rw [IsKept, h]
    exact hkept

/-- The command that a call has handed in, if it was accepted. -/
def Call.accepted? : Call → Option String
  | .enqueue text true => some text
  | _ => none

/-- The commands that were accepted, in the order of the calls. -/
def accepted (calls : List Call) : List String := calls.filterMap Call.accepted?

@[simp] theorem accepted_append (calls : List Call) (call : Call) :
    accepted (calls ++ [call]) = accepted calls ++ call.accepted?.toList := by
  rw [accepted, List.filterMap_append]
  cases haccepted : call.accepted? <;> simp [accepted, haccepted]

/-! ## Answers that fit -/

/-- A step takes only commands that fit, and leaves only such. -/
theorem IsKept.advance {d d' : Desk} (h : IsKept d) {m : Moment} {task : Task}
    {move : Move Task} (hadvance : advance m task d = (d', move)) :
    IsKept d' ∧ ∀ command ∈ taken? (m, task, d), FitsField command 10240 := by
  have hqueue := advance_queue m task d
  rw [hadvance] at hqueue
  refine ⟨fun command hcommand => h command ?_, fun command hcommand => h command ?_⟩
  · rw [hqueue]
    exact List.mem_append_right _ hcommand
  · rw [hqueue]
    exact List.mem_append_left _ (Option.mem_toList.mpr hcommand)

/-- A service of such a desk goes on taking only commands that fit. -/
theorem IsKept.extend {d d' : Desk} (h : IsKept d) {m : Moment} {task : Task} {move : Move Task}
    (hadvance : Desk.advance m task d = (d', move)) {s : Service Desk Task}
    (hpopped : ∀ command ∈ popped s, FitsField command 10240) :
    IsKept d' ∧ ∀ command ∈ popped (s.extend (m, task, d) move.reply?),
      FitsField command 10240 := by
  obtain ⟨hkept', htaken⟩ := h.advance hadvance
  refine ⟨hkept', fun command hcommand => ?_⟩
  rw [popped_extend] at hcommand
  rcases List.mem_append.mp hcommand with hold | hnew
  · exact hpopped command hold
  · exact htaken command (Option.mem_toList.mp hnew)

/-- A service that took only commands that fit gives a reply that fits. -/
theorem Stands.fits {s : Service Desk Task} {move : Move Task} (h : Stands s move)
    (hpopped : ∀ command ∈ popped s, FitsField command 10240) :
    ∀ reply ∈ s.reply, reply.Fits s.event.kind := by
  intro reply hreply
  refine ⟨h.matchesKind reply hreply, ?_⟩
  rintro answer rfl
  apply hpopped
  rw [h.served.answer _ hreply]
  exact List.mem_singleton_self answer

/-- A desk whose commands fit takes only commands that fit. -/
def keeping : Contract handler Calls where
  keeps := IsKept
  holds s _ := ∀ command ∈ popped s, FitsField command 10240
  begin _ := nofun
  advance _ hkept hholds hadvance := hkept.extend hadvance hholds
  finish hkept := hkept
  call := Calls.isKept

/-- The replies of a desk fit their events. -/
theorem isFitting_calls {start : ServingLoop Desk Task} (hasking : start.phase = .asking)
    (hkept : IsKept start.state) : IsFitting handler Calls start := by
  intro log l run s hs
  obtain ⟨_, hstands⟩ := (work Calls).services hasking trivial run hs
  obtain ⟨_, hpopped⟩ := keeping.services hasking hkept run hs
  exact hstands.fits hpopped

/-! ## The balance of a serving loop -/

/-- What a step of the loop takes from the queue it adds to a service. -/
theorem step_kept {g g' : Ledger Desk Task} {m : Moment} {l l' : ServingLoop Desk Task}
    (hmeets : (work Calls).Meets l g) (heffect : Effect handler m g l l' g') :
    g'.services.flatMap popped ++ l'.state.queue.commands =
      g.services.flatMap popped ++ l.state.queue.commands := by
  cases heffect with
  | still hover => rfl
  | move phase hbefore hafter => rfl
  | begin event hphase =>
    rw [Ledger.services_begin, List.flatMap_append]
    simp [popped, enter]
  | advance task hphase state move hadvance =>
    obtain ⟨s, hcurrent, -⟩ := hmeets.working task hphase
    have hcurrent' := Ledger.current_proceed hcurrent (m, task, l.state) move.reply?
    have hqueue : l.state.queue.commands =
        (taken? (m, task, l.state)).toList ++ state.queue.commands := by
      rw [advance_queue m task l.state, show advance m task l.state = _ from hadvance]
    rw [Ledger.services_of_current hcurrent', Ledger.services_of_current hcurrent, hqueue]
    simp [popped_extend, Ledger.proceed]
  | finish outcome hphase state isBroken hfinish =>
    have hstate : l.state.flush.1 = state := congrArg Prod.fst hfinish
    rw [← hstate]
    rfl

/-- Whatever was in the queue or was accepted has been taken by a service, in this order,
or waits in the queue. -/
theorem commands_kept {start l : ServingLoop Desk Task} {log : List (Entry Desk Task Call)}
    (hasking : start.phase = .asking) (run : Run handler Calls start log l) :
    start.state.queue.commands ++ accepted (calls log) =
      (Ledger.of log).services.flatMap popped ++ l.state.queue.commands := by
  induction run with
  | start => simp [calls, accepted, Ledger.of, Ledger.services]
  | @turn log l run m s ih =>
    have hmeets := (work Calls).meets hasking trivial run
    exact ih.trans (step_kept hmeets (step_effect handler m s _ l)).symm
  | call run call state hcall ih =>
    cases hcall with
    | accept h =>
      rw [calls, accepted_append, Ledger.of, (enqueue_eq_ok h).1, ← List.append_assoc, ih,
        List.append_assoc]
      rfl
    | refuse h =>
      rw [enqueue_eq_error h]
      simpa [calls, Call.accepted?, Ledger.of] using ih
    | other h =>
      rw [h]
      simpa [calls, Call.accepted?, Ledger.of] using ih

/-! ## The child on the other side -/

@[simp] theorem command?_onWire (reply : Reply) : reply.onWire.command? = reply.command? := by
  cases reply with
  | input accepted answer => cases accepted <;> rfl
  | _ => rfl

/-- Services that were answered have taken the commands of their answers. -/
theorem answered_popped {services : List (Service Desk Task)} {answers : List Reply}
    (hreplies : services.map (·.reply.map Reply.onWire) = answers.map some)
    (hserved : ∀ s ∈ services, Served s) :
    services.flatMap popped = answers.filterMap Reply.command? := by
  induction services generalizing answers with
  | nil =>
    cases answers with
    | nil => rfl
    | cons answer answers => simp at hreplies
  | cons s services ih =>
    cases answers with
    | nil => simp at hreplies
    | cons answer answers =>
      obtain ⟨hreply, hrest⟩ := List.cons_eq_cons.mp hreplies
      obtain ⟨reply, hgiven, rfl⟩ := Option.map_eq_some_iff.mp hreply
      have hpopped := (hserved s List.mem_cons_self).answer reply hgiven
      have htail := ih hrest fun s' hs' => hserved s' (List.mem_cons_of_mem _ hs')
      rw [List.flatMap_cons, hpopped, htail, List.filterMap_cons, command?_onWire]
      cases reply.command? <;> rfl

theorem eq_nil_or_singleton {α : Type} {l : List α} (h : l.length ≤ 1) :
    l = [] ∨ ∃ a, l = [a] := by
  cases l with
  | nil => exact Or.inl rfl
  | cons a rest =>
    have hrest : rest = [] := List.eq_nil_of_length_eq_zero (by simpa using h)
    exact Or.inr ⟨a, by rw [hrest]⟩

/-- At most one service has taken at most one command. -/
theorem popped_of_length_le_one {services : List (Service Desk Task)}
    (hlength : services.length ≤ 1) (hserved : ∀ s ∈ services, Served s) :
    ∃ inFlight : Option String, services.flatMap popped = inFlight.toList := by
  obtain rfl | ⟨s, rfl⟩ := eq_nil_or_singleton hlength
  · exact ⟨none, rfl⟩
  · have hone := (hserved s (List.mem_singleton_self s)).one
    rw [List.flatMap_singleton]
    obtain hnone | ⟨command, hcommand⟩ := eq_nil_or_singleton hone
    · exact ⟨none, hnone⟩
    · exact ⟨some command, hcommand⟩

/-- However calls upon a desk, the desk at work and a patient child that sends whatever
it likes are interleaved:

* the commands that were in the queue or were accepted are, in this order, those that the
  child has got as answers, at most one on its way to the child, and those in the queue;
* every service takes one command at most, hands out what it took, and turns the child
  down only after the queue was empty and the desk was told to stop. -/
theorem commands_in_order {start e : Exchange Desk Task Client}
    {log : List (Exchange.Entry Desk Task Call)} (hfresh : start.IsFresh)
    (hkept : ∀ command ∈ start.state.queue.commands, CommandQueue.refusal? command = none)
    (run : Exchange.Run handler Calls start log e) :
    (∃ inFlight : Option String,
      ((Tally.of log).services.drop (Tally.of log).answers.length).flatMap popped =
          inFlight.toList ∧
        start.state.queue.commands ++ accepted (Exchange.calls log) =
          (Tally.of log).answers.filterMap Reply.command? ++ inFlight.toList ++
            e.state.queue.commands) ∧
      (Tally.of log).services.length ≤ (Tally.of log).answers.length + 1 ∧
      ∀ s ∈ (Tally.of log).services, Served s := by
  have hkept : IsKept start.loop.state := fun command hcommand =>
    fits_of_refusal? (hkept command hcommand)
  have hfits : IsFitting handler Calls start.loop := isFitting_calls hfresh.asking hkept
  have hserved : ∀ s ∈ (Tally.of log).services, Served s := by
    intro s hs
    rw [Tally.services, Tally.ledger_of] at hs
    obtain ⟨move, hstands⟩ := (work Calls).services hfresh.asking trivial run.serving hs
    exact hstands.served
  have hbalance := commands_kept hfresh.asking run.serving
  obtain ⟨earlier, rest, served, pending, -, hrest, hservices, hpending, hmatches⟩ :=
    (run.stage hfresh hfits).2.history
  have hlength : pending.length ≤ 1 := by
    have hle := hpending.length_le
    simp only [List.length_map] at hle
    omega
  obtain ⟨inFlight, hinFlight⟩ := popped_of_length_le_one hlength fun s hs =>
    hserved s (hservices ▸ List.mem_append_right _ hs)
  have hanswered := answered_popped hmatches.replies fun s hs =>
    hserved s (hservices ▸ List.mem_append_left _ hs)
  have hanswers : (Tally.of log).answers.length = served.length := by
    have hreplies := congrArg List.length hmatches.replies
    simpa [Tally.answers] using hreplies.symm
  have hdrop : (Tally.of log).services.drop (Tally.of log).answers.length = pending := by
    rw [hservices, hanswers, List.drop_left]
  refine ⟨⟨inFlight, hdrop ▸ hinFlight, ?_⟩, ?_, hserved⟩
  · calc
      start.state.queue.commands ++ accepted (Exchange.calls log)
      _ = (Tally.of log).services.flatMap popped ++ e.state.queue.commands := by
        rw [Tally.services, Tally.ledger_of]
        exact hbalance
      _ = served.flatMap popped ++ pending.flatMap popped ++ e.state.queue.commands := by
        rw [hservices, List.flatMap_append]
      _ = _ := by rw [hanswered, hinFlight, Tally.answers]
  · rw [hservices, hanswers, List.length_append]
    omega

/-- Two commands and a text that is refused; the child has got the first one and the second
is on its way. -/
theorem commands_in_order_two :
    ∃ (log : List (Exchange.Entry Desk Task Call)) (e : Exchange Desk Task Client),
      Exchange.Run handler Calls (Exchange.opened {}) log e ∧
        Exchange.calls log = [.enqueue "go" true, .enqueue "\x00" false, .enqueue "on" true] ∧
        (Tally.of log).answers = [.input true "go"] ∧ e.state.queue.commands = [] ∧
        ∃ inFlight : Option String,
          accepted (Exchange.calls log) =
            (Tally.of log).answers.filterMap Reply.command? ++ inFlight.toList ++
              e.state.queue.commands := by
  have hevent : (Event.input "> " true).Fits :=
    (Event.fits_input _ _).mpr ⟨by decide, by decide⟩
  have hreply : (Reply.input true "go").Fits .input :=
    (Reply.fits_input "go").mpr ⟨by decide, by decide⟩
  have hstart : Exchange.Run handler Calls (Exchange.opened {}) [] (Exchange.opened {}) := .start
  have hgo := hstart.call (.enqueue "go" true) { queue := ⟨["go"]⟩ } (.accept rfl)
  have hrefused := hgo.call (.enqueue "\x00" false) _ (.refuse rfl)
  have hon := hrefused.call (.enqueue "on" true) { queue := ⟨["go", "on"]⟩ } (.accept rfl)
  obtain ⟨log₁, bytes₁, hkind₁, hasked₁, hcalls₁, hlog₁⟩ := hon.ask hevent rfl rfl rfl
  have hlooking₁ := hasked₁.turn ⟨0, false⟩
    ⟨{ queue := ⟨["go", "on"]⟩ }, .handling .take, 0, true⟩ _ rfl
  have htaken₁ := hlooking₁.turn ⟨0, false⟩
    ⟨{ queue := ⟨["on"]⟩ }, .replying (.input true "go"), 0, true⟩ _ rfl
  obtain ⟨log₂, bytes₂, hanswered, hcalls₂, hlog₂⟩ := htaken₁.answer hreply rfl hkind₁ rfl rfl rfl
  obtain ⟨log₃, bytes₃, hkind₃, hasked₃, hcalls₃, hlog₃⟩ := hanswered.ask hevent rfl rfl rfl
  have hlooking₃ := hasked₃.turn ⟨0, false⟩
    ⟨{ queue := ⟨["on"]⟩ }, .handling .take, 0, true⟩ _ rfl
  have htaken₃ := hlooking₃.turn ⟨0, false⟩ ⟨{}, .replying (.input true "on"), 0, true⟩ _ rfl
  have hkept : ∀ command ∈ (Exchange.opened {} : Exchange Desk Task Client).state.queue.commands,
      CommandQueue.refusal? command = none := nofun
  obtain ⟨⟨inFlight, -, hbalance⟩, -⟩ :=
    commands_in_order (Exchange.isFresh_opened {}) hkept htaken₃
  have hanswers : (Tally.of log₃).answers = [.input true "go"] := by
    rw [hlog₃]
    simp [Tally.answers, Tally.of, Tally.note, hlog₂, hlog₁, Reply.onWire, Except.toOption]
  have hcalls : Exchange.calls log₃ =
      [.enqueue "go" true, .enqueue "\x00" false, .enqueue "on" true] :=
    hcalls₃.trans (hcalls₂.trans hcalls₁)
  exact ⟨_, _, htaken₃, hcalls, hanswers, rfl, inFlight, hbalance⟩

end Desk

end ConsoleLink
