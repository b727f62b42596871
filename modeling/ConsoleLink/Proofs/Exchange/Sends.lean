import ConsoleLink.Proofs.Envelope.Parts
import ConsoleLink.Proofs.Exchange.HalfDuplex

/-!
# Sends that are refused between others

A client may send events that fit and events that do not in any order.  The controller hears
nothing of those that are refused, and the others are served as if there had been no refusals.

* `sent` are the events that a client has begun to send, `Sifts` says which of them were
  written, and `Settles` which service belongs to each of those.
* `Client.step_of_refused` and `Client.step_underway` are the steps of a client with an event
  that is refused, and with one that was written.
* `Course` is where a client is with its sends; `Course.child` carries it through a step,
  `Run.course` through a run.
* `Run.settles` matches the sends of a run with the services of the controller.
-/

namespace ConsoleLink

/-! ## Steps of a client -/

namespace Client

/-- The client has written its event, and has not come back. -/
def Phase.IsUnderway : Phase → Prop
  | .posting | .checking _ | .waiting _ _ | .reading => True
  | .writing _ | .done _ => False

/-- A client with an outcome is done. -/
theorem exists_done {c : Client} (hdone : c.outcome?.isSome) :
    ∃ outcome, c.phase = .done outcome := by
  cases hphase : c.phase <;> simp_all [outcome?]

/-- With an event that is refused a client is done at once, and only the bytes have changed. -/
theorem step_of_refused {c : Client} {event : Event} {fault : FieldFault}
    (hphase : c.phase = .writing event) (hrefused : event.Refused fault) (now : Nat)
    (s : Shared) :
    c.step now s =
      (c.enter (.done (.error (.field fault))),
        { s with envelope := (s.envelope.putEvent event).1 }) := by
  have hput := (Envelope.putEvent_eq_error_iff s.envelope).mpr hrefused
  cases hbytes : s.envelope.putEvent event with
  | mk bytes outcome =>
    rw [hbytes] at hput
    cases hput
    simp only [step, hphase, hbytes]

theorem step_of_fits {c : Client} {event : Event} (hphase : c.phase = .writing event)
    (hfits : event.Fits) (now : Nat) (s : Shared) :
    c.step now s =
      (c.enter .posting, { s with envelope := (s.envelope.putEvent event).1 }) := by
  simp only [step, hphase, Envelope.putEvent_of_fits s.envelope hfits]

/-- With an event that was written a client stays under way, comes back with a reply, or fails
for another reason than a text. -/
theorem step_underway {c : Client} (hunderway : c.phase.IsUnderway) (now : Nat) (s : Shared) :
    (c.step now s).1.phase.IsUnderway ∨
      (∃ reply, (c.step now s).1.phase = .done (.ok reply)) ∨
        ∃ fault, (c.step now s).1.phase = .done (.error fault) ∧
          ∀ field, fault ≠ .field field := by
  cases hphase : c.phase with
  | writing event =>
    rw [hphase] at hunderway
    exact hunderway.elim
  | done outcome =>
    rw [hphase] at hunderway
    exact hunderway.elim
  | posting =>
    simp only [step, hphase]
    split
    · exact Or.inl trivial
    · exact Or.inr (Or.inr ⟨_, rfl, fun _ hfield => by cases hfield⟩)
  | checking started =>
    simp only [step, hphase]
    split
    · exact Or.inl trivial
    · split
      · exact Or.inr (Or.inr ⟨_, rfl, fun _ hfield => by cases hfield⟩)
      · exact Or.inl trivial
  | waiting started wake =>
    simp only [step, hphase]
    split
    · exact Or.inl trivial
    · exact Or.inr (Or.inr ⟨_, rfl, fun _ hfield => by cases hfield⟩)
    · split
      · exact Or.inl trivial
      · exact Or.inl (hphase ▸ trivial)
  | reading =>
    simp only [step, hphase]
    split
    · exact Or.inr (Or.inl ⟨_, rfl⟩)
    · exact Or.inr (Or.inr ⟨_, rfl, fun _ hfield => by cases hfield⟩)

end Client

namespace Exchange

open ServingLoop

variable {σ τ ω : Type}

/-! ## Sends and what has become of them -/

/-- The events that the client has begun to send, the oldest first. -/
def sent : List (Entry σ τ ω) → List Event
  | [] => []
  | .send event :: log => sent log ++ [event]
  | .serving _ :: log => sent log
  | .child .. :: log => sent log

/-- Of the events that were sent, those that do not fit were refused, each with its own fault,
and the others were written and have returned with a reply. -/
inductive Sifts : List Event → List Event → List (Except LinkFault Reply) → Prop
  | nil : Sifts [] [] []
  | refused {sent written : List Event} {returned : List (Except LinkFault Reply)}
      (hsifts : Sifts sent written returned) {event : Event} {fault : FieldFault}
      (hrefused : event.Refused fault) :
      Sifts (sent ++ [event]) written (returned ++ [.error (.field fault)])
  | answered {sent written : List Event} {returned : List (Except LinkFault Reply)}
      (hsifts : Sifts sent written returned) {event : Event} (hfits : event.Fits)
      (reply : Reply) :
      Sifts (sent ++ [event]) (written ++ [event]) (returned ++ [.ok reply])

/-- Of the events that were sent, those that do not fit were refused, each with its own fault
and without a service, and for each of the others there was one service, in the same order,
whose reply was returned. -/
inductive Settles : List Event → List (Service σ τ) → List (Except LinkFault Reply) → Prop
  | nil : Settles [] [] []
  | refused {sent : List Event} {services : List (Service σ τ)}
      {returned : List (Except LinkFault Reply)} (hsettles : Settles sent services returned)
      {event : Event} {fault : FieldFault} (hrefused : event.Refused fault) :
      Settles (sent ++ [event]) services (returned ++ [.error (.field fault)])
  | answered {sent : List Event} {services : List (Service σ τ)}
      {returned : List (Except LinkFault Reply)} (hsettles : Settles sent services returned)
      {event : Event} {service : Service σ τ} {reply : Reply} (hfits : event.Fits)
      (hevent : service.event = event.onWire) (hreply : service.reply = some reply) :
      Settles (sent ++ [event]) (services ++ [service]) (returned ++ [.ok reply.onWire])

section Lists

variable {sent written : List Event} {returned : List (Except LinkFault Reply)}
  {services : List (Service σ τ)}

/-- There is a reply for each event that was written. -/
theorem Sifts.length_eq (hsifts : Sifts sent written returned) :
    written.length = (returned.filterMap Except.toOption).length := by
  induction hsifts with
  | nil => rfl
  | refused _ _ ih => simp [ih, Except.toOption]
  | answered _ _ reply ih => simp [ih, Except.toOption]

theorem Matches.length_eq (hmatches : Matches written services returned) :
    written.length = (returned.filterMap Except.toOption).length := by
  have hevents := congrArg List.length hmatches.events
  have hreplies := congrArg List.length hmatches.replies
  simp only [List.length_map] at hevents hreplies
  omega

/-- Before a refusal, the services were the same. -/
theorem Matches.of_refuse {fault : FieldFault}
    (hmatches : Matches written services (returned ++ [.error (.field fault)])) :
    Matches written services returned := by
  refine ⟨hmatches.events, ?_, fun fault hfault => ?_⟩
  · simpa [List.filterMap_cons, Except.toOption] using hmatches.replies
  · exact hmatches.refusals fault (List.mem_append_left _ hfault)

/-- The last service is the one of the event that was written last. -/
theorem Matches.of_answer {event : Event} {reply : Reply}
    (hmatches : Matches (written ++ [event]) services (returned ++ [.ok reply])) :
    ∃ past service given, services = past ++ [service] ∧ service.event = event.onWire ∧
      service.reply = some given ∧ reply = given.onWire ∧ Matches written past returned := by
  have hevents := hmatches.events
  rw [List.map_append, List.map_eq_append_iff] at hevents
  obtain ⟨past, last, rfl, hpast, hlast⟩ := hevents
  obtain ⟨service, rfl, hservice⟩ := List.map_eq_singleton_iff.mp hlast
  have hreplies := hmatches.replies
  simp only [List.map_append, List.filterMap_append, List.map_cons, List.map_nil,
    List.filterMap_cons, List.filterMap_nil, Except.toOption] at hreplies
  obtain ⟨hbefore, hanswer⟩ := List.append_inj' hreplies rfl
  obtain ⟨given, hgiven, hwire⟩ := Option.map_eq_some_iff.mp (List.cons.inj hanswer).1
  refine ⟨past, service, given, rfl, hservice, hgiven, hwire.symm, hpast, hbefore, ?_⟩
  exact fun fault hfault => hmatches.refusals fault (List.mem_append_left _ hfault)

/-- The events that were written have the services of the controller. -/
theorem Sifts.settles (hsifts : Sifts sent written returned)
    (hmatches : Matches written services returned) : Settles sent services returned := by
  induction hsifts generalizing services with
  | nil =>
    obtain rfl : services = [] := List.map_eq_nil_iff.mp hmatches.events
    exact .nil
  | refused _ hrefused ih => exact .refused (ih hmatches.of_refuse) hrefused
  | answered _ hfits reply ih =>
    obtain ⟨past, service, given, rfl, hevent, hgiven, rfl, hbefore⟩ := hmatches.of_answer
    exact .answered (ih hbefore) hfits hevent hgiven

end Lists

/-! ## Where a client is with its sends -/

/-- All sends but the last one have returned, and the last one, too, unless the client is about
to write its event or has written it. -/
inductive Course : Client.Phase → List Event → List Event → List (Except LinkFault Reply) → Prop
  | done {outcome : Except LinkFault Reply} {sent written : List Event}
      {returned : List (Except LinkFault Reply)} (hsifts : Sifts sent written returned) :
      Course (.done outcome) sent written returned
  | writing {event : Event} {sent written : List Event}
      {returned : List (Except LinkFault Reply)} (hsifts : Sifts sent written returned) :
      Course (.writing event) (sent ++ [event]) written returned
  | underway {phase : Client.Phase} {event : Event} {sent written : List Event}
      {returned : List (Except LinkFault Reply)} (hphase : phase.IsUnderway)
      (hfits : event.Fits) (hsifts : Sifts sent written returned) :
      Course phase (sent ++ [event]) (written ++ [event]) returned

/-- A client that is done has come back from all its sends. -/
theorem Course.sifts {outcome : Except LinkFault Reply} {sent written : List Event}
    {returned : List (Except LinkFault Reply)}
    (hcourse : Course (.done outcome) sent written returned) : Sifts sent written returned := by
  cases hcourse with
  | done hsifts => exact hsifts
  | underway hunderway => exact hunderway.elim

namespace Tally

variable (t : Tally σ τ) {before after : Client}

/-- While an event is under way, no event is written and no send returns. -/
theorem noteChild_underway (hbefore : before.phase.IsUnderway) (hafter : after.phase.IsUnderway) :
    (t.noteChild before after).written = t.written ∧
      (t.noteChild before after).returned = t.returned := by
  rw [noteChild]
  split <;> simp_all [Client.Phase.IsUnderway]

theorem noteChild_done {outcome : Except LinkFault Reply} (hbefore : before.phase.IsUnderway)
    (hafter : after.phase = .done outcome) :
    t.noteChild before after = { t with returned := t.returned ++ [outcome] } := by
  rw [noteChild, hafter]
  cases hphase : before.phase <;> simp_all [Client.Phase.IsUnderway]

end Tally

/-- A step of the client takes it along its course, as long as no send fails but for a text. -/
theorem Course.child {c : Client} {sent : List Event} {t : Tally σ τ}
    (hcourse : Course c.phase sent t.written t.returned) (now : Nat) (s : Shared)
    (hrefusals : ∀ fault, .error fault ∈ (t.noteChild c (c.step now s).1).returned →
      ∃ field, fault = .field field) :
    Course (c.step now s).1.phase sent (t.noteChild c (c.step now s).1).written
      (t.noteChild c (c.step now s).1).returned := by
  generalize hphase : c.phase = phase at hcourse
  generalize hwritten : t.written = written at hcourse
  generalize hreturned : t.returned = returned at hcourse
  cases hcourse with
  | done hsifts =>
    have hstep : c.step now s = (c, s) := by
      simp only [Client.step, hphase]
    have hnote : t.noteChild c c = t := by
      simp only [Tally.noteChild, hphase]
    rw [hstep, hnote, hphase, hwritten, hreturned]
    exact .done hsifts
  | @writing event _ _ _ hsifts =>
    by_cases hfits : event.Fits
    · have hnote : t.noteChild c (c.enter .posting) =
          { t with written := t.written ++ [event] } := by
        simp only [Tally.noteChild, hphase, Client.enter]
      rw [Client.step_of_fits hphase hfits, hnote, hwritten, hreturned]
      exact .underway trivial hfits hsifts
    · obtain ⟨fault, hrefused⟩ := Event.exists_refused hfits
      have hnote : t.noteChild c (c.enter (.done (.error (.field fault)))) =
          { t with returned := t.returned ++ [.error (.field fault)] } := by
        simp only [Tally.noteChild, hphase, Client.enter]
      rw [Client.step_of_refused hphase hrefused, hnote, hwritten, hreturned]
      exact .done (.refused hsifts hrefused)
  | underway hunderway hfits hsifts =>
    rw [← hphase] at hunderway
    rcases Client.step_underway hunderway now s with hstays | ⟨reply, hdone⟩ | ⟨fault, hdone, hno⟩
    · obtain ⟨hsame, hsame'⟩ := Tally.noteChild_underway t hunderway hstays
      rw [hsame, hsame', hwritten, hreturned]
      exact .underway hstays hfits hsifts
    · rw [Tally.noteChild_done t hunderway hdone, hdone, hwritten, hreturned]
      exact .done (.answered hsifts hfits reply)
    · rw [Tally.noteChild_done t hunderway hdone] at hrefusals
      obtain ⟨field, hfield⟩ := hrefusals fault (List.mem_append_right _ List.mem_cons_self)
      exact absurd hfield (hno field)

/-! ## Runs -/

section Runs

variable {h : Handler σ τ} {outside : σ → ω → σ → Prop} {start e : Exchange σ τ Client}
  {log : List (Entry σ τ ω)}

/-- Every run of a fresh exchange takes the client along its course. -/
theorem Run.course (hfresh : start.IsFresh) (hfits : IsFitting h outside start.loop)
    (run : Run h outside start log e) :
    Course e.partner.phase (sent log) (Tally.of log).written (Tally.of log).returned := by
  induction run with
  | start =>
    obtain ⟨outcome, hphase⟩ := Client.exists_done hfresh.done
    rw [hphase]
    exact .done .nil
  | controller run m ih => exact ih
  | child run now ih =>
    obtain ⟨_, _, _, _, _, _, _, _, hmatches⟩ := ((run.child now).stage hfresh hfits).2.history
    exact ih.child now _ hmatches.refusals
  | send run event hdone ih =>
    obtain ⟨outcome, hphase⟩ := Client.exists_done hdone
    rw [hphase] at ih
    exact .writing ih.sifts
  | call run call state hcall ih => exact ih

/-- All sends but perhaps the last one are settled by the services of the controller, in the
order of the sends, and if the client is done, all are. -/
theorem Run.settles (hfresh : start.IsFresh) (hfits : IsFitting h outside start.loop)
    (run : Run h outside start log e) :
    ∃ earlier rest served pending, sent log = earlier ++ rest ∧ rest.length ≤ 1 ∧
      (e.partner.outcome?.isSome → rest = []) ∧
      (Tally.of log).services = served ++ pending ∧
      pending.map (·.event) <+: rest.map Event.onWire ∧
      Settles earlier served (Tally.of log).returned := by
  have hcourse := run.course hfresh hfits
  obtain ⟨earlier, rest, served, pending, hwritten, hrest, hservices, hpending, hmatches⟩ :=
    (run.stage hfresh hfits).2.history
  -- as many events were written and have come back on either side
  have hsplit {all before last : List Event} (hsifts : Sifts all before (Tally.of log).returned)
      (hlast : before ++ last = (Tally.of log).written) : before = earlier ∧ last = rest :=
    List.append_inj (hlast.trans hwritten) (hsifts.length_eq.trans hmatches.length_eq.symm)
  generalize hphase : e.partner.phase = phase at hcourse
  generalize hall : sent log = all at hcourse
  generalize hbefore : (Tally.of log).written = written at hcourse
  generalize hreturned : (Tally.of log).returned = returned at hcourse
  subst hreturned
  cases hcourse with
  | done hsifts =>
    obtain ⟨rfl, rfl⟩ := hsplit hsifts ((List.append_nil written).trans hbefore.symm)
    exact ⟨_, [], served, pending, (List.append_nil _).symm, Nat.zero_le 1, fun _ => rfl,
      hservices, hpending, hsifts.settles hmatches⟩
  | @writing event _ _ _ hsifts =>
    obtain ⟨rfl, rfl⟩ := hsplit hsifts ((List.append_nil written).trans hbefore.symm)
    refine ⟨_, [event], served, pending, rfl, Nat.le_refl 1, fun hdone => ?_, hservices,
      hpending.trans List.nil_prefix, hsifts.settles hmatches⟩
    obtain ⟨outcome, hphase'⟩ := Client.exists_done hdone
    rw [hphase'] at hphase
    cases hphase
  | @underway _ event _ _ _ hunderway hfits hsifts =>
    obtain ⟨rfl, rfl⟩ := hsplit hsifts hbefore.symm
    refine ⟨_, [event], served, pending, rfl, Nat.le_refl 1, fun hdone => ?_, hservices,
      hpending, hsifts.settles hmatches⟩
    obtain ⟨outcome, hphase'⟩ := Client.exists_done hdone
    rw [← hphase, hphase'] at hunderway
    exact hunderway.elim

end Runs

end Exchange

end ConsoleLink
