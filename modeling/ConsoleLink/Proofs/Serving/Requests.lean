import ConsoleLink.Desk
import ConsoleLink.Proofs.Serving.Works
import Mathlib.Algebra.GroupWithZero.Nat

/-!
# What becomes of a request

The child may put any bytes into the envelope between two steps of the loop, and may signal as
many requests as it likes.  All the same, every request that the loop takes is either answered
or the one that ends the loop.

* `takenIn` and `postedIn` count by the signals themselves what the loop took and gave.
* `requests` lists the requests of a log, the newest first: what was read, which task the
  handler was given, what was written, and how many responses followed.
* `Tracks` ties the requests to the phase of the loop.  `Tracks.turn` keeps it over one step of
  the loop, `Run.tracks` over a run.
* `serves_any_child` reads off it what the loop promises to any child.
-/

namespace ConsoleLink

namespace ServingLoop

variable {σ τ ω : Type}

/-! ## Counting by the signals -/

/-- How many requests the loop took. -/
def takenIn (h : Handler σ τ) : List (Entry σ τ ω) → Nat
  | [] => 0
  | .turn m s before _ :: log => takenIn h log + (s.request - (before.step h m s).2.request)
  | .call _ :: log => takenIn h log

/-- How many responses the loop signalled. -/
def postedIn (h : Handler σ τ) : List (Entry σ τ ω) → Nat
  | [] => 0
  | .turn m s before _ :: log => postedIn h log + ((before.step h m s).2.response - s.response)
  | .call _ :: log => postedIn h log

/-- No response was signalled when there were too many of them already. -/
def SignalsWork : List (Entry σ τ ω) → Prop
  | [] => True
  | .turn _ s before _ :: log =>
    (before.phase = .signalling → s.response < Signal.largest) ∧ SignalsWork log
  | .call _ :: log => SignalsWork log

/-! ## Requests -/

/-- What became of a request that the loop took. -/
structure Request (τ : Type) where
  /-- The bytes that the event was to be read from. -/
  read : Option Envelope := none
  /-- The tasks that the handler was given. -/
  begun : List τ := []
  /-- The bytes that the reply was to be written into, and the reply. -/
  written : Option (Envelope × Reply) := none
  /-- How many responses followed. -/
  responses : Nat := 0

namespace Request

/-- The request after a step of the loop that signalled `count` responses. -/
def note (r : Request τ) (m : Moment) (s : Shared) (before after : ServingLoop σ τ)
    (count : Nat) : Request τ where
  read :=
    match before.phase with
    | .reading => some s.envelope
    | _ => r.read
  begun := r.begun ++ (workOf m before after).toList.filterMap Work.begun?
  written :=
    match before.phase with
    | .replying reply => some (s.envelope, reply)
    | _ => r.written
  responses := r.responses + count

/-- Event and reply went through, and one response followed. -/
def IsAnswered (h : Handler σ τ) (r : Request τ) : Prop :=
  ∃ bytes event bytes' reply bytes'', bytes.event? = .ok event ∧
    bytes'.putReply? reply = .ok bytes'' ∧
      r = ⟨some bytes, [h.begin event], some (bytes', reply), 1⟩

/-- The event or the reply was refused, and no response followed.  The handler was given a task
only if there was an event. -/
def IsRefused (h : Handler σ τ) (fault : EnvelopeFault) (r : Request τ) : Prop :=
  (∃ bytes, bytes.event? = .error fault ∧ r = ⟨some bytes, [], none, 0⟩) ∨
    ∃ bytes event bytes' reply, bytes.event? = .ok event ∧
      bytes'.putReply? reply = .error fault ∧
        r = ⟨some bytes, [h.begin event], some (bytes', reply), 0⟩

/-- A request that the loop is at work on. -/
inductive Pending (h : Handler σ τ) : Request τ → Phase τ → Prop
  | reading : Pending h {} .reading
  | handling {bytes : Envelope} {event : Event} (hevent : bytes.event? = .ok event) (task : τ) :
      Pending h ⟨some bytes, [h.begin event], none, 0⟩ (.handling task)
  | replying {bytes : Envelope} {event : Event} (hevent : bytes.event? = .ok event)
      (reply : Reply) : Pending h ⟨some bytes, [h.begin event], none, 0⟩ (.replying reply)
  | signalling {bytes bytes' bytes'' : Envelope} {event : Event} {reply : Reply}
      (hevent : bytes.event? = .ok event) (hput : bytes'.putReply? reply = .ok bytes'') :
      Pending h ⟨some bytes, [h.begin event], some (bytes', reply), 0⟩ .signalling

end Request

/-- The requests after a step of the loop, the newest first. -/
def noted (h : Handler σ τ) (m : Moment) (s : Shared) (before after : ServingLoop σ τ)
    (rs : List (Request τ)) : List (Request τ) :=
  let s' := (before.step h m s).2
  List.replicate (s.request - s'.request) ({} : Request τ) ++
    rs.modifyHead fun r => r.note m s before after (s'.response - s.response)

/-- The requests that the loop took, the newest first. -/
def requests (h : Handler σ τ) : List (Entry σ τ ω) → List (Request τ)
  | [] => []
  | .turn m s before after :: log => noted h m s before after (requests h log)
  | .call _ :: log => requests h log

/-! ## The requests and the phase of the loop -/

/-- The loop is between two requests, or it was told to stop there. -/
def Phase.IsIdle : Phase τ → Prop
  | .asking | .listening _ | .closing (.ok ()) | .ended (.ok ()) => True
  | _ => False

/-- A fault of the envelope ends the loop. -/
def Phase.IsRefusal (fault : EnvelopeFault) (phase : Phase τ) : Prop :=
  phase = .closing (.error (.envelope fault)) ∨ phase = .ended (.error (.envelope fault))

/-- The loop will call upon its handler. -/
def Phase.IsCalling : Phase τ → Prop
  | .handling _ | .closing _ => True
  | _ => False

/-- Where the loop is with its requests: all but the newest are answered, and the newest one
tells the phase. -/
inductive Tracks (h : Handler σ τ) : List (Request τ) → Phase τ → Prop
  | idle {rs : List (Request τ)} {phase : Phase τ} (hanswered : ∀ r ∈ rs, r.IsAnswered h)
      (hidle : phase.IsIdle) : Tracks h rs phase
  | pending {r : Request τ} {rs : List (Request τ)} {phase : Phase τ}
      (hpending : r.Pending h phase) (hanswered : ∀ r ∈ rs, r.IsAnswered h) :
      Tracks h (r :: rs) phase
  | refused {r : Request τ} {rs : List (Request τ)} {phase : Phase τ} {fault : EnvelopeFault}
      (hrefused : r.IsRefused h fault) (hanswered : ∀ r ∈ rs, r.IsAnswered h)
      (hphase : phase.IsRefusal fault) : Tracks h (r :: rs) phase
  /-- The handler broke down, at work or when it was to finish. -/
  | broken {rs : List (Request τ)} {phase : Phase τ} (htracks : Tracks h rs phase)
      (hcalled : phase.IsCalling) : Tracks h rs .broken

section Turn

variable {h : Handler σ τ} {l : ServingLoop σ τ} {rs : List (Request τ)}

theorem step_mayWait (h : Handler σ τ) (m : Moment) (l : ServingLoop σ τ) (s : Shared) :
    (l.step h m s).1.mayWait = l.mayWait := by
  cases hphase : l.phase with
  | listening wake =>
    simp only [step, hphase]
    split
    · rfl
    · rfl
    · split <;> rfl
  | ended outcome => simp [step, hphase]
  | broken => simp [step, hphase]
  | _ =>
    simp only [step, hphase]
    split <;> rfl

theorem begun_of_ne_reading (m : Moment) (after : ServingLoop σ τ) (hreading : l.phase ≠ .reading) :
    (workOf m l after).toList.filterMap Work.begun? = [] := by
  unfold workOf
  split
  · contradiction
  · rfl
  · rfl
  · rfl

/-- A step that leaves what is shared leaves the requests, too, unless it reads or writes. -/
theorem noted_of_same (m : Moment) {s : Shared} (after : ServingLoop σ τ)
    (hreading : l.phase ≠ .reading) (hreplying : ∀ reply, l.phase ≠ .replying reply)
    (hsame : (l.step h m s).2 = s) : noted h m s l after rs = rs := by
  have hnote (r : Request τ) : r.note m s l after 0 = r := by
    unfold Request.note
    rw [begun_of_ne_reading m after hreading, List.append_nil]
    cases hphase : l.phase with
    | reading => exact absurd hphase hreading
    | replying reply => exact absurd hphase (hreplying reply)
    | _ => rfl
  unfold noted
  simp only [hsame, Nat.sub_self, List.replicate_zero, List.nil_append, hnote]
  cases rs <;> rfl

/-- What a step notes of the newest request when it takes none. -/
theorem noted_cons (m : Moment) {s s' : Shared} {l' : ServingLoop σ τ} (r : Request τ)
    (hstep : l.step h m s = (l', s')) (hrequest : s'.request = s.request) :
    noted h m s l l' (r :: rs) = r.note m s l l' (s'.response - s.response) :: rs := by
  unfold noted
  rw [hstep]
  simp only [hrequest, Nat.sub_self, List.replicate_zero, List.nil_append, List.modifyHead]

theorem step_response (h : Handler σ τ) (m : Moment) (s : Shared)
    (hphase : l.phase ≠ .signalling) : (l.step h m s).2.response = s.response := by
  cases hbefore : l.phase with
  | signalling => exact absurd hbefore hphase
  | listening wake =>
    simp only [step, hbefore]
    split
    · rfl
    · rfl
    · split <;> rfl
  | ended outcome => simp [step, hbefore]
  | broken => simp [step, hbefore]
  | _ =>
    simp only [step, hbefore]
    split <;> rfl

/-- A response is noted with the newest request. -/
theorem sum_noted (m : Moment) (s : Shared) (after : ServingLoop σ τ)
    (hnone : rs = [] → (l.step h m s).2.response - s.response = 0) :
    ((noted h m s l after rs).map Request.responses).sum =
      (rs.map Request.responses).sum + ((l.step h m s).2.response - s.response) := by
  have htaken (n : Nat) : ((List.replicate n ({} : Request τ)).map Request.responses).sum = 0 := by
    simp
  unfold noted
  rw [List.map_append, List.sum_append, htaken, Nat.zero_add]
  cases rs with
  | nil => simp [hnone rfl]
  | cons r rs =>
    simp only [List.modifyHead, List.map_cons, List.sum_cons, Request.note]
    omega

/-- A task is noted with the newest request, too. -/
theorem begun_noted (m : Moment) (s : Shared) (htaken : l.phase = .reading → rs ≠ []) :
    (noted h m s l (l.step h m s).1 rs).reverse.flatMap Request.begun =
      rs.reverse.flatMap Request.begun ++
        (workOf m l (l.step h m s).1).toList.filterMap Work.begun? := by
  have hfresh (n : Nat) : (List.replicate n ({} : Request τ)).flatMap Request.begun = [] := by
    simp
  unfold noted
  rw [List.reverse_append, List.reverse_replicate, List.flatMap_append, hfresh, List.append_nil]
  cases rs with
  | nil =>
    rw [begun_of_ne_reading m _ fun hreading => htaken hreading rfl]
    rfl
  | cons r rs => simp [Request.note]

theorem step_asking (h : Handler σ τ) (m : Moment) (s : Shared) (hphase : l.phase = .asking) :
    (l.step h m s).2 = s ∧
      (l.step h m s).1.phase =
        if m.stop then .closing (.ok ()) else .listening (m.now + l.pollInterval) := by
  cases hstop : m.stop <;> simp [step, hphase, hstop, enter]

/-- The handler finishes, whatever ends the loop. -/
theorem Tracks.turn_closing {outcome : Except LinkFault Unit} (htracks : Tracks h rs l.phase)
    (hphase : l.phase = .closing outcome) (hended : Tracks h rs (.ended outcome)) (m : Moment)
    (s : Shared) : Tracks h (noted h m s l (l.step h m s).1 rs) (l.step h m s).1.phase := by
  obtain ⟨hsame, hends⟩ := step_closing h m s hphase
  rw [noted_of_same m _ (by simp [hphase]) (by simp [hphase]) hsame, hends]
  split
  · exact .broken htracks (by rw [hphase]; trivial)
  · exact hended

/-- A loop that is over has done with its requests. -/
theorem Tracks.turn_over (htracks : Tracks h rs l.phase) (hover : l.isOver = true) (m : Moment)
    (s : Shared) : Tracks h (noted h m s l (l.step h m s).1 rs) (l.step h m s).1.phase := by
  have hstep := step_over h m s hover
  rw [noted_of_same m _ ?_ ?_ (by rw [hstep]), hstep]
  · exact htracks
  · intro hphase
    simp [isOver, hphase] at hover
  · intro reply hphase
    simp [isOver, hphase] at hover

/-- A loop between two requests takes one, or it stays there. -/
theorem Tracks.turn_listening {wake : Nat} (hphase : l.phase = .listening wake)
    (hanswered : ∀ r ∈ rs, r.IsAnswered h) (hmay : l.mayWait = true) (m : Moment) (s : Shared) :
    Tracks h (noted h m s l (l.step h m s).1 rs) (l.step h m s).1.phase := by
  cases hrequest : s.request with
  | zero =>
    have hstep : l.step h m s = (if wake ≤ m.now then (l.enter .asking, s) else (l, s)) := by
      simp only [step, hphase, hrequest, hmay, Signal.take, ↓reduceIte]
    have hsame : (l.step h m s).2 = s := by
      rw [hstep]
      split <;> rfl
    rw [noted_of_same m _ (by simp [hphase]) (by simp [hphase]) hsame, hstep]
    split
    · exact .idle hanswered trivial
    · exact .idle hanswered (by rw [hphase]; trivial)
  | succ left =>
    have hstep : l.step h m s = (l.enter .reading, { s with request := left }) := by
      simp only [step, hphase, hrequest, Signal.take]
    have hnoted : noted h m s l (l.enter .reading) rs = ({} : Request τ) :: rs := by
      have hnote (r : Request τ) : r.note m s l (l.enter .reading) 0 = r := by
        simp [Request.note, workOf, hphase]
      unfold noted
      rw [hstep]
      simp only [hrequest, Nat.add_sub_cancel_left, Nat.sub_self, hnote]
      cases rs <;> rfl
    rw [hstep, hnoted]
    exact .pending .reading hanswered

/-- The loop goes on with a request, or it is refused the event or the reply. -/
theorem Tracks.turn_pending {r : Request τ} (hpending : r.Pending h l.phase)
    (hanswered : ∀ r ∈ rs, r.IsAnswered h) (m : Moment) (s : Shared)
    (hsignal : l.phase = .signalling → s.response < Signal.largest) :
    Tracks h (noted h m s l (l.step h m s).1 (r :: rs)) (l.step h m s).1.phase := by
  generalize hphase : l.phase = phase at hpending
  cases hpending with
  | reading =>
    cases hevent : s.envelope.event? with
    | ok event =>
      have hstep := step_read m h hphase hevent
      rw [hstep, noted_cons m _ hstep rfl]
      have hnote : Request.note {} m s l (l.enter (.handling (h.begin event))) 0 =
          ⟨some s.envelope, [h.begin event], none, 0⟩ := by
        simp only [Request.note, workOf, hphase, enter]
        rfl
      rw [Nat.sub_self, hnote]
      exact .pending (.handling hevent _) hanswered
    | error fault =>
      have hstep := step_refused m h hphase hevent
      rw [hstep, noted_cons m _ hstep rfl]
      have hnote : Request.note {} m s l (l.enter (.closing (.error (.envelope fault)))) 0 =
          ⟨some s.envelope, [], none, 0⟩ := by
        simp [Request.note, workOf, hphase, enter]
      rw [Nat.sub_self, hnote]
      exact .refused (Or.inl ⟨_, hevent, rfl⟩) hanswered (Or.inl rfl)
  | @handling bytes event hevent task =>
    cases hadvance : h.advance m task l.state with
    | mk state move =>
      have hstep := step_handling s hphase hadvance
      rw [hstep, noted_of_same m _ (by simp [hphase]) (by simp [hphase]) (by rw [hstep])]
      cases move with
      | go task => exact .pending (.handling hevent task) hanswered
      | reply reply => exact .pending (.replying hevent reply) hanswered
      | broken => exact .broken (.pending (.handling hevent task) hanswered) trivial
  | @replying bytes event hevent reply =>
    cases hput : s.envelope.putReply? reply with
    | ok bytes' =>
      have hstep : l.step h m s = (l.enter .signalling, { s with envelope := bytes' }) := by
        simp only [step, hphase, hput]
      rw [hstep, noted_cons m _ hstep rfl]
      have hnote :
          Request.note ⟨some bytes, [h.begin event], none, 0⟩ m s l (l.enter .signalling) 0 =
            ⟨some bytes, [h.begin event], some (s.envelope, reply), 0⟩ := by
        simp [Request.note, workOf, hphase]
      rw [Nat.sub_self, hnote]
      exact .pending (.signalling hevent hput) hanswered
    | error fault =>
      have hstep : l.step h m s = (l.enter (.closing (.error (.envelope fault))), s) := by
        simp only [step, hphase, hput]
      rw [hstep, noted_cons m _ hstep rfl]
      have hnote : Request.note ⟨some bytes, [h.begin event], none, 0⟩ m s l
          (l.enter (.closing (.error (.envelope fault)))) 0 =
            ⟨some bytes, [h.begin event], some (s.envelope, reply), 0⟩ := by
        simp [Request.note, workOf, hphase]
      rw [Nat.sub_self, hnote]
      exact .refused (Or.inr ⟨_, _, _, _, hevent, hput, rfl⟩) hanswered (Or.inl rfl)
  | @signalling bytes bytes' bytes'' event reply hevent hput =>
    have hset : Signal.set s.response = .ok (s.response + 1) := if_pos (hsignal hphase)
    have hstep : l.step h m s = (l.enter .asking, { s with response := s.response + 1 }) := by
      simp only [step, hphase, hset]
    rw [hstep, noted_cons m _ hstep rfl]
    have hnote : Request.note ⟨some bytes, [h.begin event], some (bytes', reply), 0⟩ m s l
        (l.enter .asking) 1 = ⟨some bytes, [h.begin event], some (bytes', reply), 1⟩ := by
      simp [Request.note, workOf, hphase]
    rw [Nat.add_sub_cancel_left, hnote]
    refine .idle (fun r hr => ?_) trivial
    rcases List.mem_cons.mp hr with rfl | hr
    · exact ⟨_, _, _, _, _, hevent, hput, rfl⟩
    · exact hanswered r hr

/-- A step of the loop keeps up with its requests. -/
theorem Tracks.turn (htracks : Tracks h rs l.phase) (hmay : l.mayWait = true) (m : Moment)
    (s : Shared) (hsignal : l.phase = .signalling → s.response < Signal.largest) :
    Tracks h (noted h m s l (l.step h m s).1 rs) (l.step h m s).1.phase := by
  have hbefore := htracks
  generalize hphase : l.phase = phase at htracks
  cases htracks with
  | idle hanswered hidle =>
    cases phase with
    | asking =>
      obtain ⟨hsame, hafter⟩ := step_asking h m s hphase
      rw [noted_of_same m _ (by simp [hphase]) (by simp [hphase]) hsame, hafter]
      refine .idle hanswered ?_
      split <;> trivial
    | listening wake => exact .turn_listening hphase hanswered hmay m s
    | closing outcome =>
      refine hbefore.turn_closing hphase (.idle hanswered ?_) m s
      cases outcome with
      | ok _ => trivial
      | error fault => exact hidle.elim
    | ended outcome => exact hbefore.turn_over (by simp [isOver, hphase]) m s
    | _ => exact hidle.elim
  | pending hpending hanswered => exact .turn_pending (hphase ▸ hpending) hanswered m s hsignal
  | refused hrefused hanswered hends =>
    rcases hends with rfl | rfl
    · exact hbefore.turn_closing hphase (.refused hrefused hanswered (Or.inr rfl)) m s
    · exact hbefore.turn_over (by simp [isOver, hphase]) m s
  | broken => exact hbefore.turn_over (by simp [isOver, hphase]) m s

end Turn

/-! ## What the requests tell -/

section Facts

variable {h : Handler σ τ} {rs : List (Request τ)} {phase : Phase τ}

theorem Request.IsAnswered.responses {r : Request τ} (hanswered : r.IsAnswered h) :
    r.responses = 1 := by
  obtain ⟨_, _, _, _, _, _, _, rfl⟩ := hanswered
  rfl

/-- The task that the handler is given for a request, as soon as its bytes were read: none if
they hold no event. -/
def Request.task? (h : Handler σ τ) (r : Request τ) : Option τ :=
  (r.read.bind fun bytes => bytes.event?.toOption).map h.begin

/-- The handler is given a task for the bytes that hold an event, and no other. -/
theorem Tracks.begun (htracks : Tracks h rs phase) :
    ∀ r ∈ rs, r.begun = (r.task? h).toList := by
  have hdone {r : Request τ} (hanswered : r.IsAnswered h) : r.begun = (r.task? h).toList := by
    obtain ⟨bytes, event, _, _, _, hevent, _, rfl⟩ := hanswered
    simp [Request.task?, hevent, Except.toOption]
  induction htracks with
  | idle hanswered hidle => exact fun r hr => hdone (hanswered r hr)
  | @pending r rs phase hpending hanswered =>
    intro r' hr'
    rcases List.mem_cons.mp hr' with rfl | hr'
    · cases hpending with
      | reading => rfl
      | handling hevent task => simp [Request.task?, hevent, Except.toOption]
      | replying hevent reply => simp [Request.task?, hevent, Except.toOption]
      | signalling hevent hput => simp [Request.task?, hevent, Except.toOption]
    · exact hdone (hanswered r' hr')
  | @refused r rs phase fault hrefused hanswered hphase =>
    intro r' hr'
    rcases List.mem_cons.mp hr' with rfl | hr'
    · rcases hrefused with ⟨bytes, hevent, rfl⟩ | ⟨bytes, event, _, _, hevent, _, rfl⟩
      · simp [Request.task?, hevent, Except.toOption]
      · simp [Request.task?, hevent, Except.toOption]
    · exact hdone (hanswered r' hr')
  | broken _ _ ih => exact ih

theorem sum_responses (hanswered : ∀ r ∈ rs, r.IsAnswered h) :
    (rs.map Request.responses).sum = rs.length := by
  induction rs with
  | nil => rfl
  | cons r rs ih =>
    have hhead := (hanswered r List.mem_cons_self).responses
    have htail := ih fun r hr => hanswered r (List.mem_cons_of_mem _ hr)
    simp only [List.map_cons, List.sum_cons, List.length_cons]
    omega

/-- Between two requests all of them have their response. -/
theorem Tracks.responses_of_idle (htracks : Tracks h rs phase) (hidle : phase.IsIdle) :
    (rs.map Request.responses).sum = rs.length := by
  cases htracks with
  | idle hanswered => exact sum_responses hanswered
  | pending hpending => cases hpending <;> exact hidle.elim
  | refused _ _ hphase => rcases hphase with rfl | rfl <;> exact hidle.elim
  | broken => exact hidle.elim

/-- The request that the loop is at work on has none, and neither has the one that ends it. -/
theorem Tracks.responses_of_busy (htracks : Tracks h rs phase) (hbusy : ¬ phase.IsIdle)
    (hbroken : phase ≠ .broken) : (rs.map Request.responses).sum + 1 = rs.length := by
  have hone {r : Request τ} {rs : List (Request τ)} (hhead : r.responses = 0)
      (hanswered : ∀ r ∈ rs, r.IsAnswered h) :
      ((r :: rs).map Request.responses).sum + 1 = (r :: rs).length := by
    have htail := sum_responses hanswered
    simp only [List.map_cons, List.sum_cons, List.length_cons]
    omega
  cases htracks with
  | idle _ hidle => exact absurd hidle hbusy
  | pending hpending hanswered => exact hone (by cases hpending <;> rfl) hanswered
  | refused hrefused hanswered _ =>
    refine hone ?_ hanswered
    rcases hrefused with ⟨_, _, rfl⟩ | ⟨_, _, _, _, _, _, rfl⟩ <;> rfl
  | broken => exact absurd rfl hbroken

theorem Tracks.ne_nil (htracks : Tracks h rs phase) (hbusy : ¬ phase.IsIdle)
    (hbroken : phase ≠ .broken) : rs ≠ [] := by
  rintro rfl
  have hlength := htracks.responses_of_busy hbusy hbroken
  simp at hlength

end Facts

/-! ## Runs -/

section Runs

variable {h : Handler σ τ} {outside : σ → ω → σ → Prop} {start l : ServingLoop σ τ}
  {log : List (Entry σ τ ω)}

theorem Run.mayWait_eq (run : Run h outside start log l) : l.mayWait = start.mayWait := by
  induction run with
  | start => rfl
  | turn run m s ih => exact (step_mayWait h m _ s).trans ih
  | call run call state hcall ih => exact ih

/-- Every run keeps up with its requests, whatever the child does. -/
theorem Run.tracks (hasking : start.phase = .asking) (hmay : start.mayWait = true)
    (run : Run h outside start log l) (hsignals : SignalsWork log) :
    Tracks h (requests h log) l.phase := by
  induction run with
  | start =>
    rw [hasking]
    exact .idle nofun trivial
  | turn run m s ih =>
    exact (ih hsignals.2).turn (run.mayWait_eq.trans hmay) m s hsignals.1
  | call run call state hcall ih => exact ih hsignals

/-- The requests are as many as the loop took. -/
theorem Run.length_requests (run : Run h outside start log l) :
    (requests h log).length = takenIn h log := by
  induction run with
  | start => rfl
  | turn run m s ih =>
    simp only [requests, noted, takenIn, List.length_append, List.length_replicate,
      List.length_modifyHead]
    omega
  | call run call state hcall ih => exact ih

/-- Their responses are as many as the loop signalled. -/
theorem Run.sum_requests (hasking : start.phase = .asking) (hmay : start.mayWait = true)
    (run : Run h outside start log l) (hsignals : SignalsWork log) :
    ((requests h log).map Request.responses).sum = postedIn h log := by
  induction run with
  | start => rfl
  | @turn log l run m s ih =>
    have htracks := run.tracks hasking hmay hsignals.2
    have hold := ih hsignals.2
    have hnone : requests h log = [] → (l.step h m s).2.response - s.response = 0 := by
      intro hnil
      rw [step_response h m s ?_, Nat.sub_self]
      intro hphase
      rw [hphase] at htracks
      exact htracks.ne_nil id nofun hnil
    rw [requests, postedIn, sum_noted m s _ hnone, hold]
  | call run call state hcall ih => exact ih hsignals

/-- The tasks that the handler was given are those of the requests. -/
theorem Run.begun_requests (hasking : start.phase = .asking) (hmay : start.mayWait = true)
    (run : Run h outside start log l) (hsignals : SignalsWork log) :
    (requests h log).reverse.flatMap Request.begun = (works log).filterMap Work.begun? := by
  induction run with
  | start => rfl
  | @turn log l run m s ih =>
    have htracks := run.tracks hasking hmay hsignals.2
    have htaken : l.phase = .reading → requests h log ≠ [] := by
      intro hphase
      rw [hphase] at htracks
      exact htracks.ne_nil id nofun
    rw [requests, works, begun_noted m s htaken, List.filterMap_append, ih hsignals.2]
  | call run call state hcall ih => exact ih hsignals

end Runs

/-! ## Any child -/

/-- A loop that is able to wait, and whose responses are not too many to be counted, treats any
child alike, whatever bytes it finds and however many requests:

* every request but the newest is answered, with one response, and the newest one is what the
  phase says: at work, answered, or refused with the fault that the loop is closing or has
  ended with;
* the handler was given the tasks of these requests and no other, one for bytes that hold an
  event and none for bytes that do not;
* requests and responses are level between two requests and when the loop was told to stop, and
  one apart while it is at work or after a fault;
* a loop that is closing ends in its next step, with its handler finished then, for the only
  time and after everything else;
* only these calls have made its state what it is, if nobody else changed it;
* while the loop is told to stop, it hands over at most one event. -/
theorem serves_any_child {h : Handler σ τ} {outside : σ → ω → σ → Prop}
    {start l : ServingLoop σ τ} {log : List (Entry σ τ ω)} (hasking : start.phase = .asking)
    (hmay : start.mayWait = true) (run : Run h outside start log l) (hsignals : SignalsWork log) :
    Tracks h (requests h log) l.phase ∧
      ((∀ r ∈ requests h log, r.begun = (r.task? h).toList) ∧
        (requests h log).reverse.flatMap Request.begun = (works log).filterMap Work.begun?) ∧
      ((requests h log).length = takenIn h log ∧
        ((requests h log).map Request.responses).sum = postedIn h log ∧
        (l.phase.IsIdle → takenIn h log = postedIn h log) ∧
        (¬ l.phase.IsIdle → l.phase ≠ .broken → takenIn h log = postedIn h log + 1)) ∧
      (Finishes (works log) l.phase ∧
        ∀ outcome, l.phase = .closing outcome → ∀ m s, (l.step h m s).2 = s ∧
          (l.step h m s).1.phase = if (h.finish l.state).2 then .broken else .ended outcome) ∧
      (calls log = [] →
        l.state = (works log).foldl (fun state work => work.apply h state) start.state) ∧
      ∀ later earlier, log = later ++ earlier → ToldToStop later →
        (works later).countP Work.isBegin ≤ 1 := by
  have htracks := run.tracks hasking hmay hsignals
  have hlength := run.length_requests
  have hsum := run.sum_requests hasking hmay hsignals
  refine ⟨htracks, ⟨htracks.begun, run.begun_requests hasking hmay hsignals⟩,
    ⟨hlength, hsum, ?_, ?_⟩, ⟨run.finishes hasking, ?_⟩, run.state_eq, ?_⟩
  · intro hidle
    rw [← hlength, ← hsum]
    exact (htracks.responses_of_idle hidle).symm
  · intro hbusy hbroken
    rw [← hlength, ← hsum]
    exact (htracks.responses_of_busy hbusy hbroken).symm
  · intro outcome hphase m s
    exact step_closing h m s hphase
  · rintro later earlier rfl htold
    obtain ⟨mid, -, hlater⟩ := run.split
    have hdue := hlater.begins_le htold
    have hmid := mid.phase.due_le
    omega

/-- A title is answered, then the loop is told to stop.  It still reads a second title, but the
child clears the envelope before the reply, which is refused. -/
theorem serves_any_child_cleared :
    ∃ (log : List (Entry Desk Desk.Task Empty)) (l : ServingLoop Desk Desk.Task),
      Run Desk.handler (fun _ _ _ => False) ⟨{}, .asking, 0, true⟩ log l ∧ SignalsWork log ∧
        l.outcome? = some (.error (.envelope (.replyMismatch "none"))) ∧
        takenIn Desk.handler log = 2 ∧ postedIn Desk.handler log = 1 ∧
        ∃ earlier, works log = earlier ++ [.finish] ∧ .finish ∉ earlier := by
  have htitle : (Event.title "go").Fits := (Event.fits_title _).mpr ⟨by decide, by decide⟩
  have hevent : (Envelope.zero.putEvent (.title "go")).1.event? = .ok (.title "go") :=
    Envelope.event?_putEvent Envelope.zero htitle
  have hkind := Envelope.kind?_putEvent Envelope.zero htitle
  generalize (Envelope.zero.putEvent (.title "go")).1 = bytes at hevent hkind
  have hack : Reply.ack.Fits .title := ⟨rfl, by simp⟩
  obtain ⟨bytes', hput, -, -⟩ := Envelope.putReply?_of_fits hkind hack
  have hcleared : Envelope.zero.reset.putReply? .ack = .error (.replyMismatch "none") := by
    rw [Envelope.putReply?, Envelope.putReply_of_mismatch (Envelope.kind?_reset _) rfl]
    rfl
  generalize Envelope.zero.reset = cleared at hcleared
  have hworked {log : List (Entry Desk Desk.Task Empty)} (stop : Bool)
      (run : Run Desk.handler (fun _ _ _ => False) ⟨{}, .asking, 0, true⟩ log
        ⟨{}, .listening 0, 0, true⟩) :=
    ((run.act ⟨0, stop⟩ ⟨bytes, 1, 0, 0⟩ _ ⟨{}, .reading, 0, true⟩ rfl).act
      ⟨0, stop⟩ ⟨bytes, 0, 0, 0⟩ _ _ (step_read _ _ rfl hevent)).act
        ⟨0, stop⟩ ⟨bytes, 0, 0, 0⟩ _ ⟨{}, .replying .ack, 0, true⟩ rfl
  have hstart : Run Desk.handler (fun _ (_ : Empty) _ => False) ⟨{}, .asking, 0, true⟩ [] _ :=
    .start
  have hlistening := hstart.act ⟨0, false⟩ ⟨bytes, 1, 0, 0⟩ _ ⟨{}, .listening 0, 0, true⟩ rfl
  have hsignalling := (hworked false hlistening).act ⟨0, false⟩ ⟨bytes, 0, 0, 0⟩
    ⟨bytes', 0, 0, 0⟩ ⟨{}, .signalling, 0, true⟩ (by simp only [step, hput]; rfl)
  have hasking := hsignalling.act ⟨0, false⟩ ⟨bytes', 0, 0, 0⟩ _ ⟨{}, .asking, 0, true⟩ rfl
  have hlistening' := hasking.act ⟨0, false⟩ ⟨bytes', 0, 1, 0⟩ _ ⟨{}, .listening 0, 0, true⟩ rfl
  have hclosing := (hworked true hlistening').act ⟨0, true⟩ ⟨cleared, 0, 0, 0⟩
    ⟨cleared, 0, 0, 0⟩ ⟨{}, .closing (.error (.envelope (.replyMismatch "none"))), 0, true⟩
    (by simp only [step, hcleared]; rfl)
  have hended := hclosing.act ⟨0, true⟩ ⟨cleared, 0, 0, 0⟩ _
    ⟨{}, .ended (.error (.envelope (.replyMismatch "none"))), 0, true⟩ rfl
  obtain ⟨-, -, ⟨-, -, -, hapart⟩, ⟨hfinishes, -⟩, -, -⟩ :=
    serves_any_child rfl rfl hended (by simp [SignalsWork, Signal.largest])
  have hflush : ({} : Desk).flush = ({}, false) := rfl
  suffices hposted : postedIn Desk.handler _ = 1 from
    ⟨_, _, hended, by simp [SignalsWork, Signal.largest], rfl,
      (hapart id (by simp)).trans (congrArg (· + 1) hposted), hposted, hfinishes.of_ended⟩
  simp [postedIn, step, enter, hevent, hput, hcleared, hflush, Signal.take, Signal.set,
    Signal.largest, Desk.handler, Desk.advance, Desk.receive]

end ServingLoop

end ConsoleLink
