import ConsoleLink.Proofs.Desk.Replies

/-!
# The queue takes what the envelope takes

A command is checked when it is handed in, and once more when it is written as an answer.  The two
checks are written apart and agree on every text.

* `SameReason` pairs the reasons of the queue with those of the envelope, and `enqueue_cases` says
  that both take a text or refuse it for one reason.
* `Operation` lists what is done with a queue, `Outcome` what comes of it.  `performAll` does one
  operation after the other.
* `balance` says that what was accepted has been taken or waits, in its order.
* `admission_agrees` puts this together.
-/

namespace ConsoleLink

namespace CommandQueue

/-! ## Two checks -/

/-- Two names of one reason for which a text is refused: the first zero unit stands at a position,
or there is none and the text is too long. -/
inductive SameReason (text : String) : LinkFault → FieldFault → Prop
  | nul {position : Nat} (hnul : Wide.nulPosition text = some position) :
      SameReason text (.commandHasNul position) (.embeddedNul "input answer" position)
  | long (hnul : Wide.nulPosition text = none) (hlong : 10240 ≤ Wide.length text) :
      SameReason text (.commandTooLong text 10239)
        (.tooLong "input answer" (Wide.length text) 10240)

/-- A text is taken by the queue and by an envelope with a prompt, or by neither. -/
theorem enqueue_cases (q : CommandQueue) (text : String) {e : Envelope}
    (hpending : e.kind? = .ok .input) :
    (∃ e', q.enqueue text = (⟨q.commands ++ [text]⟩, .ok ()) ∧
        e.putReply (.input true text) = (e', .ok ())) ∨
      ∃ fault cause, q.enqueue text = (q, .error fault) ∧
        e.putReply (.input true text) = (e, .error (.field cause)) ∧
          SameReason text fault cause := by
  cases hnul : Wide.nulPosition text with
  | some position =>
    right
    refine ⟨_, _, q.enqueue_of_refused ?_, Envelope.putReply_of_check hpending ?_, .nul hnul⟩
    · simp only [refusal?, hnul]
    · simp only [Wide.check, hnul]
  | none =>
    by_cases hlong : 10240 ≤ Wide.length text
    · right
      refine ⟨_, _, q.enqueue_of_refused ?_, Envelope.putReply_of_check hpending ?_,
        .long hnul hlong⟩
      · have hlimit : limit ≤ Wide.length text := hlong
        simp only [refusal?, hnul, if_pos hlimit]
        rfl
      · simp only [Wide.check, hnul]
        exact if_neg (Nat.not_lt.mpr hlong)
    · left
      have hlimit : ¬ limit ≤ Wide.length text := hlong
      have hfits : (Reply.input true text).Fits .input := by
        rw [Reply.fits_input]
        exact ⟨(Wide.nulPosition_eq_none_iff text).mp hnul, Nat.not_le.mp hlong⟩
      obtain ⟨e', hput, -⟩ := Envelope.putReply_of_fits hpending hfits
      refine ⟨e', q.enqueue_of_accepted ?_, hput⟩
      simp only [refusal?, hnul, if_neg hlimit]

/-! ## What is done with a queue -/

/-- What can be done with a queue. -/
inductive Operation
  | enqueue (text : String)
  | dequeue
  /-- Somebody looks whether a command is there. -/
  | look

/-- What an operation comes to. -/
inductive Outcome
  | accepted (text : String)
  | refused (text : String) (fault : LinkFault)
  | taken (command : Option String)
  | looked (available : Bool)

/-- A queue after an operation, and what that came to. -/
def perform (q : CommandQueue) : Operation → CommandQueue × Outcome
  | .enqueue text =>
    match q.enqueue text with
    | (q, .ok ()) => (q, .accepted text)
    | (q, .error fault) => (q, .refused text fault)
  | .dequeue =>
    match q.dequeue? with
    | some (command, q) => (q, .taken (some command))
    | none => (q, .taken none)
  | .look => (q, .looked !q.isEmpty)

/-- A queue after operations, and what they came to, one after the other. -/
def performAll (q : CommandQueue) : List Operation → CommandQueue × List Outcome
  | [] => (q, [])
  | operation :: rest =>
    match q.perform operation with
    | (q, outcome) =>
      match q.performAll rest with
      | (q, outcomes) => (q, outcome :: outcomes)

/-- The text that was accepted. -/
def Outcome.accepted? : Outcome → Option String
  | accepted text => some text
  | _ => none

/-- The command that was taken. -/
def Outcome.taken? : Outcome → Option String
  | taken command => command
  | _ => none

/-- The texts that were accepted, in their order. -/
def acceptedIn (outcomes : List Outcome) : List String := outcomes.filterMap Outcome.accepted?

/-- The commands that were taken, in their order. -/
def takenIn (outcomes : List Outcome) : List String := outcomes.filterMap Outcome.taken?

theorem acceptedIn_cons (outcome : Outcome) (rest : List Outcome) :
    acceptedIn (outcome :: rest) = outcome.accepted?.toList ++ acceptedIn rest := by
  unfold acceptedIn
  rw [List.filterMap_cons]
  cases outcome.accepted? <;> rfl

theorem takenIn_cons (outcome : Outcome) (rest : List Outcome) :
    takenIn (outcome :: rest) = outcome.taken?.toList ++ takenIn rest := by
  unfold takenIn
  rw [List.filterMap_cons]
  cases outcome.taken? <;> rfl

/-- What an operation puts in comes in at the end, and what it takes out goes out at the front. -/
theorem balance_step (q : CommandQueue) (operation : Operation) :
    q.commands ++ (q.perform operation).2.accepted?.toList =
      (q.perform operation).2.taken?.toList ++ (q.perform operation).1.commands := by
  cases operation with
  | enqueue text =>
    simp only [perform]
    split
    · rename_i hok
      rw [(enqueue_eq_ok hok).2]
      rfl
    · rename_i herror
      rw [enqueue_eq_error herror]
      exact List.append_nil _
  | dequeue =>
    obtain ⟨commands⟩ := q
    cases commands with
    | nil => rfl
    | cons first rest => exact List.append_nil _
  | look => exact List.append_nil _

/-- What was there and what was accepted has been taken or is still there, in that order. -/
theorem balance (q : CommandQueue) (operations : List Operation) :
    q.commands ++ acceptedIn (q.performAll operations).2 =
      takenIn (q.performAll operations).2 ++ (q.performAll operations).1.commands := by
  induction operations generalizing q with
  | nil => exact List.append_nil _
  | cons operation rest ih =>
    have hstep := q.balance_step operation
    have hrest := ih (q.perform operation).1
    calc
      q.commands ++ acceptedIn (q.performAll (operation :: rest)).2
      _ = (q.commands ++ (q.perform operation).2.accepted?.toList) ++
            acceptedIn ((q.perform operation).1.performAll rest).2 := by
        rw [List.append_assoc, ← acceptedIn_cons]
        rfl
      _ = (q.perform operation).2.taken?.toList ++ ((q.perform operation).1.commands ++
            acceptedIn ((q.perform operation).1.performAll rest).2) := by
        rw [hstep, List.append_assoc]
      _ = takenIn (q.performAll (operation :: rest)).2 ++
            (q.performAll (operation :: rest)).1.commands := by
        rw [hrest, ← List.append_assoc, ← takenIn_cons]
        rfl

/-- The next command to be taken is the first one that is there. -/
theorem perform_dequeue (q : CommandQueue) :
    (q.perform .dequeue).2 = .taken q.commands.head? := by
  obtain ⟨commands⟩ := q
  cases commands <;> rfl

/-! ## Agreement -/

/-- Whatever a queue holds and whatever prompt is pending, the queue accepts exactly the texts that
are accepted as an answer to the prompt, and where both refuse a text they do so for the same
reason, with the same position of a zero.  A text that is refused leaves the queue, one that is
accepted goes to its end.

After any operations what was there and what was accepted has been taken in that order, as far as
it has been taken; the rest is still there, and the next command to be taken is the first of it. -/
theorem admission_agrees (q : CommandQueue) (text : String) {e : Envelope}
    (hpending : e.kind? = .ok .input) :
    ((q.enqueue text).2 = .ok () ↔ (e.putReply (.input true text)).2 = .ok ()) ∧
      (∀ fault cause, (q.enqueue text).2 = .error fault →
        (e.putReply (.input true text)).2 = .error cause →
          ∃ reason, cause = .field reason ∧ SameReason text fault reason) ∧
      (∀ q' fault, q.enqueue text = (q', .error fault) → q' = q) ∧
      (∀ q', q.enqueue text = (q', .ok ()) → q'.commands = q.commands ++ [text]) ∧
      ∀ operations : List Operation,
        let (q', outcomes) := q.performAll operations
        let all := q.commands ++ acceptedIn outcomes
        all = takenIn outcomes ++ q'.commands ∧
          (q'.perform .dequeue).2 = .taken all[(takenIn outcomes).length]? ∧
          (q'.perform .look).2 = .looked (decide ((takenIn outcomes).length < all.length)) := by
  refine ⟨?_, ?_, fun _ _ => enqueue_eq_error, fun _ hok => (enqueue_eq_ok hok).2,
    fun operations => ?_⟩
  · rcases q.enqueue_cases text hpending with ⟨e', hok, hput⟩ | ⟨_, _, herror, hput, -⟩
    · rw [hok, hput]
      exact ⟨fun _ => rfl, fun _ => rfl⟩
    · rw [herror, hput]
      exact ⟨nofun, nofun⟩
  · intro fault cause hfault hcause
    rcases q.enqueue_cases text hpending with ⟨_, hok, -⟩ | ⟨_, _, herror, hput, hsame⟩
    · rw [hok] at hfault
      cases hfault
    · rw [herror] at hfault
      rw [hput] at hcause
      cases hfault
      cases hcause
      exact ⟨_, rfl, hsame⟩
  · have hbalance := q.balance operations
    refine ⟨hbalance, ?_, ?_⟩
    · rw [perform_dequeue, hbalance, List.getElem?_append_right (Nat.le_refl _), Nat.sub_self,
        List.head?_eq_getElem?]
    · rw [hbalance, List.length_append]
      cases hcommands : (q.performAll operations).1.commands with
      | nil => simp [perform, isEmpty, hcommands]
      | cons first rest => simp [perform, isEmpty, hcommands]

/-- Behind a character of two units, a zero stands at position two for the queue as for the
envelope. -/
theorem admission_agrees_pair :
    ∃ e : Envelope, e.kind? = .ok .input ∧
      (⟨["go"]⟩ : CommandQueue).enqueue "😀\x00" = (⟨["go"]⟩, .error (.commandHasNul 2)) ∧
      (e.putReply (.input true "😀\x00")).2 =
        .error (.field (.embeddedNul "input answer" 2)) := by
  have hfits : (Event.input "> " true).Fits :=
    (Event.fits_input _ _).mpr ⟨by decide, by decide⟩
  have hpending := Envelope.kind?_putEvent Envelope.zero hfits
  have hnul : Wide.nulPosition "😀\x00" = some 2 := by decide
  have henqueue : ((⟨["go"]⟩ : CommandQueue).enqueue "😀\x00").2 = .error (.commandHasNul 2) := by
    simp only [enqueue, refusal?, hnul]
  obtain ⟨hiff, hreason, hrefused, -, -⟩ := admission_agrees ⟨["go"]⟩ "😀\x00" hpending
  refine ⟨_, hpending, Prod.ext (hrefused _ _ (Prod.ext rfl henqueue)) henqueue, ?_⟩
  cases hput : ((Envelope.zero.putEvent (.input "> " true)).1.putReply
      (.input true "😀\x00")).2 with
  | ok done =>
    rw [hiff.mpr hput] at henqueue
    cases henqueue
  | error cause =>
    obtain ⟨_, rfl, hsame⟩ := hreason _ _ henqueue hput
    cases hsame
    rfl

end CommandQueue

end ConsoleLink
