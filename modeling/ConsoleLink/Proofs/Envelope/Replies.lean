import ConsoleLink.Proofs.Envelope.RoundTrip

/-!
# Which replies an envelope takes

A reply is written if the header is valid, if the reply is one for the pending kind and if
its answer fits.  Otherwise nothing is written at all.

* `kind?_eq_ok_iff` and `kind?_eq_error` say what the header tells of the pending event, and
  `SameHeader` when two envelopes tell the same.
* `kind?_of_event?` and `event?_eq_error` say the same of an event that is read.
* `Refuses` lists the reasons for a refusal, each of them where those before it do not
  apply, with the fault that is reported.
* `putReply_of_refuses` says that a refused reply leaves every byte, `refuses_or_fits` that
  there is nothing between a refusal and a fit.
* `reply_round_trip` is the law of replies for every previous content.
-/

namespace ConsoleLink

/-! ## Numbers of kinds -/

namespace EventKind

theorem ofTag_eq_ok_iff {tag : UInt32} {kind : EventKind} :
    ofTag tag = .ok kind ↔ tag = kind.tag := by
  constructor
  · intro h
    rw [ofTag.eq_def] at h
    split at h <;> cases h <;> rfl
  · rintro rfl
    exact ofTag_tag kind

theorem ofTag_eq_error {tag : UInt32} {fault : EnvelopeFault} (h : ofTag tag = .error fault) :
    (∀ kind : EventKind, tag ≠ kind.tag) ∧ fault = .unknownEvent tag := by
  constructor
  · rintro kind rfl
    rw [ofTag_tag] at h
    cases h
  · rw [ofTag.eq_def] at h
    split at h <;> cases h
    rfl

end EventKind

theorem Operation.ofTag_eq_error {tag : UInt32} {fault : EnvelopeFault}
    (h : ofTag tag = .error fault) : fault = .unknownOperation tag := by
  rw [ofTag.eq_def] at h
  split at h <;> cases h
  rfl

theorem Side.ofTag_eq_error {tag : UInt32} {fault : EnvelopeFault}
    (h : ofTag tag = .error fault) : fault = .unknownSide tag := by
  rw [ofTag.eq_def] at h
  split at h <;> cases h
  rfl

namespace Envelope

variable {e : Envelope} {reply : Reply} {kind : EventKind} {fault : EnvelopeFault}

/-! ## What the header tells -/

theorem kind?_of_hasHeader (h : e.HasHeader) :
    e.kind? = EventKind.ofTag (e.get32 Layout.headerEvent) := if_pos h

theorem kind?_of_not_hasHeader (h : ¬e.HasHeader) :
    e.kind? = .error (.headerMismatch (e.get32 Layout.headerSize)
      (e.get32 Layout.headerVersion)) := if_neg h

/-- A kind is pending exactly if the header is valid and holds the number of that kind. -/
theorem kind?_eq_ok_iff :
    e.kind? = .ok kind ↔ e.HasHeader ∧ e.get32 Layout.headerEvent = kind.tag := by
  by_cases hheader : e.HasHeader
  · rw [kind?_of_hasHeader hheader, EventKind.ofTag_eq_ok_iff, and_iff_right hheader]
  · rw [kind?_of_not_hasHeader hheader]
    exact ⟨nofun, fun h => absurd h.1 hheader⟩

/-- Without a pending kind either the header is not valid, or it holds an unknown number. -/
theorem kind?_eq_error (h : e.kind? = .error fault) :
    (¬e.HasHeader ∧
        fault = .headerMismatch (e.get32 Layout.headerSize) (e.get32 Layout.headerVersion)) ∨
      e.HasHeader ∧ (∀ kind : EventKind, e.get32 Layout.headerEvent ≠ kind.tag) ∧
        fault = .unknownEvent (e.get32 Layout.headerEvent) := by
  by_cases hheader : e.HasHeader
  · rw [kind?_of_hasHeader hheader] at h
    exact Or.inr ⟨hheader, EventKind.ofTag_eq_error h⟩
  · rw [kind?_of_not_hasHeader hheader] at h
    cases h
    exact Or.inl ⟨hheader, rfl⟩

/-- The three header words of two envelopes are the same. -/
def SameHeader (e e' : Envelope) : Prop :=
  e'.get32 Layout.headerSize = e.get32 Layout.headerSize ∧
    e'.get32 Layout.headerVersion = e.get32 Layout.headerVersion ∧
      e'.get32 Layout.headerEvent = e.get32 Layout.headerEvent

theorem SameHeader.kind? {e' : Envelope} (h : e.SameHeader e') : e'.kind? = e.kind? := by
  rw [Envelope.kind?, Envelope.kind?, h.1, h.2.1, h.2.2]

/-- An event is read only if its kind is pending. -/
theorem kind?_of_event? {event : Event} (h : e.event? = .ok event) :
    e.kind? = .ok event.kind := by
  simp only [event?, bind, Except.bind] at h
  cases hkind : e.kind? with
  | error fault => simp [hkind] at h
  | ok kind =>
    rw [hkind] at h
    cases kind with
    | none => cases h
    | progress =>
      simp only at h
      split at h
      · cases h
      · split at h <;> cases h
        rfl
    | _ =>
      cases h
      rfl

/-- A fault of the header or an unknown number in an event. -/
def IsUnreadable : EnvelopeFault → Prop
  | .headerMismatch .. | .unknownEvent _ | .unknownOperation _ | .unknownSide _ => True
  | _ => False

/-- Only the header and unknown numbers keep an event from being read. -/
theorem event?_eq_error (h : e.event? = .error fault) : IsUnreadable fault := by
  simp only [event?, bind, Except.bind] at h
  cases hkind : e.kind? with
  | error fault' =>
    rw [hkind] at h
    cases h
    obtain ⟨-, rfl⟩ | ⟨-, -, rfl⟩ := kind?_eq_error hkind
    · trivial
    · trivial
  | ok kind =>
    rw [hkind] at h
    cases kind with
    | none =>
      cases h
      trivial
    | progress =>
      simp only at h
      split at h
      · rename_i hoperation
        cases h
        rw [Operation.ofTag_eq_error hoperation]
        trivial
      · split at h
        · rename_i hside
          cases h
          rw [Side.ofTag_eq_error hside]
          trivial
        · cases h
    | _ => cases h

theorem kind?_reset (e : Envelope) : e.reset.kind? = .ok .none :=
  kind?_eq_ok_iff.mpr ⟨hasHeader_reset e, get32_put32 _ _ (by decide)⟩

/-- After a reset there is no event to read. -/
theorem event?_reset (e : Envelope) : e.reset.event? = .error (.unknownEvent 0) := by
  simp only [event?, kind?_reset]
  rfl

/-! ## Refusals -/

/-- Why a reply is refused.  The first reason that applies is the one that is reported. -/
inductive Refuses (e : Envelope) (reply : Reply) : EnvelopeFault → Prop
  /-- The header does not name the size and the version of this layout. -/
  | header (hheader : ¬e.HasHeader) :
      Refuses e reply
        (.headerMismatch (e.get32 Layout.headerSize) (e.get32 Layout.headerVersion))
  /-- No kind has the number of the pending event. -/
  | event (hheader : e.HasHeader)
      (hunknown : ∀ kind : EventKind, e.get32 Layout.headerEvent ≠ kind.tag) :
      Refuses e reply (.unknownEvent (e.get32 Layout.headerEvent))
  /-- The reply is not one for the pending kind. -/
  | mismatch {kind : EventKind} (hheader : e.HasHeader)
      (hkind : e.get32 Layout.headerEvent = kind.tag) (hother : reply.matchesKind kind = false) :
      Refuses e reply (.replyMismatch kind.name)
  /-- The accepted answer holds a zero. -/
  | nul {answer : String} {position : Nat} (hheader : e.HasHeader)
      (hkind : e.get32 Layout.headerEvent = EventKind.input.tag)
      (hreply : reply = .input true answer) (hnul : Wide.nulPosition answer = some position) :
      Refuses e reply (.field (.embeddedNul "input answer" position))
  /-- The accepted answer is as long as its field, or longer. -/
  | long {answer : String} (hheader : e.HasHeader)
      (hkind : e.get32 Layout.headerEvent = EventKind.input.tag)
      (hreply : reply = .input true answer) (hnul : Wide.nulPosition answer = none)
      (hlong : 10240 ≤ Wide.length answer) :
      Refuses e reply (.field (.tooLong "input answer" (Wide.length answer) 10240))

/-- A reply to another kind is refused before anything is written. -/
theorem putReply_of_mismatch (hkind : e.kind? = .ok kind)
    (hother : reply.matchesKind kind = false) :
    e.putReply reply = (e, .error (.replyMismatch kind.name)) := by
  rw [putReply, hkind]
  cases kind <;> cases reply <;> simp_all [Reply.matchesKind]

/-- An answer that its field does not take is refused before anything is written. -/
theorem putReply_of_check {answer : String} {fault : FieldFault} (hkind : e.kind? = .ok .input)
    (hcheck : Wide.check "input answer" answer 10240 = .error fault) :
    e.putReply (.input true answer) = (e, .error (.field fault)) := by
  have hput : e.putText Layout.inputAnswer answer = .error fault := by
    rw [putText, Layout.inputAnswer, hcheck]
    rfl
  simp only [putReply, hkind, hput]

/-- **A refused reply leaves every byte.** -/
theorem putReply_of_refuses (h : Refuses e reply fault) :
    e.putReply reply = (e, .error fault) := by
  cases h with
  | header hheader => rw [putReply, kind?_of_not_hasHeader hheader]
  | event hheader hunknown =>
    cases hkind : e.kind? with
    | ok kind => exact absurd (kind?_eq_ok_iff.mp hkind).2 (hunknown kind)
    | error fault =>
      obtain ⟨hnot, -⟩ | ⟨-, -, rfl⟩ := kind?_eq_error hkind
      · exact absurd hheader hnot
      · rw [putReply, hkind]
  | mismatch hheader hkind hother =>
    exact putReply_of_mismatch (kind?_eq_ok_iff.mpr ⟨hheader, hkind⟩) hother
  | nul hheader hkind hreply hnul =>
    rw [hreply]
    refine putReply_of_check (kind?_eq_ok_iff.mpr ⟨hheader, hkind⟩) ?_
    rw [Wide.check, hnul]
  | long hheader hkind hreply hnul hlong =>
    rw [hreply]
    refine putReply_of_check (kind?_eq_ok_iff.mpr ⟨hheader, hkind⟩) ?_
    rw [Wide.check, hnul]
    exact if_neg (Nat.not_lt.mpr hlong)

/-- A reply is refused, or a kind is pending that it fits. -/
theorem refuses_or_fits (e : Envelope) (reply : Reply) :
    (∃ fault, Refuses e reply fault) ∨ ∃ kind, e.kind? = .ok kind ∧ reply.Fits kind := by
  cases hkind : e.kind? with
  | error fault =>
    obtain ⟨hheader, -⟩ | ⟨hheader, hunknown, -⟩ := kind?_eq_error hkind
    · exact Or.inl ⟨_, .header hheader⟩
    · exact Or.inl ⟨_, .event hheader hunknown⟩
  | ok kind =>
    obtain ⟨hheader, htag⟩ := kind?_eq_ok_iff.mp hkind
    cases hmatch : reply.matchesKind kind with
    | false => exact Or.inl ⟨_, .mismatch hheader htag hmatch⟩
    | true =>
      by_cases hfits : reply.Fits kind
      · exact Or.inr ⟨kind, rfl, hfits⟩
      -- only an accepted answer can keep a reply of the right kind from fitting
      obtain ⟨answer, rfl, hanswer⟩ : ∃ answer, reply = .input true answer ∧
          ¬FitsField answer 10240 := by
        simpa [Reply.Fits, hmatch] using hfits
      obtain rfl : kind = .input := by
        cases kind <;> first | rfl | cases hmatch
      cases hnul : Wide.nulPosition answer with
      | some position => exact Or.inl ⟨_, .nul hheader htag rfl hnul⟩
      | none =>
        have hlong : 10240 ≤ Wide.length answer := Nat.not_lt.mp fun hshort =>
          hanswer ⟨(Wide.nulPosition_eq_none_iff answer).mp hnul, hshort⟩
        exact Or.inl ⟨_, .long hheader htag rfl hnul hlong⟩

/-! ## The round trip of a reply -/

/-- Whatever an envelope held, a reply is accepted exactly if the header is valid, the reply is
one for the pending kind and an accepted answer fits.  Then the other party reads that reply,
without its answer if that was not accepted, and the same kind is pending.  Otherwise the first
reason that applies is reported, and every byte stays. -/
theorem reply_round_trip (e : Envelope) (reply : Reply) :
    ((e.putReply reply).2 = .ok () ↔
        e.HasHeader ∧ ∃ kind : EventKind, e.get32 Layout.headerEvent = kind.tag ∧
          reply.matchesKind kind = true ∧ ∀ answer, reply = .input true answer →
            '\x00' ∉ answer.toList ∧ Wide.length answer < 10240) ∧
      ((e.putReply reply).2 = .ok () →
        (e.putReply reply).1.reply? = .ok reply.onWire ∧
          (e.putReply reply).1.kind? = e.kind?) ∧
      ∀ fault, ((e.putReply reply).2 = .error fault ↔ Refuses e reply fault) ∧
        ((e.putReply reply).2 = .error fault → (e.putReply reply).1 = e) := by
  rcases refuses_or_fits e reply with ⟨fault, hrefuses⟩ | ⟨kind, hkind, hfits⟩
  · have hput := putReply_of_refuses hrefuses
    refine ⟨⟨?_, ?_⟩, ?_, fun fault' => ⟨⟨?_, ?_⟩, ?_⟩⟩
    · rw [hput]
      nofun
    · rintro ⟨hheader, kind, htag, hfits⟩
      obtain ⟨e', hput, -⟩ := putReply_of_fits (kind?_eq_ok_iff.mpr ⟨hheader, htag⟩) hfits
      rw [hput]
    · rw [hput]
      nofun
    · rw [hput]
      rintro ⟨⟩
      exact hrefuses
    · intro hrefuses'
      rw [putReply_of_refuses hrefuses']
    · rw [hput]
      exact fun _ => rfl
  · obtain ⟨e', hput, hkind', hread⟩ := putReply_of_fits hkind hfits
    obtain ⟨hheader, htag⟩ := kind?_eq_ok_iff.mp hkind
    refine ⟨⟨?_, ?_⟩, ?_, fun fault' => ⟨⟨?_, ?_⟩, ?_⟩⟩
    · exact fun _ => ⟨hheader, kind, htag, hfits⟩
    · rw [hput]
      exact fun _ => rfl
    · rw [hput, hkind]
      exact fun _ => ⟨hread, hkind'⟩
    · rw [hput]
      nofun
    · intro hrefuses'
      rw [putReply_of_refuses hrefuses']
    · rw [hput]
      nofun

end Envelope

end ConsoleLink
