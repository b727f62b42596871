import ConsoleLink.Proofs.Envelope.Decoding

/-!
# The footprint of a write

An event changes the header and the bytes of its own fields, a reply the fields that its event
has left for it.  Of a text field these are the units of the text and its end mark, so that
padding, the rest of the field and all that lies behind the payload stay as they are.

* `Event.footprint` and `Reply.footprint` are those bytes; `covers_message` and
  `covers_reply_message` compare them with the bytes that are written.
* `event?_congr` says which bytes an event is read from, `event?_putReply` that a reply leaves the
  event, and `event?_answered` what has become of the prompt that a command has answered.
* `writes_footprint` puts this together for every previous content.
-/

namespace ConsoleLink

/-! ## Footprints -/

/-- How many bytes a text takes up in its field: two for each unit, and two for its end mark. -/
def textBytes (t : String) : Nat := 2 * (Wide.length t + 1)

theorem offset_textPart (field : Layout.TextField × String) :
    (textPart field).1 = field.1.offset := rfl

theorem length_textPart (field : Layout.TextField × String) :
    (textPart field).2.length = textBytes field.2 := by
  rw [textPart, Word.length_flatMap_bytes16, Wide.length_stored, textBytes]

/-- The bytes that an event changes, as runs with their offsets and lengths.  The header comes
first. -/
def Event.footprint : Event → List (Nat × Nat)
  | .print message _ => [(0, 12), (12, textBytes message), (20492, 1), (20493, 1)]
  | .input prompt _ => [(0, 12), (14, textBytes prompt), (12, 1), (13, 1), (20496, 4)]
  | .choice _ => [(0, 12), (12, 1), (16, 4), (20, 4), (24, 4), (28, 4)]
  | .title text => [(0, 12), (12, textBytes text)]
  | .init => [(0, 12), (12, 4), (16, 4), (20, 1)]
  | .progress report =>
    [(0, 12), (20, textBytes report.fileName), (2068, textBytes report.directory), (12, 4),
      (16, 4), (4116, 4), (4120, 4), (4124, 4), (4128, 1)]

/-- The bytes that a reply changes. -/
def Reply.footprint : Reply → List (Nat × Nat)
  | .ack => []
  | .input true answer => [(14, textBytes answer), (13, 1)]
  | .input false _ => [(13, 1)]
  | .choice _ => [(28, 4)]
  | .init .. => [(12, 4), (16, 4), (20, 1)]

theorem length_bytes32 (w : UInt32) : (Word.bytes32 w).length = 4 := rfl

/-- The header that is reset are the twelve bytes in front. -/
theorem covers_resetParts (j : Nat) : Covers (Message.runs Envelope.resetParts) j ↔ j < 12 := by
  simp only [Envelope.resetParts, Message.runs_cons, Message.runs_nil, covers_cons, covers_nil,
    or_false, length_bytes32, Layout.headerSize, Layout.headerVersion, Layout.headerEvent]
  omega

/-- The bytes of an event are those of its footprint. -/
theorem covers_message (event : Event) (j : Nat) :
    Covers event.message.runs j ↔ Covers event.footprint j := by
  -- the number of the kind is written into the header that was reset before
  have hnumber : Covers (Message.runs [(Layout.headerEvent, Word.bytes32 event.kind.tag)]) j →
      j < 12 := by
    simp only [Message.runs_cons, Message.runs_nil, covers_cons, covers_nil, or_false,
      length_bytes32, Layout.headerEvent]
    omega
  have hsplit : Covers event.message.runs j ↔
      j < 12 ∨ Covers (Message.runs (event.fields.map textPart)) j ∨
        Covers event.scalars.runs j := by
    simp only [Event.message, Message.runs_append, covers_append, covers_resetParts]
    constructor
    · rintro (((hheader | hfields) | hscalars) | hkind)
      · exact Or.inl hheader
      · exact Or.inr (Or.inl hfields)
      · exact Or.inr (Or.inr hscalars)
      · exact Or.inl (hnumber hkind)
    · rintro (hheader | hfields | hscalars)
      · exact Or.inl (Or.inl (Or.inl hheader))
      · exact Or.inl (Or.inl (Or.inr hfields))
      · exact Or.inl (Or.inr hscalars)
  rw [hsplit]
  cases event <;>
    simp only [Event.fields, Event.scalars, Event.footprint, List.map_cons, List.map_nil,
      Message.runs_cons, Message.runs_nil, covers_cons, covers_nil, or_false, false_or,
      length_textPart, length_bytes32, List.length_cons, List.length_nil, offset_textPart,
      Layout.printMessage,
      Layout.printFromBeginning, Layout.printError, Layout.inputPrompt, Layout.inputEcho,
      Layout.inputResult, Layout.inputTimer, Layout.choiceExpires, Layout.choiceTimer,
      Layout.choiceBreakValue, Layout.choiceExpiredValue, Layout.choiceResult, Layout.title,
      Layout.initInput, Layout.initOutput, Layout.initWantsProgress, Layout.progressFileName,
      Layout.progressDirectory, Layout.progressOperation, Layout.progressSide,
      Layout.progressOverall, Layout.progressFile, Layout.progressSpeed,
      Layout.progressCancel] <;>
    omega

/-- The bytes of a reply are those of its footprint. -/
theorem covers_reply_message (reply : Reply) (j : Nat) :
    Covers reply.message.runs j ↔ Covers reply.footprint j := by
  cases reply with
  | input accepted answer =>
    cases accepted with
    | true =>
      simp only [Reply.message, Reply.footprint, Message.runs_cons, Message.runs_nil, covers_cons,
        length_textPart, offset_textPart, Layout.inputAnswer, Layout.inputResult,
        List.length_singleton]
    | false => rfl
  | _ => rfl

/-! ## The event after its reply -/

/-- The fields that an event of a kind leaves for its reply. -/
def EventKind.outFields : EventKind → List (Nat × Nat)
  | .none | .print | .title | .progress => []
  | .input => [(13, 1)]
  | .choice => [(28, 4)]
  | .init => [(12, 4), (16, 4), (20, 1)]

/-- Replies lie in those fields, but for a command, which takes the place of the prompt. -/
theorem Reply.footprint_of_matches {reply : Reply} {kind : EventKind}
    (hmatch : reply.matchesKind kind = true) (hanswer : ∀ answer, reply ≠ .input true answer) :
    reply.footprint = kind.outFields := by
  cases reply with
  | input accepted answer =>
    cases accepted with
    | true => exact absurd rfl (hanswer answer)
    | false => cases kind <;> first | rfl | cases hmatch
  | _ => cases kind <;> first | rfl | cases hmatch

theorem Reply.kind_of_matches_input {accepted : Bool} {answer : String} {kind : EventKind}
    (hmatch : (Reply.input accepted answer).matchesKind kind = true) : kind = .input := by
  cases kind <;> first | rfl | cases hmatch

namespace Envelope

variable {e e' : Envelope} {kind : EventKind} {reply : Reply}

theorem eq_of_byteAt (h : ∀ j, e'.byteAt j = e.byteAt j) : e' = e := by
  have hbytes : e'.bytes = e.bytes := Vector.ext fun j hj => by
    simpa [byteAt, hj] using h j
  cases e
  cases e'
  exact congrArg Envelope.mk hbytes

/-- No reply lies in the header. -/
theorem not_covers_footprint (reply : Reply) {j : Nat} (hj : j < 12) :
    ¬Covers reply.footprint j := by
  cases reply with
  | input accepted answer =>
    cases accepted <;>
      simp only [Reply.footprint, covers_cons, covers_nil, or_false] <;> omega
  | ack => exact covers_nil j
  | choice | init =>
    simp only [Reply.footprint, covers_cons, covers_nil, or_false]
    omega

/-- What is read of an event does not depend on the fields for its reply. -/
theorem event?_congr (hkind : e.kind? = .ok kind) (hkind' : e'.kind? = .ok kind)
    (hsame : ∀ j, ¬Covers kind.outFields j → e'.byteAt j = e.byteAt j) :
    e'.event? = e.event? := by
  cases kind with
  | none => rw [event?_none hkind, event?_none hkind']
  | init => rw [event?_init hkind, event?_init hkind']
  | input =>
    have hbyte (j : Nat) (hj : j ≠ 13) : e'.byteAt j = e.byteAt j := by
      refine hsame j ?_
      simp only [EventKind.outFields, covers_cons, covers_nil, or_false]
      omega
    have htext : e'.text Layout.inputPrompt = e.text Layout.inputPrompt :=
      congrArg Wide.readField (units_congr fun j hj _ => hbyte j (Nat.ne_of_gt hj))
    have hecho : e'.flag Layout.inputEcho = e.flag Layout.inputEcho :=
      flag_congr (hbyte 12 (by decide))
    rw [event?_input hkind, event?_input hkind', htext, hecho]
  | choice =>
    have hbyte (j : Nat) (hj : j < 28) : e'.byteAt j = e.byteAt j := by
      refine hsame j ?_
      simp only [EventKind.outFields, covers_cons, covers_nil, or_false]
      omega
    have hword {i : Nat} (hi : i + 4 ≤ 28) : e'.get32 i = e.get32 i :=
      get32_congr fun j _ hj => hbyte j (Nat.lt_of_lt_of_le hj hi)
    have hexpires : e'.flag Layout.choiceExpires = e.flag Layout.choiceExpires :=
      flag_congr (hbyte 12 (by decide))
    have htimer : e'.get32 Layout.choiceTimer = e.get32 Layout.choiceTimer :=
      hword (by decide)
    have hbreak : e'.getInt Layout.choiceBreakValue = e.getInt Layout.choiceBreakValue :=
      congrArg UInt32.toInt32 (hword (by decide))
    have hexpired : e'.getInt Layout.choiceExpiredValue = e.getInt Layout.choiceExpiredValue :=
      congrArg UInt32.toInt32 (hword (by decide))
    rw [event?_choice hkind, event?_choice hkind', hexpires, htimer, hbreak, hexpired]
  | print | title | progress =>
    -- nothing is left for the reply to these, so every byte is the same
    have hbyte (j : Nat) : e'.byteAt j = e.byteAt j := hsame j (covers_nil j)
    rw [eq_of_byteAt hbyte]

/-- A reply leaves the header, so the kind stays pending. -/
theorem kind?_putMessage_reply (e : Envelope) (reply : Reply) :
    (e.putMessage reply.message).kind? = e.kind? := by
  refine kind?_congr fun j hj => byteAt_putMessage_of_not_covers e ?_
  rw [covers_reply_message]
  exact not_covers_footprint reply hj

/-- The prompt that a command has answered reads as the command. -/
theorem event?_answered {answer : String} (hkind : e.kind? = .ok .input)
    (hfits : FitsField answer 10240) :
    (e.putMessage (Reply.input true answer).message).event? =
      .ok (.input answer (e.flag Layout.inputEcho)) := by
  have hkind' := (kind?_putMessage_reply e (.input true answer)).trans hkind
  have htext : (e.putMessage (Reply.input true answer).message).text Layout.inputPrompt =
      answer := by
    show Wide.readField
      (((e.putUnits 14 (Wide.stored answer)).putFlag 13 true).units 14 10240) = answer
    rw [units_putFlag_of_ne _ _ (by omega)]
    exact readField_putUnits e hfits (by omega)
  have hecho : (e.putMessage (Reply.input true answer).message).flag Layout.inputEcho =
      e.flag Layout.inputEcho := by
    refine flag_congr (byteAt_putMessage_of_not_covers e ?_)
    rw [covers_reply_message]
    simp only [Reply.footprint, covers_cons, covers_nil, or_false, Layout.inputEcho]
    omega
  rw [event?_input hkind', htext, hecho]

/-- Any other reply leaves the event as it reads. -/
theorem event?_putReply (hkind : e.kind? = .ok kind) (hfits : reply.Fits kind)
    (hanswer : ∀ answer, reply ≠ .input true answer) :
    (e.putReply reply).1.event? = e.event? := by
  rw [putReply_of_message hkind hfits]
  refine event?_congr hkind ((kind?_putMessage_reply e reply).trans hkind) fun j hj => ?_
  rw [← Reply.footprint_of_matches hfits.1 hanswer, ← covers_reply_message] at hj
  exact byteAt_putMessage_of_not_covers e hj

/-- A reply that was written fits the kind that is pending. -/
theorem fits_of_putReply (h : (e.putReply reply).2 = .ok ()) :
    ∃ kind, e.kind? = .ok kind ∧ reply.Fits kind := by
  rcases refuses_or_fits e reply with ⟨fault, hrefuses⟩ | hfits
  · rw [putReply_of_refuses hrefuses] at h
    cases h
  · exact hfits

/-! ## Bytes inside and outside -/

section Bytes

variable {event : Event} {j : Nat}

theorem fst_putEvent (hfits : event.Fits) :
    (e.putEvent event).1 = e.putMessage event.message := by
  rw [putEvent_of_message e hfits]

theorem fst_putReply (hkind : e.kind? = .ok kind) (hfits : reply.Fits kind) :
    (e.putReply reply).1 = e.putMessage reply.message := by
  rw [putReply_of_message hkind hfits]

theorem byteAt_putEvent_of_not_covers (hfits : event.Fits) (hout : ¬Covers event.footprint j) :
    (e.putEvent event).1.byteAt j = e.byteAt j := by
  rw [← covers_message] at hout
  rw [fst_putEvent hfits, byteAt_putMessage_of_not_covers e hout]

theorem byteAt_putEvent_of_covers (hfits : event.Fits) (hin : Covers event.footprint j) :
    (e.putEvent event).1.byteAt j = (e'.putEvent event).1.byteAt j := by
  rw [← covers_message] at hin
  rw [fst_putEvent hfits, fst_putEvent hfits, byteAt_putMessage_of_covers e e' hin]

theorem byteAt_putReply_of_not_covers (hkind : e.kind? = .ok kind) (hfits : reply.Fits kind)
    (hout : ¬Covers reply.footprint j) : (e.putReply reply).1.byteAt j = e.byteAt j := by
  rw [← covers_reply_message] at hout
  rw [fst_putReply hkind hfits, byteAt_putMessage_of_not_covers e hout]

/-- The kinds need not be the same: an acknowledgement is one reply to several of them. -/
theorem byteAt_putReply_of_covers {kind' : EventKind} (hkind : e.kind? = .ok kind)
    (hfits : reply.Fits kind) (hkind' : e'.kind? = .ok kind') (hfits' : reply.Fits kind')
    (hin : Covers reply.footprint j) :
    (e.putReply reply).1.byteAt j = (e'.putReply reply).1.byteAt j := by
  rw [← covers_reply_message] at hin
  rw [fst_putReply hkind hfits, fst_putReply hkind' hfits', byteAt_putMessage_of_covers e e' hin]

end Bytes

/-! ## All bytes -/

/-- Whatever an envelope held, an event that is written changes the header and its own fields,
and what these hold then does not depend on what they held.  A reply that is written changes
what its event has left for it: nothing for an acknowledgement, the result and the units of an
accepted answer for a prompt, the choice, or the three fields of a first event.  The event then
still reads as before, but for a prompt that a command has answered: it reads as the command. -/
theorem writes_footprint (e : Envelope) :
    (∀ event, (e.putEvent event).2 = .ok () →
        (∀ j, ¬Covers event.footprint j → (e.putEvent event).1.byteAt j = e.byteAt j) ∧
          ∀ e' j, Covers event.footprint j →
            (e.putEvent event).1.byteAt j = (putEvent e' event).1.byteAt j) ∧
      ∀ reply, (e.putReply reply).2 = .ok () →
        (∀ j, ¬Covers reply.footprint j → (e.putReply reply).1.byteAt j = e.byteAt j) ∧
          (∀ e', (putReply e' reply).2 = .ok () → ∀ j, Covers reply.footprint j →
            (e.putReply reply).1.byteAt j = (putReply e' reply).1.byteAt j) ∧
          ((∀ answer, reply ≠ .input true answer) →
            (e.putReply reply).1.event? = e.event?) ∧
          ∀ answer, reply = .input true answer →
            ∃ prompt echo, e.event? = .ok (.input prompt echo) ∧
              (e.putReply reply).1.event? = .ok (.input answer echo) := by
  refine ⟨fun event hput => ?_, fun reply hput => ?_⟩
  · have hfits := (putEvent_snd_iff e event).mp hput
    exact ⟨fun j => byteAt_putEvent_of_not_covers hfits,
      fun e' j => byteAt_putEvent_of_covers hfits⟩
  · obtain ⟨kind, hkind, hfits⟩ := fits_of_putReply hput
    refine ⟨fun j => byteAt_putReply_of_not_covers hkind hfits, fun e' hput' j => ?_, ?_, ?_⟩
    · obtain ⟨kind', hkind', hfits'⟩ := fits_of_putReply hput'
      exact byteAt_putReply_of_covers hkind hfits hkind' hfits'
    · exact event?_putReply hkind hfits
    · rintro answer rfl
      obtain rfl := Reply.kind_of_matches_input hfits.1
      rw [putReply_of_message hkind hfits]
      exact ⟨_, _, event?_input hkind, event?_answered hkind (hfits.2 answer rfl)⟩

end Envelope

end ConsoleLink
