import ConsoleLink.Objects.Region
import ConsoleLink.Proofs.Envelope.Replies

/-!
# The bytes that are written into an envelope

Whatever an envelope holds, the same bytes are written into it for the same event, and for the
same reply.

* `Covers` says which bytes belong to some runs, `Message.runs` are those of a message, and
  `byteAt_putMessage_of_not_covers` and `byteAt_putMessage_of_covers` what becomes of a byte.
* `Event.fields` are the texts of an event with their fields, `Event.scalars` the bytes of its
  other fields, and `putPayload_eq` says that the texts are written first, one after the other.
* `Layout.TextField.Refuses` and `Event.Refused` say which fault is reported of a text, and of
  an event with several of them.
* `putEvent_of_message`, `putEvent_of_refuses` and `putReply_of_message` are the three outcomes
  of a write.
-/

namespace ConsoleLink

/-! ## Runs of bytes -/

/-- A byte belongs to one of several runs, each given by its offset and its length. -/
def Covers (runs : List (Nat × Nat)) (j : Nat) : Prop :=
  ∃ run ∈ runs, run.1 ≤ j ∧ j < run.1 + run.2

@[simp] theorem covers_nil (j : Nat) : ¬Covers [] j := by
  simp [Covers]

@[simp] theorem covers_cons (run : Nat × Nat) (runs : List (Nat × Nat)) (j : Nat) :
    Covers (run :: runs) j ↔ (run.1 ≤ j ∧ j < run.1 + run.2) ∨ Covers runs j := by
  simp [Covers]

theorem covers_append (runs runs' : List (Nat × Nat)) (j : Nat) :
    Covers (runs ++ runs') j ↔ Covers runs j ∨ Covers runs' j := by
  simp [Covers, or_and_right, exists_or]

/-- Where the parts of a message lie. -/
def Message.runs (m : Message) : List (Nat × Nat) := m.map fun part => (part.1, part.2.length)

@[simp] theorem Message.runs_nil : Message.runs [] = [] := rfl

@[simp] theorem Message.runs_cons (part : Nat × List UInt8) (m : Message) :
    Message.runs (part :: m) = (part.1, part.2.length) :: m.runs := rfl

theorem Message.runs_append (m m' : Message) :
    Message.runs (m ++ m') = m.runs ++ m'.runs := List.map_append

namespace Envelope

/-- The envelope with the parts of a message put into it, one after the other. -/
def putMessage (e : Envelope) (m : Message) : Envelope :=
  m.foldl (fun e part => e.put part.1 part.2) e

theorem putMessage_append (e : Envelope) (m m' : Message) :
    e.putMessage (m ++ m') = (e.putMessage m).putMessage m' := List.foldl_append

/-- A message leaves the bytes outside its parts. -/
theorem byteAt_putMessage_of_not_covers (e : Envelope) {m : Message} {j : Nat}
    (hout : ¬Covers m.runs j) : (e.putMessage m).byteAt j = e.byteAt j := by
  induction m generalizing e with
  | nil => rfl
  | cons part rest ih =>
    rw [Message.runs_cons, covers_cons, not_or] at hout
    have hput : (e.put part.1 part.2).byteAt j = e.byteAt j := byteAt_put_of_ne e (by omega)
    exact (ih (e.put part.1 part.2) hout.2).trans hput

theorem byteAt_of_size_le (e : Envelope) {j : Nat} (hj : size ≤ j) : e.byteAt j = 0 := by
  have hnone : e.bytes[j]? = none := Vector.getElem?_eq_none hj
  rw [byteAt, hnone]
  rfl

theorem byteAt_zero (j : Nat) : zero.byteAt j = 0 := by
  by_cases hj : j < 20500
  · simp [byteAt, zero, hj]
  · exact byteAt_of_size_le zero (Nat.not_lt.mp hj)

/-- The bytes of its parts do not depend on what stood there before. -/
theorem byteAt_putMessage_of_covers (e e' : Envelope) {m : Message} {j : Nat}
    (hin : Covers m.runs j) : (e.putMessage m).byteAt j = (e'.putMessage m).byteAt j := by
  by_cases hj : size ≤ j
  · rw [byteAt_of_size_le _ hj, byteAt_of_size_le _ hj]
  · induction m generalizing e e' with
    | nil => exact absurd hin (covers_nil j)
    | cons part rest ih =>
      show ((e.put part.1 part.2).putMessage rest).byteAt j =
        ((e'.put part.1 part.2).putMessage rest).byteAt j
      by_cases hrest : Covers (Message.runs rest) j
      · exact ih _ _ hrest
      · rw [Message.runs_cons, covers_cons] at hin
        have hpart := hin.resolve_right hrest
        have hwritten : part.1 ≤ j ∧ j < part.1 + part.2.length ∧ j < size := by omega
        rw [byteAt_putMessage_of_not_covers _ hrest, byteAt_putMessage_of_not_covers _ hrest,
          byteAt_put, byteAt_put, if_pos hwritten, if_pos hwritten]

end Envelope

/-! ## The fields of an event -/

/-- The texts of an event with their fields, in the order in which they are written. -/
def Event.fields : Event → List (Layout.TextField × String)
  | .print message _ => [(Layout.printMessage, message)]
  | .input prompt _ => [(Layout.inputPrompt, prompt)]
  | .choice _ => []
  | .title text => [(Layout.title, text)]
  | .init => []
  | .progress report =>
    [(Layout.progressFileName, report.fileName), (Layout.progressDirectory, report.directory)]

/-- The byte of a flag. -/
def flagByte (b : Bool) : UInt8 := if b then 1 else 0

/-- The bytes of a text in its field. -/
def textPart (field : Layout.TextField × String) : Nat × List UInt8 :=
  (field.1.offset, (Wide.stored field.2).flatMap Word.bytes16)

/-- The bytes of the other fields of an event. -/
def Event.scalars : Event → Message
  | .print _ fromBeginning =>
    [(Layout.printFromBeginning, [flagByte fromBeginning]), (Layout.printError, [0])]
  | .input _ echo =>
    [(Layout.inputEcho, [flagByte echo]), (Layout.inputResult, [0]),
      (Layout.inputTimer, Word.bytes32 0)]
  | .choice prompt =>
    [(Layout.choiceExpires, [flagByte prompt.expires]),
      (Layout.choiceTimer, Word.bytes32 (Envelope.timerOf prompt.timeout)),
      (Layout.choiceBreakValue, Word.bytes32 prompt.breakValue.toUInt32),
      (Layout.choiceExpiredValue, Word.bytes32 prompt.expiredValue.toUInt32),
      (Layout.choiceResult, Word.bytes32 0)]
  | .title _ => []
  | .init =>
    [(Layout.initInput, Word.bytes32 Transport.off.tag),
      (Layout.initOutput, Word.bytes32 Transport.off.tag), (Layout.initWantsProgress, [0])]
  | .progress report =>
    [(Layout.progressOperation, Word.bytes32 report.operation.tag),
      (Layout.progressSide, Word.bytes32 report.side.tag),
      (Layout.progressOverall, Word.bytes32 report.overallPercent),
      (Layout.progressFile, Word.bytes32 report.filePercent),
      (Layout.progressSpeed, Word.bytes32 report.bytesPerSecond), (Layout.progressCancel, [0])]

/-- An event fits if each of its texts fits its field. -/
theorem Event.fits_iff_fields (event : Event) :
    event.Fits ↔ ∀ field ∈ event.fields, FitsField field.2 field.1.capacity := by
  cases event <;> simp [fields, Layout.printMessage, Layout.inputPrompt, Layout.title,
    Layout.progressFileName, Layout.progressDirectory]

/-! ## Refusals -/

/-- Why a field refuses a text: it holds a zero, or else it is as long as the field. -/
inductive Layout.TextField.Refuses (f : Layout.TextField) (t : String) : FieldFault → Prop
  | nul {position : Nat} (hnul : Wide.nulPosition t = some position) :
      Refuses f t (.embeddedNul f.label position)
  | long (hnul : Wide.nulPosition t = none) (hlong : f.capacity ≤ Wide.length t) :
      Refuses f t (.tooLong f.label (Wide.length t) f.capacity)

theorem Layout.TextField.check_eq_error_iff {f : Layout.TextField} {t : String}
    {fault : FieldFault} :
    Wide.check f.label t f.capacity = .error fault ↔ f.Refuses t fault := by
  constructor
  · intro hcheck
    rw [Wide.check] at hcheck
    cases hnul : Wide.nulPosition t with
    | some position =>
      rw [hnul] at hcheck
      cases hcheck
      exact .nul hnul
    | none =>
      rw [hnul] at hcheck
      by_cases hlength : Wide.length t < f.capacity
      · simp [Wide.checkCapacity, hlength] at hcheck
      · simp only [Wide.checkCapacity, hlength, ↓reduceIte, Except.error.injEq] at hcheck
        subst hcheck
        exact .long hnul (Nat.not_lt.mp hlength)
  · intro hrefuses
    cases hrefuses with
    | nul hnul => rw [Wide.check, hnul]
    | long hnul hlong =>
      rw [Wide.check, hnul]
      exact if_neg (Nat.not_lt.mpr hlong)

theorem Layout.TextField.Refuses.not_fits {f : Layout.TextField} {t : String}
    {fault : FieldFault} (hrefuses : f.Refuses t fault) : ¬FitsField t f.capacity := by
  intro hfits
  have hcheck := Layout.TextField.check_eq_error_iff.mpr hrefuses
  rw [(Wide.check_eq_ok_iff f.label t f.capacity).mpr hfits] at hcheck
  cases hcheck

/-- The fault of an event: that of the first field which does not take its text. -/
def Event.Refused (event : Event) (fault : FieldFault) : Prop :=
  ∃ before field after, event.fields = before ++ field :: after ∧
    (∀ earlier ∈ before, FitsField earlier.2 earlier.1.capacity) ∧
      field.1.Refuses field.2 fault

theorem Event.Refused.not_fits {event : Event} {fault : FieldFault}
    (hrefused : event.Refused fault) : ¬event.Fits := by
  obtain ⟨before, field, after, hfields, -, hrefuses⟩ := hrefused
  intro hfits
  have hmem : field ∈ event.fields := by
    rw [hfields]
    exact List.mem_append_right before List.mem_cons_self
  exact hrefuses.not_fits ((Event.fits_iff_fields event).mp hfits field hmem)

/-- An event that does not fit has a fault. -/
theorem Event.exists_refused {event : Event} (hfits : ¬event.Fits) :
    ∃ fault, event.Refused fault := by
  rw [Event.fits_iff_fields] at hfits
  suffices hfirst : ∀ fields : List (Layout.TextField × String),
      (¬∀ field ∈ fields, FitsField field.2 field.1.capacity) →
        ∃ fault before field after, fields = before ++ field :: after ∧
          (∀ earlier ∈ before, FitsField earlier.2 earlier.1.capacity) ∧
            field.1.Refuses field.2 fault from hfirst _ hfits
  intro fields hfields
  induction fields with
  | nil => exact absurd nofun hfields
  | cons field rest ih =>
    cases hcheck : Wide.check field.1.label field.2 field.1.capacity with
    | error fault =>
      exact ⟨fault, [], field, rest, rfl, nofun, Layout.TextField.check_eq_error_iff.mp hcheck⟩
    | ok =>
      have hfield : FitsField field.2 field.1.capacity :=
        (Wide.check_eq_ok_iff _ _ _).mp hcheck
      have hrest : ¬∀ field ∈ rest, FitsField field.2 field.1.capacity := fun h =>
        hfields (List.forall_mem_cons.mpr ⟨hfield, h⟩)
      obtain ⟨fault, before, later, after, rfl, hbefore, hrefuses⟩ := ih hrest
      exact ⟨fault, field :: before, later, after, rfl,
        List.forall_mem_cons.mpr ⟨hfield, hbefore⟩, hrefuses⟩

namespace Envelope

variable (e : Envelope) {event : Event} {fault : FieldFault}

/-! ## Writing an event -/

/-- Stores texts until one is refused. -/
def putFields (e : Envelope) :
    List (Layout.TextField × String) → Envelope × Except FieldFault Unit
  | [] => (e, .ok ())
  | field :: rest =>
    match e.putText field.1 field.2 with
    | .error fault => (e, .error fault)
    | .ok e => putFields e rest

/-- The payload of an event are its texts, and if all of them were accepted, the other fields. -/
theorem putPayload_eq (event : Event) :
    e.putPayload event =
      match e.putFields event.fields with
      | (e, .error fault) => (e, .error fault)
      | (e, .ok ()) => (e.putMessage event.scalars, .ok ()) := by
  cases event with
  | print message fromBeginning =>
    simp only [putPayload, putFields, Event.fields]
    cases e.putText Layout.printMessage message <;> rfl
  | input prompt echo =>
    simp only [putPayload, putFields, Event.fields]
    cases e.putText Layout.inputPrompt prompt <;> rfl
  | choice prompt => rfl
  | title text =>
    simp only [putPayload, putFields, Event.fields]
    cases e.putText Layout.title text <;> rfl
  | init => rfl
  | progress report =>
    simp only [putPayload, putFields, Event.fields]
    cases e.putText Layout.progressFileName report.fileName with
    | error fault => rfl
    | ok e =>
      simp only []
      cases e.putText Layout.progressDirectory report.directory <;> rfl

/-- Texts that fit are stored, and those behind them are next. -/
theorem putFields_append {before : List (Layout.TextField × String)}
    (hfits : ∀ field ∈ before, FitsField field.2 field.1.capacity)
    (after : List (Layout.TextField × String)) :
    e.putFields (before ++ after) = (e.putMessage (before.map textPart)).putFields after := by
  induction before generalizing e with
  | nil => rfl
  | cons field rest ih =>
    obtain ⟨hfield, hrest⟩ := List.forall_mem_cons.mp hfits
    rw [List.cons_append, putFields, putText_of_fits e field.1 hfield]
    exact ih _ hrest

theorem putFields_of_refuses {field : Layout.TextField × String}
    (hrefuses : field.1.Refuses field.2 fault) (after : List (Layout.TextField × String)) :
    e.putFields (field :: after) = (e, .error fault) := by
  rw [putFields, putText, Layout.TextField.check_eq_error_iff.mpr hrefuses]
  rfl

/-- The bytes of the header that is reset. -/
def resetParts : Message :=
  [(Layout.headerSize, Word.bytes32 size.toUInt32),
    (Layout.headerVersion, Word.bytes32 Layout.version),
    (Layout.headerEvent, Word.bytes32 EventKind.none.tag)]

theorem putMessage_resetParts (e : Envelope) : e.putMessage resetParts = e.reset := rfl

end Envelope

/-- The bytes of an event. -/
def Event.message (event : Event) : Message :=
  Envelope.resetParts ++ event.fields.map textPart ++ event.scalars ++
    [(Layout.headerEvent, Word.bytes32 event.kind.tag)]

namespace Envelope

variable (e : Envelope) {event : Event} {fault : FieldFault}

/-- An event that fits is written as its bytes. -/
theorem putEvent_of_message (hfits : event.Fits) :
    e.putEvent event = (e.putMessage event.message, .ok ()) := by
  have hfields := putFields_append e.reset ((Event.fits_iff_fields event).mp hfits) []
  rw [List.append_nil] at hfields
  rw [putEvent, putPayload_eq, hfields]
  simp only [putFields, Event.message, putMessage_append]
  rfl

/-- Of an event that is refused, the texts before its fault are written, and nothing else. -/
theorem putEvent_of_refuses {before after : List (Layout.TextField × String)}
    {field : Layout.TextField × String} (hfields : event.fields = before ++ field :: after)
    (hbefore : ∀ earlier ∈ before, FitsField earlier.2 earlier.1.capacity)
    (hrefuses : field.1.Refuses field.2 fault) :
    e.putEvent event = (e.putMessage (resetParts ++ before.map textPart), .error fault) := by
  rw [putEvent, putPayload_eq, hfields, putFields_append e.reset hbefore,
    putFields_of_refuses _ hrefuses, putMessage_append]
  rfl

/-- The fault that is reported is the one of the event. -/
theorem putEvent_eq_error_iff :
    (e.putEvent event).2 = .error fault ↔ event.Refused fault := by
  constructor
  · intro herror
    have hfits : ¬event.Fits := fun h => by
      rw [putEvent_of_message e h] at herror
      cases herror
    obtain ⟨fault', before, field, after, hfields, hbefore, hrefuses⟩ :=
      Event.exists_refused hfits
    rw [putEvent_of_refuses e hfields hbefore hrefuses] at herror
    cases herror
    exact ⟨before, field, after, hfields, hbefore, hrefuses⟩
  · rintro ⟨before, field, after, hfields, hbefore, hrefuses⟩
    rw [putEvent_of_refuses e hfields hbefore hrefuses]

end Envelope

/-! ## Writing a reply -/

/-- The bytes of a reply. -/
def Reply.message : Reply → Message
  | .ack => []
  | .input true answer => [textPart (Layout.inputAnswer, answer), (Layout.inputResult, [1])]
  | .input false _ => [(Layout.inputResult, [0])]
  | .choice result => [(Layout.choiceResult, Word.bytes32 result.toUInt32)]
  | .init first second wantsProgress =>
    [(Layout.initInput, Word.bytes32 first.tag), (Layout.initOutput, Word.bytes32 second.tag),
      (Layout.initWantsProgress, [flagByte wantsProgress])]

/-- A reply that fits the pending kind is written as its bytes. -/
theorem Envelope.putReply_of_message {e : Envelope} {kind : EventKind} {reply : Reply}
    (hkind : e.kind? = .ok kind) (hfits : reply.Fits kind) :
    e.putReply reply = (e.putMessage reply.message, .ok ()) := by
  obtain ⟨hmatch, hanswer⟩ := hfits
  cases reply with
  | ack =>
    cases kind with
    | print | title | progress =>
      simp only [putReply, hkind]
      rfl
    | none | input | choice | init => cases hmatch
  | input accepted answer =>
    obtain rfl : kind = .input := by
      cases kind <;> first | rfl | cases hmatch
    cases accepted with
    | false =>
      simp only [putReply, hkind]
      rfl
    | true =>
      simp only [putReply, hkind, putText_of_fits e Layout.inputAnswer (hanswer answer rfl)]
      rfl
  | choice result =>
    obtain rfl : kind = .choice := by
      cases kind <;> first | rfl | cases hmatch
    simp only [putReply, hkind]
    rfl
  | init input output wantsProgress =>
    obtain rfl : kind = .init := by
      cases kind <;> first | rfl | cases hmatch
    simp only [putReply, hkind]
    rfl

end ConsoleLink
