import ConsoleLink.Proofs.Envelope.Fields
import ConsoleLink.Proofs.Text.Wide

/-!
# Events and replies survive the envelope

Whatever an envelope held before, what one party writes into it is what the other
party reads.

* `FitsField`, `Event.Fits` and `Reply.Fits` say what an envelope can carry,
  `Event.onWire` and `Reply.onWire` what arrives of it.
* Fields and header: `putText_of_fits`, `readField_putUnits`, `kind?_setKind` and
  `kind?_congr`.
* Events: the `putPayload_` lemmas give the writes of each kind, `event?_putEvent`
  reads the event back and `reply?_putEvent` reads the reply that nobody has given.
* Replies: `putReply_of_fits` writes a reply and reads it back.
* `event_round_trip` is the law of events for every previous content.
-/

namespace ConsoleLink

/-! ## What an envelope can carry -/

/-- The texts of an event, each with the number of units of its field. -/
def Event.texts : Event → List (String × Nat)
  | .print message _ => [(message, 10240)]
  | .input prompt _ => [(prompt, 10240)]
  | .choice _ => []
  | .title text => [(text, 10240)]
  | .init => []
  | .progress report => [(report.fileName, 1024), (report.directory, 1024)]

/-- A text fits a field if it holds no zero and is shorter than the field. -/
def FitsField (text : String) (capacity : Nat) : Prop :=
  '\x00' ∉ text.toList ∧ Wide.length text < capacity

instance (text : String) (capacity : Nat) : Decidable (FitsField text capacity) :=
  inferInstanceAs (Decidable (_ ∧ _))

/-- An event fits an envelope if each of its texts fits its field. -/
def Event.Fits (event : Event) : Prop := ∀ field ∈ event.texts, FitsField field.1 field.2

namespace Event

@[simp] theorem fits_print (message : String) (fromBeginning : Bool) :
    (print message fromBeginning).Fits ↔ FitsField message 10240 := by
  simp [Fits, texts]

@[simp] theorem fits_input (prompt : String) (echo : Bool) :
    (input prompt echo).Fits ↔ FitsField prompt 10240 := by
  simp [Fits, texts]

@[simp] theorem fits_choice (prompt : Prompt) : (choice prompt).Fits := by
  simp [Fits, texts]

@[simp] theorem fits_title (text : String) : (title text).Fits ↔ FitsField text 10240 := by
  simp [Fits, texts]

@[simp] theorem fits_init : init.Fits := by
  simp [Fits, texts]

@[simp] theorem fits_progress (report : Report) :
    (progress report).Fits ↔ FitsField report.fileName 1024 ∧ FitsField report.directory 1024 := by
  simp [Fits, texts]

end Event

/-- What the other party reads of an event: time limits are whole milliseconds,
and at most what a word holds. -/
def Event.onWire : Event → Event
  | .choice prompt =>
    .choice { prompt with timeout := Span.ofMillis (min prompt.timeout.toMillis 4294967295) }
  | event => event

/-- A reply fits a kind of events if it is one for that kind and its answer, if it
has an accepted one, fits the answer field. -/
def Reply.Fits (reply : Reply) (kind : EventKind) : Prop :=
  reply.matchesKind kind = true ∧
    ∀ answer, reply = .input true answer → FitsField answer 10240

@[simp] theorem Reply.fits_input (answer : String) :
    (Reply.input true answer).Fits .input ↔ FitsField answer 10240 := by
  simp [Fits, matchesKind]

/-- What the other party reads of a reply: nothing is left of an answer that was
not accepted. -/
def Reply.onWire : Reply → Reply
  | .input false _ => .input false ""
  | reply => reply

@[simp] theorem Event.kind_onWire (event : Event) : event.onWire.kind = event.kind := by
  cases event <;> rfl

namespace Envelope

/-! ## Text fields -/

theorem putText_of_fits (e : Envelope) (f : Layout.TextField) {t : String}
    (h : FitsField t f.capacity) :
    e.putText f t = .ok (e.putUnits f.offset (Wide.stored t)) := by
  rw [putText, (Wide.check_eq_ok_iff f.label t f.capacity).mpr h]
  rfl

/-- A text that was stored fits its field. -/
theorem fits_of_putText {e e' : Envelope} {f : Layout.TextField} {t : String}
    (h : e.putText f t = .ok e') : FitsField t f.capacity := by
  apply (Wide.check_eq_ok_iff f.label t f.capacity).mp
  cases hcheck : Wide.check f.label t f.capacity with
  | ok => rfl
  | error fault =>
    rw [putText, hcheck] at h
    cases h

/-- A text field gives back the text that was stored in it. -/
theorem readField_putUnits (e : Envelope) {offset capacity : Nat} {t : String}
    (h : FitsField t capacity) (hsize : offset + 2 * capacity ≤ 20500) :
    Wide.readField ((e.putUnits offset (Wide.stored t)).units offset capacity) = t := by
  have hlength : (Wide.stored t).length ≤ capacity := by
    rw [Wide.length_stored]
    exact h.2
  rw [units_putUnits e _ hlength hsize, Wide.readField_stored h.1]

/-! ## The header -/

/-- The header names the size and the version of this layout. -/
def HasHeader (e : Envelope) : Prop :=
  e.get32 Layout.headerSize = size.toUInt32 ∧ e.get32 Layout.headerVersion = Layout.version

theorem hasHeader_reset (e : Envelope) : e.reset.HasHeader := by
  constructor
  · rw [reset, get32_put32_of_ne, get32_put32_of_ne, get32_put32] <;> decide
  · rw [reset, get32_put32_of_ne, get32_put32] <;> decide

/-- The kind that was set is read back. -/
theorem kind?_setKind {e : Envelope} (h : e.HasHeader) (k : EventKind) :
    (e.setKind k).kind? = .ok k := by
  have hsize : (e.setKind k).get32 Layout.headerSize = size.toUInt32 := by
    rw [setKind, get32_put32_of_ne e _ (by decide), h.1]
  have hversion : (e.setKind k).get32 Layout.headerVersion = Layout.version := by
    rw [setKind, get32_put32_of_ne e _ (by decide), h.2]
  have hevent : (e.setKind k).get32 Layout.headerEvent = k.tag := by
    rw [setKind, get32_put32 e _ (by decide)]
  rw [kind?, if_pos ⟨hsize, hversion⟩, hevent, EventKind.ofTag_tag]

/-! ## Payloads that fit -/

section Payload

variable (e : Envelope)

theorem putPayload_print {message : String} (fromBeginning : Bool)
    (h : FitsField message 10240) :
    e.putPayload (.print message fromBeginning) =
      (((e.putUnits 12 (Wide.stored message)).putFlag 20492 fromBeginning).putFlag 20493 false,
        .ok ()) := by
  rw [putPayload, putText_of_fits e Layout.printMessage h]
  rfl

theorem putPayload_input {prompt : String} (echo : Bool) (h : FitsField prompt 10240) :
    e.putPayload (.input prompt echo) =
      ((((e.putUnits 14 (Wide.stored prompt)).putFlag 12 echo).putFlag 13 false).put32 20496 0,
        .ok ()) := by
  rw [putPayload, putText_of_fits e Layout.inputPrompt h]
  rfl

theorem putPayload_title {text : String} (h : FitsField text 10240) :
    e.putPayload (.title text) = (e.putUnits 12 (Wide.stored text), .ok ()) := by
  rw [putPayload, putText_of_fits e Layout.title h]
  rfl

theorem putPayload_progress {report : Report} (hname : FitsField report.fileName 1024)
    (hdirectory : FitsField report.directory 1024) :
    e.putPayload (.progress report) =
      ((((((((e.putUnits 20 (Wide.stored report.fileName)).putUnits 2068
        (Wide.stored report.directory)).put32 12 report.operation.tag).put32 16
        report.side.tag).put32 4116 report.overallPercent).put32 4120
        report.filePercent).put32 4124 report.bytesPerSecond).putFlag 4128 false, .ok ()) := by
  simp only [putPayload, putText_of_fits e Layout.progressFileName hname,
    putText_of_fits _ Layout.progressDirectory hdirectory]
  rfl

end Payload

/-- An event whose payload was written fits. -/
theorem fits_of_putPayload {e : Envelope} {event : Event} (h : (e.putPayload event).2 = .ok ()) :
    event.Fits := by
  cases event with
  | print message fromBeginning =>
    simp only [putPayload] at h
    split at h
    · cases h
    · rename_i _ hput
      exact (Event.fits_print _ _).mpr (fits_of_putText hput)
  | input prompt echo =>
    simp only [putPayload] at h
    split at h
    · cases h
    · rename_i _ hput
      exact (Event.fits_input _ _).mpr (fits_of_putText hput)
  | choice prompt => exact Event.fits_choice prompt
  | title text =>
    simp only [putPayload] at h
    split at h
    · cases h
    · rename_i _ hput
      exact (Event.fits_title _).mpr (fits_of_putText hput)
  | init => exact Event.fits_init
  | progress report =>
    simp only [putPayload] at h
    split at h
    · cases h
    · rename_i _ hname
      split at h
      · cases h
      · rename_i _ hdirectory
        exact (Event.fits_progress _).mpr ⟨fits_of_putText hname, fits_of_putText hdirectory⟩

/-- The payload of an event that fits is written, and the header stays. -/
theorem putPayload_of_fits {e : Envelope} {event : Event} (h : event.Fits) :
    (e.putPayload event).2 = .ok () ∧
      ∀ j, j < 12 → (e.putPayload event).1.byteAt j = e.byteAt j := by
  cases event with
  | print message fromBeginning =>
    rw [putPayload_print e _ ((Event.fits_print _ _).mp h)]
    refine ⟨rfl, fun j hj => ?_⟩
    simp (disch := omega) only [byteAt_putFlag_of_ne, byteAt_putUnits_of_ne]
  | input prompt echo =>
    rw [putPayload_input e _ ((Event.fits_input _ _).mp h)]
    refine ⟨rfl, fun j hj => ?_⟩
    simp (disch := omega) only [byteAt_putFlag_of_ne, byteAt_putUnits_of_ne, byteAt_put32_of_ne]
  | choice prompt =>
    refine ⟨rfl, fun j hj => ?_⟩
    simp (disch := omega) only [putPayload, putInt, Layout.choiceExpires, Layout.choiceTimer,
      Layout.choiceBreakValue, Layout.choiceExpiredValue, Layout.choiceResult,
      byteAt_putFlag_of_ne, byteAt_put32_of_ne]
  | title text =>
    rw [putPayload_title e ((Event.fits_title _).mp h)]
    refine ⟨rfl, fun j hj => ?_⟩
    simp (disch := omega) only [byteAt_putUnits_of_ne]
  | init =>
    refine ⟨rfl, fun j hj => ?_⟩
    simp (disch := omega) only [putPayload, Layout.initInput, Layout.initOutput,
      Layout.initWantsProgress, byteAt_putFlag_of_ne, byteAt_put32_of_ne]
  | progress report =>
    obtain ⟨hname, hdirectory⟩ := (Event.fits_progress _).mp h
    rw [putPayload_progress e hname hdirectory]
    refine ⟨rfl, fun j hj => ?_⟩
    simp (disch := omega) only [byteAt_putFlag_of_ne, byteAt_put32_of_ne, byteAt_putUnits_of_ne]

theorem hasHeader_putPayload {e : Envelope} {event : Event} (h : event.Fits)
    (hheader : e.HasHeader) : (e.putPayload event).1.HasHeader := by
  have hbytes := (putPayload_of_fits (e := e) h).2
  constructor
  · rw [← hheader.1]
    exact get32_congr fun j _ hj => hbytes j (Nat.lt_trans hj (by decide))
  · rw [← hheader.2]
    exact get32_congr fun j _ hj => hbytes j (Nat.lt_trans hj (by decide))

/-! ## Events -/

/-- What an event that fits leaves behind: its payload and its kind. -/
theorem putEvent_of_fits (e : Envelope) {event : Event} (h : event.Fits) :
    e.putEvent event = ((e.reset.putPayload event).1.setKind event.kind, .ok ()) := by
  have hok := (putPayload_of_fits (e := e.reset) h).1
  rw [putEvent]
  cases hpayload : e.reset.putPayload event with
  | mk e' outcome =>
    rw [hpayload] at hok
    cases hok
    rfl

/-- Writing an event succeeds exactly if the event fits. -/
theorem putEvent_snd_iff (e : Envelope) (event : Event) :
    (e.putEvent event).2 = .ok () ↔ event.Fits := by
  constructor
  · intro h
    apply fits_of_putPayload (e := e.reset)
    rw [putEvent] at h
    cases hpayload : e.reset.putPayload event with
    | mk e' outcome =>
      rw [hpayload] at h
      cases outcome with
      | ok => rfl
      | error fault => cases h
  · intro h
    rw [putEvent_of_fits e h]

/-- The kind of an event that fits is pending. -/
theorem kind?_putEvent (e : Envelope) {event : Event} (h : event.Fits) :
    (e.putEvent event).1.kind? = .ok event.kind := by
  rw [putEvent_of_fits e h]
  exact kind?_setKind (hasHeader_putPayload h (hasHeader_reset e)) event.kind

theorem toNat_timerOf (timeout : Span) :
    (timerOf timeout).toNat = min timeout.toMillis 4294967295 := by
  have hlt : min timeout.toMillis 4294967295 < 4294967296 := by omega
  exact UInt32.toNat_ofNat_of_lt' hlt

/-- **An event that fits is read back.** -/
theorem event?_putEvent (e : Envelope) {event : Event} (h : event.Fits) :
    (e.putEvent event).1.event? = .ok event.onWire := by
  have hkind := kind?_putEvent e h
  rw [putEvent_of_fits e h] at hkind ⊢
  simp only [event?, hkind]
  generalize e.reset = e
  cases event with
  | print message fromBeginning =>
    have hfits := (Event.fits_print _ _).mp h
    rw [putPayload_print e _ hfits]
    simp (disch := omega) only [text, setKind, Layout.printMessage, Layout.printFromBeginning,
      Layout.headerEvent, units_put32_of_ne, units_putFlag_of_ne, readField_putUnits e hfits,
      flag_put32_of_ne, flag_putFlag_of_ne, flag_putFlag]
    rfl
  | input prompt echo =>
    have hfits := (Event.fits_input _ _).mp h
    rw [putPayload_input e _ hfits]
    simp (disch := omega) only [text, setKind, Layout.inputPrompt, Layout.inputEcho,
      Layout.headerEvent, units_put32_of_ne, units_putFlag_of_ne, readField_putUnits e hfits,
      flag_put32_of_ne, flag_putFlag_of_ne, flag_putFlag]
    rfl
  | choice prompt =>
    simp (disch := omega) only [putPayload, setKind, getInt, putInt, Layout.choiceExpires,
      Layout.choiceTimer, Layout.choiceBreakValue, Layout.choiceExpiredValue,
      Layout.choiceResult, Layout.headerEvent, flag_put32_of_ne, flag_putFlag,
      get32_put32_of_ne, get32_put32, toNat_timerOf, Int32.toInt32_toUInt32]
    rfl
  | title text =>
    have hfits := (Event.fits_title _).mp h
    rw [putPayload_title e hfits]
    simp (disch := omega) only [Envelope.text, setKind, Layout.title, Layout.headerEvent,
      units_put32_of_ne, readField_putUnits e hfits]
    rfl
  | init => rfl
  | progress report =>
    obtain ⟨hname, hdirectory⟩ := (Event.fits_progress _).mp h
    have hlength : (Wide.stored report.fileName).length ≤ 1024 := by
      rw [Wide.length_stored]
      exact hname.2
    rw [putPayload_progress e hname hdirectory]
    simp (disch := omega) only [text, setKind, Layout.progressFileName, Layout.progressDirectory,
      Layout.progressOperation, Layout.progressSide, Layout.progressOverall,
      Layout.progressFile, Layout.progressSpeed, Layout.headerEvent, units_put32_of_ne,
      units_putFlag_of_ne, units_putUnits_of_ne, readField_putUnits _ hname,
      readField_putUnits _ hdirectory, get32_putFlag_of_ne, get32_put32_of_ne, get32_put32,
      Operation.ofTag_tag, Side.ofTag_tag]
    rfl

/-- Before anybody answers, an event reads back the neutral reply of its kind. -/
theorem reply?_putEvent (e : Envelope) {event : Event} (h : event.Fits) :
    ∃ reply, Reply.neutral event.kind = some reply ∧
      (e.putEvent event).1.reply? = .ok reply := by
  have hkind := kind?_putEvent e h
  rw [putEvent_of_fits e h] at hkind ⊢
  simp only [reply?, hkind]
  generalize e.reset = e
  cases event with
  | print message fromBeginning => exact ⟨.ack, rfl, rfl⟩
  | input prompt echo =>
    refine ⟨.input false "", rfl, ?_⟩
    rw [putPayload_input e _ ((Event.fits_input _ _).mp h)]
    simp (disch := omega) only [setKind, Layout.inputResult, Layout.headerEvent,
      flag_put32_of_ne, flag_putFlag]
    rfl
  | choice prompt =>
    refine ⟨.choice 0, rfl, ?_⟩
    simp (disch := omega) only [putPayload, setKind, getInt, putInt, Layout.choiceResult,
      Layout.headerEvent, get32_put32_of_ne, get32_put32, Int32.toInt32_toUInt32]
    rfl
  | title text => exact ⟨.ack, rfl, rfl⟩
  | init =>
    refine ⟨.init .off .off false, rfl, ?_⟩
    simp (disch := omega) only [putPayload, setKind, Layout.initInput, Layout.initOutput,
      Layout.initWantsProgress, Layout.headerEvent, get32_put32_of_ne, get32_putFlag_of_ne,
      get32_put32, flag_put32_of_ne, flag_putFlag, Transport.ofTag_tag]
    rfl
  | progress report => exact ⟨.ack, rfl, rfl⟩

/-! ## Replies -/

/-- The pending kind depends on the header only. -/
theorem kind?_congr {e e' : Envelope} (h : ∀ j, j < 12 → e'.byteAt j = e.byteAt j) :
    e'.kind? = e.kind? := by
  have hword (i : Nat) (hi : i + 4 ≤ 12) : e'.get32 i = e.get32 i :=
    get32_congr fun j _ hj => h j (by omega)
  rw [kind?, kind?, hword Layout.headerSize (by decide), hword Layout.headerVersion (by decide),
    hword Layout.headerEvent (by decide)]

/-- **A reply that fits the pending kind is written and read back**, and the kind
stays pending. -/
theorem putReply_of_fits {e : Envelope} {kind : EventKind} {reply : Reply}
    (hkind : e.kind? = .ok kind) (h : reply.Fits kind) :
    ∃ e', e.putReply reply = (e', .ok ()) ∧ e'.kind? = .ok kind ∧
      e'.reply? = .ok reply.onWire := by
  obtain ⟨hmatch, hanswer⟩ := h
  have hkeep {e' : Envelope} (hbytes : ∀ j, j < 12 → e'.byteAt j = e.byteAt j) :
      e'.kind? = .ok kind := (kind?_congr hbytes).trans hkind
  cases reply with
  | ack =>
    refine ⟨e, ?_, hkind, ?_⟩
    · cases kind <;> simp_all [putReply, Reply.matchesKind]
    · cases kind <;> simp_all [reply?, Reply.matchesKind, Reply.onWire] <;> rfl
  | input accepted answer =>
    obtain rfl : kind = .input := by
      cases kind <;> simp_all [Reply.matchesKind]
    cases accepted with
    | false =>
      have hkind' : (e.putFlag Layout.inputResult false).kind? = .ok .input :=
        hkeep fun j hj => byteAt_putFlag_of_ne e _ (by simp only [Layout.inputResult]; omega)
      refine ⟨e.putFlag Layout.inputResult false, ?_, hkind', ?_⟩
      · simp only [putReply, hkind]
      · simp (disch := decide) only [reply?, hkind', flag_putFlag]
        rfl
    | true =>
      have hfits : FitsField answer 10240 := hanswer answer rfl
      have hkind' : ((e.putUnits 14 (Wide.stored answer)).putFlag 13 true).kind? =
          .ok .input := by
        refine hkeep fun j hj => ?_
        simp (disch := omega) only [byteAt_putFlag_of_ne, byteAt_putUnits_of_ne]
      refine ⟨(e.putUnits 14 (Wide.stored answer)).putFlag 13 true, ?_, hkind', ?_⟩
      · simp only [putReply, hkind, putText_of_fits e Layout.inputAnswer hfits]
        rfl
      · simp (disch := omega) only [reply?, hkind', text, Layout.inputAnswer,
          Layout.inputResult, flag_putFlag, units_putFlag_of_ne, readField_putUnits e hfits]
        rfl
  | choice result =>
    obtain rfl : kind = .choice := by
      cases kind <;> simp_all [Reply.matchesKind]
    have hkind' : (e.putInt Layout.choiceResult result).kind? = .ok .choice :=
      hkeep fun j hj => byteAt_put32_of_ne e _ (by simp only [Layout.choiceResult]; omega)
    refine ⟨e.putInt Layout.choiceResult result, ?_, hkind', ?_⟩
    · simp only [putReply, hkind]
    · simp (disch := decide) only [reply?, hkind', getInt_putInt]
      rfl
  | init input output wantsProgress =>
    obtain rfl : kind = .init := by
      cases kind <;> simp_all [Reply.matchesKind]
    have hkind' : (((e.put32 12 input.tag).put32 16 output.tag).putFlag 20
        wantsProgress).kind? = .ok .init := by
      refine hkeep fun j hj => ?_
      simp (disch := omega) only [byteAt_putFlag_of_ne, byteAt_put32_of_ne]
    refine ⟨((e.put32 12 input.tag).put32 16 output.tag).putFlag 20 wantsProgress, ?_, hkind', ?_⟩
    · simp only [putReply, hkind]
      rfl
    · simp (disch := omega) only [reply?, hkind', Layout.initInput, Layout.initOutput,
        Layout.initWantsProgress, get32_putFlag_of_ne, get32_put32_of_ne, get32_put32,
        flag_putFlag, Transport.ofTag_tag]
      rfl

/-- A reply that fits is accepted. -/
theorem putReply?_of_fits {e : Envelope} {kind : EventKind} {reply : Reply}
    (hkind : e.kind? = .ok kind) (h : reply.Fits kind) :
    ∃ e', e.putReply? reply = .ok e' ∧ e'.kind? = .ok kind ∧ e'.reply? = .ok reply.onWire := by
  obtain ⟨e', hput, hkind', hread⟩ := putReply_of_fits hkind h
  refine ⟨e', ?_, hkind', hread⟩
  rw [putReply?, hput]

/-! ## The round trip of an event -/

/-- Whatever an envelope held, an event is accepted exactly if its texts fit.  Then
the other party reads that event, with its time limit as the wire carries it, and
the reply that is read before anybody answers is the neutral one. -/
theorem event_round_trip (e : Envelope) (event : Event) :
    ((e.putEvent event).2 = .ok () ↔
        ∀ field ∈ event.texts, '\x00' ∉ field.1.toList ∧ Wide.length field.1 < field.2) ∧
      ((e.putEvent event).2 = .ok () →
        (e.putEvent event).1.event? = .ok event.onWire ∧
          ∃ reply, Reply.neutral event.kind = some reply ∧
            (e.putEvent event).1.reply? = .ok reply) := by
  refine ⟨putEvent_snd_iff e event, fun h => ?_⟩
  have hfits := (putEvent_snd_iff e event).mp h
  exact ⟨event?_putEvent e hfits, reply?_putEvent e hfits⟩

end Envelope

end ConsoleLink
