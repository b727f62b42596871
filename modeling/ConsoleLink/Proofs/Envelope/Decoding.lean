import ConsoleLink.Proofs.Envelope.Parts
import ConsoleLink.Proofs.Text.Mending

/-!
# What can be read from any bytes

The other party may leave any bytes in an envelope.  An event is read from them if the header
and the numbers in them are known; its texts may be anything, also such that no writer has left.
What was read can be written again, unless one of its texts filled its field without an end mark.

* `event?_print` and its companions are what is read where a kind is pending.
* `Unreadable` lists the reasons for which nothing is read, and `event?_eq_error_iff` says that
  there are no others.
* `fields_of_event?` and `onWire_of_event?` say what an event that was read is made of,
  `deadline?_of_event?` that a clock shows when the time of a prompt is over, and
  `fits_text_iff` and `refuses_text_iff` what becomes of its texts when they are stored again;
  `units_putText` says that a text is stored in an envelope as in a field of its own.
* `reading_canonical` puts this together for all bytes.
-/

namespace ConsoleLink

/-! ## Numbers -/

theorem Operation.ofTag_of_ne {tag : UInt32} (htag : tag ≠ 0) :
    ofTag tag = .error (.unknownOperation tag) := by
  rw [ofTag.eq_def]
  split
  · contradiction
  · rfl

theorem Side.ofTag_of_ne {tag : UInt32} (hlocal : tag ≠ 0) (hremote : tag ≠ 1) :
    ofTag tag = .error (.unknownSide tag) := by
  rw [ofTag.eq_def]
  split
  · contradiction
  · contradiction
  · rfl

/-- The numbers of the kinds are those up to six. -/
theorem EventKind.not_le_six {tag : UInt32} (h : ∀ kind : EventKind, tag ≠ kind.tag) :
    ¬tag ≤ 6 := by
  have hne (kind : EventKind) : tag.toNat ≠ kind.tag.toNat := fun heq =>
    h kind (UInt32.toNat_inj.mp heq)
  have h₀ : tag.toNat ≠ 0 := hne .none
  have h₁ : tag.toNat ≠ 1 := hne .print
  have h₂ : tag.toNat ≠ 2 := hne .input
  have h₃ : tag.toNat ≠ 3 := hne .choice
  have h₄ : tag.toNat ≠ 4 := hne .title
  have h₅ : tag.toNat ≠ 5 := hne .init
  have h₆ : tag.toNat ≠ 6 := hne .progress
  rw [UInt32.le_iff_toNat_le]
  show ¬tag.toNat ≤ 6
  omega

/-- The text fields of a kind, in the order in which they are written. -/
def EventKind.textFields : EventKind → List Layout.TextField
  | .none | .choice | .init => []
  | .print => [Layout.printMessage]
  | .input => [Layout.inputPrompt]
  | .title => [Layout.title]
  | .progress => [Layout.progressFileName, Layout.progressDirectory]

namespace Envelope

variable {e : Envelope}

/-! ## Reading a pending event -/

section Kinds

theorem event?_none (hkind : e.kind? = .ok .none) : e.event? = .error (.unknownEvent 0) := by
  rw [event?, hkind]
  rfl

theorem event?_print (hkind : e.kind? = .ok .print) :
    e.event? =
      .ok (.print (e.text Layout.printMessage) (e.flag Layout.printFromBeginning)) := by
  rw [event?, hkind]
  rfl

theorem event?_input (hkind : e.kind? = .ok .input) :
    e.event? = .ok (.input (e.text Layout.inputPrompt) (e.flag Layout.inputEcho)) := by
  rw [event?, hkind]
  rfl

theorem event?_choice (hkind : e.kind? = .ok .choice) :
    e.event? =
      .ok (.choice
        { expires := e.flag Layout.choiceExpires
          timeout := Span.ofMillis (e.get32 Layout.choiceTimer).toNat
          breakValue := e.getInt Layout.choiceBreakValue
          expiredValue := e.getInt Layout.choiceExpiredValue }) := by
  rw [event?, hkind]
  rfl

theorem event?_title (hkind : e.kind? = .ok .title) :
    e.event? = .ok (.title (e.text Layout.title)) := by
  rw [event?, hkind]
  rfl

theorem event?_init (hkind : e.kind? = .ok .init) : e.event? = .ok .init := by
  rw [event?, hkind]
  rfl

/-- The report that is read if its two numbers are known. -/
def report (e : Envelope) (operation : Operation) (side : Side) : Report where
  operation := operation
  side := side
  fileName := e.text Layout.progressFileName
  directory := e.text Layout.progressDirectory
  overallPercent := e.get32 Layout.progressOverall
  filePercent := e.get32 Layout.progressFile
  bytesPerSecond := e.get32 Layout.progressSpeed

theorem event?_progress (hkind : e.kind? = .ok .progress) :
    e.event? = do
      let operation ← Operation.ofTag (e.get32 Layout.progressOperation)
      let side ← Side.ofTag (e.get32 Layout.progressSide)
      return .progress (e.report operation side) := by
  rw [event?, hkind]
  rfl

end Kinds

/-! ## What cannot be read -/

/-- Why no event is read.  The first reason that applies is the one that is reported. -/
inductive Unreadable (e : Envelope) : EnvelopeFault → Prop
  /-- The header does not name the size and the version of this layout. -/
  | header (hheader : ¬e.HasHeader) :
      Unreadable e
        (.headerMismatch (e.get32 Layout.headerSize) (e.get32 Layout.headerVersion))
  /-- The number is not the one of a kind of events. -/
  | event (hheader : e.HasHeader)
      (hunknown : ¬(1 ≤ e.get32 Layout.headerEvent ∧ e.get32 Layout.headerEvent ≤ 6)) :
      Unreadable e (.unknownEvent (e.get32 Layout.headerEvent))
  /-- The number of the operation of a progress report is not known. -/
  | operation (hheader : e.HasHeader) (hkind : e.get32 Layout.headerEvent = 6)
      (hunknown : e.get32 Layout.progressOperation ≠ 0) :
      Unreadable e (.unknownOperation (e.get32 Layout.progressOperation))
  /-- The operation is known, but not the side. -/
  | side (hheader : e.HasHeader) (hkind : e.get32 Layout.headerEvent = 6)
      (hoperation : e.get32 Layout.progressOperation = 0)
      (hunknown : e.get32 Layout.progressSide ≠ 0 ∧ e.get32 Layout.progressSide ≠ 1) :
      Unreadable e (.unknownSide (e.get32 Layout.progressSide))

/-- The header and all numbers are known. -/
def IsReadable (e : Envelope) : Prop :=
  e.HasHeader ∧ (1 ≤ e.get32 Layout.headerEvent ∧ e.get32 Layout.headerEvent ≤ 6) ∧
    (e.get32 Layout.headerEvent = 6 → e.get32 Layout.progressOperation = 0 ∧
      (e.get32 Layout.progressSide = 0 ∨ e.get32 Layout.progressSide = 1))

theorem event?_of_unreadable {fault : EnvelopeFault} (h : e.Unreadable fault) :
    e.event? = .error fault := by
  cases h with
  | header hheader =>
    rw [event?, kind?_of_not_hasHeader hheader]
    rfl
  | event hheader hunknown =>
    cases hkind : e.kind? with
    | error fault =>
      obtain ⟨hnot, -⟩ | ⟨-, -, rfl⟩ := kind?_eq_error hkind
      · exact absurd hheader hnot
      · rw [event?, hkind]
        rfl
    | ok kind =>
      have htag := (kind?_eq_ok_iff.mp hkind).2
      cases kind with
      | none =>
        rw [event?_none hkind, htag]
        rfl
      | _ =>
        rw [htag] at hunknown
        exact absurd (by decide) hunknown
  | operation hheader hkind hunknown =>
    rw [event?_progress (kind?_eq_ok_iff.mpr ⟨hheader, hkind⟩),
      Operation.ofTag_of_ne hunknown]
    rfl
  | side hheader hkind hoperation hunknown =>
    rw [event?_progress (kind?_eq_ok_iff.mpr ⟨hheader, hkind⟩), hoperation,
      Side.ofTag_of_ne hunknown.1 hunknown.2]
    rfl

theorem event?_of_isReadable (h : e.IsReadable) : ∃ event, e.event? = .ok event := by
  obtain ⟨hheader, hrange, hnumbers⟩ := h
  cases hkind : e.kind? with
  | error fault =>
    obtain ⟨hnot, -⟩ | ⟨-, hunknown, -⟩ := kind?_eq_error hkind
    · exact absurd hheader hnot
    · exact absurd hrange.2 (EventKind.not_le_six hunknown)
  | ok kind =>
    have htag := (kind?_eq_ok_iff.mp hkind).2
    cases kind with
    | none =>
      rw [htag] at hrange
      exact absurd hrange (by decide)
    | print => exact ⟨_, event?_print hkind⟩
    | input => exact ⟨_, event?_input hkind⟩
    | choice => exact ⟨_, event?_choice hkind⟩
    | title => exact ⟨_, event?_title hkind⟩
    | init => exact ⟨_, event?_init hkind⟩
    | progress =>
      obtain ⟨hoperation, hside⟩ := hnumbers htag
      rw [event?_progress hkind, hoperation]
      rcases hside with hside | hside
      · rw [hside]
        exact ⟨_, rfl⟩
      · rw [hside]
        exact ⟨_, rfl⟩

/-- There is a reason, or all is known. -/
theorem unreadable_or_isReadable (e : Envelope) :
    (∃ fault, e.Unreadable fault) ∨ e.IsReadable := by
  by_cases hheader : e.HasHeader
  case neg => exact Or.inl ⟨_, .header hheader⟩
  by_cases hrange : 1 ≤ e.get32 Layout.headerEvent ∧ e.get32 Layout.headerEvent ≤ 6
  case neg => exact Or.inl ⟨_, .event hheader hrange⟩
  by_cases hkind : e.get32 Layout.headerEvent = 6
  case neg => exact Or.inr ⟨hheader, hrange, fun h => absurd h hkind⟩
  by_cases hoperation : e.get32 Layout.progressOperation = 0
  case neg => exact Or.inl ⟨_, .operation hheader hkind hoperation⟩
  by_cases hside : e.get32 Layout.progressSide = 0 ∨ e.get32 Layout.progressSide = 1
  case neg => exact Or.inl ⟨_, .side hheader hkind hoperation (not_or.mp hside)⟩
  exact Or.inr ⟨hheader, hrange, fun _ => ⟨hoperation, hside⟩⟩

theorem event?_eq_error_iff {fault : EnvelopeFault} :
    e.event? = .error fault ↔ e.Unreadable fault := by
  refine ⟨fun herror => ?_, event?_of_unreadable⟩
  rcases unreadable_or_isReadable e with ⟨fault', hunreadable⟩ | hreadable
  · have hsame := (event?_of_unreadable hunreadable).symm.trans herror
    cases hsame
    exact hunreadable
  · obtain ⟨event, hread⟩ := event?_of_isReadable hreadable
    rw [hread] at herror
    cases herror

theorem exists_event?_iff : (∃ event, e.event? = .ok event) ↔ e.IsReadable := by
  refine ⟨?_, event?_of_isReadable⟩
  rintro ⟨event, hread⟩
  rcases unreadable_or_isReadable e with ⟨fault, hunreadable⟩ | hreadable
  · rw [event?_of_unreadable hunreadable] at hread
    cases hread
  · exact hreadable

/-! ## What an event that was read is made of -/

theorem report_of_event? {event : Event} (hkind : e.kind? = .ok .progress)
    (h : e.event? = .ok event) :
    ∃ operation side, event = .progress (e.report operation side) := by
  rw [event?_progress hkind] at h
  cases hoperation : Operation.ofTag (e.get32 Layout.progressOperation) with
  | error fault =>
    rw [hoperation] at h
    cases h
  | ok operation =>
    cases hside : Side.ofTag (e.get32 Layout.progressSide) with
    | error fault =>
      rw [hoperation, hside] at h
      cases h
    | ok side =>
      rw [hoperation, hside] at h
      cases h
      exact ⟨operation, side, rfl⟩

/-- The texts of an event are those that its fields read as. -/
theorem fields_of_event? {event : Event} (h : e.event? = .ok event) :
    event.fields = event.kind.textFields.map fun f => (f, e.text f) := by
  have hkind := kind?_of_event? h
  generalize hpending : event.kind = kind at hkind ⊢
  cases kind with
  | none => cases event <;> cases hpending
  | print =>
    rw [event?_print hkind] at h
    cases h
    rfl
  | input =>
    rw [event?_input hkind] at h
    cases h
    rfl
  | choice =>
    rw [event?_choice hkind] at h
    cases h
    rfl
  | title =>
    rw [event?_title hkind] at h
    cases h
    rfl
  | init =>
    rw [event?_init hkind] at h
    cases h
    rfl
  | progress =>
    obtain ⟨operation, side, rfl⟩ := report_of_event? hkind h
    rfl

/-- A time limit that was read is one that the wire can carry. -/
theorem onWire_of_event? {event : Event} (h : e.event? = .ok event) : event.onWire = event := by
  have hkind := kind?_of_event? h
  cases event with
  | choice prompt =>
    rw [event?_choice hkind] at h
    cases h
    have hlt := (e.get32 Layout.choiceTimer).toNat_lt
    have hmin : min (e.get32 Layout.choiceTimer).toNat 4294967295 =
        (e.get32 Layout.choiceTimer).toNat := by omega
    simp only [Event.onWire, Span.toMillis_ofMillis, hmin]
  | _ => rfl

/-- The timeout of a prompt that was read is a number of milliseconds of 32 bits. -/
theorem timeout_le_of_event? {prompt : Prompt} (h : e.event? = .ok (.choice prompt)) :
    prompt.timeout ≤ Span.ofMillis 4294967295 := by
  obtain ⟨expires, timeout, breakValue, expiredValue⟩ := prompt
  have hwire := onWire_of_event? h
  simp only [Event.onWire, Event.choice.injEq, Prompt.mk.injEq, true_and, and_true] at hwire
  rw [← hwire]
  exact Nat.mul_le_mul_right _ (Nat.min_le_right _ _)

/-- A clock that is not near its end shows when the time of such a prompt is over. -/
theorem deadline?_of_event? {prompt : Prompt} (h : e.event? = .ok (.choice prompt)) {now : Nat}
    (hearly : now + Span.ofMillis 4294967295 < Span.clockEnd) :
    Span.deadline? now prompt.timeout = some (now + prompt.timeout) := by
  have htimeout := Nat.add_le_add_left (timeout_le_of_event? h) now
  exact Span.deadline?_eq_some_iff.mpr ⟨Nat.lt_of_le_of_lt htimeout hearly, rfl⟩

/-! ## Storing again what was read -/

theorem length_units (e : Envelope) (offset count : Nat) :
    (e.units offset count).length = count := by
  simp [units]

/-- A text field of an envelope takes and refuses what a field of its own would, and holds the same
units afterwards. -/
theorem units_putText (e : Envelope) {f : Layout.TextField}
    (hsize : f.offset + 2 * f.capacity ≤ 20500) (t : String) :
    (e.putText f t).map (fun e' => e'.units f.offset f.capacity) =
      Wide.writeField f.label (e.units f.offset f.capacity) t := by
  have hcases := Wide.overwrite_cases f.label (e.units f.offset f.capacity) t
  rw [length_units] at hcases
  rcases hcases with ⟨hfits, hput⟩ | ⟨fault, hrefuses, hput⟩
  · have hlength : (Wide.stored t).length ≤ f.capacity := by
      rw [Wide.length_stored]
      exact hfits.2
    have hunits := units_putUnits e (Wide.stored t) hlength hsize
    rw [Wide.length_stored, Wide.stored, List.append_assoc] at hunits
    rw [putText_of_fits e f hfits, Wide.writeField, hput]
    exact congrArg Except.ok hunits
  · rw [putText, Wide.check_of_refuses hrefuses, Wide.writeField, hput]
    rfl

/-- A text that was read can be stored again exactly if its field held an end mark. -/
theorem fits_text_iff (f : Layout.TextField) :
    FitsField (e.text f) f.capacity ↔ 0 ∈ e.units f.offset f.capacity := by
  have hend := Wide.length_content_lt_iff (e.units f.offset f.capacity)
  rw [length_units] at hend
  rw [FitsField, text, Wide.length_readField, hend]
  exact and_iff_right (Wide.nul_notMem_readField _)

/-- Otherwise it is as long as its field; it never holds a zero. -/
theorem refuses_text_iff {f : Layout.TextField} {fault : FieldFault} :
    f.Refuses (e.text f) fault ↔
      0 ∉ e.units f.offset f.capacity ∧ fault = .tooLong f.label f.capacity f.capacity := by
  have hnul : Wide.nulPosition (e.text f) = none :=
    (Wide.nulPosition_eq_none_iff _).mpr (Wide.nul_notMem_readField _)
  have hlength (hfull : 0 ∉ e.units f.offset f.capacity) :
      Wide.length (e.text f) = f.capacity := by
    rw [text, Wide.length_readField, Wide.content_eq_self hfull, length_units]
  constructor
  · intro hrefuses
    cases hrefuses with
    | nul hposition =>
      rw [hnul] at hposition
      cases hposition
    | long _ hlong =>
      have hfull : 0 ∉ e.units f.offset f.capacity := fun hend =>
        absurd ((fits_text_iff f).mpr hend).2 (Nat.not_lt.mpr hlong)
      rw [hlength hfull]
      exact ⟨hfull, rfl⟩
  · rintro ⟨hfull, rfl⟩
    have hlong := Layout.TextField.Refuses.long hnul (Nat.le_of_eq (hlength hfull).symm)
    rwa [hlength hfull] at hlong

section Again

variable {event : Event} {fault : FieldFault}

/-- An event that was read fits again if each of its fields held an end mark. -/
theorem fits_iff_of_event? (h : e.event? = .ok event) :
    event.Fits ↔ ∀ f ∈ event.kind.textFields, 0 ∈ e.units f.offset f.capacity := by
  rw [Event.fits_iff_fields, fields_of_event? h, List.forall_mem_map]
  exact forall₂_congr fun f _ => fits_text_iff f

/-- Otherwise the first field without one is named, and that it is full. -/
theorem refused_iff_of_event? (h : e.event? = .ok event) :
    event.Refused fault ↔
      ∃ before f after, event.kind.textFields = before ++ f :: after ∧
        (∀ g ∈ before, 0 ∈ e.units g.offset g.capacity) ∧
          0 ∉ e.units f.offset f.capacity ∧ fault = .tooLong f.label f.capacity f.capacity := by
  constructor
  · rintro ⟨before, field, after, hfields, hbefore, hrefuses⟩
    rw [fields_of_event? h, List.map_eq_append_iff] at hfields
    obtain ⟨before, later, hfields, rfl, hlater⟩ := hfields
    obtain ⟨f, after, rfl, rfl, rfl⟩ := List.map_eq_cons_iff.mp hlater
    rw [List.forall_mem_map] at hbefore
    exact ⟨before, f, after, hfields, fun g hg => (fits_text_iff g).mp (hbefore g hg),
      refuses_text_iff.mp hrefuses⟩
  · rintro ⟨before, f, after, hfields, hbefore, hfull⟩
    refine ⟨before.map fun g => (g, e.text g), (f, e.text f), after.map fun g => (g, e.text g),
      ?_, ?_, refuses_text_iff.mpr hfull⟩
    · rw [fields_of_event? h, hfields, List.map_append, List.map_cons]
    · exact List.forall_mem_map.mpr fun g hg => (fits_text_iff g).mpr (hbefore g hg)

end Again

/-! ## All bytes -/

/-- Of any bytes, an event is read exactly if the header and the numbers are known, and otherwise
the first of them that is not is reported.  What was read is accepted by every envelope exactly
if each of its text fields held an end mark, and then it is read there again.  Otherwise the
fault names the first field that held none, with its capacity for the length of the text. -/
theorem reading_canonical (e : Envelope) :
    (∀ fault, e.event? = .error fault ↔ e.Unreadable fault) ∧
      ((∃ event, e.event? = .ok event) ↔ e.IsReadable) ∧
      ∀ event, e.event? = .ok event →
        e.get32 Layout.headerEvent = event.kind.tag ∧
          ∀ e' : Envelope,
            ((e'.putEvent event).2 = .ok () ↔
                ∀ f ∈ event.kind.textFields, 0 ∈ e.units f.offset f.capacity) ∧
              ((e'.putEvent event).2 = .ok () → (e'.putEvent event).1.event? = .ok event) ∧
              ∀ fault, (e'.putEvent event).2 = .error fault ↔
                ∃ before f after, event.kind.textFields = before ++ f :: after ∧
                  (∀ g ∈ before, 0 ∈ e.units g.offset g.capacity) ∧
                    0 ∉ e.units f.offset f.capacity ∧
                      fault = .tooLong f.label f.capacity f.capacity := by
  refine ⟨fun fault => event?_eq_error_iff, exists_event?_iff, fun event hread => ?_⟩
  refine ⟨(kind?_eq_ok_iff.mp (kind?_of_event? hread)).2, fun e' => ⟨?_, ?_, fun fault => ?_⟩⟩
  · exact (putEvent_snd_iff e' event).trans (fits_iff_of_event? hread)
  · intro hput
    have hagain := event?_putEvent e' ((putEvent_snd_iff e' event).mp hput)
    rwa [onWire_of_event? hread] at hagain
  · exact (putEvent_eq_error_iff e').trans (refused_iff_of_event? hread)

end Envelope

end ConsoleLink
