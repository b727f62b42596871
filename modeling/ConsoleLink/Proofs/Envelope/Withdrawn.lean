import ConsoleLink.Proofs.Envelope.Footprints

/-!
# An envelope after a refusal

The header is reset before the first text is looked at, and the number of the event is stored
behind the last one.  So an event that is refused leaves an envelope without an event, also one
that held another event or the reply to it.

* `Event.split_fields` says which texts can have been written before the one that is refused.
* `sameHeader_putMessage` says that a message behind the header leaves it alone, and
  `covers_before` that those texts are such a message.
* `Withdrawn` is what a refused event leaves, and `withdrawn_putEvent` that it does.
-/

namespace ConsoleLink

/-- A text stands before another one only in a progress report. -/
theorem Event.split_fields {event : Event} {before after : List (Layout.TextField × String)}
    {field : Layout.TextField × String} (hfields : event.fields = before ++ field :: after) :
    before = [] ∨ ∃ report, event = .progress report ∧
      before = [(Layout.progressFileName, report.fileName)] ∧
        field = (Layout.progressDirectory, report.directory) := by
  cases before with
  | nil => exact Or.inl rfl
  | cons first before =>
    cases event with
    | progress report =>
      cases before with
      | nil =>
        cases hfields
        exact Or.inr ⟨report, rfl, rfl, rfl⟩
      | cons second before =>
        have hlength := congrArg List.length hfields
        simp only [fields, List.length_append, List.length_cons, List.length_nil] at hlength
        omega
    | choice | init => cases hfields
    | print | input | title =>
      have hlength := congrArg List.length hfields
      simp only [fields, List.length_append, List.length_cons, List.length_nil] at hlength
      omega

namespace Envelope

variable {e : Envelope} {event : Event} {fault : FieldFault}

/-! ## The header -/

/-- A message behind the header leaves it alone. -/
theorem sameHeader_putMessage {m : Message} (hbehind : ∀ j, j < 12 → ¬Covers m.runs j) :
    e.SameHeader (e.putMessage m) := by
  have hword {i : Nat} (hi : i + 4 ≤ 12) : (e.putMessage m).get32 i = e.get32 i :=
    get32_congr fun j _ hj =>
      byteAt_putMessage_of_not_covers e (hbehind j (Nat.lt_of_lt_of_le hj hi))
  exact ⟨hword (by decide), hword (by decide), hword (by decide)⟩

/-- The texts before the one that is refused lie in the field of the file name. -/
theorem covers_before {before after : List (Layout.TextField × String)}
    {field : Layout.TextField × String} {j : Nat}
    (hfields : event.fields = before ++ field :: after)
    (hin : Covers (Message.runs (before.map textPart)) j) :
    ∃ report, event = .progress report ∧
      before = [(Layout.progressFileName, report.fileName)] ∧
        field = (Layout.progressDirectory, report.directory) ∧
          20 ≤ j ∧ j < 20 + textBytes report.fileName := by
  rcases Event.split_fields hfields with rfl | ⟨report, hevent, rfl, hfield⟩
  · exact absurd hin (covers_nil j)
  · simp only [List.map_cons, List.map_nil, Message.runs_cons, Message.runs_nil, covers_cons,
      covers_nil, or_false, length_textPart, offset_textPart] at hin
    exact ⟨report, hevent, rfl, hfield, hin⟩

theorem reply?_none (hkind : e.kind? = .ok .none) : e.reply? = .error (.unknownEvent 0) := by
  rw [reply?, hkind]
  rfl

/-! ## What is left -/

/-- What an event that is refused leaves of an envelope. -/
structure Withdrawn (e : Envelope) (event : Event) (after : Envelope) : Prop where
  size : after.get32 0 = 20500
  version : after.get32 4 = 1
  number : after.get32 8 = 0
  noEvent : after.event? = .error (.unknownEvent 0)
  noReply : after.reply? = .error (.unknownEvent 0)
  unanswerable : ∀ reply, after.putReply reply = (after, .error (.replyMismatch "none"))
  /-- Behind the header, only the file name of a report is written, and only if the directory
  is what was refused. -/
  payload : ∀ j, 12 ≤ j → after.byteAt j ≠ e.byteAt j →
    ∃ report, event = .progress report ∧
      FitsField report.fileName 1024 ∧ ¬FitsField report.directory 1024 ∧
        20 ≤ j ∧ j < 20 + textBytes report.fileName ∧ 20 + textBytes report.fileName ≤ 2068

/-- Behind the header, a reset changes nothing. -/
theorem byteAt_reset (e : Envelope) {j : Nat} (hj : 12 ≤ j) : e.reset.byteAt j = e.byteAt j := by
  have hout : ¬Covers (Message.runs resetParts) j := by
    rw [covers_resetParts]
    omega
  rw [← putMessage_resetParts, byteAt_putMessage_of_not_covers e hout]

/-- The header is reset, and the texts before the one that is refused are written. -/
theorem fst_putEvent_of_refuses {before after : List (Layout.TextField × String)}
    {field : Layout.TextField × String} (hfields : event.fields = before ++ field :: after)
    (hbefore : ∀ earlier ∈ before, FitsField earlier.2 earlier.1.capacity)
    (hrefuses : field.1.Refuses field.2 fault) :
    (e.putEvent event).1 = e.reset.putMessage (before.map textPart) := by
  rw [putEvent_of_refuses e hfields hbefore hrefuses, putMessage_append, putMessage_resetParts]

/-- Whatever an envelope held, nothing is pending in it after a refusal. -/
theorem withdrawn_putEvent (e : Envelope) (hrefused : event.Refused fault) :
    e.Withdrawn event (e.putEvent event).1 := by
  obtain ⟨before, field, after, hfields, hbefore, hrefuses⟩ := hrefused
  rw [fst_putEvent_of_refuses hfields hbefore hrefuses]
  have hheader : e.reset.SameHeader (e.reset.putMessage (before.map textPart)) := by
    refine sameHeader_putMessage fun j hj hin => ?_
    obtain ⟨-, -, -, -, hlow, -⟩ := covers_before hfields hin
    omega
  have hkind : (e.reset.putMessage (before.map textPart)).kind? = .ok .none :=
    hheader.kind?.trans (kind?_reset e)
  obtain ⟨⟨hsize, hversion⟩, hnumber⟩ := kind?_eq_ok_iff.mp hkind
  refine ⟨hsize, hversion, hnumber, event?_none hkind, reply?_none hkind, fun reply => ?_,
    fun j hj hchanged => ?_⟩
  · exact putReply_of_mismatch hkind (by cases reply <;> rfl)
  · have hin : Covers (Message.runs (before.map textPart)) j :=
      Classical.byContradiction fun hout =>
        hchanged ((byteAt_putMessage_of_not_covers e.reset hout).trans (byteAt_reset e hj))
    obtain ⟨report, hevent, rfl, rfl, hlow, hhigh⟩ := covers_before hfields hin
    have hname : FitsField report.fileName 1024 := hbefore _ List.mem_cons_self
    have hbound : 20 + textBytes report.fileName ≤ 2068 := by
      have hlength := hname.2
      unfold textBytes
      omega
    exact ⟨report, hevent, hname, hrefuses.not_fits, hlow, hhigh, hbound⟩

end Envelope

end ConsoleLink
