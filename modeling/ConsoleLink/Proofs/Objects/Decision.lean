import ConsoleLink.Proofs.Objects.Building

/-!
# What a negotiation comes to

A negotiation passes over every name that was used before or whose request signal exists.  The
first name that is left decides: either all its objects can be made, or the negotiation fails
with the first one that cannot, and nothing is left of the others.

* `ChannelNames.IsFree` and `ChannelNames.Collides` are the two ends that a name can come to, and
  `Decision` what they mean for the negotiation.
* `run_response`, `run_cancel` and `run_memory` follow the name that decides.
* `Negotiator.IsOpen` are the names that a negotiation stops at; `run_skip` is about those before
  them.
* `negotiate_decides` puts this together.
-/

namespace ConsoleLink

open Negotiation (Phase)

/-! ## The two ends -/

/-- Once the request signal of a channel is made, its other objects can be made, too. -/
def ChannelNames.IsFree (names : ChannelNames) (s : System) : Prop :=
  ¬s.Blocks [(.event, names.request)] (.event, names.response) ∧
    ¬s.Blocks [(.event, names.response), (.event, names.request)] (.event, names.cancel) ∧
      ¬s.Takes .memory names.mapping

/-- Once the request signal of a channel is made, this is the first of its other objects that
cannot be made. -/
inductive ChannelNames.Collides (names : ChannelNames) (s : System) :
    ObjectKind × String → Prop
  | response (hresponse : s.Blocks [(.event, names.request)] (.event, names.response)) :
      Collides names s (.event, names.response)
  | cancel (hresponse : ¬s.Blocks [(.event, names.request)] (.event, names.response))
      (hcancel : s.Blocks [(.event, names.response), (.event, names.request)]
        (.event, names.cancel)) :
      Collides names s (.event, names.cancel)
  | mapping (hresponse : ¬s.Blocks [(.event, names.request)] (.event, names.response))
      (hcancel : ¬s.Blocks [(.event, names.response), (.event, names.request)]
        (.event, names.cancel))
      (hmapping : s.Takes .memory names.mapping) :
      Collides names s (.memory, names.mapping)

/-- Where nothing collides, all is free. -/
theorem ChannelNames.Collides.not_free {names : ChannelNames} {s : System}
    {object : ObjectKind × String} (hcollides : names.Collides s object) : ¬names.IsFree s := by
  rintro ⟨hresponse, hcancel, hmapping⟩
  cases hcollides with
  | response hblocked => exact hresponse hblocked
  | cancel _ hblocked => exact hcancel hblocked
  | mapping _ _ htaken => exact hmapping htaken

/-- Only one object is the first. -/
theorem ChannelNames.Collides.unique {names : ChannelNames} {s : System}
    {object object' : ObjectKind × String} (hcollides : names.Collides s object)
    (hcollides' : names.Collides s object') : object' = object := by
  cases hcollides <;> cases hcollides' <;> first | rfl | contradiction

/-- What a negotiation comes to, and the system that it leaves. -/
inductive Decision (start : System) (names : ChannelNames) :
    Except LinkFault Channel → System → Prop
  | made {channel : Channel} {s : System} (hfree : names.IsFree start)
      (hnames : channel.names = names) (hnew : channel.IsNew start s) :
      Decision start names (.ok channel) s
  | collided {object : ObjectKind × String} {s : System}
      (hcollides : names.Collides start object)
      (hsame : ∀ kind, s.names kind = start.names kind) :
      Decision start names (.error (.taken object.1.label object.2)) s

namespace Negotiator

/-! ## The name that decides -/

section Name

variable {start s : System} {caller : Caller} {n : Negotiator} {names : ChannelNames}

theorem run_dropping (hs : List Handle) (fault : LinkFault) (n : Negotiator) (s : System) :
    run caller (.dropping hs fault) n s = (.error fault, n, Channel.dropAll s caller hs) := by
  induction hs generalizing s with
  | nil =>
    rw [run_step rfl]
    exact run_over rfl n s
  | cons h rest ih =>
    rw [run_step rfl]
    exact ih (s.drop caller h)

/-- An object is granted to whom it should be granted, and there is room for a channel. -/
theorem refusal?_none (hgrant : n.grant = true → caller.canGrant = true) {h : Handle}
    (hkind : h.kind = .event ∨ h.length = Region.channelSize) :
    System.refusal? caller n.grant h = none := by
  have hgranted : ¬(n.grant && !caller.canGrant) = true := by
    cases hwanted : n.grant with
    | false => simp
    | true => simp [hgrant hwanted]
  rw [System.refusal?, if_neg hgranted]
  cases h with
  | mk kind id name owner length =>
    cases kind with
    | event => rfl
    | memory =>
      rcases hkind with hkind | rfl
      · cases hkind
      · rfl

theorem run_granting {next : Phase} {h : Handle} (hhead : next.handles.head? = some h)
    (hallowed : System.refusal? caller n.grant h = none) (s : System) :
    run caller (.granting next) n s = run caller next n s := by
  rw [run_step rfl]
  simp only [step, hhead, Option.bind_some, hallowed]

theorem makeUnique_of_blocks {made : List (ObjectKind × String)} {hs : List Handle}
    {kind : ObjectKind} {name : String} (hbuilding : Building start caller.account made hs s)
    (hfiles : caller.hasFiles = true) (hblocks : start.Blocks made (kind, name)) (phase : Phase)
    (next : Handle → Phase) :
    makeUnique caller phase kind name next s = (phase.fail (.taken kind.label name), s) := by
  rw [makeUnique, hbuilding.make_of_blocks hfiles hblocks]

theorem makeUnique_of_free {made : List (ObjectKind × String)} {hs : List Handle}
    {kind : ObjectKind} {name : String} (hbuilding : Building start caller.account made hs s)
    (hfiles : caller.hasFiles = true) (hgood : ∃ key, System.key kind name = .ok key)
    (hfree : ¬start.Blocks made (kind, name)) (phase : Phase) (next : Handle → Phase) :
    ∃ id s', makeUnique caller phase kind name next s =
        (.granting (next (System.handle kind id name true Region.channelSize)), s') ∧
      Building start caller.account ((kind, name) :: made)
        (System.handle kind id name true Region.channelSize :: hs) s' := by
  obtain ⟨id, s', hmake, hbuilding'⟩ :=
    hbuilding.make hfiles hgood hfree Region.channelSize
  exact ⟨id, s', by rw [makeUnique, hmake], hbuilding'⟩

/-- No signal stands in the way of a region. -/
theorem blocks_mapping {made : List (ObjectKind × String)} {name : String}
    (hsignals : ∀ other ∈ made, other.1 = .event) :
    start.Blocks made (.memory, name) ↔ start.Takes .memory name := by
  refine ⟨?_, Or.inl⟩
  rintro (htakes | ⟨other, hother, hkind, -⟩)
  · exact htakes
  · cases (hsignals other hother).symm.trans hkind

variable {first second third : Handle}

/-- With its three signals made, a channel needs its region only. -/
theorem run_memory
    (hbuilding : Building start caller.account
      [(.event, names.cancel), (.event, names.response), (.event, names.request)]
      [third, second, first] s)
    (hfiles : caller.hasFiles = true) (hgrant : n.grant = true → caller.canGrant = true)
    (hgood : names.IsGood)
    (hresponse : ¬start.Blocks [(.event, names.request)] (.event, names.response))
    (hcancel : ¬start.Blocks [(.event, names.response), (.event, names.request)]
      (.event, names.cancel)) :
    ∃ outcome s', run caller (.memory names first second third) n s = (outcome, n, s') ∧
      Decision start names outcome s' := by
  have hblocks : start.Blocks [(.event, names.cancel), (.event, names.response),
      (.event, names.request)] (.memory, names.mapping) ↔ start.Takes .memory names.mapping :=
    blocks_mapping (by simp)
  rw [run_step rfl]
  by_cases hmapping : start.Takes .memory names.mapping
  · simp only [step, makeUnique_of_blocks hbuilding hfiles (hblocks.mpr hmapping), Phase.fail,
      run_dropping]
    exact ⟨_, _, rfl, .collided (.mapping hresponse hcancel hmapping) hbuilding.names_dropAll⟩
  · obtain ⟨id, s', hmake, hbuilding'⟩ := makeUnique_of_free hbuilding hfiles
      (hgood (.memory, names.mapping) (by simp [ChannelNames.objects]))
      (fun h => hmapping (hblocks.mp h)) (.memory names first second third) fun h =>
        .header { names, request := first, response := second, cancel := third, memory := h }
    simp only [step, hmake]
    rw [run_granting rfl (refusal?_none hgrant (Or.inr rfl)), run_step rfl, run_over rfl]
    exact ⟨_, _, rfl, .made ⟨hresponse, hcancel, hmapping⟩ rfl (hbuilding'.isNew hgood rfl)⟩

/-- With two signals made, the cancel signal is next. -/
theorem run_cancel
    (hbuilding : Building start caller.account
      [(.event, names.response), (.event, names.request)] [second, first] s)
    (hfiles : caller.hasFiles = true) (hgrant : n.grant = true → caller.canGrant = true)
    (hgood : names.IsGood)
    (hresponse : ¬start.Blocks [(.event, names.request)] (.event, names.response)) :
    ∃ outcome s', run caller (.cancel names first second) n s = (outcome, n, s') ∧
      Decision start names outcome s' := by
  rw [run_step rfl]
  by_cases hcancel : start.Blocks [(.event, names.response), (.event, names.request)]
      (.event, names.cancel)
  · simp only [step, makeUnique_of_blocks hbuilding hfiles hcancel, Phase.fail, run_dropping]
    exact ⟨_, _, rfl, .collided (.cancel hresponse hcancel) hbuilding.names_dropAll⟩
  · obtain ⟨id, s', hmake, hbuilding'⟩ := makeUnique_of_free hbuilding hfiles
      (hgood (.event, names.cancel) (by simp [ChannelNames.objects])) hcancel
      (.cancel names first second) (.memory names first second)
    simp only [step, hmake]
    rw [run_granting rfl (refusal?_none hgrant (Or.inl rfl))]
    exact run_memory hbuilding' hfiles hgrant hgood hresponse hcancel

/-- With its request signal made, a channel is made, or nothing is left of it.  Its name is used
either way. -/
theorem run_response
    (hbuilding : Building start caller.account [(.event, names.request)] [first] s)
    (hfiles : caller.hasFiles = true) (hgrant : n.grant = true → caller.canGrant = true)
    (hgood : names.IsGood) :
    ∃ outcome s', run caller (.response names first) n s =
        (outcome, { n with used := names.instanceName :: n.used }, s') ∧
      Decision start names outcome s' := by
  rw [run_step rfl]
  by_cases hresponse : start.Blocks [(.event, names.request)] (.event, names.response)
  · simp only [step, makeUnique_of_blocks hbuilding hfiles hresponse, Phase.fail, run_dropping]
    exact ⟨_, _, rfl, .collided (.response hresponse) hbuilding.names_dropAll⟩
  · obtain ⟨id, s', hmake, hbuilding'⟩ := makeUnique_of_free hbuilding hfiles
      (hgood (.event, names.response) (by simp [ChannelNames.objects])) hresponse
      (.response names first) (.cancel names first)
    have hgrant' : ({ n with used := names.instanceName :: n.used } : Negotiator).grant = true →
        caller.canGrant = true := hgrant
    simp only [step, hmake]
    rw [run_granting rfl (refusal?_none hgrant' (Or.inl rfl))]
    exact run_cancel hbuilding' hfiles hgrant' hgood hresponse

end Name

/-! ## Names that are passed over -/

/-- The name that is drawn after `i` others. -/
def candidateAt (n : Negotiator) (i : Nat) : String := n.stem ++ Nat.repr (n.salt (n.drawn + i))

/-- The names of its objects. -/
def namesAt (n : Negotiator) (i : Nat) : ChannelNames := .of n.prefixes (n.candidateAt i)

/-- The name was not used before, and no request signal has it. -/
def IsOpen (n : Negotiator) (s : System) (i : Nat) : Prop :=
  n.candidateAt i ∉ n.used ∧ ¬s.Takes .event (n.namesAt i).request

section Passed

variable {s : System} {caller : Caller} {n : Negotiator}

/-- After one draw, the names that follow are those that followed before. -/
theorem isOpen_drawn (n : Negotiator) (s : System) (i : Nat) :
    IsOpen { n with drawn := n.drawn + 1 } s i ↔ n.IsOpen s (i + 1) := by
  have hcandidate : candidateAt { n with drawn := n.drawn + 1 } i = n.candidateAt (i + 1) := by
    simp only [candidateAt, Nat.add_assoc, Nat.add_comm 1 i]
  simp only [IsOpen, namesAt, hcandidate]

/-- A name that is not open is passed over. -/
theorem step_closed (hfiles : caller.hasFiles = true) (hclosed : ¬n.IsOpen s 0) (left : Nat) :
    step caller (.drawing (left + 1)) n s =
      (.drawing left, { n with drawn := n.drawn + 1 }, s) := by
  by_cases hused : n.used.contains n.candidate = true
  · simp only [step, if_pos hused]
  · have hfresh : n.candidate ∉ n.used := by simpa using hused
    have htakes : s.Takes .event (ChannelNames.of n.prefixes n.candidate).request :=
      Classical.byContradiction fun hfree => hclosed ⟨hfresh, hfree⟩
    simp only [step, if_neg hused, System.make_of_takes hfiles htakes 0]

/-- Of a name that is open the request signal is made. -/
theorem step_open (hfiles : caller.hasFiles = true) (hgood : (n.namesAt 0).IsGood)
    (hopen : n.IsOpen s 0) (left : Nat) :
    ∃ id s', step caller (.drawing (left + 1)) n s =
        (.granting (.response (n.namesAt 0)
          (System.handle .event id (n.namesAt 0).request true 0)),
          { n with drawn := n.drawn + 1 }, s') ∧
      Building s caller.account [(.event, (n.namesAt 0).request)]
        [System.handle .event id (n.namesAt 0).request true 0] s' := by
  obtain ⟨hnew, hfree⟩ := hopen
  have hfresh : n.candidate ∉ n.used := hnew
  have hused : ¬n.used.contains n.candidate = true := by simpa using hfresh
  have hnone : ¬s.Blocks [] (.event, (n.namesAt 0).request) := by simpa [System.Blocks] using hfree
  obtain ⟨id, s', hmake, hbuilding⟩ := (Building.nil s caller.account).make hfiles
    (hgood (.event, (n.namesAt 0).request) (by simp [ChannelNames.objects])) hnone 0
  have hmake' : s.make caller .event (ChannelNames.of n.prefixes n.candidate).request 0 =
      (s', .ok (some (System.handle .event id (n.namesAt 0).request true 0))) := hmake
  refine ⟨id, s', ?_, hbuilding⟩
  simp only [step, if_neg hused, hmake']
  rfl

/-- All names before the first open one are passed over. -/
theorem run_skip (hfiles : caller.hasFiles = true) (left : Nat) {k : Nat}
    (hclosed : ∀ i < k, ¬n.IsOpen s i) :
    run caller (.drawing (left + k)) n s =
      run caller (.drawing left) { n with drawn := n.drawn + k } s := by
  induction k generalizing n with
  | zero => rfl
  | succ k ih =>
    have hrest : ∀ i < k, ¬IsOpen { n with drawn := n.drawn + 1 } s i := fun i hi hopen =>
      hclosed (i + 1) (Nat.succ_lt_succ hi) ((isOpen_drawn n s i).mp hopen)
    rw [← Nat.add_assoc, run_step rfl, step_closed hfiles (hclosed 0 (Nat.succ_pos k)), ih hrest]
    simp only [Nat.add_assoc, Nat.add_comm 1 k]

end Passed

/-! ## The whole negotiation -/

section Whole

variable {n : Negotiator} {s : System} {caller : Caller}

/-- The first open name decides. -/
theorem negotiate_open (hfiles : caller.hasFiles = true)
    (hgrant : n.grant = true → caller.canGrant = true) {k : Nat} (hk : k < n.maxAttempts)
    (hgood : (n.namesAt k).IsGood) (hopen : n.IsOpen s k) (hclosed : ∀ i < k, ¬n.IsOpen s i) :
    ∃ outcome s', n.negotiate s caller =
        (outcome, { n with drawn := n.drawn + (k + 1), used := n.candidateAt k :: n.used }, s') ∧
      Decision s (n.namesAt k) outcome s' := by
  obtain ⟨left, hleft⟩ : ∃ left, n.maxAttempts = left + 1 + k := ⟨n.maxAttempts - (k + 1), by omega⟩
  obtain ⟨id, s₁, hstep, hbuilding⟩ :=
    step_open (n := { n with drawn := n.drawn + k }) hfiles hgood hopen left
  have hgrant' : ({ n with drawn := n.drawn + k + 1 } : Negotiator).grant = true →
      caller.canGrant = true := hgrant
  have hstart : n.negotiate s caller = run caller (.drawing (left + 1 + k)) n s := by
    rw [negotiate, hleft]
  rw [hstart, run_skip hfiles (left + 1) hclosed, run_step rfl, hstep]
  dsimp only
  rw [run_granting rfl (refusal?_none hgrant' (Or.inl rfl))]
  exact run_response hbuilding hfiles hgrant' hgood

/-- Where descriptors are left and access can be granted as it should, the names in the tables
decide what a negotiation comes to, as long as its prefixes make good names.

* If no name that may be drawn is open, all of them are drawn, and nothing else changes.
* Otherwise no name is drawn after the first open one, and that one is used from now on.  The
  negotiation succeeds exactly if the other three objects can be made, each beside those before
  it.  Then the four objects are new, and it returns the channel on them.
* If it fails, it names the first object that could not be made, and the tables are as before. -/
theorem negotiate_decides (hfiles : caller.hasFiles = true)
    (hgrant : n.grant = true → caller.canGrant = true)
    (hgood : ∀ i < n.maxAttempts, (n.namesAt i).IsGood) :
    ((∀ i < n.maxAttempts, ¬n.IsOpen s i) →
      n.negotiate s caller =
        (.error (.noFreeName n.maxAttempts), { n with drawn := n.drawn + n.maxAttempts }, s)) ∧
    ∀ k < n.maxAttempts, n.IsOpen s k → (∀ i < k, ¬n.IsOpen s i) →
      (n.negotiate s caller).2.1 =
          { n with drawn := n.drawn + (k + 1), used := n.candidateAt k :: n.used } ∧
        ((∃ channel, (n.negotiate s caller).1 = .ok channel) ↔ (n.namesAt k).IsFree s) ∧
        (∀ channel, (n.negotiate s caller).1 = .ok channel →
          channel.names = n.namesAt k ∧ channel.IsNew s (n.negotiate s caller).2.2) ∧
        ∀ fault,
          ((n.negotiate s caller).1 = .error fault ↔
            ∃ object, (n.namesAt k).Collides s object ∧
              fault = .taken object.1.label object.2) ∧
          ((n.negotiate s caller).1 = .error fault →
            ∀ kind, (n.negotiate s caller).2.2.names kind = s.names kind) := by
  refine ⟨fun hnone => ?_, fun k hk hopen hclosed => ?_⟩
  · have hskip := run_skip hfiles 0 hnone
    rw [Nat.zero_add] at hskip
    rw [negotiate, hskip, run_step rfl]
    exact run_over rfl _ s
  · obtain ⟨outcome, s', hrun, hdecision⟩ :=
      negotiate_open hfiles hgrant hk (hgood k hk) hopen hclosed
    have houtcome : (n.negotiate s caller).1 = outcome := by rw [hrun]
    have hnext : (n.negotiate s caller).2.1 =
        { n with drawn := n.drawn + (k + 1), used := n.candidateAt k :: n.used } := by rw [hrun]
    have hsystem : (n.negotiate s caller).2.2 = s' := by rw [hrun]
    rw [houtcome, hsystem]
    refine ⟨hnext, ?_⟩
    cases hdecision with
    | made hfree hnames hnew =>
      refine ⟨⟨fun _ => hfree, fun _ => ⟨_, rfl⟩⟩, fun channel hmade => ?_,
        fun fault => ⟨⟨?_, ?_⟩, ?_⟩⟩
      · cases hmade
        exact ⟨hnames, hnew⟩
      · intro herror
        cases herror
      · rintro ⟨object, hcollides, -⟩
        exact absurd hfree hcollides.not_free
      · intro herror
        cases herror
    | collided hcollides hsame =>
      refine ⟨⟨?_, fun hfree => absurd hfree hcollides.not_free⟩, fun channel hmade => ?_,
        fun fault => ⟨⟨fun herror => ?_, ?_⟩, fun _ => hsame⟩⟩
      · rintro ⟨channel, hmade⟩
        cases hmade
      · cases hmade
      · cases herror
        exact ⟨_, hcollides, rfl⟩
      · rintro ⟨object, hcollides', rfl⟩
        rw [hcollides.unique hcollides']

end Whole

/-- A controller that has used its first name. -/
def crowded : Negotiator := { stem := "_1_x_", salt := id, maxAttempts := 3, used := ["_1_x_0"] }

/-- The request signal of its second name exists, and a region with its third name. -/
def occupied : System :=
  ((({} : System).add .event "ConsoleBridgeEventRequest_1_x_1" .root 0).1.add .memory
    "ConsoleBridgeMapping_1_x_2" .root 0).1

/-- Three signals were made before the negotiation failed, and none of them is left. -/
theorem negotiate_decides_crowded :
    (∀ i < crowded.maxAttempts, (crowded.namesAt i).IsGood) ∧
      (crowded.negotiate occupied {}).1 =
        .error (.taken "shared memory" "/ConsoleBridgeMapping_1_x_2") ∧
      (crowded.negotiate occupied {}).2.1.drawn = 3 ∧
      (crowded.negotiate occupied {}).2.1.used = ["_1_x_2", "_1_x_0"] ∧
      (crowded.negotiate occupied {}).2.2.names .event =
        [("ConsoleBridgeEventRequest_1_x_1", 0)] := by
  have hgood : ∀ i < crowded.maxAttempts, (crowded.namesAt i).IsGood := by
    intro i hi object hobject
    have hcases : i = 0 ∨ i = 1 ∨ i = 2 := by
      have hlt : i < 3 := hi
      omega
    simp only [ChannelNames.objects, List.mem_cons, List.not_mem_nil, or_false] at hobject
    rcases hcases with rfl | rfl | rfl <;> rcases hobject with rfl | rfl | rfl | rfl <;>
      exact ⟨_, rfl⟩
  have hfree {name key : String} (hkey : System.key .event name = .ok key)
      (hnone : occupied.find? .event key = none) : ¬occupied.Takes .event name := fun htakes =>
    (System.takes_iff_find? hkey).mp htakes hnone
  have hopen : crowded.IsOpen occupied 2 := ⟨by decide, hfree rfl rfl⟩
  have hclosed : ∀ i < 2, ¬crowded.IsOpen occupied i := by
    rintro i hi ⟨hnew, hrequest⟩
    have hcases : i = 0 ∨ i = 1 := by omega
    rcases hcases with rfl | rfl
    · exact absurd hnew (by decide)
    · exact hrequest ((System.takes_iff_find? rfl).mpr (by decide))
  have hcollides : (crowded.namesAt 2).Collides occupied
      (.memory, (crowded.namesAt 2).mapping) := by
    have hrequest : System.key .event (crowded.namesAt 2).request =
        .ok "ConsoleBridgeEventRequest_1_x_2" := rfl
    have hresponse : System.key .event (crowded.namesAt 2).response =
        .ok "ConsoleBridgeEventResponse_1_x_2" := rfl
    have hcancel : System.key .event (crowded.namesAt 2).cancel =
        .ok "ConsoleBridgeEventCancel_1_x_2" := rfl
    refine .mapping ?_ ?_ ((System.takes_iff_find? rfl).mpr (by decide))
    · rintro (htakes | hother)
      · exact hfree hresponse rfl htakes
      · simp [hrequest, hresponse] at hother
    · rintro (htakes | hother)
      · exact hfree hcancel rfl htakes
      · simp [hrequest, hresponse, hcancel] at hother
  have hgrant : crowded.grant = true → Caller.canGrant {} = true := by decide
  obtain ⟨-, hdecides⟩ := negotiate_decides rfl hgrant hgood
  obtain ⟨hnext, -, -, hfails⟩ := hdecides 2 (by decide) hopen hclosed
  have herror := (hfails _).1.mpr ⟨_, hcollides, rfl⟩
  refine ⟨hgood, herror, ?_, ?_, (hfails _).2 herror .event⟩
  · rw [hnext]
    rfl
  · rw [hnext]
    rfl

end Negotiator

end ConsoleLink
