import ConsoleLink.Proofs.Envelope.Withdrawn
import ConsoleLink.Proofs.Objects.Negotiated

/-!
# Making objects one after the other

Whoever makes several objects finds in the way what was there before, and what he has made
himself: two prefixes may well make the same name.

* `System.Takes` and `System.Blocks` say that an object cannot be made, because one of its name
  exists or was made just before; `System.make_of_takes` and `System.make_of_free` are the two
  outcomes.
* `Building` is what holds while objects are made.  `Building.make` and `Building.make_of_blocks`
  are its step, `Building.names_dropAll` is the way back.
* `Channel.IsNew` is what there is of a channel that was just made, and `Building.isNew` says that
  four objects and a header make one.
-/

namespace ConsoleLink

open TableEffect (inHands)

/-! ## Names that are taken -/

namespace System

/-- An object of a name exists. -/
def Takes (s : System) (kind : ObjectKind) (name : String) : Prop :=
  ∃ key, System.key kind name = .ok key ∧ key ∈ (s.names kind).map Prod.fst

/-- An object cannot be made once some others were: an object of its name existed before, or is
one of the others. -/
def Blocks (s : System) (made : List (ObjectKind × String)) (object : ObjectKind × String) : Prop :=
  s.Takes object.1 object.2 ∨
    ∃ other ∈ made, other.1 = object.1 ∧ System.key other.1 other.2 = System.key object.1 object.2

variable {s : System} {caller : Caller} {kind : ObjectKind} {name key : String}

theorem takes_iff_find? (hkey : System.key kind name = .ok key) :
    s.Takes kind name ↔ s.find? kind key ≠ none := by
  rw [Takes, find?_eq, ne_eq, List.lookup_eq_none_iff]
  constructor
  · rintro ⟨key', hkey', hmem⟩
    cases hkey.symm.trans hkey'
    obtain ⟨entry, hentry, rfl⟩ := List.mem_map.mp hmem
    intro hall
    simpa using hall entry hentry
  · intro hnot
    refine ⟨key, hkey, Classical.byContradiction fun hmem => hnot fun entry hentry => ?_⟩
    have hne : key ≠ entry.1 := fun heq => hmem (heq ▸ List.mem_map_of_mem hentry)
    simpa using hne

theorem keyForNew_of_key (hfiles : caller.hasFiles = true) (hkey : System.key kind name = .ok key) :
    keyForNew caller kind name = .ok key := by
  simp only [keyForNew, hkey, hfiles, ↓reduceIte]

/-- Of a name that is taken nothing is made. -/
theorem make_of_takes (hfiles : caller.hasFiles = true) (htakes : s.Takes kind name) (size : Nat) :
    s.make caller kind name size = (s, .ok none) := by
  have hgood := htakes
  obtain ⟨key, hkey, -⟩ := hgood
  have hfound := (takes_iff_find? hkey).mp htakes
  cases hfind : s.find? kind key with
  | none => exact absurd hfind hfound
  | some id => simp only [make, keyForNew_of_key hfiles hkey, hfind]

/-- Under a good name that is free a new object is made. -/
theorem make_of_free (hfiles : caller.hasFiles = true) (hkey : System.key kind name = .ok key)
    (hfree : ¬s.Takes kind name) (size : Nat) :
    s.make caller kind name size =
      ((s.add kind key caller.account size).1,
        .ok (some (handle kind (s.add kind key caller.account size).2 name true size))) := by
  rw [takes_iff_find? hkey, ne_eq, Classical.not_not] at hfree
  simp only [make, keyForNew_of_key hfiles hkey, hfree]

/-- Beside those before, the name of a new object is taken. -/
theorem takes_add (hkey : System.key kind name = .ok key) (owner : Account) (size : Nat)
    (kind' : ObjectKind) (name' : String) :
    (s.add kind key owner size).1.Takes kind' name' ↔
      s.Takes kind' name' ∨ kind = kind' ∧ System.key kind name = System.key kind' name' := by
  unfold Takes
  rw [names_add]
  by_cases hkind : kind' = kind
  · subst hkind
    simp only [↓reduceIte, List.map_cons, List.mem_cons, true_and, hkey]
    constructor
    · rintro ⟨key', hkey', rfl | hmem⟩
      · exact Or.inr hkey'.symm
      · exact Or.inl ⟨key', hkey', hmem⟩
    · rintro (⟨key', hkey', hmem⟩ | hsame)
      · exact ⟨key', hkey', Or.inr hmem⟩
      · exact ⟨key, hsame.symm, Or.inl rfl⟩
  · rw [if_neg hkind]
    constructor
    · exact Or.inl
    · rintro (htakes | ⟨rfl, -⟩)
      · exact htakes
      · exact absurd rfl hkind

/-! ## New objects -/

/-- A signal that is not set, or a region of zeros. -/
def IsBlank (s : System) (h : Handle) : Prop :=
  match h.kind with
  | .event => s.count h.id = 0
  | .memory => s.region h.id = { size := h.length }

theorem owner?_add_fresh (s : System) (kind : ObjectKind) (key : String) (owner : Account)
    (size : Nat) : s.owner? kind (s.add kind key owner size).2 = none := by
  cases kind <;> simp [add, owner?, Registry.add, Registry.object?]

theorem isBlank_add (s : System) (kind : ObjectKind) (key name : String) (owner : Account)
    (size : Nat) :
    (s.add kind key owner size).1.IsBlank
      (handle kind (s.add kind key owner size).2 name true size) := by
  cases kind <;>
    simp [IsBlank, handle, add, count, region, Registry.add, Registry.object?]

/-- What was blank is not touched when another object is made. -/
theorem IsBlank.add {h : Handle} (hblank : s.IsBlank h) (hthere : (s.owner? h.kind h.id).isSome)
    (kind : ObjectKind) (key : String) (owner : Account) (size : Nat) :
    (s.add kind key owner size).1.IsBlank h := by
  have hpush {α : Type} {r : Registry α} (content : α)
      (hsome : ((r.object? h.id).map (·.owner)).isSome) :
      (r.add key owner content).1.object? h.id = r.object? h.id := by
    have hlt : h.id < r.objects.size := by
      simpa [Registry.object?] using hsome
    simp [Registry.add, Registry.object?, Array.getElem?_push_lt hlt, hlt]
  unfold IsBlank at hblank ⊢
  cases hkind : h.kind with
  | event =>
    rw [hkind] at hblank hthere
    cases kind with
    | event =>
      have hsame : (s.add .event key owner size).1.signals.object? h.id =
          s.signals.object? h.id := hpush 0 hthere
      show (s.add .event key owner size).1.count h.id = 0
      unfold count
      rw [hsame]
      exact hblank
    | memory => exact hblank
  | memory =>
    rw [hkind] at hblank hthere
    cases kind with
    | event => exact hblank
    | memory =>
      have hsame : (s.add .memory key owner size).1.regions.object? h.id =
          s.regions.object? h.id := hpush ({ size := size } : Region) hthere
      show (s.add .memory key owner size).1.region h.id = { size := h.length }
      unfold region
      rw [hsame]
      exact hblank

end System

/-! ## Objects that are made one after the other -/

/-- Somebody makes objects.  Those in `made` are there, the latest first, and `hs` are the handles
on them. -/
structure Building (start : System) (account : Account) (made : List (ObjectKind × String))
    (hs : List Handle) (s : System) : Prop where
  balanced : Balanced start s (inHands account hs)
  named : List.Forall₂ Handle.IsFor hs made
  listed : ∀ kind, s.names kind = entries kind (inHands account hs) ++ start.names kind
  takes : ∀ kind name, s.Takes kind name ↔ start.Blocks made (kind, name)
  apart : hs.Pairwise fun h h' => h.kind = h'.kind → h.id ≠ h'.id
  blank : ∀ h ∈ hs, s.IsBlank h

namespace Building

variable {start s : System} {caller : Caller} {made : List (ObjectKind × String)}
  {hs : List Handle} {kind : ObjectKind} {name : String}

theorem nil (s : System) (account : Account) : Building s account [] [] s where
  balanced := .start s
  named := .nil
  listed kind := rfl
  takes kind name := by simp [System.Blocks]
  apart := .nil
  blank h hmem := by cases hmem

theorem there {account : Account} (hbuilding : Building start account made hs s) {h : Handle}
    (hmem : h ∈ hs) : s.owner? h.kind h.id = some account := by
  have howner : ∀ {hs : List Handle} {made : List (ObjectKind × String)},
      List.Forall₂ Handle.IsFor hs made → ∀ h ∈ hs, h.owner = true := by
    intro hs made hnamed
    induction hnamed with
    | nil => nofun
    | cons hfor _ ih => exact List.forall_mem_cons.mpr ⟨hfor.owner, ih⟩
  exact (hbuilding.balanced.owned (account, h) (List.mem_map_of_mem hmem)
    (howner hbuilding.named h hmem)).1

/-- An object that is blocked cannot be made. -/
theorem make_of_blocks {account : Account} (hbuilding : Building start account made hs s)
    (hfiles : caller.hasFiles = true) (hblocks : start.Blocks made (kind, name)) (size : Nat) :
    s.make caller kind name size = (s, .ok none) :=
  System.make_of_takes hfiles ((hbuilding.takes kind name).mpr hblocks) size

/-- Any other object can be made. -/
theorem make (hbuilding : Building start caller.account made hs s)
    (hfiles : caller.hasFiles = true) (hgood : ∃ key, System.key kind name = .ok key)
    (hfree : ¬start.Blocks made (kind, name)) (size : Nat) :
    ∃ id s', s.make caller kind name size =
        (s', .ok (some (System.handle kind id name true size))) ∧
      Building start caller.account ((kind, name) :: made)
        (System.handle kind id name true size :: hs) s' := by
  obtain ⟨key, hkey⟩ := hgood
  have hmake := System.make_of_free hfiles hkey
    (fun htakes => hfree ((hbuilding.takes kind name).mp htakes)) size
  have hmade := System.made hmake
  refine ⟨_, _, hmake, hbuilding.balanced.make hmade,
    .cons (System.make_isFor hmake) hbuilding.named, fun kind' => ?_, fun kind' name' => ?_,
    List.pairwise_cons.mpr ⟨fun h hmem hkind heq => ?_, hbuilding.apart⟩,
    List.forall_mem_cons.mpr ⟨System.isBlank_add s kind key name caller.account size,
      fun h hmem => ?_⟩⟩
  · rw [hmade.names, hbuilding.listed, ← List.append_assoc]
    exact congrArg (· ++ _) (entries_cons kind' caller.account _ (inHands caller.account hs)).symm
  · rw [System.takes_add hkey, hbuilding.takes]
    simp only [System.Blocks, List.mem_cons, exists_eq_or_imp, or_assoc]
    exact or_congr_right or_comm
  · -- the number of a new object belongs to no object that was there
    have hfresh := System.owner?_add_fresh s kind key caller.account size
    have hold := hbuilding.there hmem
    rw [← hkind, ← heq] at hold
    cases hold.symm.trans hfresh
  · exact (hbuilding.blank h hmem).add (by rw [hbuilding.there hmem]; rfl) kind key _ size

/-- A signal that was made is there, and not set. -/
theorem signal {account : Account} (hbuilding : Building start account made hs s) {h : Handle}
    (hmem : h ∈ hs) (hkind : h.kind = .event) :
    (s.owner? .event h.id).isSome = true ∧ s.count h.id = 0 := by
  have hthere := hbuilding.there hmem
  have hblank := hbuilding.blank h hmem
  unfold System.IsBlank at hblank
  rw [hkind] at hthere hblank
  exact ⟨by rw [hthere]; rfl, hblank⟩

/-- A region that was made is there, and holds zeros. -/
theorem region {account : Account} (hbuilding : Building start account made hs s) {h : Handle}
    (hmem : h ∈ hs) (hkind : h.kind = .memory) :
    (s.owner? .memory h.id).isSome = true ∧ s.region h.id = { size := h.length } := by
  have hthere := hbuilding.there hmem
  have hblank := hbuilding.blank h hmem
  unfold System.IsBlank at hblank
  rw [hkind] at hthere hblank
  exact ⟨by rw [hthere]; rfl, hblank⟩

/-- Whoever lets go of all that was made leaves the tables as they were. -/
theorem names_dropAll (hbuilding : Building start caller.account made hs s) (kind : ObjectKind) :
    (Channel.dropAll s caller hs).names kind = start.names kind :=
  (hbuilding.balanced.dropAll caller.account.owns_self).names_eq nofun kind

end Building

/-! ## A new channel -/

/-- All objects of a channel have good names. -/
def ChannelNames.IsGood (names : ChannelNames) : Prop :=
  ∀ object ∈ names.objects, ∃ key, System.key object.1 object.2 = .ok key

/-- The objects of a channel as a negotiation makes them. -/
structure Channel.IsNew (c : Channel) (start s : System) : Prop where
  /-- The three names of signals were added to the tables, and no others. -/
  signals : ∃ request response cancel, System.key .event c.names.request = .ok request ∧
    System.key .event c.names.response = .ok response ∧
      System.key .event c.names.cancel = .ok cancel ∧
        s.names .event = (cancel, c.cancel.id) :: (response, c.response.id) ::
          (request, c.request.id) :: start.names .event
  /-- So was the name of the region. -/
  memory : ∃ mapping, System.key .memory c.names.mapping = .ok mapping ∧
    s.names .memory = (mapping, c.memory.id) :: start.names .memory
  separate : c.IsSeparate s
  unset : s.count c.request.id = 0 ∧ s.count c.response.id = 0 ∧ s.count c.cancel.id = 0
  header : (s.region c.memory.id).envelope.get32 0 = 20500 ∧
    (s.region c.memory.id).envelope.get32 4 = 1 ∧ (s.region c.memory.id).envelope.get32 8 = 0
  zeros : ∀ j, 12 ≤ j → (s.region c.memory.id).byteAt j = 0
  size : (s.region c.memory.id).size = Region.channelSize

theorem Handle.IsFor.listing?_eq {h : Handle} {kind : ObjectKind} {name key : String}
    (hfor : h.IsFor (kind, name)) (hkey : System.key kind name = .ok key) (kind' : ObjectKind) :
    h.listing? kind' = if kind = kind' then some (key, h.id) else none := by
  obtain ⟨howner, hkind, hname⟩ := hfor
  unfold Handle.listing?
  rw [hkind, hname]
  simp [howner, hkey, Except.toOption]

/-- With its four objects made and its header written, a channel is a new one. -/
theorem Building.isNew {start s : System} {account : Account} {c : Channel}
    (hbuilding : Building start account
      [(.memory, c.names.mapping), (.event, c.names.cancel), (.event, c.names.response),
        (.event, c.names.request)] [c.memory, c.cancel, c.response, c.request] s)
    (hgood : c.names.IsGood) (hlength : c.memory.length = Region.channelSize) :
    c.IsNew start
      (s.modifyRegion c.memory.id fun r => { r with envelope := r.envelope.reset }) := by
  obtain ⟨request, hrequest⟩ := hgood (.event, c.names.request) (by simp [ChannelNames.objects])
  obtain ⟨response, hresponse⟩ := hgood (.event, c.names.response) (by simp [ChannelNames.objects])
  obtain ⟨cancel, hcancel⟩ := hgood (.event, c.names.cancel) (by simp [ChannelNames.objects])
  obtain ⟨mapping, hmapping⟩ := hgood (.memory, c.names.mapping) (by simp [ChannelNames.objects])
  have hsame := System.SameTables.modifyRegion s c.memory.id fun r =>
    { r with envelope := r.envelope.reset }
  have hnamed := hbuilding.named
  simp only [List.forall₂_cons, List.forall₂_nil_right_iff, and_true] at hnamed
  obtain ⟨hmemoryFor, hcancelFor, hresponseFor, hrequestFor⟩ := hnamed
  have hlisted (kind : ObjectKind) : s.names kind =
      (if .memory = kind then some (mapping, c.memory.id) else none).toList ++
        ((if .event = kind then some (cancel, c.cancel.id) else none).toList ++
          ((if .event = kind then some (response, c.response.id) else none).toList ++
            ((if .event = kind then some (request, c.request.id) else none).toList ++
              start.names kind))) := by
    rw [hbuilding.listed]
    simp only [inHands, List.map_cons, List.map_nil, entries_cons,
      hmemoryFor.listing?_eq hmapping, hcancelFor.listing?_eq hcancel,
      hresponseFor.listing?_eq hresponse, hrequestFor.listing?_eq hrequest, List.append_assoc]
    rfl
  obtain ⟨hrequestThere, hrequestUnset⟩ := hbuilding.signal (by simp) hrequestFor.kind
  obtain ⟨hresponseThere, hresponseUnset⟩ := hbuilding.signal (by simp) hresponseFor.kind
  obtain ⟨hcancelThere, hcancelUnset⟩ := hbuilding.signal (by simp) hcancelFor.kind
  obtain ⟨hmemoryThere, hmemoryZero⟩ := hbuilding.region (by simp) hmemoryFor.kind
  have hregion := System.region_modifyRegion hmemoryThere fun r =>
    { r with envelope := r.envelope.reset }
  rw [hmemoryZero, hlength] at hregion
  have hapart := hbuilding.apart
  simp only [List.pairwise_cons, List.forall_mem_cons, hcancelFor.kind, hresponseFor.kind,
    hrequestFor.kind, forall_const] at hapart
  obtain ⟨-, ⟨hcancels, hcancels', -⟩, ⟨hresponses, -⟩, -⟩ := hapart
  have hseparate : c.IsSeparate s :=
    ⟨hrequestThere, hresponseThere, hcancelThere, hmemoryThere, hresponses, hcancels', hcancels⟩
  obtain ⟨⟨hsize, hversion⟩, hnumber⟩ :=
    Envelope.kind?_eq_ok_iff.mp (Envelope.kind?_reset Envelope.zero)
  refine ⟨⟨request, response, cancel, hrequest, hresponse, hcancel, ?_⟩, ⟨mapping, hmapping, ?_⟩,
    hseparate.same hsame, ⟨hrequestUnset, hresponseUnset, hcancelUnset⟩, ?_, fun j hj => ?_, ?_⟩
  · rw [hsame.names, hlisted]
    rfl
  · rw [hsame.names, hlisted]
    rfl
  · rw [hregion]
    exact ⟨hsize, hversion, hnumber⟩
  · rw [hregion, Region.byteAt]
    split
    · exact (Envelope.byteAt_reset Envelope.zero hj).trans (Envelope.byteAt_zero j)
    · rfl
  · rw [hregion]

end ConsoleLink
