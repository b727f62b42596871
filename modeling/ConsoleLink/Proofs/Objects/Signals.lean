import ConsoleLink.Proofs.Objects.Tables

/-!
# The signals of a channel

What a party does with a channel comes back as the counts of its signals, even where two names
lead to one signal.

* `System.count_setCount` is what setting a count does to a signal.
* `Channel.shared_setShared` says that everything comes back if no two names do so.
* `Channel.count_envelope`, `count_request` and `count_response` say what is left of the counts in
  any case, after writing bytes, taking a request and posting a response.
-/

namespace ConsoleLink

/-- What is put before the end of the envelope is put into it. -/
theorem Region.envelope_put (r : Region) {offset : Nat} {bytes : List UInt8}
    (hsize : offset + bytes.length ≤ Envelope.size) :
    (r.put offset bytes).envelope = r.envelope.put offset bytes := by
  induction bytes generalizing r offset with
  | nil => rfl
  | cons b rest ih =>
    rw [List.length_cons] at hsize
    rw [put, Envelope.put, ih _ (by omega), putByte, if_pos (by omega)]

theorem Region.envelope_putMessage (r : Region) {offset : Nat} {bytes : List UInt8}
    (hsize : offset + bytes.length ≤ Envelope.size) :
    (r.putMessage [(offset, bytes)]).envelope = r.envelope.put offset bytes :=
  r.envelope_put hsize

namespace System

/-- Only a signal that exists has a count. -/
theorem count_setCount (s : System) (id count id' : Nat) :
    (s.setCount id count).count id' =
      if id' = id ∧ (s.owner? .event id).isSome then count else s.count id' := by
  by_cases hid : id' = id
  · subst hid
    cases hobject : s.signals.objects[id']? with
    | none =>
      have hsome : ¬(id' = id' ∧ (s.owner? .event id').isSome = true) := by
        simp [owner?, Registry.object?, hobject]
      rw [if_neg hsome]
      simp [setCount, System.count, Registry.modify, Registry.object?, Array.getElem?_modify,
        hobject]
    | some o =>
      have hsome : id' = id' ∧ (s.owner? .event id').isSome = true := by
        simp [owner?, Registry.object?, hobject]
      rw [if_pos hsome]
      simp [setCount, System.count, Registry.modify, Registry.object?, Array.getElem?_modify,
        hobject]
  · rw [if_neg fun h => hid h.1]
    simp [setCount, System.count, Registry.modify, Registry.object?, Array.getElem?_modify,
      Ne.symm hid]

/-- Signals that exist count from where they are. -/
theorem count_moveCount (s : System) {id before : Nat} (after id' : Nat)
    (hbefore : s.count id = before) (hsome : (s.owner? .event id).isSome = true) :
    (s.moveCount id before after).count id' = if id' = id then after else s.count id' := by
  unfold moveCount
  split
  · rename_i hsame
    split
    · rename_i hid
      rw [hid, hbefore, hsame]
    · rfl
  · rw [count_setCount]
    by_cases hid : id' = id
    · rw [if_pos ⟨hid, hsome⟩, if_pos hid]
    · rw [if_neg fun h => hid h.1, if_neg hid]

theorem regions_moveCount (s : System) (id before after : Nat) :
    (s.moveCount id before after).regions = s.regions := by
  unfold moveCount
  split <;> rfl

/-- A region that exists is changed as one says. -/
theorem region_modifyRegion {s : System} {id : Nat} (hsome : (s.owner? .memory id).isSome = true)
    (f : Region → Region) : (s.modifyRegion id f).region id = f (s.region id) := by
  cases hobject : s.regions.objects[id]? with
  | none => simp [owner?, Registry.object?, hobject] at hsome
  | some o =>
    simp [modifyRegion, region, Registry.modify, Registry.object?, Array.getElem?_modify, hobject]

end System

namespace Channel

variable (c : Channel) (s : System)

/-- The objects of the channel are there, and no two of them are one. -/
structure IsSeparate : Prop where
  request : (s.owner? .event c.request.id).isSome = true
  response : (s.owner? .event c.response.id).isSome = true
  cancel : (s.owner? .event c.cancel.id).isSome = true
  memory : (s.owner? .memory c.memory.id).isSome = true
  responses : c.response.id ≠ c.request.id
  cancels : c.cancel.id ≠ c.request.id ∧ c.cancel.id ≠ c.response.id

theorem IsSeparate.same {c : Channel} {s s' : System} (hseparate : c.IsSeparate s)
    (hsame : s.SameTables s') : c.IsSeparate s' := by
  obtain ⟨hrequest, hresponse, hcancel, hmemory, hresponses, hcancels⟩ := hseparate
  rw [← hsame.owner?] at hrequest hresponse hcancel hmemory
  exact ⟨hrequest, hresponse, hcancel, hmemory, hresponses, hcancels⟩

/-- What a party has made of a channel is what the other one finds. -/
theorem shared_setShared {c : Channel} {s : System} (hseparate : c.IsSeparate s) (v : Shared) :
    c.shared (c.setShared s v) = v := by
  obtain ⟨hrequest, hresponse, hcancel, hmemory, hresponses, hcancels⟩ := hseparate
  let written := s.modifyRegion c.memory.id fun r => { r with envelope := v.envelope }
  let taken := written.moveCount c.request.id (c.shared s).request v.request
  let posted := taken.moveCount c.response.id (c.shared s).response v.response
  have htaken (id : Nat) : taken.count id = if id = c.request.id then v.request else s.count id :=
    System.count_moveCount written v.request id rfl hrequest
  have hsame : s.SameTables taken :=
    (System.SameTables.modifyRegion s _ _).trans (.moveCount _ _ _ _)
  have hposted (id : Nat) :
      posted.count id = if id = c.response.id then v.response else taken.count id := by
    refine System.count_moveCount taken v.response id ?_ (by rw [hsame.owner?]; exact hresponse)
    rw [htaken, if_neg hresponses]
    rfl
  have hsame' : s.SameTables posted := hsame.trans (.moveCount _ _ _ _)
  have hcount (id : Nat) : (c.setShared s v).count id =
      if id = c.cancel.id then v.cancel else posted.count id := by
    refine System.count_moveCount posted v.cancel id ?_ (by rw [hsame'.owner?]; exact hcancel)
    rw [hposted, if_neg hcancels.2, htaken, if_neg hcancels.1]
    rfl
  have hregion : ((c.setShared s v).region c.memory.id).envelope = v.envelope := by
    have hregions : (c.setShared s v).regions = written.regions := by
      simp only [setShared, System.regions_moveCount, written]
    have hwritten : (written.region c.memory.id).envelope = v.envelope := by
      rw [System.region_modifyRegion hmemory]
    unfold System.region at hwritten ⊢
    rw [hregions]
    exact hwritten
  unfold shared
  rw [hregion, hcount, hcount, hcount, if_pos rfl, if_neg hcancels.1.symm, if_neg hcancels.2.symm,
    hposted, hposted, if_pos rfl, if_neg hresponses.symm, htaken, if_pos rfl]

theorem count_envelope (bytes : Envelope) (id : Nat) :
    (c.setShared s { c.shared s with envelope := bytes }).count id = s.count id := by
  simp only [setShared, System.moveCount, ↓reduceIte]
  rfl

theorem count_request {left : Nat} (hrequest : (c.shared s).request = left + 1) :
    left ≤ (c.setShared s { c.shared s with request := left }).count c.request.id := by
  have hset : c.setShared s { c.shared s with request := left } =
      (s.modifyRegion c.memory.id fun r =>
        { r with envelope := (c.shared s).envelope }).setCount c.request.id left := by
    simp only [setShared, System.moveCount, hrequest, ↓reduceIte]
    rw [if_neg (by omega)]
  have hcount : s.count c.request.id = left + 1 := hrequest
  rw [hset, System.count_setCount]
  split
  · exact Nat.le_refl left
  · show left ≤ s.count c.request.id
    omega

theorem count_response :
    (∀ id, s.count id ≤
        (c.setShared s { c.shared s with response := (c.shared s).response + 1 }).count id) ∧
      ((s.owner? .event c.response.id).isSome = true →
        (c.setShared s { c.shared s with response := (c.shared s).response + 1 }).count
          c.response.id = s.count c.response.id + 1) := by
  have hset : c.setShared s { c.shared s with response := (c.shared s).response + 1 } =
      (s.modifyRegion c.memory.id fun r =>
        { r with envelope := (c.shared s).envelope }).setCount c.response.id
          (s.count c.response.id + 1) := by
    simp only [setShared, System.moveCount, ↓reduceIte]
    rw [if_neg (by omega)]
    rfl
  rw [hset]
  constructor
  · intro id
    rw [System.count_setCount]
    split
    · rename_i hid
      rw [hid.1]
      exact Nat.le_succ _
    · exact Nat.le_refl _
  · intro hsome
    rw [System.count_setCount, if_pos ⟨rfl, hsome⟩]

/-- Somebody puts bytes into the memory and asks for an answer. -/
theorem shared_post {c : Channel} {s : System} (hseparate : c.IsSeparate s) (m : Message)
    (hsmall : (c.shared s).request < Signal.largest) {s' : System}
    (hpost : s' = ((s.modifyRegion c.memory.id (·.putMessage m)).setSignal c.request).1) :
    (c.shared s').envelope = ((s.region c.memory.id).putMessage m).envelope ∧
      (c.shared s').request = (c.shared s).request + 1 ∧
        (c.shared s').response = (c.shared s).response := by
  have hset : s' = (s.modifyRegion c.memory.id (·.putMessage m)).setCount c.request.id
      ((c.shared s).request + 1) := by
    have hcount : Signal.set ((s.modifyRegion c.memory.id (·.putMessage m)).count c.request.id) =
        .ok ((c.shared s).request + 1) := if_pos hsmall
    rw [hpost]
    unfold System.setSignal
    rw [hcount]
  have hcount (id : Nat) :
      s'.count id = if id = c.request.id then (c.shared s).request + 1 else s.count id := by
    rw [hset, System.count_setCount]
    by_cases hid : id = c.request.id
    · rw [if_pos ⟨hid, hseparate.request⟩, if_pos hid]
    · rw [if_neg fun h => hid h.1, if_neg hid]
      rfl
  refine ⟨?_, ?_, ?_⟩
  · have hregion := System.region_modifyRegion hseparate.memory (·.putMessage m)
    rw [hset]
    exact congrArg Region.envelope hregion
  · exact (hcount c.request.id).trans (if_pos rfl)
  · exact (hcount c.response.id).trans (if_neg hseparate.responses)

end Channel

end ConsoleLink
