import ConsoleLink.Channel
import Mathlib.Data.List.Perm.Basic
import Mathlib.Data.List.Nodup

/-!
# The tables of names

An object is in the table of its kind from when it is made until its maker lets go of it.

* `System.names` is the table of a kind, `System.owner?` tells who made an object.
* `System.SameTables` relates systems that differ in the contents of objects only.
* `System.make_cases` and `System.drop_owner` say what making and letting go do to a table.
* `Handle.listing?` is the name that a handle stands for: none, unless it is the maker's.
* `Balanced` says that the tables hold what they held at the beginning and the names of the
  handles that are alive.  `Balanced.make` and `Balanced.drop` keep it, and a handle that was
  only opened does not count (`Balanced.cons_iff_of_not_owner`).
-/

namespace ConsoleLink

theorem Account.owns_self (account : Account) : account.owns account = true := by
  cases account <;> rfl

namespace System

/-! ## Tables -/

/-- The names of a kind, each with the number of its object. -/
def names (s : System) : ObjectKind → List (String × Nat)
  | .event => s.signals.names
  | .memory => s.regions.names

/-- Who made an object. -/
def owner? (s : System) (kind : ObjectKind) (id : Nat) : Option Account :=
  match kind with
  | .event => (s.signals.object? id).map (·.owner)
  | .memory => (s.regions.object? id).map (·.owner)

variable {s s' : System} {kind kind' : ObjectKind} {key : String} {caller : Caller}

theorem find?_eq (s : System) (kind : ObjectKind) (key : String) :
    s.find? kind key = (s.names kind).lookup key := by
  cases kind <;> rfl

theorem allows_of_owner? {account maker : Account} {id : Nat}
    (howner : s.owner? kind id = some maker) (howns : account.owns maker = true) :
    s.allows account kind id = true := by
  cases kind with
  | event =>
    obtain ⟨o, ho, rfl⟩ := Option.map_eq_some_iff.mp howner
    simp [allows, Registry.allows, ho, howns]
  | memory =>
    obtain ⟨o, ho, rfl⟩ := Option.map_eq_some_iff.mp howner
    simp [allows, Registry.allows, ho, howns]

theorem names_unname (s : System) (kind kind' : ObjectKind) (key : String) :
    (s.unname kind key).names kind' =
      if kind' = kind then (s.names kind').filter fun entry => entry.1 != key
      else s.names kind' := by
  cases kind <;> cases kind' <;> rfl

theorem owner?_unname (s : System) (kind kind' : ObjectKind) (key : String) (id : Nat) :
    (s.unname kind key).owner? kind' id = s.owner? kind' id := by
  cases kind <;> cases kind' <;> rfl

theorem names_add (s : System) (kind kind' : ObjectKind) (key : String) (owner : Account)
    (size : Nat) :
    (s.add kind key owner size).1.names kind' =
      if kind' = kind then (key, (s.add kind key owner size).2) :: s.names kind'
      else s.names kind' := by
  cases kind <;> cases kind' <;> rfl

theorem owner?_add_self (s : System) (kind : ObjectKind) (key : String) (owner : Account)
    (size : Nat) :
    (s.add kind key owner size).1.owner? kind (s.add kind key owner size).2 = some owner := by
  cases kind <;> simp [add, owner?, Registry.add, Registry.object?]

/-- A new object takes nothing from the others. -/
theorem owner?_add (s : System) (kind : ObjectKind) (key : String) (owner : Account) (size : Nat)
    {account : Account} {id : Nat} (howner : s.owner? kind' id = some account) :
    (s.add kind key owner size).1.owner? kind' id = some account := by
  have hpush {α : Type} {r : Registry α} (content : α)
      (h : (r.object? id).map (·.owner) = some account) :
      ((r.add key owner content).1.object? id).map (·.owner) = some account := by
    obtain ⟨o, ho, rfl⟩ := Option.map_eq_some_iff.mp h
    have hlt : id < r.objects.size := (Array.getElem?_eq_some_iff.mp ho).1
    have hold : (r.objects.push ⟨owner, content⟩)[id]? = some o := by
      rw [Array.getElem?_push_lt hlt, ← ho]
      simp [Registry.object?, hlt]
    simp [Registry.add, Registry.object?, hold]
  cases kind <;> cases kind'
  · exact hpush _ howner
  · exact howner
  · exact howner
  · exact hpush _ howner

/-! ## Contents -/

/-- The systems differ in the contents of their objects only. -/
structure SameTables (s s' : System) : Prop where
  names : ∀ kind, s'.names kind = s.names kind
  owner? : ∀ kind id, s'.owner? kind id = s.owner? kind id

theorem SameTables.refl (s : System) : SameTables s s := ⟨fun _ => rfl, fun _ _ => rfl⟩

theorem SameTables.trans {s'' : System} (h : SameTables s s') (h' : SameTables s' s'') :
    SameTables s s'' :=
  ⟨fun kind => (h'.names kind).trans (h.names kind),
    fun kind id => (h'.owner? kind id).trans (h.owner? kind id)⟩

theorem owner_modify {α : Type} (r : Registry α) (id id' : Nat) (f : α → α) :
    ((r.modify id f).object? id').map (·.owner) = (r.object? id').map (·.owner) := by
  by_cases hid : id = id'
  · simp [Registry.modify, Registry.object?, Array.getElem?_modify, hid, Function.comp_def]
  · simp [Registry.modify, Registry.object?, Array.getElem?_modify, hid]

theorem SameTables.setCount (s : System) (id count : Nat) : SameTables s (s.setCount id count) where
  names kind := by cases kind <;> rfl
  owner? kind id' := by
    cases kind with
    | event => exact owner_modify s.signals id id' _
    | memory => rfl

theorem SameTables.modifyRegion (s : System) (id : Nat) (f : Region → Region) :
    SameTables s (s.modifyRegion id f) where
  names kind := by cases kind <;> rfl
  owner? kind id' := by
    cases kind with
    | event => rfl
    | memory => exact owner_modify s.regions id id' f

theorem SameTables.moveCount (s : System) (id before after : Nat) :
    SameTables s (s.moveCount id before after) := by
  unfold System.moveCount
  split
  · exact .refl s
  · exact .setCount s id after

theorem SameTables.setSignal (s : System) (h : Handle) : SameTables s (s.setSignal h).1 := by
  unfold System.setSignal
  split
  · exact .setCount s h.id _
  · exact .refl s

theorem SameTables.takeSignal (s : System) (caller : Caller) (h : Handle) :
    SameTables s (s.takeSignal caller h).1 := by
  unfold System.takeSignal
  split
  · exact .setCount s h.id _
  · exact .refl s
  · exact .refl s

/-- What the two parties of a channel do with it leaves the tables. -/
theorem SameTables.setShared (c : Channel) (s : System) (v : Shared) :
    SameTables s (c.setShared s v) :=
  (((SameTables.modifyRegion s _ _).trans (.moveCount _ _ _ _)).trans (.moveCount _ _ _ _)).trans
    (.moveCount _ _ _ _)

end System

/-! ## Handles -/

/-- The name in the table of a kind that is there for a handle: none, unless the handle is the
maker's. -/
def Handle.listing? (kind : ObjectKind) (h : Handle) : Option (String × Nat) :=
  if h.owner ∧ h.kind = kind then (System.key h.kind h.name).toOption.map (·, h.id) else none

/-- The names that are there for handles, each held by an account. -/
def entries (kind : ObjectKind) (live : List (Account × Handle)) : List (String × Nat) :=
  live.filterMap fun held => held.2.listing? kind

theorem Handle.listing?_of_key {h : Handle} {key : String} (howner : h.owner = true)
    (hkey : System.key h.kind h.name = .ok key) : h.listing? h.kind = some (key, h.id) := by
  simp [listing?, howner, hkey, Except.toOption]

theorem Handle.listing?_of_ne {h : Handle} {kind : ObjectKind} (hkind : kind ≠ h.kind) :
    h.listing? kind = none := by
  simp [listing?, Ne.symm hkind]

theorem Handle.listing?_of_not_owner {h : Handle} (howner : h.owner = false) (kind : ObjectKind) :
    h.listing? kind = none := by
  simp [listing?, howner]

theorem entries_cons (kind : ObjectKind) (account : Account) (h : Handle)
    (live : List (Account × Handle)) :
    entries kind ((account, h) :: live) = (h.listing? kind).toList ++ entries kind live := by
  cases hentry : h.listing? kind <;> simp [entries, hentry]

namespace System

variable {s s' : System} {kind : ObjectKind} {key : String} {caller : Caller}

/-! ## Making and letting go -/

/-- Nothing is made, or a name that is free gets a new object. -/
theorem make_cases (s : System) (caller : Caller) (kind : ObjectKind) (name : String)
    (size : Nat) :
    (∃ outcome, s.make caller kind name size = (s, outcome) ∧ ∀ h, outcome ≠ .ok (some h)) ∨
      ∃ key, System.key kind name = .ok key ∧ s.find? kind key = none ∧
        s.make caller kind name size = ((s.add kind key caller.account size).1,
          .ok (some (handle kind (s.add kind key caller.account size).2 name true size))) := by
  cases hnew : keyForNew caller kind name with
  | error fault => exact Or.inl ⟨.error fault, by rw [make, hnew], by intro h hmade; cases hmade⟩
  | ok key =>
    have hkey : System.key kind name = .ok key := by
      unfold keyForNew at hnew
      split at hnew
      · cases hnew
      · split at hnew
        · cases hnew
          assumption
        · cases hnew
    cases hfind : s.find? kind key with
    | some id =>
      exact Or.inl ⟨.ok none, by simp only [make, hnew, hfind], by intro h hmade; cases hmade⟩
    | none => exact Or.inr ⟨key, hkey, hfind, by simp only [make, hnew, hfind]⟩

theorem make_unchanged {name : String} {size : Nat} {outcome : Except LinkFault (Option Handle)}
    (hmake : s.make caller kind name size = (s', outcome)) (hnone : ∀ h, outcome ≠ .ok (some h)) :
    s' = s := by
  rcases s.make_cases caller kind name size with ⟨_, hunmade, -⟩ | ⟨key, -, -, hmade⟩
  · rw [hunmade] at hmake
    cases hmake
    rfl
  · rw [hmade] at hmake
    cases hmake
    exact absurd rfl (hnone _)

/-- What the making of an object leaves behind. -/
structure Made (s s' : System) (account : Account) (h : Handle) : Prop where
  owner : h.owner = true
  key : ∃ key, System.key h.kind h.name = .ok key
  names : ∀ kind, s'.names kind = (h.listing? kind).toList ++ s.names kind
  /-- Its name was free. -/
  free : ∀ kind, ∀ entry ∈ h.listing? kind, ∀ old ∈ s.names kind, old.1 ≠ entry.1
  maker : s'.owner? h.kind h.id = some account
  others : ∀ kind id maker, s.owner? kind id = some maker → s'.owner? kind id = some maker

theorem made {name : String} {size : Nat} {h : Handle}
    (hmade : s.make caller kind name size = (s', .ok (some h))) : Made s s' caller.account h := by
  rcases s.make_cases caller kind name size with ⟨outcome, hnone, hnot⟩ | ⟨key, hkey, hfind, hnew⟩
  · rw [hnone] at hmade
    cases hmade
    exact absurd rfl (hnot h)
  · rw [hnew] at hmade
    cases hmade
    have hentry (kind' : ObjectKind) :
        (handle kind (s.add kind key caller.account size).2 name true size).listing? kind' =
          if kind' = kind then some (key, (s.add kind key caller.account size).2) else none := by
      by_cases hkind : kind' = kind
      · subst hkind
        rw [if_pos rfl]
        exact Handle.listing?_of_key rfl hkey
      · rw [if_neg hkind]
        exact Handle.listing?_of_ne hkind
    refine ⟨rfl, ⟨key, hkey⟩, fun kind' => ?_, fun kind' entry hmem old hold => ?_,
      owner?_add_self s kind key caller.account size, fun kind' id maker howner => ?_⟩
    · rw [names_add, hentry]
      split <;> rfl
    · rw [hentry] at hmem
      split at hmem
      · rename_i hkind
        subst hkind
        cases hmem
        rw [find?_eq, List.lookup_eq_none_iff] at hfind
        intro heq
        simpa [heq] using hfind old hold
      · cases hmem
    · exact owner?_add s kind key caller.account size howner

theorem owner_of_openNamed {name : String} {size : Nat} {h : Handle}
    (hopened : s.openNamed caller kind name size = .ok h) : h.owner = false := by
  unfold openNamed at hopened
  split at hopened
  · cases hopened
  · split at hopened
    · cases hopened
    · cases hopened
      rfl

/-- Only its maker takes the name of an object with him. -/
theorem drop_of_not_owner (s : System) (caller : Caller) {h : Handle} (howner : h.owner = false) :
    s.drop caller h = s := by
  simp [drop, howner]

/-- The maker of an object takes its name with him. -/
theorem drop_owner {h : Handle} {maker : Account} (howner : h.owner = true)
    (hkey : System.key h.kind h.name = .ok key) (hfind : s.find? h.kind key = some h.id)
    (hmaker : s.owner? h.kind h.id = some maker) (howns : caller.account.owns maker = true) :
    s.drop caller h = s.unname h.kind key := by
  have hremoves : (s.removeName caller.account h.kind h.name).1 = s.unname h.kind key := by
    simp only [removeName, hkey, hfind, allows_of_owner? hmaker howns, ↓reduceIte]
  simp only [drop, howner, ↓reduceIte, hremoves]

end System

/-! ## The balance -/

/-- The tables are those of the beginning, with one name more for each handle of a maker. -/
structure Balanced (start s : System) (live : List (Account × Handle)) : Prop where
  names : ∀ kind, (s.names kind).Perm (entries kind live ++ start.names kind)
  /-- What was there at the beginning is still there, with the same objects. -/
  kept : ∀ kind, (start.names kind).Sublist (s.names kind)
  /-- Everything that was made since has a name of its own. -/
  unique : ∀ kind, ((entries kind live).map Prod.fst).Nodup
  fresh : ∀ kind, ∀ entry ∈ entries kind live, ∀ old ∈ start.names kind, old.1 ≠ entry.1
  /-- Its maker may remove it. -/
  owned : ∀ held ∈ live, held.2.owner = true →
    s.owner? held.2.kind held.2.id = some held.1 ∧
      ∃ key, System.key held.2.kind held.2.name = .ok key

namespace Balanced

variable {initial s s' : System} {live live' : List (Account × Handle)} {account : Account}
  {caller : Caller} {h : Handle}

theorem start (s : System) : Balanced s s [] where
  names _ := .refl _
  kept _ := .refl _
  unique _ := List.nodup_nil
  fresh _ _ hentry := by cases hentry
  owned _ hheld := by cases hheld

theorem perm (hbalanced : Balanced initial s live) (hperm : live.Perm live') :
    Balanced initial s live' where
  names kind := (hbalanced.names kind).trans ((hperm.filterMap _).append_right _)
  kept := hbalanced.kept
  unique kind := (((hperm.filterMap _).map _).nodup_iff).mp (hbalanced.unique kind)
  fresh kind entry hentry := hbalanced.fresh kind entry ((hperm.filterMap _).mem_iff.mpr hentry)
  owned held hheld := hbalanced.owned held (hperm.mem_iff.mpr hheld)

/-- What is done to the contents of objects does not count. -/
theorem same (hbalanced : Balanced initial s live) (hsame : s.SameTables s') :
    Balanced initial s' live where
  names kind := hsame.names kind ▸ hbalanced.names kind
  kept kind := hsame.names kind ▸ hbalanced.kept kind
  unique := hbalanced.unique
  fresh := hbalanced.fresh
  owned held hheld howner := by
    rw [hsame.owner?]
    exact hbalanced.owned held hheld howner

/-- A handle that is not the maker's does not count, either. -/
theorem cons_iff_of_not_owner (howner : h.owner = false) :
    Balanced initial s ((account, h) :: live) ↔ Balanced initial s live := by
  have hentries (kind : ObjectKind) : entries kind ((account, h) :: live) = entries kind live := by
    rw [entries_cons, h.listing?_of_not_owner howner, Option.toList_none, List.nil_append]
  constructor
  · intro hbalanced
    refine ⟨fun kind => ?_, hbalanced.kept, fun kind => ?_, fun kind => ?_, fun held hheld => ?_⟩
    · exact hentries kind ▸ hbalanced.names kind
    · exact hentries kind ▸ hbalanced.unique kind
    · exact hentries kind ▸ hbalanced.fresh kind
    · exact hbalanced.owned held (List.mem_cons_of_mem _ hheld)
  · intro hbalanced
    refine ⟨fun kind => ?_, hbalanced.kept, fun kind => ?_, fun kind => ?_,
      fun held hheld hmaker => ?_⟩
    · exact (hentries kind).symm ▸ hbalanced.names kind
    · exact (hentries kind).symm ▸ hbalanced.unique kind
    · exact (hentries kind).symm ▸ hbalanced.fresh kind
    · rcases List.mem_cons.mp hheld with rfl | hheld
      · rw [howner] at hmaker
        cases hmaker
      · exact hbalanced.owned held hheld hmaker

/-- A new object has a name that was free. -/
theorem make (hbalanced : Balanced initial s live) (hmade : System.Made s s' account h) :
    Balanced initial s' ((account, h) :: live) := by
  have hold (kind : ObjectKind) : ∀ entry ∈ entries kind live ++ initial.names kind,
      entry ∈ s.names kind := fun entry hentry => (hbalanced.names kind).mem_iff.mpr hentry
  refine ⟨fun kind => ?_, fun kind => ?_, fun kind => ?_, fun kind entry hentry old hinitial => ?_,
    fun held hheld howner => ?_⟩
  · rw [hmade.names, entries_cons, List.append_assoc]
    exact (hbalanced.names kind).append_left _
  · rw [hmade.names]
    exact (hbalanced.kept kind).trans (List.sublist_append_right _ _)
  · rw [entries_cons]
    cases hentry : h.listing? kind with
    | none => exact hbalanced.unique kind
    | some entry =>
      refine List.nodup_cons.mpr ⟨?_, hbalanced.unique kind⟩
      intro hmem
      obtain ⟨old, hlive, heq⟩ := List.mem_map.mp hmem
      exact hmade.free kind entry hentry old (hold kind old (List.mem_append_left _ hlive)) heq
  · rw [entries_cons, List.mem_append, Option.mem_toList] at hentry
    rcases hentry with hnew | hlive
    · exact hmade.free kind entry hnew old (hold kind old (List.mem_append_right _ hinitial))
    · exact hbalanced.fresh kind entry hlive old hinitial
  · rcases List.mem_cons.mp hheld with rfl | hheld
    · exact ⟨hmade.maker, hmade.key⟩
    · obtain ⟨hmaker, hkey⟩ := hbalanced.owned held hheld howner
      exact ⟨hmade.others _ _ _ hmaker, hkey⟩

/-- No other name is the one of a handle. -/
theorem others {key : String} (hbalanced : Balanced initial s ((account, h) :: live))
    (howner : h.owner = true) (hkey : System.key h.kind h.name = .ok key) :
    ∀ entry ∈ entries h.kind live ++ initial.names h.kind, entry.1 ≠ key := by
  have hentries : entries h.kind ((account, h) :: live) = (key, h.id) :: entries h.kind live := by
    rw [entries_cons, Handle.listing?_of_key howner hkey]
    rfl
  have hunique := hbalanced.unique h.kind
  have hfresh := hbalanced.fresh h.kind
  rw [hentries] at hunique hfresh
  intro entry hentry
  rcases List.mem_append.mp hentry with hlive | hinitial
  · intro heq
    have hmem : entry.1 ∈ (entries h.kind live).map Prod.fst := List.mem_map_of_mem hlive
    exact (List.nodup_cons.mp hunique).1 (heq ▸ hmem)
  · exact hfresh (key, h.id) List.mem_cons_self entry hinitial

/-- The name of a handle leads to its object. -/
theorem find?_eq {key : String} (hbalanced : Balanced initial s ((account, h) :: live))
    (howner : h.owner = true) (hkey : System.key h.kind h.name = .ok key) :
    s.find? h.kind key = some h.id := by
  have hnames := hbalanced.names h.kind
  rw [entries_cons, Handle.listing?_of_key howner hkey] at hnames
  rw [System.find?_eq]
  cases hlookup : (s.names h.kind).lookup key with
  | none =>
    rw [List.lookup_eq_none_iff] at hlookup
    have hmem : (key, h.id) ∈ s.names h.kind := hnames.mem_iff.mpr List.mem_cons_self
    simpa using hlookup _ hmem
  | some id =>
    obtain ⟨before, after, hsplit, -⟩ := List.lookup_eq_some_iff.mp hlookup
    have hmem : (key, id) ∈ s.names h.kind := by simp [hsplit]
    rcases List.mem_cons.mp (hnames.mem_iff.mp hmem) with heq | hother
    · cases heq
      rfl
    · exact absurd rfl (hbalanced.others howner hkey _ hother)

/-- Without the name of a handle the tables are those without the handle. -/
theorem unname {key : String} (hbalanced : Balanced initial s ((account, h) :: live))
    (howner : h.owner = true) (hkey : System.key h.kind h.name = .ok key) :
    Balanced initial (s.unname h.kind key) live := by
  have hothers : ∀ entry ∈ entries h.kind live ++ initial.names h.kind,
      (entry.1 != key) = true := by
    intro entry hentry
    simpa using hbalanced.others howner hkey entry hentry
  have hentries {kind : ObjectKind} (hkind : kind ≠ h.kind) :
      entries kind ((account, h) :: live) = entries kind live := by
    rw [entries_cons, Handle.listing?_of_ne hkind, Option.toList_none, List.nil_append]
  have hself : entries h.kind ((account, h) :: live) = (key, h.id) :: entries h.kind live := by
    rw [entries_cons, Handle.listing?_of_key howner hkey, Option.toList_some, List.singleton_append]
  refine ⟨fun kind => ?_, fun kind => ?_, fun kind => ?_, fun kind => ?_,
    fun held hheld hmade => ?_⟩
  · rw [System.names_unname]
    split
    · rename_i hkind
      subst hkind
      have hnames := (hbalanced.names h.kind).filter fun entry => entry.1 != key
      rw [hself, List.cons_append, List.filter_cons, List.filter_eq_self.mpr hothers] at hnames
      simpa using hnames
    · rename_i hkind
      exact hentries hkind ▸ hbalanced.names kind
  · rw [System.names_unname]
    split
    · rename_i hkind
      subst hkind
      have hkept := (hbalanced.kept h.kind).filter fun entry => entry.1 != key
      rwa [List.filter_eq_self.mpr fun entry hentry =>
        hothers entry (List.mem_append_right _ hentry)] at hkept
    · exact hbalanced.kept kind
  · have hunique := hbalanced.unique kind
    rw [entries_cons, List.map_append] at hunique
    exact hunique.of_append_right
  · intro entry hentry
    refine hbalanced.fresh kind entry ?_
    rw [entries_cons]
    exact List.mem_append_right _ hentry
  · rw [System.owner?_unname]
    exact hbalanced.owned held (List.mem_cons_of_mem _ hheld) hmade

/-- Whoever lets go of a handle takes its name, and no other. -/
theorem drop (hbalanced : Balanced initial s ((account, h) :: live))
    (howns : caller.account.owns account = true) : Balanced initial (s.drop caller h) live := by
  cases howner : h.owner with
  | false =>
    rw [System.drop_of_not_owner s caller howner]
    exact (cons_iff_of_not_owner howner).mp hbalanced
  | true =>
    obtain ⟨hmaker, key, hkey⟩ := hbalanced.owned _ List.mem_cons_self howner
    rw [System.drop_owner howner hkey (hbalanced.find?_eq howner hkey) hmaker howns]
    exact hbalanced.unname howner hkey

/-- When nobody holds a handle of his own making any more, the tables are back to what they
were. -/
theorem names_eq (hbalanced : Balanced initial s live)
    (hnone : ∀ held ∈ live, held.2.owner = false) (kind : ObjectKind) :
    s.names kind = initial.names kind := by
  have hentries : entries kind live = [] := by
    rw [entries, List.filterMap_eq_nil_iff]
    intro held hheld
    exact Handle.listing?_of_not_owner (hnone held hheld) kind
  have hnames := hbalanced.names kind
  rw [hentries, List.nil_append] at hnames
  exact ((hbalanced.kept kind).eq_of_length hnames.length_eq.symm).symm

end Balanced

end ConsoleLink
