import ConsoleLink.Proofs.Objects.Accounting
import ConsoleLink.Proofs.Objects.Signals

/-!
# The channel that a negotiation makes

Whoever has negotiated a channel holds the makers' handles on its four objects, so the tables
hold the four names until he closes it.

* `Channel.IsHeld` says that the handles of a channel are the makers', under its names, and
  `negotiate_isHeld` that a negotiation comes to such a channel.
* `ChannelNames.keys` are the names of a channel as they stand in a table.
* `Balanced.runs` and `Balanced.close` are the balance after calls of a party.
-/

namespace ConsoleLink

open Negotiation (Phase)
open TableEffect (inHands)

/-! ## Handles under the names of a channel -/

/-- The handle of the maker of an object. -/
structure Handle.IsFor (h : Handle) (object : ObjectKind × String) : Prop where
  owner : h.owner = true
  kind : h.kind = object.1
  name : h.name = object.2

/-- All handles of a channel are those of the maker of its objects. -/
def Channel.IsHeld (c : Channel) : Prop := List.Forall₂ Handle.IsFor c.handles c.names.objects

theorem System.make_isFor {s s' : System} {caller : Caller} {kind : ObjectKind} {name : String}
    {size : Nat} {h : Handle} (hmake : s.make caller kind name size = (s', .ok (some h))) :
    h.IsFor (kind, name) := by
  rcases s.make_cases caller kind name size with ⟨_, hnone, hnot⟩ | ⟨key, -, -, hnew⟩
  · rw [hnone] at hmake
    cases hmake
    exact absurd rfl (hnot h)
  · rw [hnew] at hmake
    cases hmake
    exact ⟨rfl, rfl, rfl⟩

/-- What a negotiation holds are handles of the maker. -/
def Negotiation.Phase.IsHeld : Phase → Prop
  | granting next => next.IsHeld
  | response names first => first.IsFor (.event, names.request)
  | cancel names first second =>
    first.IsFor (.event, names.request) ∧ second.IsFor (.event, names.response)
  | memory names first second third =>
    first.IsFor (.event, names.request) ∧ second.IsFor (.event, names.response) ∧
      third.IsFor (.event, names.cancel)
  | header c | done (.ok c) => c.IsHeld
  | drawing _ | dropping _ _ | done (.error _) => True

namespace Negotiator

theorem makeUnique_isHeld {caller : Caller} {phase : Phase} {kind : ObjectKind} {name : String}
    {next : Handle → Phase} (hnext : ∀ h, h.IsFor (kind, name) → (next h).IsHeld) (s : System) :
    (makeUnique caller phase kind name next s).1.IsHeld := by
  unfold makeUnique
  split
  · rename_i hmake
    exact hnext _ (System.make_isFor hmake)
  · exact trivial
  · exact trivial

theorem step_isHeld {phase : Phase} (hheld : phase.IsHeld) (caller : Caller) (n : Negotiator)
    (s : System) : (n.step caller phase s).1.IsHeld := by
  cases phase with
  | drawing left =>
    cases left with
    | zero => exact trivial
    | succ left =>
      simp only [step]
      split
      · exact trivial
      · split
        · rename_i hmake
          exact System.make_isFor hmake
        · exact trivial
        · exact trivial
  | granting next =>
    simp only [step]
    split
    · exact trivial
    · exact hheld
  | response names request =>
    refine makeUnique_isHeld (fun h hfor => ?_) s
    exact And.intro hheld hfor
  | cancel names request response =>
    refine makeUnique_isHeld (fun h hfor => ?_) s
    exact And.intro hheld.1 (And.intro hheld.2 hfor)
  | memory names request response cancel =>
    refine makeUnique_isHeld (fun h hfor => ?_) s
    obtain ⟨hrequest, hresponse, hcancel⟩ := hheld
    exact .cons hrequest (.cons hresponse (.cons hcancel (.cons hfor .nil)))
  | header channel => exact hheld
  | dropping handles fault => cases handles <;> exact trivial
  | done outcome => exact hheld

theorem run_isHeld {caller : Caller} {phase : Phase} (n : Negotiator) (s : System)
    (hheld : phase.IsHeld) {channel : Channel} (hmade : (n.run caller phase s).1 = .ok channel) :
    channel.IsHeld := by
  fun_induction Negotiator.run caller phase n s with
  | case1 phase n s outcome hover =>
    cases hmade
    cases phase <;> cases hover
    exact hheld
  | case2 phase n s hgoing next ih => exact ih (step_isHeld hheld caller n s) hmade

theorem negotiate_isHeld {n : Negotiator} {s : System} {caller : Caller} {channel : Channel}
    (hmade : (n.negotiate s caller).1 = .ok channel) : channel.IsHeld :=
  have hstart : (Phase.drawing n.maxAttempts).IsHeld := trivial
  run_isHeld n s hstart hmade

/-- Where nothing has a name yet, the first attempt succeeds. -/
theorem negotiate_fresh : ∃ channel n system,
    Negotiator.negotiate { stem := "_1_x_", salt := fun _ => 7 } {} {} = (.ok channel, n, system) ∧
      channel.names.instanceName = "_1_x_7" ∧ channel.IsSeparate system ∧
        channel.shared system = { envelope := Envelope.zero.reset } := by
  unfold Negotiator.negotiate
  rw [Negotiator.run_step rfl, Negotiator.run_step rfl, Negotiator.run_step rfl,
    Negotiator.run_step rfl, Negotiator.run_step rfl, Negotiator.run_step rfl,
    Negotiator.run_step rfl, Negotiator.run_step rfl, Negotiator.run_step rfl,
    Negotiator.run_over rfl]
  exact ⟨_, _, _, rfl, rfl, ⟨rfl, rfl, rfl, rfl, by decide, by decide, by decide⟩, rfl⟩

end Negotiator

/-! ## Names in the tables -/

/-- The names of a channel as they stand in the table of a kind. -/
def ChannelNames.keys (kind : ObjectKind) (names : ChannelNames) : List String :=
  names.objects.filterMap fun object =>
    if object.1 = kind then (System.key object.1 object.2).toOption else none

theorem Handle.IsFor.listing? {h : Handle} {object : ObjectKind × String} (hfor : h.IsFor object)
    (kind : ObjectKind) :
    (h.listing? kind).map Prod.fst =
      if object.1 = kind then (System.key object.1 object.2).toOption else none := by
  unfold Handle.listing?
  rw [hfor.kind, hfor.name]
  by_cases hkind : object.1 = kind
  · rw [if_pos ⟨hfor.owner, hkind⟩, if_pos hkind, Option.map_map]
    exact Option.map_id'
  · rw [if_neg fun h => hkind h.2, if_neg hkind]
    rfl

theorem Channel.IsHeld.map_entries {channel : Channel} (hheld : channel.IsHeld) (account : Account)
    (kind : ObjectKind) :
    (entries kind (inHands account channel.handles)).map Prod.fst = channel.names.keys kind := by
  have hall {hs : List Handle} {objects : List (ObjectKind × String)}
      (hfor : List.Forall₂ Handle.IsFor hs objects) :
      (entries kind (inHands account hs)).map Prod.fst =
        objects.filterMap fun object =>
          if object.1 = kind then (System.key object.1 object.2).toOption else none := by
    induction hfor with
    | nil => rfl
    | cons hfor _ ih =>
      rw [inHands, List.map_cons, entries_cons, List.map_append, List.filterMap_cons,
        ← hfor.listing? kind, ← ih]
      cases Handle.listing? kind _ <;> rfl
  exact hall hheld

/-! ## The balance after calls -/

namespace Balanced

variable {initial s s' : System} {account : Account}

theorem runs {caller : Caller} {a a' : Activity} {others : List (Account × Handle)}
    (hbalanced : Balanced initial s (inHands caller.account a.handles ++ others))
    (runs : Activity.Runs caller (a, s) (a', s')) :
    Balanced initial s' (inHands caller.account a'.handles ++ others) := by
  have hgrows {b : Activity × System} (runs : Activity.Runs caller (a, s) b) :
      Balanced initial b.2 (inHands caller.account b.1.handles ++ others) := by
    induction runs with
    | refl => exact hbalanced
    | tail _ step ih => exact step.effect.balanced ih
  exact hgrows runs

theorem dropAll {hs : List Handle} {caller : Caller} (howns : caller.account.owns account = true)
    (hbalanced : Balanced initial s (inHands account hs)) :
    Balanced initial (Channel.dropAll s caller hs) [] := by
  induction hs generalizing s with
  | nil => exact hbalanced
  | cons h rest ih => exact ih (hbalanced.drop howns)

/-- To close a channel takes its names out of the tables, verified or not. -/
theorem close {channel : Channel} {caller : Caller} (howns : caller.account.owns account = true)
    (hbalanced : Balanced initial s (inHands account channel.handles)) (isVerified : Bool) :
    Balanced initial (channel.close s caller isVerified) [] := by
  have hdropped := hbalanced.dropAll howns
  unfold Channel.close
  cases isVerified with
  | false => exact hdropped
  | true =>
    have hprobes : Activity.Runs caller _ _ :=
      runs_closing (Channel.dropAll s caller channel.handles) [] channel.names.objects
    have hbefore : Balanced initial (Channel.dropAll s caller channel.handles)
        (inHands caller.account (Activity.closing ⟨[], channel.names.objects⟩).handles ++ []) :=
      hdropped
    exact hbefore.runs hprobes

end Balanced

theorem Handle.IsFor.exists_of_mem {hs : List Handle} {objects : List (ObjectKind × String)}
    (hfor : List.Forall₂ Handle.IsFor hs objects) {object : ObjectKind × String}
    (hobject : object ∈ objects) : ∃ h ∈ hs, h.IsFor object := by
  induction hfor with
  | nil => cases hobject
  | cons hfirst _ ih =>
    rcases List.mem_cons.mp hobject with rfl | hrest
    · exact ⟨_, List.mem_cons_self, hfirst⟩
    · obtain ⟨h, hmem, hfor⟩ := ih hrest
      exact ⟨h, List.mem_cons_of_mem _ hmem, hfor⟩

/-- The names of a channel are good ones, were free and are in the tables. -/
theorem Channel.IsHeld.named {channel : Channel} (hheld : channel.IsHeld) {initial s : System}
    {account : Account} (hbalanced : Balanced initial s (inHands account channel.handles))
    {object : ObjectKind × String} (hobject : object ∈ channel.names.objects) :
    ∃ key, System.key object.1 object.2 = .ok key ∧
      key ∉ (initial.names object.1).map Prod.fst ∧ key ∈ (s.names object.1).map Prod.fst := by
  obtain ⟨h, hmem, hfor⟩ := Handle.IsFor.exists_of_mem hheld hobject
  have hlive : (account, h) ∈ inHands account channel.handles := List.mem_map_of_mem hmem
  obtain ⟨-, key, hkey⟩ := hbalanced.owned _ hlive hfor.owner
  have hentry : (key, h.id) ∈ entries object.1 (inHands account channel.handles) := by
    refine List.mem_filterMap.mpr ⟨_, hlive, ?_⟩
    rw [← hfor.kind]
    exact Handle.listing?_of_key hfor.owner hkey
  refine ⟨key, by rw [← hfor.kind, ← hfor.name]; exact hkey, fun hinitial => ?_, ?_⟩
  · obtain ⟨old, hold, heq⟩ := List.mem_map.mp hinitial
    exact hbalanced.fresh object.1 _ hentry old hold heq
  · have hlisted := (hbalanced.names object.1).mem_iff.mpr (List.mem_append_left _ hentry)
    exact List.mem_map_of_mem hlisted

end ConsoleLink
