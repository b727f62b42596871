import ConsoleLink.Channel.Negotiation
import ConsoleLink.Proofs.Objects.Tables
import Mathlib.Logic.Relation

/-!
# Nobody leaves a name behind

Any number of parties make objects, open them and let go of them, each at its own pace: some
negotiate channels, some attach to them, some close them.  Whatever fails on the way, and
whoever comes in between, the tables hold what the parties hold.

* `Attaching` and `Closing` are an attach and the closing of a channel in single steps;
  `runs_attach` and `runs_close` say that those in one go are runs of such steps.
* `Activity` is what a party is at, `Activity.Step` is every step it can take.
* `TableEffect` says what a step does to the tables and to what the party holds.  Every step has
  one (`Activity.Step.effect`), and every effect keeps the balance (`TableEffect.balanced`).
* `Reach` is every state that the parties can come to, and `accounts_for_names` what holds
  there.
-/

namespace ConsoleLink

open Negotiation (Phase)

/-! ## Effects -/

/-- The handle that making an object has come to, if it has. -/
def gained : Except LinkFault (Option Handle) → List Handle
  | .ok made => made.toList
  | .error _ => []

/-- What a step of a party does to the tables and to the handles that it holds. -/
inductive TableEffect (account : Account) : List Handle → System → List Handle → System → Prop
  | make {hs : List Handle} {s s' : System} {h : Handle} (hmade : System.Made s s' account h) :
      TableEffect account hs s (h :: hs) s'
  | opened {hs : List Handle} {s : System} {h : Handle} (howner : h.owner = false) :
      TableEffect account hs s (h :: hs) s
  | drop {hs rest : List Handle} {s : System} {h : Handle} (caller : Caller)
      (howns : caller.account.owns account = true) (hheld : hs.Perm (h :: rest)) :
      TableEffect account hs s rest (s.drop caller h)
  | quiet {hs hs' : List Handle} {s s' : System} (hheld : hs.Perm hs') (hsame : s.SameTables s') :
      TableEffect account hs s hs' s'

namespace TableEffect

variable {account : Account} {hs hs' : List Handle} {initial s s' : System}

theorem idle (account : Account) (hs : List Handle) (s : System) : TableEffect account hs s hs s :=
  .quiet (.refl hs) (.refl s)

theorem of_make {caller : Caller} {kind : ObjectKind} {name : String} {size : Nat}
    {outcome : Except LinkFault (Option Handle)} (hs : List Handle)
    (hmake : s.make caller kind name size = (s', outcome)) :
    TableEffect caller.account hs s (gained outcome ++ hs) s' := by
  match outcome with
  | .ok (some h) => exact .make (System.made hmake)
  | .ok none =>
    rw [System.make_unchanged hmake (by intro h hmade; cases hmade)]
    exact .idle _ _ _
  | .error fault =>
    rw [System.make_unchanged hmake (by intro h hmade; cases hmade)]
    exact .idle _ _ _

/-- Handles in the hands of an account. -/
def inHands (account : Account) (hs : List Handle) : List (Account × Handle) :=
  hs.map fun h => (account, h)

theorem balanced (effect : TableEffect account hs s hs' s') {others : List (Account × Handle)}
    (hbalanced : Balanced initial s (inHands account hs ++ others)) :
    Balanced initial s' (inHands account hs' ++ others) := by
  cases effect with
  | make hmade => exact hbalanced.make hmade
  | opened howner => exact (Balanced.cons_iff_of_not_owner howner).mpr hbalanced
  | drop caller howns hheld =>
    have hperm := (hheld.map fun h => (account, h)).append_right others
    exact (hbalanced.perm hperm).drop howns
  | quiet hheld hsame =>
    have hperm := (hheld.map fun h => (account, h)).append_right others
    exact (hbalanced.perm hperm).same hsame

/-- A step after which the party has made what it had made before leaves the tables. -/
theorem names_eq (effect : TableEffect account hs s hs' s')
    (howned : (hs'.filter Handle.owner).Perm (hs.filter Handle.owner)) (kind : ObjectKind) :
    s'.names kind = s.names kind := by
  have hlength := howned.length_eq
  cases effect with
  | make hmade =>
    rw [List.filter_cons_of_pos hmade.owner, List.length_cons] at hlength
    omega
  | opened howner => rfl
  | @drop _ _ h caller howns hheld =>
    cases howner : h.owner with
    | false => rw [System.drop_of_not_owner s caller howner]
    | true =>
      have hbefore := (hheld.filter Handle.owner).length_eq
      rw [List.filter_cons_of_pos howner, List.length_cons] at hbefore
      omega
  | quiet hheld hsame => exact hsame.names kind

end TableEffect

/-! ## Negotiating -/

namespace Negotiator

theorem makeUnique_effect (caller : Caller) (phase : Phase) (kind : ObjectKind) (name : String)
    {next : Handle → Phase} (hnext : ∀ h, (next h).handles = h :: phase.handles) (s : System) :
    TableEffect caller.account phase.handles s (makeUnique caller phase kind name next s).1.handles
      (makeUnique caller phase kind name next s).2 := by
  unfold makeUnique
  split
  · rename_i s' h hmake
    rw [Phase.handles, hnext]
    exact .of_make _ hmake
  · rename_i s' hmake
    exact .of_make _ hmake
  · rename_i s' fault hmake
    exact .of_make _ hmake

theorem step_effect (caller : Caller) (phase : Phase) (n : Negotiator) (s : System) :
    TableEffect caller.account phase.handles s (step caller phase n s).1.handles
      (step caller phase n s).2.2 := by
  cases phase with
  | drawing left =>
    cases left with
    | zero => exact .idle _ _ _
    | succ left =>
      simp only [step]
      split
      · exact .idle _ _ _
      · split
        · rename_i s' h hmake
          exact .of_make _ hmake
        · rename_i s' hmake
          exact .of_make _ hmake
        · rename_i s' fault hmake
          exact .of_make _ hmake
  | granting next =>
    simp only [step]
    split
    · exact .idle _ _ _
    · exact .idle _ _ _
  | response names request => exact makeUnique_effect _ _ _ _ (fun _ => rfl) s
  | cancel names request response => exact makeUnique_effect _ _ _ _ (fun _ => rfl) s
  | memory names request response cancel => exact makeUnique_effect _ _ _ _ (fun _ => rfl) s
  | header channel => exact .quiet (.refl _) (.modifyRegion s _ _)
  | dropping handles fault =>
    cases handles with
    | nil => exact .idle _ _ _
    | cons h rest => exact .drop caller caller.account.owns_self (.refl _)
  | done outcome => exact .idle _ _ _

end Negotiator

/-! ## Attaching -/

/-- An attach between two steps. -/
inductive Attaching
  /-- Objects were opened, the latest first, and the rest is to be opened. -/
  | opening (handles : List Handle) (rest : List (ObjectKind × String))
  /-- It failed and will let go of what it opened. -/
  | dropping (handles : List Handle) (fault : LinkFault)
  | done (outcome : Except LinkFault (List Handle))

namespace Attaching

/-- What an attach holds. -/
def handles : Attaching → List Handle
  | opening handles _ | dropping handles _ | done (.ok handles) => handles
  | done (.error _) => []

/-- One step of an attach. -/
def step (caller : Caller) (a : Attaching) (s : System) : Attaching × System :=
  match a with
  | .opening handles [] => (.done (.ok handles), s)
  | .opening handles ((kind, name) :: rest) =>
    match s.openNamed caller kind name Region.channelSize with
    | .ok h => (.opening (h :: handles) rest, s)
    | .error fault => (.dropping handles fault, s)
  | .dropping [] fault => (.done (.error fault), s)
  | .dropping (h :: rest) fault => (.dropping rest fault, s.drop caller h)
  | .done outcome => (.done outcome, s)

theorem step_effect (caller : Caller) (a : Attaching) (s : System) :
    TableEffect caller.account a.handles s (a.step caller s).1.handles (a.step caller s).2 := by
  match a with
  | .opening handles [] => exact .idle _ _ _
  | .opening handles ((kind, name) :: rest) =>
    simp only [step]
    split
    · rename_i h hopened
      exact .opened (System.owner_of_openNamed hopened)
    · exact .idle _ _ _
  | .dropping [] fault => exact .idle _ _ _
  | .dropping (h :: rest) fault => exact .drop caller caller.account.owns_self (.refl _)
  | .done outcome => exact .idle _ _ _

end Attaching

/-! ## Closing -/

/-- The closing of a channel between two steps: the handles to let go of, and the objects whose
names are to be probed after that. -/
structure Closing where
  handles : List Handle
  probes : List (ObjectKind × String) := []

namespace Closing

/-- One step of a closing; an object that was made as a probe is let go of next. -/
def step (caller : Caller) (c : Closing) (s : System) : Closing × System :=
  match c with
  | ⟨h :: rest, probes⟩ => (⟨rest, probes⟩, s.drop caller h)
  | ⟨[], (kind, name) :: probes⟩ =>
    match s.make caller kind name Region.channelSize with
    | (s, outcome) => (⟨gained outcome, probes⟩, s)
  | ⟨[], []⟩ => (⟨[], []⟩, s)

theorem step_effect (caller : Caller) (c : Closing) (s : System) :
    TableEffect caller.account c.handles s (c.step caller s).1.handles (c.step caller s).2 := by
  match c with
  | ⟨h :: rest, probes⟩ => exact .drop caller caller.account.owns_self (.refl _)
  | ⟨[], (kind, name) :: probes⟩ =>
    cases hmake : s.make caller kind name Region.channelSize with
    | mk s' outcome =>
      have heffect := TableEffect.of_make [] hmake
      rw [List.append_nil] at heffect
      simpa only [step, hmake] using heffect
  | ⟨[], []⟩ => exact .idle _ _ _

end Closing

/-! ## Parties -/

/-- What a party is at. -/
inductive Activity
  | holding (handles : List Handle)
  | negotiating (n : Negotiator) (phase : Phase)
  | attaching (a : Attaching)
  | closing (c : Closing)

namespace Activity

/-- What a party holds. -/
def handles : Activity → List Handle
  | holding handles => handles
  | negotiating _ phase => phase.handles
  | attaching a => a.handles
  | closing c => c.handles

/-- Every step that a party can take under the conditions of a call. -/
inductive Step (caller : Caller) : Activity × System → Activity × System → Prop
  | make (hs : List Handle) (s : System) (kind : ObjectKind) (name : String) (size : Nat) :
      Step caller (.holding hs, s) (.holding (gained (s.make caller kind name size).2 ++ hs),
        (s.make caller kind name size).1)
  | openNamed (hs : List Handle) (s : System) (kind : ObjectKind) (name : String) (size : Nat) :
      Step caller (.holding hs, s)
        (.holding ((s.openNamed caller kind name size).toOption.toList ++ hs), s)
  | drop {hs rest : List Handle} {h : Handle} (s : System) (hheld : hs.Perm (h :: rest)) :
      Step caller (.holding hs, s) (.holding rest, s.drop caller h)
  /-- It begins to negotiate, with any prefixes, any salts and with or without a grant. -/
  | negotiate (n : Negotiator) (s : System) :
      Step caller (.holding [], s) (.negotiating n (.drawing n.maxAttempts), s)
  | negotiating (n : Negotiator) (phase : Phase) (s : System) :
      Step caller (.negotiating n phase, s)
        (.negotiating (n.step caller phase s).2.1 (n.step caller phase s).1,
          (n.step caller phase s).2.2)
  | negotiated {n : Negotiator} {outcome : Except LinkFault Channel} (s : System) :
      Step caller (.negotiating n (.done outcome), s) (.holding (Phase.done outcome).handles, s)
  | attach (objects : List (ObjectKind × String)) (s : System) :
      Step caller (.holding [], s) (.attaching (.opening [] objects), s)
  | attaching (a : Attaching) (s : System) :
      Step caller (.attaching a, s) (.attaching (a.step caller s).1, (a.step caller s).2)
  | attached {outcome : Except LinkFault (List Handle)} (s : System) :
      Step caller (.attaching (.done outcome), s) (.holding (Attaching.done outcome).handles, s)
  /-- It begins to let go of what it holds; `probes` are the names to be verified. -/
  | close {hs hs' : List Handle} (s : System) (hheld : hs.Perm hs')
      (probes : List (ObjectKind × String)) :
      Step caller (.holding hs, s) (.closing ⟨hs', probes⟩, s)
  | closing (c : Closing) (s : System) :
      Step caller (.closing c, s) (.closing (c.step caller s).1, (c.step caller s).2)
  | closed (s : System) : Step caller (.closing ⟨[], []⟩, s) (.holding [], s)

theorem Step.effect {caller : Caller} {a a' : Activity × System} (step : Step caller a a') :
    TableEffect caller.account a.1.handles a.2 a'.1.handles a'.2 := by
  cases step with
  | make hs s kind name size => exact .of_make hs rfl
  | openNamed hs s kind name size =>
    cases hopened : s.openNamed caller kind name size with
    | ok h => exact .opened (System.owner_of_openNamed hopened)
    | error fault => exact .idle _ _ _
  | drop s hheld => exact .drop caller caller.account.owns_self hheld
  | negotiate n s => exact .idle _ _ _
  | negotiating n phase s => exact n.step_effect caller phase s
  | negotiated s => exact .idle _ _ _
  | attach objects s => exact .idle _ _ _
  | attaching a s => exact a.step_effect caller s
  | attached s => exact .idle _ _ _
  | close s hheld probes => exact .quiet hheld (.refl s)
  | closing c s => exact c.step_effect caller s
  | closed s => exact .idle _ _ _

/-- One party takes any number of steps under the same conditions. -/
def Runs (caller : Caller) : Activity × System → Activity × System → Prop :=
  Relation.ReflTransGen (Step caller)

end Activity

/-! ## The calls as runs -/

open Activity (Runs Step)

section Calls

variable {caller : Caller}

/-- A creation makes an object, and lets go of it if it is refused. -/
theorem runs_create (s : System) (hs : List Handle) (kind : ObjectKind) (name : String)
    (size : Nat) (grant : Bool) :
    Runs caller (.holding hs, s) (.holding (gained (s.create caller kind name size grant).2 ++ hs),
      (s.create caller kind name size grant).1) := by
  have hmade : Step caller _ _ := .make hs s kind name size
  unfold System.create
  split
  · rename_i s' h hmake
    rw [hmake] at hmade
    split
    · exact (Relation.ReflTransGen.single hmade).tail (.drop s' (.refl _))
    · exact .single hmade
  · rename_i s' hmake
    rw [hmake] at hmade
    cases kind <;> exact .single hmade
  · rename_i s' fault hmake
    rw [hmake] at hmade
    exact .single hmade

theorem runs_negotiating (phase : Phase) (n : Negotiator) (s : System) :
    Runs caller (.negotiating n phase, s)
      (.holding (Phase.done (n.run caller phase s).1).handles, (n.run caller phase s).2.2) := by
  fun_induction Negotiator.run caller phase n s with
  | case1 phase n s outcome hover =>
    cases phase <;> cases hover
    exact .single (.negotiated s)
  | case2 phase n s hgoing next ih => exact .head (.negotiating n phase s) ih

theorem runs_negotiate (n : Negotiator) (s : System) :
    Runs caller (.holding [], s)
      (.holding (Phase.done (n.negotiate s caller).1).handles, (n.negotiate s caller).2.2) :=
  .head (.negotiate n s) (runs_negotiating _ n s)

/-- Handles that were opened are let go of without a trace. -/
theorem runs_giveUp (s : System) {hs : List Handle} (howner : ∀ h ∈ hs, h.owner = false)
    (fault : LinkFault) : Runs caller (.attaching (.dropping hs fault), s) (.holding [], s) := by
  induction hs with
  | nil => exact (Relation.ReflTransGen.single (.attaching _ s)).tail (.attached s)
  | cons h rest ih =>
    have hdrop : Step caller _ _ := .attaching (.dropping (h :: rest) fault) s
    simp only [Attaching.step] at hdrop
    rw [System.drop_of_not_owner s caller (howner h List.mem_cons_self)] at hdrop
    exact .head hdrop (ih fun h hmem => howner h (List.mem_cons_of_mem _ hmem))

/-- Opens objects one after the other, the latest first. -/
def openAll (s : System) (caller : Caller) :
    List (ObjectKind × String) → List Handle → Except LinkFault (List Handle)
  | [], hs => .ok hs
  | (kind, name) :: rest, hs =>
    (s.openNamed caller kind name Region.channelSize).bind fun h => openAll s caller rest (h :: hs)

theorem runs_opening (s : System) (rest : List (ObjectKind × String)) {hs : List Handle}
    (howner : ∀ h ∈ hs, h.owner = false) :
    Runs caller (.attaching (.opening hs rest), s)
      (.holding (Attaching.done (openAll s caller rest hs)).handles, s) := by
  induction rest generalizing hs with
  | nil => exact (Relation.ReflTransGen.single (.attaching _ s)).tail (.attached s)
  | cons object rest ih =>
    obtain ⟨kind, name⟩ := object
    have hstep : Step caller _ _ := .attaching (.opening hs ((kind, name) :: rest)) s
    cases hopen : s.openNamed caller kind name Region.channelSize with
    | ok h =>
      simp only [Attaching.step, hopen] at hstep
      simp only [openAll, hopen, Except.bind]
      refine .head hstep (ih fun h' hmem => ?_)
      rcases List.mem_cons.mp hmem with rfl | hmem
      · exact System.owner_of_openNamed hopen
      · exact howner h' hmem
    | error fault =>
      simp only [Attaching.step, hopen] at hstep
      simp only [openAll, hopen, Except.bind]
      exact .head hstep (runs_giveUp s howner fault)

/-- An attach opens the objects of the channel in their order. -/
theorem attach_handles (s : System) (prefixes : Prefixes) (name : String) :
    (Phase.done (Channel.attach s caller prefixes name)).handles =
      (Attaching.done (openAll s caller (ChannelNames.of prefixes name).objects [])).handles := by
  unfold Channel.attach
  generalize ChannelNames.of prefixes name = names
  show (Phase.done ((s.openSignal caller names.request).bind fun request =>
      (s.openSignal caller names.response).bind fun response =>
        (s.openSignal caller names.cancel).bind fun cancel =>
          (s.openRegion caller names.mapping Region.channelSize).bind fun memory =>
            .ok { names, request, response, cancel, memory })).handles =
    (Attaching.done ((s.openSignal caller names.request).bind fun request =>
      (s.openSignal caller names.response).bind fun response =>
        (s.openSignal caller names.cancel).bind fun cancel =>
          (s.openRegion caller names.mapping Region.channelSize).bind fun memory =>
            .ok [memory, cancel, response, request])).handles
  cases s.openSignal caller names.request with
  | error fault => rfl
  | ok request =>
    cases s.openSignal caller names.response with
    | error fault => rfl
    | ok response =>
      cases s.openSignal caller names.cancel with
      | error fault => rfl
      | ok cancel => cases s.openRegion caller names.mapping Region.channelSize <;> rfl

theorem runs_attach (s : System) (prefixes : Prefixes) (name : String) :
    Runs caller (.holding [], s)
      (.holding (Phase.done (Channel.attach s caller prefixes name)).handles, s) := by
  rw [attach_handles]
  exact .head (.attach _ s) (runs_opening s _ nofun)

/-- A region of a channel's size can always be had. -/
theorem System.refusal?_probe {s s' : System} {kind : ObjectKind} {name : String} {h : Handle}
    (hmake : s.make caller kind name Region.channelSize = (s', .ok (some h))) :
    System.refusal? caller false h = none := by
  rcases s.make_cases caller kind name Region.channelSize with ⟨_, hnone, hnot⟩ | ⟨key, -, -, hnew⟩
  · rw [hnone] at hmake
    cases hmake
    exact absurd rfl (hnot h)
  · rw [hnew] at hmake
    cases hmake
    cases kind <;> rfl

/-- A probe makes an object and lets go of it. -/
theorem probe_eq (s : System) (kind : ObjectKind) (name : String) :
    Channel.probe s caller (kind, name) =
      Channel.dropAll (s.make caller kind name Region.channelSize).1 caller
        (gained (s.make caller kind name Region.channelSize).2) := by
  unfold Channel.probe System.create
  cases hmake : s.make caller kind name Region.channelSize with
  | mk s' outcome =>
    match outcome with
    | .ok (some h) =>
      simp only [System.refusal?_probe hmake]
      rfl
    | .ok none => cases kind <;> rfl
    | .error fault => rfl

theorem runs_dropping (s : System) (hs : List Handle) (probes : List (ObjectKind × String)) :
    Runs caller (.closing ⟨hs, probes⟩, s)
      (.closing ⟨[], probes⟩, Channel.dropAll s caller hs) := by
  induction hs generalizing s with
  | nil => exact .refl
  | cons h rest ih => exact .head (.closing _ s) (ih (s.drop caller h))

theorem runs_closing (s : System) (hs : List Handle) (probes : List (ObjectKind × String)) :
    Runs caller (.closing ⟨hs, probes⟩, s) (.holding [],
      probes.foldl (fun s object => Channel.probe s caller object)
        (Channel.dropAll s caller hs)) := by
  induction probes generalizing s hs with
  | nil => exact (runs_dropping s hs []).tail (.closed _)
  | cons object probes ih =>
    obtain ⟨kind, name⟩ := object
    refine (runs_dropping s hs _).trans (.head (.closing _ _) ?_)
    rw [List.foldl_cons, probe_eq]
    exact ih _ _

theorem runs_close (c : Channel) (s : System) {hs : List Handle} (hheld : hs.Perm c.handles)
    (isVerified : Bool) :
    Runs caller (.holding hs, s) (.holding [], c.close s caller isVerified) := by
  unfold Channel.close
  cases isVerified with
  | true => exact .head (.close s hheld _) (runs_closing s c.handles c.names.objects)
  | false => exact .head (.close s hheld _) (runs_closing s c.handles [])

end Calls

/-! ## Everybody together -/

/-- The handles of all parties, each with the account that holds it. -/
def live (parties : List (Account × Activity)) : List (Account × Handle) :=
  parties.flatMap fun party => TableEffect.inHands party.1 party.2.handles

/-- The names in the table of a kind that are there for the handles of the parties. -/
def liveNames (kind : ObjectKind) (parties : List (Account × Activity)) : List String :=
  (entries kind (live parties)).map Prod.fst

/-- Every state that parties can come to when they begin with tables of any content. -/
inductive Reach (initial : System) : System → List (Account × Activity) → Prop
  | start : Reach initial initial []
  | join {s : System} {parties : List (Account × Activity)} (reach : Reach initial s parties)
      (account : Account) : Reach initial s ((account, .holding []) :: parties)
  /-- One of them takes a step; only its account stays what it is. -/
  | act {s s' : System} {a a' : Activity} {before after : List (Account × Activity)}
      {caller : Caller} (reach : Reach initial s (before ++ (caller.account, a) :: after))
      (step : Step caller (a, s) (a', s')) :
      Reach initial s' (before ++ (caller.account, a') :: after)
  /-- Somebody uses the objects. -/
  | use {s s' : System} {parties : List (Account × Activity)} (reach : Reach initial s parties)
      (hsame : s.SameTables s') : Reach initial s' parties

theorem live_perm (before after : List (Account × Activity)) (account : Account) (a : Activity) :
    (live (before ++ (account, a) :: after)).Perm
      (TableEffect.inHands account a.handles ++ (live before ++ live after)) := by
  simp only [live, List.flatMap_append, List.flatMap_cons]
  exact List.perm_append_comm_assoc _ _ _

namespace Reach

variable {initial s : System} {parties : List (Account × Activity)}

theorem balanced (reach : Reach initial s parties) : Balanced initial s (live parties) := by
  induction reach with
  | start => exact .start initial
  | join reach account ih => exact ih
  | @act s s' a a' before after caller reach step ih =>
    have hbalanced := step.effect.balanced (ih.perm (live_perm before after _ a))
    exact hbalanced.perm (live_perm before after _ a').symm
  | use reach hsame ih => exact ih.same hsame

theorem runs {b : Activity × System} {a : Activity} {before after : List (Account × Activity)}
    {caller : Caller} (reach : Reach initial s (before ++ (caller.account, a) :: after))
    (runs : Runs caller (a, s) b) :
    Reach initial b.2 (before ++ (caller.account, b.1) :: after) := by
  induction runs with
  | refl => exact reach
  | tail _ step ih => exact ih.act step

/-- A party that comes in anew may make any call. -/
theorem call {caller : Caller} {hs : List Handle} {s' : System} (reach : Reach initial s parties)
    (runs : Runs caller (.holding [], s) (.holding hs, s')) :
    Reach initial s' ((caller.account, .holding hs) :: parties) := by
  have hjoined : Reach initial s ([] ++ (caller.account, .holding []) :: parties) :=
    reach.join caller.account
  exact hjoined.runs runs

end Reach

/-- Wherever the parties are with what they do, and whatever has failed:

* a table holds what it held at the beginning, with the same objects, and the names of the
  handles whose holder made the object; these are all different and were all free;
* a step changes a table only if such a handle is made or let go of: to open an object, to
  attach to a channel and to let go of what was opened changes nothing;
* as soon as nobody holds such a handle any more, the tables are what they were at the
  beginning.

And a party may make each call in one go: to negotiate, which leaves nothing behind if it
fails, to attach, to create an object, and to close a channel. -/
theorem accounts_for_names {initial s : System} {parties : List (Account × Activity)}
    (reach : Reach initial s parties) :
    (∀ kind, ((s.names kind).map Prod.fst).Perm
          (liveNames kind parties ++ (initial.names kind).map Prod.fst) ∧
        (initial.names kind).Sublist (s.names kind) ∧ (liveNames kind parties).Nodup ∧
        ∀ name ∈ liveNames kind parties, name ∉ (initial.names kind).map Prod.fst) ∧
      (∀ party ∈ parties, ∀ h ∈ party.2.handles, h.owner = true →
        ∃ key, System.key h.kind h.name = .ok key ∧ key ∈ liveNames h.kind parties ∧
          s.find? h.kind key = some h.id) ∧
      (∀ (caller : Caller) (a a' : Activity) (s' : System), Step caller (a, s) (a', s') →
        (a'.handles.filter Handle.owner).Perm (a.handles.filter Handle.owner) →
          ∀ kind, s'.names kind = s.names kind) ∧
      ((∀ party ∈ parties, ∀ h ∈ party.2.handles, h.owner = false) →
        ∀ kind, s.names kind = initial.names kind) ∧
      (∀ (caller : Caller) (n : Negotiator), Reach initial (n.negotiate s caller).2.2
        ((caller.account, .holding (Phase.done (n.negotiate s caller).1).handles) :: parties)) ∧
      (∀ (caller : Caller) (prefixes : Prefixes) (name : String), Reach initial s
        ((caller.account, .holding (Phase.done (Channel.attach s caller prefixes name)).handles) ::
          parties)) ∧
      (∀ (caller : Caller) (kind : ObjectKind) (name : String) (size : Nat) (grant : Bool),
        Reach initial (s.create caller kind name size grant).1
          ((caller.account, .holding (gained (s.create caller kind name size grant).2)) ::
            parties)) ∧
      ∀ (caller : Caller) (c : Channel) (hs : List Handle) (isVerified : Bool)
        (before after : List (Account × Activity)), hs.Perm c.handles →
          parties = before ++ (caller.account, .holding hs) :: after →
            Reach initial (c.close s caller isVerified)
              (before ++ (caller.account, .holding []) :: after) := by
  have hbalanced := reach.balanced
  have hheld : ∀ party ∈ parties, ∀ h ∈ party.2.handles, (party.1, h) ∈ live parties := by
    intro party hparty h hh
    exact List.mem_flatMap.mpr ⟨party, hparty, List.mem_map_of_mem hh⟩
  refine ⟨fun kind => ⟨?_, hbalanced.kept kind, hbalanced.unique kind, ?_⟩,
    ?_, ?_, ?_, ?_, ?_, ?_, ?_⟩
  · have hnames := (hbalanced.names kind).map Prod.fst
    rwa [List.map_append] at hnames
  · intro name hname hinitial
    obtain ⟨entry, hentry, rfl⟩ := List.mem_map.mp hname
    obtain ⟨old, hold, heq⟩ := List.mem_map.mp hinitial
    exact hbalanced.fresh kind entry hentry old hold heq
  · intro party hparty h hh howner
    have hmem := hheld party hparty h hh
    obtain ⟨-, key, hkey⟩ := hbalanced.owned _ hmem howner
    have hfirst := hbalanced.perm (List.perm_cons_erase hmem)
    refine ⟨key, hkey, ?_, hfirst.find?_eq howner hkey⟩
    have hentry : (key, h.id) ∈ entries h.kind (live parties) :=
      List.mem_filterMap.mpr ⟨_, hmem, Handle.listing?_of_key howner hkey⟩
    exact List.mem_map_of_mem hentry
  · intro caller a a' s' step howned kind
    exact step.effect.names_eq howned kind
  · intro hnone kind
    refine hbalanced.names_eq (fun held hmem => ?_) kind
    obtain ⟨party, hparty, hmem⟩ := List.mem_flatMap.mp hmem
    obtain ⟨h, hh, rfl⟩ := List.mem_map.mp hmem
    exact hnone party hparty h hh
  · intro caller n
    exact reach.call (runs_negotiate n s)
  · intro caller prefixes name
    exact reach.call (runs_attach s prefixes name)
  · intro caller kind name size grant
    have hruns : Runs caller _ _ := runs_create s [] kind name size grant
    rw [List.append_nil] at hruns
    exact reach.call hruns
  · rintro caller c hs isVerified before after hperm rfl
    exact reach.runs (runs_close c s hperm isVerified)

/-- The administrator makes a signal.  Somebody without rights makes the request signal of a
channel, cannot grant it, and leaves the name of the other alone. -/
theorem accounts_for_names_refused :
    ∃ (s : System) (h : Handle),
      Reach {} s [(.nobody, .holding []), (.root, .holding [h])] ∧
        (s.names .event).map Prod.fst = ["a"] ∧ s.find? .event "a" = some h.id := by
  have hcreate : System.create {} {} .event "/a" 0 false =
      (⟨⟨[("a", 0)], #[⟨.root, 0⟩]⟩, {}⟩, .ok (some ⟨.event, 0, "/a", true, 0⟩)) := rfl
  obtain ⟨-, -, -, -, -, -, hcreates, -⟩ := accounts_for_names (.start : Reach {} {} [])
  have hmade := hcreates {} .event "/a" 0 false
  rw [hcreate] at hmade
  obtain ⟨-, -, -, -, hnegotiates, -⟩ := accounts_for_names hmade
  have hrefused := hnegotiates { account := .nobody }
    { grant := true, maxAttempts := 1, stem := "_1_x_", salt := fun _ => 7 }
  have houtcome : (Negotiator.negotiate
      { grant := true, maxAttempts := 1, stem := "_1_x_", salt := fun _ => 7 }
      ⟨⟨[("a", 0)], #[⟨.root, 0⟩]⟩, {}⟩ { account := .nobody }).1 =
        .error (.grantRefused "/ConsoleBridgeEventRequest_1_x_7"
          SystemFault.notPermitted.message) := by
    unfold Negotiator.negotiate
    rw [Negotiator.run_step rfl, Negotiator.run_step rfl, Negotiator.run_step rfl,
      Negotiator.run_step rfl, Negotiator.run_over rfl]
    rfl
  rw [houtcome] at hrefused
  obtain ⟨htables, hleads, -⟩ := accounts_for_names hrefused
  refine ⟨_, _, hrefused, List.perm_singleton.mp (htables .event).1, ?_⟩
  obtain ⟨key, hkey, -, hfind⟩ := hleads _ (List.mem_cons_of_mem _ List.mem_cons_self)
    ⟨.event, 0, "/a", true, 0⟩ List.mem_cons_self rfl
  cases hkey
  exact hfind

end ConsoleLink
