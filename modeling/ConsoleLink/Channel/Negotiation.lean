import ConsoleLink.Channel

/-!
# Finding a free name and making a channel

A controller names its channels after itself and a salt.  Making the request
signal decides whether a name is free; once it is made and granted, any other
object of the name that already exists is a leak, and the attempt is given up.
A name that got that far is never tried again; one whose request signal could not
be granted is not kept.

* `Negotiator` keeps the names used so far and counts the salts drawn.
* `Phase` and `step` are a negotiation in single steps on the system's objects: each of
  them is made before its access is granted.
* `Negotiator.negotiate` runs one without a break; `rank_step` says why it ends.
-/

namespace ConsoleLink

/-- A source of channels. -/
structure Negotiator where
  prefixes : Prefixes := {}
  /-- How many salts are drawn before giving up. -/
  maxAttempts : Nat := 10
  /-- Whether every object is granted to another account. -/
  grant : Bool := false
  /-- What all instance names begin with. -/
  stem : String
  /-- The salts, in the order in which they are drawn. -/
  salt : Nat → Nat
  /-- How many salts have been drawn. -/
  drawn : Nat := 0
  /-- The names that were found free. -/
  used : List String := []

/-- What all instance names of a controller begin with. -/
def instanceStem (pid id : String) : String := "_" ++ pid ++ "_" ++ id ++ "_"

namespace Negotiation

/-- A negotiation between two steps. -/
inductive Phase
  /-- It will draw a salt; `left` attempts remain. -/
  | drawing (left : Nat)
  /-- An object was made, and its access will be granted. -/
  | granting (next : Phase)
  /-- The request signal is made, and granted if that was asked for. -/
  | response (names : ChannelNames) (request : Handle)
  | cancel (names : ChannelNames) (request response : Handle)
  | memory (names : ChannelNames) (request response cancel : Handle)
  /-- All objects are made, and the header will be written. -/
  | header (channel : Channel)
  /-- It failed and will let go of what it made. -/
  | dropping (handles : List Handle) (fault : LinkFault)
  | done (outcome : Except LinkFault Channel)

namespace Phase

/-- What a negotiation holds, the latest first. -/
def handles : Phase → List Handle
  | drawing _ | done (.error _) => []
  | granting next => next.handles
  | response _ first => [first]
  | cancel _ first second => [second, first]
  | memory _ first second third => [third, second, first]
  | header c | done (.ok c) => [c.memory, c.cancel, c.response, c.request]
  | dropping handles _ => handles

/-- What has come of it, if it is over. -/
def outcome? : Phase → Option (Except LinkFault Channel)
  | done outcome => some outcome
  | _ => none

/-- Gives up what was made. -/
def fail (phase : Phase) (fault : LinkFault) : Phase := dropping phase.handles fault

/-- How many steps are left at most. -/
def rank : Phase → Nat
  | drawing left => left + 12
  | granting next => max next.rank (next.handles.length + 1) + 1
  | response _ _ => 11
  | cancel _ _ _ => 9
  | memory _ _ _ _ => 7
  | header _ => 5
  | dropping handles _ => handles.length + 1
  | done _ => 0

end Phase

end Negotiation

namespace Negotiator

open Negotiation (Phase)

/-- The name made with the next salt. -/
def candidate (n : Negotiator) : String := n.stem ++ Nat.repr (n.salt n.drawn)

/-- Makes an object whose name has to be free. -/
def makeUnique (caller : Caller) (phase : Phase) (kind : ObjectKind) (name : String)
    (next : Handle → Phase) (s : System) : Phase × System :=
  match s.make caller kind name Region.channelSize with
  | (s, .ok (some h)) => (.granting (next h), s)
  | (s, .ok none) => (phase.fail (.taken kind.label name), s)
  | (s, .error fault) => (phase.fail fault, s)

/-- One step of a negotiation. -/
def step (caller : Caller) (phase : Phase) (n : Negotiator) (s : System) :
    Phase × Negotiator × System :=
  match phase with
  | .drawing 0 => (.done (.error (.noFreeName n.maxAttempts)), n, s)
  | .drawing (left + 1) =>
    let name := n.candidate
    let n := { n with drawn := n.drawn + 1 }
    if n.used.contains name then (.drawing left, n, s)
    else
      let names := ChannelNames.of n.prefixes name
      match s.make caller .event names.request 0 with
      | (s, .ok (some h)) => (.granting (.response names h), n, s)
      | (s, .ok none) => (.drawing left, n, s)
      | (s, .error fault) => (.done (.error fault), n, s)
  | .granting next =>
    match next.handles.head?.bind (System.refusal? caller n.grant) with
    | some fault => (next.fail fault, n, s)
    | none => (next, n, s)
  | .response names request =>
    match makeUnique caller phase .event names.response (.cancel names request) s with
    | (phase, s) => (phase, { n with used := names.instanceName :: n.used }, s)
  | .cancel names request response =>
    match makeUnique caller phase .event names.cancel (.memory names request response) s with
    | (phase, s) => (phase, n, s)
  | .memory names request response cancel =>
    let next (h : Handle) : Phase := .header { names, request, response, cancel, memory := h }
    match makeUnique caller phase .memory names.mapping next s with
    | (phase, s) => (phase, n, s)
  | .header channel =>
    (.done (.ok channel), n,
      s.modifyRegion channel.memory.id fun r => { r with envelope := r.envelope.reset })
  | .dropping [] fault => (.done (.error fault), n, s)
  | .dropping (h :: rest) fault => (.dropping rest fault, n, s.drop caller h)
  | .done outcome => (.done outcome, n, s)

/-- What making an object leads to has fewer steps left than `bound`, if the next phase has. -/
theorem rank_makeUnique {caller : Caller} {phase : Phase} {kind : ObjectKind} {name : String}
    {next : Handle → Phase} {s : System} {bound : Nat} (hfail : phase.handles.length + 1 < bound)
    (hnext : ∀ h, (Phase.granting (next h)).rank < bound) :
    (makeUnique caller phase kind name next s).1.rank < bound := by
  unfold makeUnique
  split
  · exact hnext _
  · exact hfail
  · exact hfail

/-- Every step brings a negotiation nearer to its end. -/
theorem rank_step (caller : Caller) (phase : Phase) (n : Negotiator) (s : System)
    (hgoing : phase.outcome? = none) : (step caller phase n s).1.rank < phase.rank := by
  cases phase with
  | drawing left =>
    cases left with
    | zero => simp [step, Phase.rank]
    | succ left =>
      simp only [step]
      split
      · simp [Phase.rank]
      · split <;> simp [Phase.rank, Phase.handles]
  | granting next =>
    simp only [step]
    split
    · simp only [Phase.fail, Phase.rank]
      omega
    · simp only [Phase.rank]
      omega
  | response names request =>
    refine rank_makeUnique (by simp [Phase.handles, Phase.rank]) ?_
    simp [Phase.handles, Phase.rank]
  | cancel names request response =>
    refine rank_makeUnique (by simp [Phase.handles, Phase.rank]) ?_
    simp [Phase.handles, Phase.rank]
  | memory names request response cancel =>
    refine rank_makeUnique (by simp [Phase.handles, Phase.rank]) ?_
    simp [Phase.handles, Phase.rank]
  | header channel => simp [step, Phase.rank]
  | dropping handles fault => cases handles <;> simp [step, Phase.rank]
  | done outcome => cases hgoing

/-- Runs a negotiation to its end. -/
def run (caller : Caller) (phase : Phase) (n : Negotiator) (s : System) :
    Except LinkFault Channel × Negotiator × System :=
  match _hgoing : phase.outcome? with
  | some outcome => (outcome, n, s)
  | none =>
    let next := step caller phase n s
    run caller next.1 next.2.1 next.2.2
termination_by phase.rank
decreasing_by exact rank_step caller phase n s _hgoing

theorem run_over {caller : Caller} {phase : Phase} {outcome : Except LinkFault Channel}
    (hover : phase.outcome? = some outcome) (n : Negotiator) (s : System) :
    run caller phase n s = (outcome, n, s) := by
  rw [run]
  split
  · rename_i found hsame
    cases hover.symm.trans hsame
    rfl
  · rename_i hgoing
    cases hover.symm.trans hgoing

theorem run_step {caller : Caller} {phase : Phase} (hgoing : phase.outcome? = none)
    (n : Negotiator) (s : System) :
    run caller phase n s =
      run caller (step caller phase n s).1 (step caller phase n s).2.1
        (step caller phase n s).2.2 := by
  rw [run]
  split
  · rename_i found hover
    cases hgoing.symm.trans hover
  · rfl

/-- Makes a channel under a free name. -/
def negotiate (n : Negotiator) (s : System) (caller : Caller) :
    Except LinkFault Channel × Negotiator × System :=
  run caller (.drawing n.maxAttempts) n s

end Negotiator

end ConsoleLink
