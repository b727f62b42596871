import ConsoleLink.Channel.Names
import ConsoleLink.Objects.System

/-!
# Channels

A channel is a set of four objects: the request, response and cancel signals and
the region that holds the envelope.

* `Channel.attach` opens the objects of a channel that a controller made.
* `Channel.close` lets go of them in order, and `verify` makes sure that every name
  can be had again.
* `Channel.shared` and `Channel.setShared` look at what the two parties share.
-/

namespace ConsoleLink

/-- The objects that have these names, in the order in which they are made. -/
def ChannelNames.objects (names : ChannelNames) : List (ObjectKind × String) :=
  [(.event, names.request), (.event, names.response), (.event, names.cancel),
    (.memory, names.mapping)]

/-- The objects of a channel. -/
structure Channel where
  names : ChannelNames
  request : Handle
  response : Handle
  cancel : Handle
  memory : Handle
  deriving DecidableEq, Repr

namespace Channel

/-- Opens the objects of an instance. -/
def attach (s : System) (caller : Caller) (prefixes : Prefixes) (name : String) :
    Except LinkFault Channel := do
  let names := ChannelNames.of prefixes name
  let request ← s.openSignal caller names.request
  let response ← s.openSignal caller names.response
  let cancel ← s.openSignal caller names.cancel
  let memory ← s.openRegion caller names.mapping Region.channelSize
  return { names, request, response, cancel, memory }

/-! ## Closing -/

/-- The handles of a channel in the order in which they are let go. -/
def handles (c : Channel) : List Handle := [c.request, c.response, c.cancel, c.memory]

/-- Lets go of handles one after the other. -/
def dropAll (s : System) (caller : Caller) (handles : List Handle) : System :=
  handles.foldl (fun s h => s.drop caller h) s

/-- Makes an object, only to see whether its name is free. -/
def probe (s : System) (caller : Caller) (object : ObjectKind × String) : System :=
  match s.create caller object.1 object.2 Region.channelSize false with
  | (s, .ok (some h)) => s.drop caller h
  | (s, _) => s

/-- Sees whether every name of a channel is free. -/
def verify (s : System) (caller : Caller) (names : ChannelNames) : System :=
  names.objects.foldl (fun s object => probe s caller object) s

/-- Lets go of a channel. -/
def close (c : Channel) (s : System) (caller : Caller) (isVerified : Bool) : System :=
  let s := dropAll s caller c.handles
  if isVerified then verify s caller c.names else s

/-! ## The shared state -/

/-- What the two parties of a channel share. -/
def shared (c : Channel) (s : System) : Shared where
  envelope := (s.region c.memory.id).envelope
  request := s.count c.request.id
  response := s.count c.response.id
  cancel := s.count c.cancel.id

/-- The system after a step of a party.  Two names can lead to one signal, so only the
signals whose count the step has changed are written back. -/
def setShared (c : Channel) (s : System) (v : Shared) : System :=
  let before := c.shared s
  let s := s.modifyRegion c.memory.id fun r => { r with envelope := v.envelope }
  let s := s.moveCount c.request.id before.request v.request
  let s := s.moveCount c.response.id before.response v.response
  s.moveCount c.cancel.id before.cancel v.cancel

/-- Whether the cancel signal was set; this uses it up. -/
def cancelRequested (c : Channel) (s : System) (caller : Caller) :
    System × Except LinkFault Bool :=
  s.takeSignal caller c.cancel

end Channel

end ConsoleLink
