import ConsoleLink.Channel.Shared
import ConsoleLink.Objects.Region
import ConsoleLink.Objects.Registry

/-!
# The system's objects

Signals and regions of shared memory have a table of names each.

* `Handle` is what a party holds of an object.  Its owner removes the name when it
  lets go of the object.
* `make` makes an object under a name that is free, `openNamed` opens one that
  somebody else made.
* `drop` lets go of an object; a name that the caller may not remove stays.
* `create` makes an object, and lets go of it again if it cannot be granted or has
  no memory behind it.
* `setSignal` and `takeSignal` work on signals, `region` and `modifyRegion` on memory.

Creating fails for the first of these reasons: the name is none, there is no
descriptor left, the name is too long for a file, the name is taken, the access
cannot be granted, the memory cannot be had.
-/

namespace ConsoleLink

/-- The kinds of objects. -/
inductive ObjectKind
  | event
  | memory
  deriving DecidableEq, Repr

/-- A kind of object as faults name it. -/
def ObjectKind.label : ObjectKind → String
  | event => "event"
  | memory => "shared memory"

/-- The most bytes that a name of an object may have.  The file behind a signal bears its name with
four bytes in front. -/
def ObjectKind.longestName : ObjectKind → Nat
  | event => ConsoleLink.longestName - 4
  | memory => ConsoleLink.longestName

/-- What a party holds of an object. -/
structure Handle where
  kind : ObjectKind
  id : Nat
  name : String
  /-- Whether the party made the object. -/
  owner : Bool
  /-- The number of bytes of a region that are in use. -/
  length : Nat := 0
  deriving DecidableEq, Repr

/-- All objects of the system. -/
structure System where
  signals : Registry Nat := {}
  regions : Registry Region := {}

namespace System

/-! ## Names -/

/-- Whether a name holds a character that ends names. -/
def hasNul (name : String) : Bool := name.toList.contains '\x00'

/-- The key of a name, or why it is none. -/
def key (kind : ObjectKind) (name : String) : Except SystemFault String :=
  if hasNul name then .error (match kind with | .event => .nulInName | .memory => .invalid)
  else
    match keyOf? name with
    | some key => if kind.longestName < key.utf8ByteSize then .error .nameTooLong else .ok key
    | none => .error .invalid

/-- Why a name cannot be used.  That it is too long is found out with a descriptor in hand. -/
def keyFault (caller : Caller) (fault : SystemFault) : SystemFault :=
  match fault with
  | .nameTooLong => if caller.hasFiles then .nameTooLong else .tooManyFiles
  | fault => fault

/-- The object that a key leads to. -/
def find? (s : System) (kind : ObjectKind) (key : String) : Option Nat :=
  match kind with
  | .event => s.signals.find? key
  | .memory => s.regions.find? key

/-- Whether an account may use an object and remove its name. -/
def allows (s : System) (account : Account) (kind : ObjectKind) (id : Nat) : Bool :=
  match kind with
  | .event => s.signals.allows account id
  | .memory => s.regions.allows account id

/-- A new object under a key that is free: a signal that is not set, or a region filled
with zeros. -/
def add (s : System) (kind : ObjectKind) (key : String) (owner : Account) (size : Nat) :
    System × Nat :=
  match kind with
  | .event =>
    let (signals, id) := s.signals.add key owner 0
    ({ s with signals := signals }, id)
  | .memory =>
    let (regions, id) := s.regions.add key owner { size := size }
    ({ s with regions := regions }, id)

/-- The system without a key. -/
def unname (s : System) (kind : ObjectKind) (key : String) : System :=
  match kind with
  | .event => { s with signals := s.signals.drop key }
  | .memory => { s with regions := s.regions.drop key }

/-! ## Sizes -/

/-- The least size that cannot be given as a size at all. -/
def unsignedLimit : Nat := 9223372036854775808

/-- The least size for which there are not enough addresses. -/
def addressLimit : Nat := 93824992231424

/-- Why a region of a size cannot be used. -/
def mapFault? (size : Nat) : Option SystemFault :=
  if size = 0 then some .emptySegment
  else if addressLimit ≤ size then some .outOfMemory
  else none

/-- Why a region of a size cannot be made. -/
def sizeFault? (size : Nat) : Option SystemFault :=
  if unsignedLimit ≤ size then some .invalid else mapFault? size

/-! ## Letting go -/

/-- Removes a name, if there is such a name and the account may do so; tells whether it did. -/
def removeName (s : System) (account : Account) (kind : ObjectKind) (name : String) :
    System × Bool :=
  match key kind name with
  | .error _ => (s, false)
  | .ok key =>
    match s.find? kind key with
    | none => (s, false)
    | some id => if s.allows account kind id then (s.unname kind key, true) else (s, false)

/-- Lets go of an object; an owner removes its name. -/
def drop (s : System) (caller : Caller) (h : Handle) : System :=
  if h.owner then (s.removeName caller.account h.kind h.name).1 else s

/-! ## Making and opening -/

/-- A handle on an object. -/
def handle (kind : ObjectKind) (id : Nat) (name : String) (owner : Bool) (size : Nat) : Handle where
  kind := kind
  id := id
  name := name
  owner := owner
  length := match kind with | .event => 0 | .memory => size

/-- The key for a new object, or why there will be none. -/
def keyForNew (caller : Caller) (kind : ObjectKind) (name : String) : Except LinkFault String :=
  match key kind name with
  | .error fault => .error (.cannotCreate kind.label name (keyFault caller fault))
  | .ok key =>
    if caller.hasFiles then .ok key
    else .error (.cannotCreate kind.label name .tooManyFiles)

/-- Makes an object that only its maker can use so far; nothing if the name is taken. -/
def make (s : System) (caller : Caller) (kind : ObjectKind) (name : String) (size : Nat) :
    System × Except LinkFault (Option Handle) :=
  match keyForNew caller kind name with
  | .error fault => (s, .error fault)
  | .ok key =>
    match s.find? kind key with
    | some _ => (s, .ok none)
    | none =>
      match s.add kind key caller.account size with
      | (s, id) => (s, .ok (some (handle kind id name true size)))

/-- Why an object that was just made is of no use: it cannot be granted to others, or
there is no memory for it. -/
def refusal? (caller : Caller) (grant : Bool) (h : Handle) : Option LinkFault :=
  if grant && !caller.canGrant then some (.grantRefused h.name SystemFault.notPermitted.message)
  else
    match h.kind with
    | .event => none
    | .memory => (sizeFault? h.length).map (.cannotCreate h.kind.label h.name ·)

/-- Makes an object; nothing if the name of a signal is taken. -/
def create (s : System) (caller : Caller) (kind : ObjectKind) (name : String) (size : Nat)
    (grant : Bool) : System × Except LinkFault (Option Handle) :=
  match s.make caller kind name size with
  | (s, .ok (some h)) =>
    match refusal? caller grant h with
    | some fault => (s.drop caller h, .error fault)
    | none => (s, .ok (some h))
  | (s, .ok none) =>
    match kind with
    | .event => (s, .ok none)
    | .memory => (s, .error (.taken kind.label name))
  | (s, .error fault) => (s, .error fault)

/-- The object that a name leads to, or why it cannot be opened. -/
def idForOpen (s : System) (caller : Caller) (kind : ObjectKind) (name : String) :
    Except LinkFault Nat :=
  let refuse (fault : SystemFault) := .error (.cannotOpen kind.label name fault)
  match key kind name with
  | .error fault => refuse (keyFault caller fault)
  | .ok key =>
    if !caller.hasFiles then refuse .tooManyFiles
    else
      match s.find? kind key with
      | none => refuse .noEntry
      | some id => if s.allows caller.account kind id then .ok id else refuse .denied

/-- Opens an object that somebody else made. -/
def openNamed (s : System) (caller : Caller) (kind : ObjectKind) (name : String) (size : Nat) :
    Except LinkFault Handle :=
  match s.idForOpen caller kind name with
  | .error fault => .error fault
  | .ok id =>
    match kind, mapFault? size with
    | .memory, some fault => .error (.cannotOpen kind.label name fault)
    | _, _ => .ok (handle kind id name false size)

/-- Opens a signal that somebody else made. -/
def openSignal (s : System) (caller : Caller) (name : String) : Except LinkFault Handle :=
  s.openNamed caller .event name 0

/-- Opens a region that somebody else made. -/
def openRegion (s : System) (caller : Caller) (name : String) (size : Nat) :
    Except LinkFault Handle :=
  s.openNamed caller .memory name size

/-! ## Signals -/

/-- How often a signal is set. -/
def count (s : System) (id : Nat) : Nat :=
  match s.signals.object? id with
  | some o => o.content
  | none => 0

/-- The system with a signal's count changed. -/
def setCount (s : System) (id count : Nat) : System :=
  { s with signals := s.signals.modify id fun _ => count }

/-- The system after a signal's count went from one value to another. -/
def moveCount (s : System) (id before after : Nat) : System :=
  if after = before then s else s.setCount id after

/-- Sets a signal once more. -/
def setSignal (s : System) (h : Handle) : System × Except LinkFault Unit :=
  match Signal.set (s.count h.id) with
  | .ok count => (s.setCount h.id count, .ok ())
  | .error fault => (s, .error (.system fault))

/-- Waits for a signal, as long as nobody sets it meanwhile; tells whether it was set. -/
def takeSignal (s : System) (caller : Caller) (h : Handle) : System × Except LinkFault Bool :=
  match Signal.take caller.mayWait (s.count h.id) with
  | .one left => (s.setCount h.id left, .ok true)
  | .nothing => (s, .ok false)
  | .refused => (s, .error (.system .overflow))

/-! ## Memory -/

/-- A region. -/
def region (s : System) (id : Nat) : Region :=
  match s.regions.object? id with
  | some o => o.content
  | none => { size := 0 }

/-- The system with a region changed. -/
def modifyRegion (s : System) (id : Nat) (f : Region → Region) : System :=
  { s with regions := s.regions.modify id f }

end System

end ConsoleLink
