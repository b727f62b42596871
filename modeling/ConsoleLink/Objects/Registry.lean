/-!
# Named objects

Parties find their shared objects by name.  A name leads to an object as long as
it is in the table; the object itself lives on for those who hold it.

* `Account` tells who owns an object, `Caller` under which conditions a call is made.
* `keyOf?` is the table's key of a name: leading slashes do not count, and no other
  slash may stand in it.  A table may demand that its names be shorter.
* `Registry` is a table of names and the objects that were ever made.  `find?`,
  `add`, `drop` and `modify` are its operations.
-/

namespace ConsoleLink

/-! ## Callers -/

/-- Who makes a call: the administrator, or an account without any rights. -/
inductive Account
  | root
  | nobody
  deriving DecidableEq, Repr

/-- The conditions under which a call is made. -/
structure Caller where
  account : Account := .root
  /-- Whether the operating system has a descriptor left. -/
  hasFiles : Bool := true
  /-- Whether a wait may block. -/
  mayWait : Bool := true
  /-- Whether a thread can be started. -/
  hasThreads : Bool := true
  /-- Whether the operating system lets the administrator give objects away. -/
  mayGrant : Bool := true
  deriving DecidableEq, Repr

/-- Whether what the caller makes can be granted to another account. -/
def Caller.canGrant (c : Caller) : Bool := decide (c.account = .root) && c.mayGrant

/-- An account may use and remove its own objects; the administrator all of them. -/
def Account.owns : Account → Account → Bool
  | root, _ => true
  | nobody, nobody => true
  | nobody, root => false

/-! ## Names -/

/-- The most bytes that a name may have in any table. -/
def longestName : Nat := 255

/-- The key of a name, if it is a good one. -/
def keyOf? (name : String) : Option String :=
  let key := name.toList.dropWhile (· == '/')
  if key.isEmpty || key.contains '/' || longestName < (String.ofList key).utf8ByteSize then none
  else some (String.ofList key)

/-! ## Tables -/

/-- An object and its owner. -/
structure NamedObject (α : Type) where
  owner : Account
  content : α

/-- A table of names, and the objects that were ever made. -/
structure Registry (α : Type) where
  names : List (String × Nat) := []
  objects : Array (NamedObject α) := #[]

namespace Registry

variable {α : Type}

/-- The object that a key leads to. -/
def find? (r : Registry α) (key : String) : Option Nat := r.names.lookup key

/-- The object of a number. -/
def object? (r : Registry α) (id : Nat) : Option (NamedObject α) := r.objects[id]?

/-- A new object under a key that is free. -/
def add (r : Registry α) (key : String) (owner : Account) (content : α) : Registry α × Nat :=
  ({ names := (key, r.objects.size) :: r.names, objects := r.objects.push ⟨owner, content⟩ },
    r.objects.size)

/-- The table without a key. -/
def drop (r : Registry α) (key : String) : Registry α :=
  { r with names := r.names.filter fun entry => entry.1 != key }

/-- Whether an account may use what a key leads to. -/
def allows (r : Registry α) (account : Account) (id : Nat) : Bool :=
  match r.object? id with
  | some o => account.owns o.owner
  | none => true

/-- Changes an object. -/
def modify (r : Registry α) (id : Nat) (f : α → α) : Registry α :=
  { r with objects := r.objects.modify id fun o => { o with content := f o.content } }

end Registry

end ConsoleLink
