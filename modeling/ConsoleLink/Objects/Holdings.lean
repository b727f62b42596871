import ConsoleLink.Objects.System

/-!
# Handles under labels

A party that holds several objects keeps them under labels.  Keeping an object
under a label that is in use lets go of the one that was there.
-/

namespace ConsoleLink

/-- The system's objects, and the handles that a party keeps of them. -/
structure Holdings (κ : Type) where
  system : System := {}
  kept : List (κ × Handle) := []

namespace Holdings

variable {κ : Type} [BEq κ]

/-- The handle under a label. -/
def find? (h : Holdings κ) (label : κ) : Option Handle := h.kept.lookup label

/-- Lets go of what is under a label; tells whether there was something. -/
def discard (h : Holdings κ) (caller : Caller) (label : κ) : Holdings κ × Bool :=
  match h.find? label with
  | none => (h, false)
  | some handle =>
    ({ system := h.system.drop caller handle, kept := h.kept.filter (·.1 != label) }, true)

/-- Keeps a handle under a label. -/
def keep (h : Holdings κ) (caller : Caller) (label : κ) (handle : Handle) : Holdings κ :=
  match h.discard caller label with
  | (h, _) => { h with kept := (label, handle) :: h.kept }

/-- Makes an object and keeps it; nothing is kept of one whose name is taken. -/
def create (h : Holdings κ) (caller : Caller) (label : κ) (kind : ObjectKind) (name : String)
    (size : Nat) (grant : Bool) : Holdings κ × Except LinkFault Bool :=
  match h.system.create caller kind name size grant with
  | (system, .ok (some handle)) => ({ h with system := system }.keep caller label handle, .ok true)
  | (system, .ok none) => ({ h with system := system }, .ok false)
  | (system, .error fault) => ({ h with system := system }, .error fault)

end Holdings

end ConsoleLink
