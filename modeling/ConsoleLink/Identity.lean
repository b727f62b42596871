import ConsoleLink.Fault

/-!
# Accounts that children run as

* `Identity` is an account with what a child of it needs.
* `Access` resolves accounts and lets them use the controller's windows.
  `Access.ofAccounts` is the access of a system without windows, and
  `Access.refusing` one that refuses for given reasons.
-/

namespace ConsoleLink

/-- An account of the system. -/
structure Identity where
  account : String
  uid : Nat
  gid : Nat
  home : String
  deriving DecidableEq, Repr

/-- What a child that runs as an account finds in its environment. -/
def Identity.environment (i : Identity) : List (String × String) :=
  [("HOME", i.home), ("USER", i.account), ("LOGNAME", i.account)]

/-- How accounts are found and given access. -/
structure Access where
  resolve : String → Except LinkFault Identity
  grantWindowStation : Identity → Except LinkFault Unit
  grantDesktop : Identity → Except LinkFault Unit

namespace Access

/-- The administrator's account. -/
def administrator : Identity := { account := "root", uid := 0, gid := 0, home := "/root" }

/-- Access on a system that has some accounts and no windows.  Without a descriptor its
list of accounts cannot be read. -/
def ofAccounts (accounts : List Identity) (hasFiles : Bool) : Access where
  resolve name :=
    if hasFiles then
      match accounts.find? (·.account = name) with
      | some identity => .ok identity
      | none => .error (.unknownAccount name "no such account")
    else .error (.unknownAccount name "EMFILE: Too many open files")
  grantWindowStation _ := .ok ()
  grantDesktop _ := .ok ()

/-- A grant that is refused if there is a reason. -/
def refusal (target : String) (reason : Option String) : Except LinkFault Unit :=
  match reason with
  | some reason => .error (.grantRefused target reason)
  | none => .ok ()

/-- Access that is refused wherever there is a reason.  Every account exists, with the
administrator's numbers and one home. -/
def refusing (home : String) (resolve windowStation desktop : Option String) : Access where
  resolve name :=
    match resolve with
    | some reason => .error (.unknownAccount name reason)
    | none => .ok { administrator with account := name, home := home }
  grantWindowStation _ := refusal "window station" windowStation
  grantDesktop _ := refusal "desktop" desktop

/-- Lets an account use the controller's windows. -/
def grantAll (a : Access) (identity : Identity) : Except LinkFault Unit := do
  a.grantWindowStation identity
  a.grantDesktop identity

end Access

end ConsoleLink
