import LoginRehearsal.Json.Value
import LoginRehearsal.SignOn.Fault

/-!
# The sign-on daemon

What the daemon keeps: identities by their number, and the objects that it has registered on the bus. An
identity becomes an object when it is asked for; each session becomes an object of its own, under the next
free number.

* `Daemon.addIdentity`, `Daemon.getIdentity`, `Daemon.openSession`, `Daemon.identityInfo`,
  `Daemon.storeInfo`: the operations behind the methods. One that fails says so beside the state that it
  leaves.
-/
namespace LoginRehearsal

/-- The dictionary of an identity. -/
abbrev Info := Keyed String Json

/-- A session of some identity under some authentication method. Identity zero stands for none. -/
structure AuthSession where
  identity : Nat
  method : String
deriving DecidableEq, Repr

/-- An object on the bus. -/
inductive BusObject where
  | service
  | identity (id : Nat)
  | session (s : AuthSession)
deriving DecidableEq, Repr

namespace Bus

def mainObject : String := "/com/google/code/AccountsSSO/SingleSignOn"

def authService : String := "com.google.code.AccountsSSO.SingleSignOn.AuthService"

def identity : String := "com.google.code.AccountsSSO.SingleSignOn.Identity"

def authSession : String := "com.google.code.AccountsSSO.SingleSignOn.AuthSession"

/-- The interface through which a test fills the daemon. -/
def control : String := "org.freedesktop.DBus.Mock"

def identityPath (id : Nat) : String := "/Identity" ++ decimal id

def sessionPath (n : Nat) : String := "/AuthSession" ++ decimal n

end Bus

/-- Whether an object has an interface. -/
def BusObject.exposes (o : BusObject) (interface : String) : Bool :=
  match o with
  | .service => interface == Bus.authService || interface == Bus.control
  | .identity _ => interface == Bus.identity
  | .session _ => interface == Bus.authSession

/-- The state of the daemon. -/
structure Daemon where
  identities : Keyed Nat Info
  /-- The number of the next session, one of thirty-two bits. -/
  nextSession : Nat
  objects : Keyed String BusObject

namespace Daemon

/-- The daemon at the beginning: no identities, and the service as the only object. -/
def initial : Daemon := ⟨[], 1, [(Bus.mainObject, .service)]⟩

def addIdentity (d : Daemon) (id : Nat) (info : Info) : Daemon :=
  { d with identities := Keyed.insert d.identities id info }

/-- The path and dictionary of an identity, which becomes an object unless its path is taken. -/
def getIdentity (d : Daemon) (id : Nat) : Except BusFault (String × Info) × Daemon :=
  match Keyed.get? d.identities id with
  | none => (.error .identityNotFound, d)
  | some info =>
    let path := Bus.identityPath id
    let objects := match Keyed.get? d.objects path with
      | some _ => d.objects
      | none => Keyed.insert d.objects path (.identity id)
    (.ok (path, info), { d with objects })

/-- The number after a session's own. The greatest one is followed by zero. -/
def numberAfter (n : Nat) : Nat := (n + 1) % (Numeral.maxU32 + 1)

/-- Opens a session for an identity, or for none under number zero. -/
def openSession (d : Daemon) (id : Nat) (method : String) : Except BusFault String × Daemon :=
  if id ≠ 0 ∧ Keyed.get? d.identities id = none then (.error .identityNotFound, d)
  else
    let path := Bus.sessionPath d.nextSession
    (.ok path, { d with
      nextSession := numberAfter d.nextSession
      objects := Keyed.insert d.objects path (.session ⟨id, method⟩) })

/-- The number of the identity at a path. -/
def identityAt (d : Daemon) (path : String) : Except BusFault Nat :=
  match Keyed.get? d.objects path with
  | some (.identity id) => .ok id
  | _ => .error (.noIdentityAt path)

/-- The dictionary of the identity at a path. -/
def identityInfo (d : Daemon) (path : String) : Except BusFault Info := do
  let id ← d.identityAt path
  match Keyed.get? d.identities id with
  | some info => .ok info
  | none => .error .identityNotFound

/-- Writes entries over the dictionary of the identity at a path and gives its `Id` entry. The entries
are written even if there is none. -/
def storeInfo (d : Daemon) (path : String) (entries : Info) : Except BusFault Json × Daemon :=
  match d.identityAt path with
  | .error fault => (.error fault, d)
  | .ok id =>
    match Keyed.get? d.identities id with
    | none => (.error .identityNotFound, d)
    | some info =>
      let merged := Keyed.merge info entries
      let stored := d.addIdentity id merged
      match Keyed.get? merged "Id" with
      | some v => (.ok v, stored)
      | none => (.error (.invalidArgs s!"Identity {decimal id} has no Id"), stored)

/-- The session at a path. -/
def session? (d : Daemon) (path : String) : Option AuthSession :=
  match Keyed.get? d.objects path with
  | some (.session s) => some s
  | _ => none

/-- The paths of all objects, in order. -/
def objectPaths (d : Daemon) : List String := d.objects.map (·.1)

end Daemon
end LoginRehearsal
