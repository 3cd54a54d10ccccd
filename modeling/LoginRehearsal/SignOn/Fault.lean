/-!
# Bus faults

An error reply on the bus: a name in reversed-domain style and a message. Names that begin with the
prefix of the sign-on service are its own; the others are those of the bus.

* `BusFault.text`: name and message as one line.
-/
namespace LoginRehearsal

structure BusFault where
  name : String
  message : String
deriving DecidableEq, Repr

namespace BusFault

/-- What the names of the sign-on service's own faults begin with. -/
def ownPrefix : String := "com.google.code.AccountsSSO.SingleSignOn.Error."

def identityNotFound : BusFault := ⟨ownPrefix ++ "IdentityNotFound", "Identity not found"⟩

def permissionDenied : BusFault := ⟨ownPrefix ++ "PermissionDenied", "Permission denied"⟩

def userInteraction : BusFault := ⟨ownPrefix ++ "UserInteraction", "User interaction required"⟩

def unknownMethodName : String := "org.freedesktop.DBus.Error.UnknownMethod"

/-- There is no such method on the object. -/
def unknownMethod (path interface method : String) : BusFault :=
  ⟨unknownMethodName, s!"No method {interface}.{method} on {path}"⟩

/-- The object is no identity. -/
def noIdentityAt (path : String) : BusFault := ⟨unknownMethodName, s!"No identity at {path}"⟩

def invalidArgs (message : String) : BusFault :=
  ⟨"org.freedesktop.DBus.Error.InvalidArgs", message⟩

/-- Whether a fault is one of the sign-on service's own. -/
def isOwn (f : BusFault) : Bool := ownPrefix.toList.isPrefixOf f.name.toList

def text (f : BusFault) : String := f.name ++ ": " ++ f.message

end BusFault
end LoginRehearsal
