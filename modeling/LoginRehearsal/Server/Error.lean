import LoginRehearsal.Text.Numeral

/-!
# Server errors

Why a server does not start: the machine refuses it a socket or a file, or its certificate file does not
hold what it needs.

* `ServerError.message`, `ServerError.cause?`: the wording, and the wording of what is behind it.
-/
namespace LoginRehearsal

/-- What the machine refuses. -/
inductive SystemFault where
  | notFound
  | permissionDenied
  | notDirectory
  | isDirectory
  | nameTooLong
  | addressInUse
  | addressUnavailable
  /-- A path that no machine takes. -/
  | nulInName
  /-- The content of a file is not as it should be. -/
  | badContent (reason : String)
deriving DecidableEq, Repr

namespace SystemFault

/-- The number that the machine has for a fault. -/
def number? : SystemFault → Option Nat
  | .notFound => some 2
  | .permissionDenied => some 13
  | .notDirectory => some 20
  | .isDirectory => some 21
  | .nameTooLong => some 36
  | .addressInUse => some 98
  | .addressUnavailable => some 99
  | .nulInName => none
  | .badContent _ => none

/-- The wording of a fault, without its number. -/
def text : SystemFault → String
  | .notFound => "No such file or directory"
  | .permissionDenied => "Permission denied"
  | .notDirectory => "Not a directory"
  | .isDirectory => "Is a directory"
  | .nameTooLong => "File name too long"
  | .addressInUse => "Address already in use"
  | .addressUnavailable => "Cannot assign requested address"
  | .nulInName => "file name contained an unexpected NUL byte"
  | .badContent reason => reason

/-- The wording of a fault. -/
def message (f : SystemFault) : String :=
  match f.number? with
  | some n => f.text ++ " (os error " ++ decimal n ++ ")"
  | none => f.text

end SystemFault

inductive ServerError where
  | system (fault : SystemFault)
  | certificate (path : String) (fault : SystemFault)
  | noCertificate (path : String)
  | noPrivateKey (path : String)
deriving DecidableEq, Repr

namespace ServerError

/-- The wording of an error. -/
def message : ServerError → String
  | .system fault => "I/O error: " ++ fault.message
  | .certificate path fault => "Failed to read certificate " ++ path ++ ": " ++ fault.message
  | .noCertificate path => "No certificates found in " ++ path
  | .noPrivateKey path => "No private key found in " ++ path

/-- What is behind an error, if the machine reported it. -/
def cause? : ServerError → Option String
  | .system fault => some fault.message
  | .certificate _ fault => some fault.message
  | .noCertificate _ => none
  | .noPrivateKey _ => none

end ServerError
end LoginRehearsal
