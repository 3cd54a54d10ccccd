import LoginRehearsal.Certificate.Pem
import LoginRehearsal.Server.Error

/-!
# Certificate files

The file that makes a server speak TLS holds a certificate chain and a private key. It is read twice: all
of it for the chain, then up to the first key.

* `CertificateFile.check`: whether a file holds what is needed.
-/
namespace LoginRehearsal

/-- What the machine gives for the path of a file. -/
abbrev Files := String → Except SystemFault Bytes

namespace CertificateFile

/-- Puts the path in front of a fault. -/
def faulty {α : Type} (path : String) (r : Except Pem.Fault α) : Except ServerError α :=
  r.mapError fun fault => .certificate path (.badContent fault.message)

/-- Whether the content of a file holds a chain and a key. -/
def checkContent (path : String) (content : Bytes) : Except ServerError Unit := do
  let chain ← faulty path (Pem.sections content)
  if !chain.contains .certificate then .error (.noCertificate path)
  else do
    let key ← faulty path (Pem.sectionsToKey content)
    if key.any Pem.Label.isPrivateKey then .ok () else .error (.noPrivateKey path)

/-- Whether the file at a path holds a chain and a key. -/
def check (files : Files) (path : String) : Except ServerError Unit :=
  match files path with
  | .error fault => .error (.certificate path fault)
  | .ok content => checkContent path content

/-- The protocols that a server with a certificate offers. -/
def protocols : List String := ["http/1.1"]

end CertificateFile
end LoginRehearsal
