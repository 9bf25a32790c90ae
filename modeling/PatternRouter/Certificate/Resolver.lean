import PatternRouter.Certificate.Pem
import PatternRouter.Certificate.X509
import PatternRouter.Digest.Sha256
import PatternRouter.Identity

/-!
# Identities from client certificates

A client that presents nothing has no identity. Any other credential is a PEM text, of which the
first certificate decides: the common name of its subject names the client, and the digest of all
its bytes, also of those behind the certificate proper, tells it from others.

How the bytes of a certificate are read, and the words in which their faults are told, are left to a
`Reader`. The resolver takes any of them; `Reader.x509` is the one for X.509 certificates, with the
words open.
-/

namespace PatternRouter.Certificate

/-- The digest of the bytes of a certificate, in base64. -/
def fingerprint (bytes : List UInt8) : String :=
  String.ofList ((Base64.encode (Sha256.digest bytes)).map fun b => Char.ofNat b.toNat)

/-- A reader of certificates. -/
structure Reader where
  /-- The subject of the certificate that bytes begin with, or the fault that keeps it from being
  read. -/
  subject : List UInt8 → Except String Name
  /-- The fault of a text that is no PEM text. -/
  pemFault : List UInt8 → String

/-- The words in which faults are told. -/
structure Wording where
  /-- The fault of bytes that begin with no certificate. -/
  certificate : List UInt8 → String
  /-- The fault of a text that is no PEM text. -/
  pem : List UInt8 → String

/-- The reader of X.509 certificates. -/
def Reader.x509 (wording : Wording) : Reader where
  subject bytes := (subject? bytes).elim (.error (wording.certificate bytes)) .ok
  pemFault := wording.pem

/-- The identity that the bytes of a certificate give. -/
def identityOf (reader : Reader) (bytes : List UInt8) : Except IdentityError Identity :=
  match reader.subject bytes with
  | .error fault => .error (.malformedCertificate fault)
  | .ok subject => .ok ⟨commonNameText subject, fingerprint bytes⟩

/-- The identity that the first certificate in a credential gives. -/
def resolve (reader : Reader) : Resolver := fun credential =>
  if credential.isEmpty then .ok none
  else
    match Pem.firstCertificate credential.bytes with
    | .error .absent => .error .noCertificate
    | .error .malformed => .error (.malformedPem (reader.pemFault credential.bytes))
    | .ok bytes => (identityOf reader bytes).map some

end PatternRouter.Certificate
