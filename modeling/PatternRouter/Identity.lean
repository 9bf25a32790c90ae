/-!
# Client identities

A credential is what a client presents: bytes, none when it presents nothing. A resolver turns a
credential into an identity, finds that there is none to be had, or fails.
-/

namespace PatternRouter

/-- Who a client is. -/
structure Identity where
  /-- The name in the client's certificate, empty if it has none. -/
  commonName : String
  /-- The digest of the client's certificate, in base64. -/
  fingerprint : String
deriving DecidableEq, Repr

/-- The name under which a client is shown. -/
def displayName : Option Identity → String
  | none => "anonymous"
  | some identity => identity.commonName

/-- Why a credential gives no identity. The reader that finds a fault tells of it in words of its
own. -/
inductive IdentityError where
  /-- The credential holds no certificate. -/
  | noCertificate
  /-- The text of the credential cannot be read. -/
  | malformedPem (fault : String)
  /-- The certificate in the credential cannot be read. -/
  | malformedCertificate (fault : String)
deriving DecidableEq, Repr

/-- What is said of a credential that gives no identity. -/
def IdentityError.message : IdentityError → String
  | .noCertificate => "credential contains no certificate"
  | .malformedPem fault => "malformed PEM credential: " ++ fault
  | .malformedCertificate fault => "malformed certificate: " ++ fault

/-- What a client presents. -/
structure Credential where
  /-- The bytes, none for a client that presents nothing. -/
  bytes : List UInt8
deriving DecidableEq, Repr

/-- The credential of a client that presents nothing. -/
def Credential.empty : Credential := ⟨[]⟩

/-- Whether a client presents nothing. -/
def Credential.isEmpty (credential : Credential) : Bool :=
  credential.bytes.isEmpty

/-- The way from a credential to an identity. -/
abbrev Resolver := Credential → Except IdentityError (Option Identity)

namespace Resolver

/-- No client has an identity. -/
def anonymous : Resolver := fun _ => .ok none

end Resolver

end PatternRouter
