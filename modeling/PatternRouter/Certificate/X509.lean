import PatternRouter.Certificate.Name
import PatternRouter.Certificate.Time

/-!
# X.509 certificates

A certificate is a sequence of the signed part, an algorithm and a signature. The signed part is a
sequence of a version, a serial number, an algorithm, the issuer, the validity, the subject, the
public key, two identifiers and extensions; the version, the identifiers and the extensions may be
absent. Whatever follows the parts of a sequence that are read is passed over, except behind the
public key of the signed part, where only the identifiers and the extensions may stand.

The reader checks the form of every part and keeps the subject. All parts are read by the
distinguished rules but for two, of which no more is asked than that they are there: the serial
number and the mark of a critical extension.
-/

namespace PatternRouter.Certificate

/-- Whether bytes are an integer from 0 to 2 ^ 32 - 1 in its shortest form. -/
def isVersionNumber : List UInt8 → Bool
  | [] => false
  | [b] => b < 0x80
  | 0 :: second :: rest => 0x80 ≤ second && rest.length ≤ 3
  | first :: rest => first < 0x80 && rest.length ≤ 3

/-- Pass over the version, if there is one. Also what stands in its place is an element by the
distinguished rules. -/
def skipVersion? (bytes : List UInt8) : Option (List UInt8) := do
  let (element, rest) ← Der.read? bytes
  if element.tagClass = .contextSpecific ∧ element.tag = 0 then
    let (number, _) ← Der.expect? Der.tagInteger element.content
    if !number.constructed && isVersionNumber number.content then return rest else none
  else return bytes

/-- Pass over a serial number: an integer of any size, whose length follows the basic rules. -/
def skipSerial? (bytes : List UInt8) : Option (List UInt8) :=
  Der.skip? Der.tagInteger bytes

/-- Pass over an algorithm: a sequence that begins with an object identifier. -/
def skipAlgorithm? (bytes : List UInt8) : Option (List UInt8) := do
  let (element, rest) ← Der.expect? Der.tagSequence bytes
  let _ ← readOid? element.content
  return rest

/-- Whether the lowest `count` bits of a byte are zero. No byte has more than eight. -/
def endsInZeros (count : Nat) (b : UInt8) : Bool :=
  count ≤ 8 && b.toNat % (1 <<< count) == 0

/-- Whether bytes are the content of a BIT STRING: the number of unused bits, which are zero, and
the bits. -/
def isBitString : List UInt8 → Bool
  | [] => false
  | [unused] => unused == 0
  | unused :: bits => endsInZeros unused.toNat (bits.getLastD 0)

/-- Pass over a BIT STRING. -/
def skipBitString? (bytes : List UInt8) : Option (List UInt8) := do
  let (element, rest) ← Der.expect? Der.tagBitString bytes
  if !element.constructed && isBitString element.content then return rest else none

/-- Pass over a validity: a sequence of two times. -/
def skipValidity? (bytes : List UInt8) : Option (List UInt8) := do
  let (element, rest) ← Der.expect? Der.tagSequence bytes
  let times ← skipTime? element.content
  let _ ← skipTime? times
  return rest

/-- Pass over a public key: a sequence of an algorithm and a BIT STRING. -/
def skipPublicKey? (bytes : List UInt8) : Option (List UInt8) := do
  let (element, rest) ← Der.expect? Der.tagSequence bytes
  let key ← skipAlgorithm? element.content
  let _ ← skipBitString? key
  return rest

/-- Whether an element is the identifier with the given tag number. -/
def isIdentifier (tag : Nat) (element : Der.Element) : Bool :=
  element.tagClass = .contextSpecific && element.tag = tag && !element.constructed &&
    isBitString element.content

/-- Pass over the identifier with the given tag number, if there is one. -/
def skipIdentifier (tag : Nat) (bytes : List UInt8) : List UInt8 :=
  match Der.read? bytes with
  | some (element, rest) => if isIdentifier tag element then rest else bytes
  | none => bytes

/-- Pass over the mark of a critical extension, if there is one: a BOOLEAN of one byte, whose length
follows the basic rules. -/
def skipCritical (bytes : List UInt8) : List UInt8 :=
  match Der.header? .basic bytes with
  | some (header, _ :: rest) =>
    if header.tag = Der.tagBoolean ∧ header.length = some 1 then rest else bytes
  | _ => bytes

/-- Pass over an extension: a sequence of an object identifier, a mark and an OCTET STRING. -/
def readExtension? (bytes : List UInt8) : Option (Unit × List UInt8) := do
  let (element, rest) ← Der.expect? Der.tagSequence bytes
  let (_, content) ← readOid? element.content
  let (value, _) ← Der.expect? Der.tagOctetString (skipCritical content)
  if value.constructed then none else return ((), rest)

/-- The bytes behind the tag and the length of an element, however many the length announces. -/
def behindHeader? (tag : Nat) (bytes : List UInt8) : Option (List UInt8) :=
  match Der.header? .distinguished bytes with
  | some (header, rest) => if header.tag = tag then some rest else none
  | none => none

/-- Whether bytes are the extensions that close the signed part, or nothing. -/
def areExtensions (bytes : List UInt8) : Bool :=
  bytes.isEmpty ||
    (do
      let inner ← behindHeader? 3 bytes
      let (element, rest) ← Der.expect? Der.tagSequence inner
      let left := (readMany readExtension? element.content.length element.content).2
      return rest.isEmpty && left.isEmpty).getD false

/-- The subject of the signed part of a certificate. -/
def subjectOfSigned? (content : List UInt8) : Option Name := do
  let rest ← skipVersion? content
  let rest ← skipSerial? rest
  let rest ← skipAlgorithm? rest
  let (_, rest) ← readName? rest
  let rest ← skipValidity? rest
  let (subject, rest) ← readName? rest
  let rest ← skipPublicKey? rest
  if areExtensions (skipIdentifier 2 (skipIdentifier 1 rest)) then return subject else none

/-- The subject of a certificate, if the bytes begin with one. -/
def subject? (bytes : List UInt8) : Option Name := do
  let (certificate, _) ← Der.expect? Der.tagSequence bytes
  let (signed, rest) ← Der.expect? Der.tagSequence certificate.content
  let subject ← subjectOfSigned? signed.content
  let rest ← skipAlgorithm? rest
  let _ ← skipBitString? rest
  return subject

end PatternRouter.Certificate
