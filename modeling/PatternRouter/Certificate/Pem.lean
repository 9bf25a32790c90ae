import PatternRouter.Encoding.Base64
import PatternRouter.Encoding.Utf8

/-!
# PEM texts

A PEM text is a sequence of lines. A section begins at a line `-----BEGIN label-----` and ends at a
line `-----END label-----`; what stands between is base64. Lines outside sections say nothing.

A line that begins a section inside a section gives the section a new label and keeps its base64.
Blanks may stand between and after the five dashes that close the line, and anything may follow the
dashes that close the line at the end. A section that does not end is a fault, and so is a beginning
without its five dashes.

* `sections` reads the sections of a text up to the first fault.
* `firstCertificate` decodes sections up to the first certificate.
-/

namespace PatternRouter.Pem

/-- A text cut into lines. A line ends at a line feed or at a carriage return. -/
def lines : List UInt8 → List (List UInt8)
  | [] => [[]]
  | b :: rest =>
    if b = 0x0A ∨ b = 0x0D then [] :: lines rest
    else
      match lines rest with
      | [] => [[b]]
      | line :: more => (b :: line) :: more

/-- What a line that begins a section starts with. -/
def beginMark : List UInt8 := Utf8.ofString "-----BEGIN "

/-- What the line that ends a section with `label` starts with. -/
def endMark (label : List UInt8) : List UInt8 :=
  Utf8.ofString "-----END " ++ label ++ Utf8.ofString "-----"

/-- The dashes that close a reversed line, and what is left of the line before the first of them.
Blanks between and after the dashes are passed over. -/
def closingDashes (count : Nat) (left : List UInt8) : List UInt8 → Nat × List UInt8
  | [] => (count, left)
  | b :: rest =>
    if b = 0x2D then closingDashes (count + 1) rest rest
    else if b = 0x20 ∨ b = 0x0A ∨ b = 0x0D then closingDashes count left rest
    else (count, left)

/-- The label in a line that begins a section, of which `rest` follows the mark. -/
def label? (rest : List UInt8) : Option (List UInt8) :=
  let (count, left) := closingDashes 0 rest.reverse rest.reverse
  if count = 5 then some left.reverse else none

/-- A section of a PEM text. -/
structure Section where
  label : List UInt8
  /-- The base64 text, without the ends of its lines. -/
  body : List UInt8
deriving DecidableEq, Repr

/-- What is found in a PEM text. -/
inductive Item where
  /-- A whole section. -/
  | found (part : Section)
  /-- A section that does not end, or a beginning that is not closed by five dashes. -/
  | fault
deriving DecidableEq, Repr

/-- Read lines, of which the first ones belong to the section `part` if it is given. Nothing is read
behind a fault. -/
def itemsOf : Option Section → List (List UInt8) → List Item
  | none, [] => []
  | some _, [] => [.fault]
  | part, line :: rest =>
    if beginMark.isPrefixOf line then
      match label? (line.drop beginMark.length) with
      | none => [.fault]
      | some label => itemsOf (some ⟨label, (part.map Section.body).getD []⟩) rest
    else
      match part with
      | none => itemsOf none rest
      | some part =>
        if (endMark part.label).isPrefixOf line then .found part :: itemsOf none rest
        else itemsOf (some { part with body := part.body ++ line }) rest

/-- The sections of a text, up to the first fault. -/
def sections (text : List UInt8) : List Item :=
  itemsOf none (lines text)

/-- The label of a certificate. -/
def certificateLabel : List UInt8 := Utf8.ofString "CERTIFICATE"

/-- The labels of the sections that are decoded, whether they are looked for or not. -/
def decodedLabels : List (List UInt8) :=
  ["CERTIFICATE", "PUBLIC KEY", "RSA PRIVATE KEY", "PRIVATE KEY", "EC PRIVATE KEY", "X509 CRL",
    "CERTIFICATE REQUEST", "ECHCONFIG"].map Utf8.ofString

/-- Why no certificate is read from a text. -/
inductive Failure where
  /-- There is none. -/
  | absent
  /-- A fault or base64 that cannot be decoded stands before it. -/
  | malformed
deriving DecidableEq, Repr

/-- The bytes of the first certificate among sections. -/
def firstCertificateOf : List Item → Except Failure (List UInt8)
  | [] => .error .absent
  | .fault :: _ => .error .malformed
  | .found part :: rest =>
    if decodedLabels.contains part.label then
      match Base64.decode? part.body with
      | none => .error .malformed
      | some bytes =>
        if part.label = certificateLabel then .ok bytes else firstCertificateOf rest
    else firstCertificateOf rest

/-- The bytes of the first certificate in a text. -/
def firstCertificate (text : List UInt8) : Except Failure (List UInt8) :=
  firstCertificateOf (sections text)

end PatternRouter.Pem
