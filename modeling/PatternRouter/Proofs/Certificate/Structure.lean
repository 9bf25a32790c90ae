import Mathlib.Data.List.Basic
import PatternRouter.Proofs.Certificate.Validity

/-!
# Certificates that are written can be read

A certificate is laid out here as its parts, and a reader of certificates finds the subject that was
put between them. The parts are as free as the reader allows: object identifiers, algorithm
parameters, the serial number, the issuer and the values of extensions are any bytes.

The module introduces:

* `Attribute.element`, `Name.element` — a name as it is written;
* `Time`, `BitString`, `Version`, `Algorithm`, `Extension` — the parts of a certificate, with what
  the reader checks of them;
* `Layout` — a certificate but for its subject.

Each reader of a part has one lemma, which says that it stops behind the part. Where a part may be
absent, the lemma says what is found in its place. The main statement is `subject?_bytes`: whatever
the other parts are and whatever follows the certificate, the subject is read.
-/

namespace PatternRouter.Certificate

open Der (Element encode encodeAll)

/-! ## Readers that go on -/

section

variable {α β : Type} {one? : List UInt8 → Option (β × List UInt8)} {element : α → Element}
  {value : α → β} {items : List α}

theorem readMany_of_length_le (hnil : one? [] = none)
    (hone : ∀ item ∈ items, ∀ rest,
      one? (encode (element item) ++ rest) = some (value item, rest))
    {limit : Nat} (hlimit : items.length ≤ limit) :
    readMany one? limit (encodeAll (items.map element)) = (items.map value, []) := by
  induction items generalizing limit with
  | nil =>
    -- Nothing is read of no bytes, however often it may be tried.
    cases limit with
    | zero => rfl
    | succ limit =>
      rw [List.map_nil, Der.encodeAll_nil, readMany, hnil]
      rfl
  | cons item items ih =>
    rw [List.forall_mem_cons] at hone
    cases limit with
    | zero => exact absurd hlimit (Nat.not_succ_le_zero _)
    | succ limit =>
      have htail := ih hone.2 (Nat.le_of_succ_le_succ hlimit)
      simp only [List.map_cons, Der.encodeAll_cons, readMany, hone.1, htail]

/-- A reader that reads an element back reads all that are inside another element. -/
theorem readMany_encodeAll (hnil : one? [] = none)
    (hone : ∀ item ∈ items, (element item).Fits → ∀ rest,
      one? (encode (element item) ++ rest) = some (value item, rest))
    {tagClass : Der.TagClass} {tag : Nat}
    (h : (Element.holding tagClass tag (items.map element)).Fits) :
    readMany one? (encodeAll (items.map element)).length (encodeAll (items.map element)) =
      (items.map value, []) := by
  apply readMany_of_length_le hnil
  · intro item hitem
    exact hone item hitem (h.of_mem rfl (List.mem_map_of_mem hitem))
  · -- No element is empty, so that the bytes bound how many there are.
    have hle := Der.length_le_length_encodeAll (items.map element)
    rwa [List.length_map] at hle

end

/-! ## Names -/

/-- An object identifier as it is written. The reader does not look at the number of the tag. -/
def oidElement (oid : List UInt8) : Element :=
  .primitive 6 oid

/-- An attribute as it is written. -/
def Attribute.element (entry : Attribute) : Element :=
  .sequence [oidElement entry.oid, entry.value]

/-- A set of attributes as it is written. -/
def setElement (entries : List Attribute) : Element :=
  .holding .universal Der.tagSet (entries.map Attribute.element)

namespace Name

/-- A name as it is written. -/
def element (name : Name) : Element :=
  .sequence (name.map setElement)

/-- No set of the name is empty, and the tags of the values take one byte. -/
def Proper (name : Name) : Prop :=
  ∀ entries ∈ name, entries ≠ [] ∧ ∀ entry ∈ entries, entry.value.tag < 31

instance (name : Name) : Decidable name.Proper :=
  inferInstanceAs (Decidable (∀ entries ∈ name, entries ≠ [] ∧
    ∀ entry ∈ entries, entry.value.tag < 31))

end Name

theorem readOid?_encode {oid : List UInt8} (h : (oidElement oid).Fits) (rest : List UInt8) :
    readOid? (encode (oidElement oid) ++ rest) = some (oid, rest) := by
  have hlow : (oidElement oid).tag < 31 := show 6 < 31 by decide
  rw [readOid?, Der.read?_encode hlow h]
  rfl

theorem readAttribute?_encode {entry : Attribute} (htag : entry.value.tag < 31)
    (h : entry.element.Fits) (rest : List UInt8) :
    readAttribute? (encode entry.element ++ rest) = some (entry, rest) := by
  have hoid : (oidElement entry.oid).Fits := h.of_mem rfl (by simp)
  have hvalue : entry.value.Fits := h.of_mem rfl (by simp)
  rw [Attribute.element] at h ⊢
  simp only [readAttribute?, Der.expect?_holding (by decide) h, Option.bind_eq_bind,
    Option.bind_some, Element.content_holding, Der.encodeAll_cons, readOid?_encode hoid,
    Der.read?_encode htag hvalue, Option.pure_def]

theorem readSet?_encode {entries : List Attribute} (hne : entries ≠ [])
    (htag : ∀ entry ∈ entries, entry.value.tag < 31) (h : (setElement entries).Fits)
    (rest : List UInt8) :
    readSet? (encode (setElement entries) ++ rest) = some (entries, rest) := by
  rw [setElement] at h ⊢
  have hmany :=
    readMany_encodeAll rfl (fun entry hentry => readAttribute?_encode (htag entry hentry)) h
  simp only [readSet?, Der.expect?_holding (by decide) h, Option.bind_eq_bind, Option.bind_some,
    Element.content_holding, hmany, List.map_id']
  cases entries with
  | nil => exact absurd rfl hne
  | cons entry entries => rfl

/-- A name is a sequence, of which the sets are kept up to the first thing that is none. -/
theorem readName?_content {content : List UInt8}
    (h : Element.Fits ⟨.universal, true, Der.tagSequence, content⟩) (rest : List UInt8) :
    readName? (encode ⟨.universal, true, Der.tagSequence, content⟩ ++ rest) =
      some ((readMany readSet? content.length content).1, rest) := by
  have hread := Der.expect?_encode rfl (show Der.tagSequence < 31 by decide) h rest
  rw [readName?, hread]
  rfl

/-- A name is read back, whatever stands behind it. -/
theorem readName?_encode {name : Name} (hname : name.Proper) (h : name.element.Fits)
    (rest : List UInt8) : readName? (encode name.element ++ rest) = some (name, rest) := by
  have hsets : ∀ entries ∈ name, (setElement entries).Fits → ∀ rest,
      readSet? (encode (setElement entries) ++ rest) = some (entries, rest) := by
    intro entries hentries
    obtain ⟨hne, htag⟩ := hname entries hentries
    exact readSet?_encode hne htag
  have hmany := readMany_encodeAll rfl hsets h
  refine (readName?_content h rest).trans ?_
  rw [hmany, List.map_id']

/-! ## Version, serial number and algorithms -/

/-- The number of a version. -/
structure Version where
  number : List UInt8
  isVersionNumber : isVersionNumber number = true

/-- A version as it is written. -/
def Version.element (version : Version) : Element :=
  .holding .contextSpecific 0 [.primitive Der.tagInteger version.number]

/-- An algorithm: its object identifier and whatever stands behind it. -/
structure Algorithm where
  oid : List UInt8
  parameters : List UInt8

/-- An algorithm as it is written. -/
def Algorithm.element (algorithm : Algorithm) : Element :=
  ⟨.universal, true, Der.tagSequence, encode (oidElement algorithm.oid) ++ algorithm.parameters⟩

/-- The version is passed over, and nothing is if there is none. -/
theorem skipVersion?_encode {version : Option Version} {serial : List UInt8}
    (hversion : ∀ number ∈ version, number.element.Fits)
    (hserial : (Element.primitive Der.tagInteger serial).Fits) (rest : List UInt8) :
    skipVersion? (encodeAll (version.toList.map Version.element) ++
      (encode (.primitive Der.tagInteger serial) ++ rest)) =
        some (encode (.primitive Der.tagInteger serial) ++ rest) := by
  cases version with
  | none =>
    -- The serial number is read in its place and is of another class.
    have hread := Der.read?_encode (show Der.tagInteger < 31 by decide) hserial rest
    simp only [Option.toList_none, List.map_nil, Der.encodeAll_nil, List.nil_append, skipVersion?,
      hread, Option.bind_eq_bind, Option.bind_some, Option.pure_def]
    exact if_neg fun hsame => nomatch hsame.1
  | some version =>
    have hfits : version.element.Fits := hversion version rfl
    have hnumber : (Element.primitive Der.tagInteger version.number).Fits :=
      hfits.of_mem rfl (List.mem_singleton_self _)
    have hlow : version.element.tag < 31 := show 0 < 31 by decide
    have hcontent : version.element.content =
        encode (.primitive Der.tagInteger version.number) ++ [] := rfl
    have hinner := Der.expect?_primitive (show Der.tagInteger < 31 by decide) hnumber []
    simp only [Option.toList_some, List.map_cons, List.map_nil, Der.encodeAll_cons,
      Der.encodeAll_nil, List.append_nil, skipVersion?, Der.read?_encode hlow hfits,
      Option.bind_eq_bind, Option.bind_some]
    rw [if_pos ⟨rfl, rfl⟩, hcontent, hinner]
    exact if_pos version.isVersionNumber

theorem skipSerial?_encode {number : List UInt8}
    (h : (Element.primitive Der.tagInteger number).Fits) (rest : List UInt8) :
    skipSerial? (encode (.primitive Der.tagInteger number) ++ rest) = some rest :=
  Der.skip?_encode (show Der.tagInteger < 31 by decide) h rest

theorem skipAlgorithm?_encode {algorithm : Algorithm} (h : algorithm.element.Fits)
    (rest : List UInt8) : skipAlgorithm? (encode algorithm.element ++ rest) = some rest := by
  -- The object identifier is all that is read of the content.
  have hoid : (oidElement algorithm.oid).Fits := h.of_content (List.nil_append _).symm
  have hread : Der.expect? Der.tagSequence (encode algorithm.element ++ rest) =
      some (algorithm.element, rest) :=
    Der.expect?_encode rfl (show Der.tagSequence < 31 by decide) h rest
  have hinner : readOid? algorithm.element.content = some (algorithm.oid, algorithm.parameters) :=
    readOid?_encode hoid algorithm.parameters
  simp only [skipAlgorithm?, hread, Option.bind_eq_bind, Option.bind_some, hinner, Option.pure_def]

/-! ## Keys and identifiers -/

/-- The content of a BIT STRING: the number of unused bits and the bits. -/
structure BitString where
  content : List UInt8
  isBitString : isBitString content = true

namespace BitString

/-- A BIT STRING as it is written. -/
def element (bits : BitString) : Element :=
  .primitive Der.tagBitString bits.content

/-- A BIT STRING under another tag, as it is written. -/
def tagged (tag : Nat) (bits : BitString) : Element :=
  ⟨.contextSpecific, false, tag, bits.content⟩

end BitString

/-- A public key as it is written. -/
def keyElement (algorithm : Algorithm) (key : BitString) : Element :=
  .sequence [algorithm.element, key.element]

theorem skipBitString?_encode {bits : BitString} (h : bits.element.Fits) (rest : List UInt8) :
    skipBitString? (encode bits.element ++ rest) = some rest := by
  rw [BitString.element] at h ⊢
  simp only [skipBitString?, Der.expect?_primitive (by decide) h, Option.bind_eq_bind,
    Option.bind_some]
  exact if_pos bits.isBitString

theorem skipPublicKey?_encode {algorithm : Algorithm} {key : BitString}
    (h : (keyElement algorithm key).Fits) (rest : List UInt8) :
    skipPublicKey? (encode (keyElement algorithm key) ++ rest) = some rest := by
  have halgorithm : algorithm.element.Fits := h.of_mem rfl (by simp)
  have hkey : key.element.Fits := h.of_mem rfl (by simp)
  rw [keyElement] at h ⊢
  simp only [skipPublicKey?, Der.expect?_holding (by decide) h, Option.bind_eq_bind,
    Option.bind_some, Element.content_holding, Der.encodeAll_cons,
    skipAlgorithm?_encode halgorithm, skipBitString?_encode hkey, Option.pure_def]

theorem isIdentifier_tagged (tag : Nat) (bits : BitString) :
    isIdentifier tag (bits.tagged tag) = true := by
  simp [isIdentifier, BitString.tagged, bits.isBitString]

/-- An identifier is passed over. If there is none, what stands there has another tag, or nothing
stands there. -/
theorem skipIdentifier_encode {identifier : Option BitString} {tag : Nat} (htag : tag < 31)
    {elements : List Element} (hother : ∀ element ∈ elements, element.tag ≠ tag ∧ element.tag < 31)
    (hfits : ∀ element ∈ identifier.toList.map (BitString.tagged tag) ++ elements, element.Fits) :
    skipIdentifier tag (encodeAll (identifier.toList.map (BitString.tagged tag) ++ elements)) =
      encodeAll elements := by
  cases identifier with
  | none =>
    cases elements with
    | nil => rfl
    | cons element elements =>
      have hhead := hother element List.mem_cons_self
      have hread := Der.read?_encode hhead.2 (hfits element List.mem_cons_self) (encodeAll elements)
      -- What is read in its place is not passed over.
      have hne : ¬ (isIdentifier tag element = true) := by simp [isIdentifier, hhead.1]
      simp only [Option.toList_none, List.map_nil, List.nil_append, skipIdentifier,
        Der.encodeAll_cons, hread, if_neg hne]
  | some bits =>
    have hbits : (bits.tagged tag).Fits := hfits _ List.mem_cons_self
    have hlow : (bits.tagged tag).tag < 31 := htag
    simp only [Option.toList_some, List.map_cons, List.map_nil, List.singleton_append,
      Der.encodeAll_cons, skipIdentifier, Der.read?_encode hlow hbits,
      if_pos (isIdentifier_tagged tag bits)]

/-! ## Extensions -/

/-- An extension. -/
structure Extension where
  oid : List UInt8
  /-- The byte of the mark that says whether the extension is critical, if it stands there. -/
  critical : Option UInt8
  value : List UInt8

/-- An extension as it is written. -/
def Extension.element (extension : Extension) : Element :=
  .sequence (oidElement extension.oid ::
    (extension.critical.toList.map (fun b => .primitive Der.tagBoolean [b]) ++
      [.primitive Der.tagOctetString extension.value]))

/-- Extensions as they are written. -/
def extensionsElement (extensions : List Extension) : Element :=
  .holding .contextSpecific 3 [.sequence (extensions.map Extension.element)]

/-- The mark of a critical extension is passed over, and nothing is if there is none. -/
theorem skipCritical_encode {critical : Option UInt8} {value : List UInt8}
    (hvalue : (Element.primitive Der.tagOctetString value).Fits) :
    skipCritical (encodeAll (critical.toList.map (fun b => .primitive Der.tagBoolean [b]) ++
      [.primitive Der.tagOctetString value])) =
        encode (.primitive Der.tagOctetString value) ++ [] := by
  cases critical with
  | none =>
    have hread := Der.header?_encode (show Der.tagOctetString < 31 by decide) hvalue .basic []
    simp only [Option.toList_none, List.map_nil, List.nil_append, Der.encodeAll_cons,
      Der.encodeAll_nil, skipCritical, hread]
    -- The value is read in its place and is no BOOLEAN, whether it holds a byte or none.
    split
    · next header b rest heq =>
      obtain ⟨rfl, -⟩ := Prod.mk.inj (Option.some.inj heq)
      have hother : Der.tagOctetString ≠ Der.tagBoolean := by decide
      exact if_neg fun hsame => hother hsame.1
    · rfl
  | some b =>
    have hmark : (Element.primitive Der.tagBoolean [b]).Fits :=
      show 1 < 0x10000000000000000 by decide
    have hread := Der.header?_encode (show Der.tagBoolean < 31 by decide) hmark .basic
      (encode (.primitive Der.tagOctetString value) ++ [])
    simp only [Option.toList_some, List.map_cons, List.map_nil, List.singleton_append,
      Der.encodeAll_cons, Der.encodeAll_nil, skipCritical, hread]
    exact if_pos ⟨rfl, rfl⟩

theorem readExtension?_encode {extension : Extension} (h : extension.element.Fits)
    (rest : List UInt8) :
    readExtension? (encode extension.element ++ rest) = some ((), rest) := by
  have hoid : (oidElement extension.oid).Fits := h.of_mem rfl List.mem_cons_self
  have hvalue : (Element.primitive Der.tagOctetString extension.value).Fits :=
    h.of_mem rfl (by simp)
  rw [Extension.element] at h ⊢
  simp only [readExtension?, Der.expect?_holding (by decide) h, Option.bind_eq_bind,
    Option.bind_some, Element.content_holding, Der.encodeAll_cons, readOid?_encode hoid,
    skipCritical_encode hvalue, Der.expect?_primitive (by decide) hvalue, Option.pure_def]
  exact if_neg Bool.false_ne_true

theorem areExtensions_encode {extensions : Option (List Extension)}
    (h : ∀ element ∈ extensions.toList.map extensionsElement, element.Fits) :
    areExtensions (encodeAll (extensions.toList.map extensionsElement)) = true := by
  cases extensions with
  | none => rfl
  | some extensions =>
    have houter : (extensionsElement extensions).Fits := h _ (List.mem_singleton_self _)
    have hinner : (Element.sequence (extensions.map Extension.element)).Fits :=
      houter.of_mem rfl (List.mem_singleton_self _)
    have hmany := readMany_encodeAll rfl (fun extension _ => readExtension?_encode) hinner
    have hlow : (extensionsElement extensions).tag < 31 := show 3 < 31 by decide
    -- What is inside the outer element stands behind its header.
    have hheader : behindHeader? 3 (encodeAll ([extensions].map extensionsElement)) =
        some (encode (.sequence (extensions.map Extension.element)) ++ []) := by
      rw [behindHeader?, List.map_singleton, Der.encodeAll_cons, Der.encodeAll_nil,
        Der.header?_encode hlow houter]
      show some (encode _ ++ [] ++ []) = _
      rw [List.append_nil]
    -- Nothing is left behind the extensions, neither in their sequence nor after it.
    simp only [areExtensions, Option.toList_some, hheader, Option.bind_eq_bind, Option.bind_some,
      Der.expect?_holding (by decide) hinner, Element.content_holding, hmany]
    exact Bool.or_true _

/-! ## Certificates -/

/-- A certificate but for its subject. -/
structure Layout where
  version : Option Version
  serial : List UInt8
  algorithm : Algorithm
  /-- The content of the sequence that names the issuer. -/
  issuer : List UInt8
  notBefore : Time
  notAfter : Time
  keyAlgorithm : Algorithm
  key : BitString
  issuerId : Option BitString
  subjectId : Option BitString
  extensions : Option (List Extension)
  signatureAlgorithm : Algorithm
  signature : BitString

namespace Layout

variable (layout : Layout)

/-- What may stand behind the public key. -/
def trailer : List Element :=
  layout.issuerId.toList.map (BitString.tagged 1) ++
    (layout.subjectId.toList.map (BitString.tagged 2) ++
      layout.extensions.toList.map extensionsElement)

/-- What stands in the signed part of a certificate. -/
def signedElements (subject : Name) : List Element :=
  layout.version.toList.map Version.element ++
    (.primitive Der.tagInteger layout.serial :: layout.algorithm.element ::
      ⟨.universal, true, Der.tagSequence, layout.issuer⟩ ::
        validityElement layout.notBefore layout.notAfter :: subject.element ::
          keyElement layout.keyAlgorithm layout.key :: layout.trailer)

/-- The certificate of a subject as it is written. -/
def element (subject : Name) : Element :=
  .sequence [.sequence (layout.signedElements subject), layout.signatureAlgorithm.element,
    layout.signature.element]

/-- The bytes of the certificate of a subject. -/
def bytes (subject : Name) : List UInt8 :=
  encode (layout.element subject)

end Layout

section

variable {layout : Layout} {subject : Name}

/-- The identifiers are passed over, one after the other. -/
theorem skipIdentifier_trailer (h : ∀ element ∈ layout.trailer, element.Fits) :
    skipIdentifier 2 (skipIdentifier 1 (encodeAll layout.trailer)) =
      encodeAll (layout.extensions.toList.map extensionsElement) := by
  have hextensions : ∀ element ∈ layout.extensions.toList.map extensionsElement,
      element.tag = 3 := by
    intro element helement
    obtain ⟨extensions, -, rfl⟩ := List.mem_map.1 helement
    rfl
  have hsubjectId : ∀ element ∈ layout.subjectId.toList.map (BitString.tagged 2),
      element.tag = 2 := by
    intro element helement
    obtain ⟨bits, -, rfl⟩ := List.mem_map.1 helement
    rfl
  rw [Layout.trailer, skipIdentifier_encode (by decide) ?_ h, skipIdentifier_encode (by decide) ?_
    fun element helement => h element (List.mem_append_right _ helement)]
  · intro element helement
    rw [hextensions element helement]
    decide
  · intro element helement
    rcases List.mem_append.1 helement with hid | hextension
    · rw [hsubjectId element hid]
      decide
    · rw [hextensions element hextension]
      decide

variable (hsubject : subject.Proper)

include hsubject

theorem subjectOfSigned?_encodeAll
    (h : ∀ element ∈ layout.signedElements subject, element.Fits) :
    subjectOfSigned? (encodeAll (layout.signedElements subject)) = some subject := by
  have hversion : ∀ number ∈ layout.version, number.element.Fits := by
    intro number hnumber
    exact h _ (List.mem_append_left _ (List.mem_map_of_mem (Option.mem_toList.2 hnumber)))
  -- The parts from the serial number on, one by one.
  have hparts := List.forall_mem_append.1 h
  simp only [List.forall_mem_cons] at hparts
  obtain ⟨-, hserial, halgorithm, hissuer, hvalidity, hname, hkey, htrailer⟩ := hparts
  have hextensions : areExtensions (encodeAll (layout.extensions.toList.map extensionsElement)) =
      true :=
    areExtensions_encode fun element helement =>
      htrailer element (List.mem_append_right _ (List.mem_append_right _ helement))
  rw [Layout.signedElements, Der.encodeAll_append]
  simp only [subjectOfSigned?, Der.encodeAll_cons, skipVersion?_encode hversion hserial,
    skipSerial?_encode hserial, skipAlgorithm?_encode halgorithm, readName?_content hissuer,
    skipValidity?_encode hvalidity, readName?_encode hsubject hname, skipPublicKey?_encode hkey,
    skipIdentifier_trailer htrailer, Option.bind_eq_bind, Option.bind_some]
  exact if_pos hextensions

/-- The subject is read, whatever the other parts are and whatever follows the certificate. -/
theorem subject?_bytes (h : (layout.element subject).Fits) (rest : List UInt8) :
    subject? (layout.bytes subject ++ rest) = some subject := by
  -- What fits as a whole fits in its three parts.
  have hsigned : (Element.sequence (layout.signedElements subject)).Fits := h.of_mem rfl (by simp)
  have halgorithm : layout.signatureAlgorithm.element.Fits := h.of_mem rfl (by simp)
  have hsignature : layout.signature.element.Fits := h.of_mem rfl (by simp)
  have hread : subjectOfSigned? (encodeAll (layout.signedElements subject)) = some subject :=
    subjectOfSigned?_encodeAll hsubject fun element helement => hsigned.of_mem rfl helement
  rw [Layout.bytes, Layout.element]
  rw [Layout.element] at h
  simp only [subject?, Der.expect?_holding (by decide) h, Option.bind_eq_bind, Option.bind_some,
    Element.content_holding, Der.encodeAll_cons, Der.expect?_holding (by decide) hsigned, hread,
    skipAlgorithm?_encode halgorithm, skipBitString?_encode hsignature, Option.pure_def]

end

end PatternRouter.Certificate
