import PatternRouter.Proofs.Certificate.Identity
import PatternRouter.Proofs.Certificate.Structure
import PatternRouter.Proofs.Encoding.Utf8

/-!
# The common name of a client

A subject may state any number of common names, in one set or in several, and the first one counts.
If it cannot be read as text, the client has no name, even where a later one could be read.

The module introduces:

* `Name.IsFirst` — an attribute is the first common name of a subject;
* `IsTextOf` — a value says a text.

`commonNameText_of_text`, `commonNameText_of_no_text` and `commonNameText_of_absent` are the three
cases. With them `resolve_first_common_name` says what name the client of a certificate has. Nothing
else in the certificate matters to it, neither another name nor the issuer, and nothing that follows
the certificate.
-/

namespace PatternRouter.Certificate

/-! ## The first common name of a subject -/

/-- An attribute is the first common name of a name: all attributes before it, in its own set and in
earlier ones, are something else. -/
def Name.IsFirst (name : Name) (first : Attribute) : Prop :=
  first.oid = commonNameOid ∧
    ∃ before after, name.flatten = before ++ first :: after ∧
      ∀ entry ∈ before, entry.oid ≠ commonNameOid

/-- A value says a text: its tag is UTF8String, NumericString, PrintableString or IA5String, and its
content is the text in UTF-8. -/
def IsTextOf (value : Der.Element) (text : String) : Prop :=
  value.tag ∈ [12, 18, 19, 22] ∧ value.content = Utf8.ofString text

theorem textOf?_eq_some_iff {value : Der.Element} {text : String} :
    textOf? value = some text ↔ IsTextOf value text := by
  have htags : textTags = [12, 18, 19, 22] := rfl
  rw [textOf?, htags, IsTextOf, ← Utf8.toString?_eq_some_iff]
  by_cases htag : value.tag ∈ [12, 18, 19, 22]
  · rw [if_pos htag, and_iff_right htag]
  · rw [if_neg htag]
    exact ⟨nofun, fun h => absurd h.1 htag⟩

theorem find?_eq_none_of_ne {entries : List Attribute}
    (h : ∀ entry ∈ entries, entry.oid ≠ commonNameOid) :
    entries.find? (fun entry => entry.oid == commonNameOid) = none := by
  rw [List.find?_eq_none]
  intro entry hentry
  rw [beq_iff_eq]
  exact h entry hentry

section

variable {name : Name} {first : Attribute}

theorem commonName?_of_isFirst (h : name.IsFirst first) : commonName? name = some first := by
  obtain ⟨hfirst, before, after, hname, hbefore⟩ := h
  -- The search passes over what stands before.
  rw [commonName?, hname, List.find?_append, find?_eq_none_of_ne hbefore, Option.none_or]
  exact List.find?_cons_of_pos (beq_iff_eq.2 hfirst)

theorem commonNameText_of_text (h : name.IsFirst first) {text : String}
    (htext : IsTextOf first.value text) : commonNameText name = text := by
  rw [commonNameText, commonName?_of_isFirst h, Option.bind_some, textOf?_eq_some_iff.2 htext,
    Option.getD_some]

/-- The names behind the first one are not looked at. -/
theorem commonNameText_of_no_text (h : name.IsFirst first)
    (htext : ∀ text, ¬ IsTextOf first.value text) : commonNameText name = "" := by
  have hnone : textOf? first.value = none := by
    rw [Option.eq_none_iff_forall_ne_some]
    exact fun text hsome => htext text (textOf?_eq_some_iff.1 hsome)
  rw [commonNameText, commonName?_of_isFirst h, Option.bind_some, hnone, Option.getD_none]

theorem commonNameText_of_absent (h : ∀ entry ∈ name.flatten, entry.oid ≠ commonNameOid) :
    commonNameText name = "" := by
  have hnone : commonName? name = none := find?_eq_none_of_ne h
  rw [commonNameText, hnone, Option.bind_none, Option.getD_none]

end

/-! ## Certificates -/

/-- A certificate that is followed by any bytes gives its subject's common name and a fingerprint of
all the bytes. -/
theorem resolve_layout (wording : Wording) {layout : Layout} {subject : Name}
    (hsubject : subject.Proper) (hfits : (layout.element subject).Fits) (appended : List UInt8)
    (opening : Pem.LineEnd) {body : List Pem.Line}
    (hbody : body.flatMap Pem.Line.text = Base64.encode (layout.bytes subject ++ appended))
    (rest : List UInt8) :
    resolve (.x509 wording) ⟨(Pem.Frame.certificate opening body).bytes ++ rest⟩ =
      .ok (some ⟨commonNameText subject, fingerprint (layout.bytes subject ++ appended)⟩) := by
  -- No blocks stand before the certificate.
  have hresolve : resolve (.x509 wording) ⟨(Pem.Frame.certificate opening body).bytes ++ rest⟩ =
      (identityOf (.x509 wording) (layout.bytes subject ++ appended)).map some :=
    resolve_of_body _ [] opening hbody rest
  have hread := subject_x509_of_some (subject?_bytes hsubject hfits appended) wording
  rw [hresolve, identityOf_of_ok hread]
  rfl

/-- The client of a certificate is named by the text of the first common name of its subject, and by
the empty text if that cannot be read or there is none. Neither the rest of the certificate nor the
bytes that follow it have a say in the name; the fingerprint is the digest of all of them. A
certificate fits if it is shorter than 2 ^ 64 bytes. -/
theorem resolve_first_common_name (wording : Wording) (layout : Layout) {subject : Name}
    (hsubject : subject.Proper) (hfits : (layout.element subject).Fits) (appended : List UInt8)
    (opening : Pem.LineEnd) {body : List Pem.Line}
    (hbody : body.flatMap Pem.Line.text = Base64.encode (layout.bytes subject ++ appended))
    (rest : List UInt8) :
    let credential : Credential := ⟨(Pem.Frame.certificate opening body).bytes ++ rest⟩
    let digest := fingerprint (layout.bytes subject ++ appended)
    (∀ first text, subject.IsFirst first → IsTextOf first.value text →
      resolve (.x509 wording) credential = .ok (some ⟨text, digest⟩)) ∧
    (∀ first, subject.IsFirst first → (∀ text, ¬ IsTextOf first.value text) →
      resolve (.x509 wording) credential = .ok (some ⟨"", digest⟩)) ∧
    ((∀ entry ∈ subject.flatten, entry.oid ≠ commonNameOid) →
      resolve (.x509 wording) credential = .ok (some ⟨"", digest⟩)) ∧
    Utf8.ofString digest = Base64.encode (Sha256.digest (layout.bytes subject ++ appended)) := by
  intro credential digest
  have hresolve : resolve (.x509 wording) credential =
      .ok (some ⟨commonNameText subject, digest⟩) :=
    resolve_layout wording hsubject hfits appended opening hbody rest
  refine ⟨fun first text hfirst htext => ?_, fun first hfirst htext => ?_, fun habsent => ?_,
    ofString_fingerprint _⟩
  · rw [hresolve, commonNameText_of_text hfirst htext]
  · rw [hresolve, commonNameText_of_no_text hfirst htext]
  · rw [hresolve, commonNameText_of_absent habsent]

/-- Three common names in two sets behind a long attribute, a first common name that is no text, and
no common name at all. -/
theorem resolve_first_common_name_repeated :
    let utf8 (text : String) : Der.Element := .primitive Der.tagUtf8String (Utf8.ofString text)
    let layout : Layout :=
      { version := some ⟨[2], rfl⟩
        serial := [0x01, 0x00]
        algorithm := ⟨[0x2A, 0x03], [0x05, 0x00]⟩
        issuer := Der.encodeAll [setElement [⟨commonNameOid, utf8 "Root"⟩]]
        notBefore := Moment.utcTime ⟨2024, 2, 29, 0, 0, 0, rfl⟩ (by decide)
        notAfter := Moment.generalizedTime ⟨2050, 1, 1, 0, 0, 0, rfl⟩ (by decide)
        keyAlgorithm := ⟨[0x2A, 0x04], []⟩
        key := ⟨[0x00, 0xFF], rfl⟩
        issuerId := none
        subjectId := some ⟨[0x04, 0xF0], rfl⟩
        extensions := some [⟨[0x55, 0x1D, 0x0F], some 0xFF, [0x03, 0x02, 0x07, 0x80]⟩]
        signatureAlgorithm := ⟨[0x2A, 0x03], [0x05, 0x00]⟩
        signature := ⟨[0x00, 0x01], rfl⟩ }
    let unit : Attribute :=
      ⟨[0x55, 0x04, 0x0B], .primitive Der.tagPrintableString (List.replicate 200 0x55)⟩
    let named : Name := [[unit], [⟨commonNameOid, utf8 "Ann"⟩, ⟨commonNameOid, utf8 "Bob"⟩],
      [⟨commonNameOid, utf8 "Eve"⟩]]
    let unreadable : Name := [[⟨commonNameOid, .primitive 30 [0x00, 0x41]⟩],
      [⟨commonNameOid, utf8 "Bob"⟩]]
    let der (subject : Name) : List UInt8 := layout.bytes subject ++ [0x30, 0x00]
    let pem (subject : Name) : List UInt8 := Utf8.ofString "-----BEGIN CERTIFICATE-----\n" ++
      Base64.encode (der subject) ++ Utf8.ofString "\n-----END CERTIFICATE-----\n"
    let reader : Reader := .x509 ⟨fun _ => "no certificate", fun _ => "no PEM text"⟩
    resolve reader ⟨pem named⟩ = .ok (some ⟨"Ann", fingerprint (der named)⟩) ∧
    resolve reader ⟨pem unreadable⟩ = .ok (some ⟨"", fingerprint (der unreadable)⟩) ∧
    resolve reader ⟨pem [[unit]]⟩ = .ok (some ⟨"", fingerprint (der [[unit]])⟩) := by
  intro utf8 layout unit named unreadable der pem reader
  let line (subject : Name) : Pem.Line :=
    ⟨Base64.encode (der subject), .lf, Pem.isUnbroken_encode (der subject)⟩
  have hbody : ∀ subject, [line subject].flatMap Pem.Line.text = Base64.encode (der subject) := by
    intro subject
    rw [List.flatMap_singleton]
  have hpem : ∀ subject,
      pem subject = (Pem.Frame.certificate .lf [line subject]).bytes ++ [0x0A] := by
    intro subject
    have hopen : Utf8.ofString "-----BEGIN CERTIFICATE-----\n" =
        Pem.beginMark ++ Pem.certificateLabel ++ Utf8.ofString "-----" ++ [0x0A] := by decide
    have hclose : Utf8.ofString "\n-----END CERTIFICATE-----\n" =
        [0x0A] ++ Pem.endMark Pem.certificateLabel ++ [0x0A] := by decide
    simp only [pem, hopen, hclose, Pem.Frame.certificate, Pem.Frame.bytes, line,
      List.flatMap_singleton, Pem.Line.bytes, Pem.LineEnd.bytes, List.append_assoc]
  have hnamed : named.IsFirst ⟨commonNameOid, utf8 "Ann"⟩ := ⟨rfl, [unit], _, rfl, by decide⟩
  have hann : IsTextOf (utf8 "Ann") "Ann" := ⟨by decide, rfl⟩
  have hunreadable : unreadable.IsFirst ⟨commonNameOid, .primitive 30 [0x00, 0x41]⟩ :=
    ⟨rfl, [], _, rfl, List.forall_mem_nil _⟩
  rw [hpem, hpem, hpem]
  refine ⟨?_, ?_, ?_⟩
  · exact (resolve_first_common_name _ layout (by decide) (by decide +kernel) [0x30, 0x00] .lf
      (hbody named) [0x0A]).1 _ _ hnamed hann
  · exact (resolve_first_common_name _ layout (by decide) (by decide +kernel) [0x30, 0x00] .lf
      (hbody unreadable) [0x0A]).2.1 _ hunreadable fun text htext => absurd htext.1 (by decide)
  · exact (resolve_first_common_name _ layout (by decide) (by decide +kernel) [0x30, 0x00] .lf
      (hbody [[unit]]) [0x0A]).2.2.1 (by decide)

end PatternRouter.Certificate
