import PatternRouter.Http.Request
import PatternRouter.Proofs.Encoding.Percent
import PatternRouter.Proofs.Encoding.Utf8
import PatternRouter.Proofs.Text.Splitting

/-!
# Reading a request

The path of a request and the field with its credential are percent-encoded, each with freedom as to
what is escaped and how. They are decoded once: the path to a text, or not at all if its bytes are
none, and the credential to bytes of any kind.

* `Uri.SpellsText text path`: the path is a spelling of the text, as `Percent.Spells` is for bytes.
* `decodePath_of_spellsText`: a spelled path is read as the text.
* `decodePath_eq_self_of_forall_ne`, `decodePath_eq_self_of_not_escape`: paths that are not decoded.
* `inbound_inverts_spelling`: all of these for requests, with the credential.
-/

namespace PatternRouter

/-- Whether a character is a hexadecimal digit, in either case. -/
def isHexDigit (c : Char) : Bool :=
  ('0' ≤ c && c ≤ '9') || ('A' ≤ c && c ≤ 'F') || ('a' ≤ c && c ≤ 'f')

namespace Http

/-- A path spells a text: each character that may stand in a path is itself or escaped, and percent
signs and the other characters are escaped. All bytes of a character are escaped together. -/
inductive Uri.SpellsText : List Char → List Char → Prop
  | nil : SpellsText [] []
  | plain {c : Char} {text path : List Char} :
      isPathChar c = true → c ≠ '%' → SpellsText text path → SpellsText (c :: text) (c :: path)
  | escaped {c : Char} {text path : List Char} {escapes : List UInt8} :
      Percent.Escapes (String.utf8EncodeChar c) escapes → SpellsText text path →
      SpellsText (c :: text) (escapes.map (fun b => Char.ofNat b.toNat) ++ path)

namespace Uri.SpellsText

variable {text path : List Char}

/-- A path that spells a text may be the path of a target. -/
theorem all_isPathChar (h : SpellsText text path) : ∀ c ∈ path, isPathChar c = true := by
  have hdigit : ∀ (upper : Bool) (value : Fin 16),
      isPathChar (Char.ofNat (Percent.digit upper value).toNat) = true := by decide
  induction h with
  | nil => simp
  | plain hc _ _ ih =>
    rw [List.forall_mem_cons]
    exact ⟨hc, ih⟩
  | @escaped _ _ _ escapes hescapes _ ih =>
    rw [List.forall_mem_append, List.forall_mem_map]
    exact ⟨hescapes.forall_mem (by decide) hdigit, ih⟩

/-- Decoding the bytes of a path gives those of the text that it spells. -/
theorem decode_encode (h : SpellsText text path) :
    Percent.decode (Utf8.encode path) = Utf8.encode text := by
  induction h with
  | nil => rfl
  | @plain c _ _ _ hne _ ih =>
    rw [Utf8.encode, List.flatMap_cons,
      Percent.decode_append_of_not_mem (Percent.mark_not_mem_encodeChar hne)]
    exact congrArg _ ih
  | @escaped c _ _ _ hescapes _ ih =>
    rw [Utf8.encode, List.flatMap_append]
    show Percent.decode (Utf8.encode _ ++ Utf8.encode _) = _
    rw [hescapes.encode_eq, hescapes.decode_append, ih]
    rfl

/-- A path that spells a text behind a separator is the path of a target. -/
theorem parse?_target (h : SpellsText text path)
    (hsize : (String.ofList ('/' :: path)).utf8ByteSize ≤ maxLength) :
    parse? (String.ofList ('/' :: path)) =
      some ⟨none, none, String.ofList ('/' :: path), none⟩ := by
  have hall : ∀ c ∈ '/' :: path, isPathChar c = true := by
    rw [List.forall_mem_cons]
    exact ⟨by decide, h.all_isPathChar⟩
  have hfragment : '#' ∉ '/' :: path := fun hmem => absurd (hall _ hmem) (by decide)
  have hquery : '?' ∉ '/' :: path := fun hmem => absurd (hall _ hmem) (by decide)
  have hread : pathAndQuery? ('/' :: path) = some (String.ofList ('/' :: path), none) := by
    rw [pathAndQuery?, Text.cutAt_of_not_mem hfragment, Text.cutAt_of_not_mem hquery]
    have hpath : ('/' :: path).all isPathChar = true := List.all_eq_true.2 hall
    simp [hpath]
  rw [parse?, if_neg (Nat.not_lt.2 hsize), String.toList_ofList]
  simp only [hread]
  rfl

end Uri.SpellsText

namespace Request

variable {text path : List Char}

/-! ## The path -/

/-- A path that spells a text is read as the text. -/
theorem decodePath_of_spellsText (h : Uri.SpellsText text path) :
    decodePath (String.ofList path) = String.ofList text := by
  have hdecode : Utf8.toString? (Percent.decode (Utf8.ofString (String.ofList path))) =
      some (String.ofList text) := by
    rw [Utf8.toString?_eq_some_iff, Utf8.ofString, Utf8.ofString, String.toList_ofList,
      String.toList_ofList]
    exact h.decode_encode
  rw [decodePath, hdecode, Option.getD_some]

/-- A path whose bytes are decoded to those of no text is not decoded. -/
theorem decodePath_eq_self_of_forall_ne {path : String}
    (h : ∀ text, Percent.decode (Utf8.ofString path) ≠ Utf8.ofString text) :
    decodePath path = path := by
  have hnone : Utf8.toString? (Percent.decode (Utf8.ofString path)) = none := by
    rw [Option.eq_none_iff_forall_ne_some]
    exact fun text htext => h text (Utf8.toString?_eq_some_iff.1 htext)
  rw [decodePath, hnone, Option.getD_none]

/-- The bytes that are digits are hexadecimal digits. -/
theorem isHexDigit_of_digitValue? {b : UInt8} (h : Percent.digitValue? b ≠ none) :
    b.toNat < 0x80 ∧ isHexDigit (Char.ofNat b.toNat) = true := by
  have hascii : b.toNat < 0x80 := by
    by_contra hlarge
    apply h
    rw [Percent.digitValue?, Text.digitValue?, if_neg]
    split_ifs <;> omega
  have hall : ∀ n : Fin 128, Percent.digitValue? (UInt8.ofNat n) ≠ none →
      isHexDigit (Char.ofNat n) = true := by decide
  refine ⟨hascii, hall ⟨b.toNat, hascii⟩ ?_⟩
  rwa [UInt8.ofNat_toNat]

/-- Bytes of a text without an escape stand for themselves. -/
theorem decode_encode_of_not_escape
    (h : ∀ high low, isHexDigit high = true → isHexDigit low = true →
      ¬ ['%', high, low] <:+: text) :
    Percent.decode (Utf8.encode text) = Utf8.encode text := by
  induction text with
  | nil => rfl
  | cons c text ih =>
    have hrest := ih fun high low hhigh hlow hsub =>
      h high low hhigh hlow (hsub.trans (List.suffix_cons c text).isInfix)
    by_cases hc : c = '%'
    · subst hc
      show Percent.decode (Percent.mark :: Utf8.encode text) = Percent.mark :: Utf8.encode text
      rw [Percent.decode_mark_of_not_escape, hrest]
      intro high low more hbytes
      by_contra hboth
      rw [not_or] at hboth
      -- Two digits behind the sign are the next two characters.
      obtain ⟨hhigh, hhigh'⟩ := isHexDigit_of_digitValue? hboth.1
      obtain ⟨hlow, hlow'⟩ := isHexDigit_of_digitValue? hboth.2
      obtain ⟨_, rfl, htail⟩ := Utf8.exists_cons_of_encode_eq_cons hbytes hhigh
      obtain ⟨rest, rfl, -⟩ := Utf8.exists_cons_of_encode_eq_cons htail hlow
      exact h _ _ hhigh' hlow' (List.prefix_append _ rest).isInfix
    · rw [Utf8.encode, List.flatMap_cons,
        Percent.decode_append_of_not_mem (Percent.mark_not_mem_encodeChar hc)]
      exact congrArg _ hrest

/-- A path without an escape is not decoded. -/
theorem decodePath_eq_self_of_not_escape {path : String}
    (h : ∀ high low, isHexDigit high = true → isHexDigit low = true →
      ¬ ['%', high, low] <:+: path.toList) :
    decodePath path = path := by
  have hsame : Percent.decode (Utf8.ofString path) = Utf8.ofString path :=
    decode_encode_of_not_escape h
  rw [decodePath, hsame, Utf8.toString?_eq_some_iff.2 rfl, Option.getD_some]

/-! ## The credential -/

variable {request : Request} {name : HeaderName} {value bytes : List UInt8} {before after : Headers}

/-- The credential is what the first field of its name spells. -/
theorem credential_of_spells (hspells : Percent.Spells HeaderValue.isLegalByte bytes value)
    (hheaders : request.headers = before ++ (name, value) :: after)
    (hfirst : before.has name = false) : request.credential (some name) = ⟨bytes⟩ := by
  have hget : request.headers.get? name = some value := by
    have hnone : before.lookup name = none := by
      rwa [Headers.has, Option.isSome_eq_false_iff, Option.isNone_iff_eq_none] at hfirst
    rw [hheaders, Headers.get?, List.lookup_append, hnone, Option.none_or,
      List.lookup_cons_self]
  rw [credential, Option.bind_some, hget, ← hspells.decode_eq]

/-- A value that spells bytes is one of a header field. -/
theorem parse?_headerValue (h : Percent.Spells HeaderValue.isLegalByte bytes value) :
    HeaderValue.parse? value = some value := by
  have hdigit : ∀ (upper : Bool) (digit : Fin 16),
      HeaderValue.isLegalByte (Percent.digit upper digit) = true := by decide
  have hall : ∀ b ∈ value, HeaderValue.isLegalByte b = true :=
    h.forall_mem (fun _ hb => hb) (by decide) fun upper digit hlt => hdigit upper ⟨digit, hlt⟩
  rw [HeaderValue.parse?, if_pos (List.all_eq_true.2 hall)]

/-- Without a field of its name there is no credential. -/
theorem credential_of_has_eq_false (h : request.headers.has name = false) :
    request.credential (some name) = .empty := by
  rw [Headers.has, Option.isSome_eq_false_iff, Option.isNone_iff_eq_none] at h
  rw [credential, Option.bind_some, h]

/-! ## The request -/

/-- What the router sees of a request is percent-decoded once. A path that spells a text behind a
separator is read as that text, and is one that a target can have. A path whose bytes are decoded to
those of no text is read as it is spelled, and so is one without an escape. A field value that
spells a credential gives it, byte by byte, if it is the first of its name; it is one that a field
can have. There is no credential without such a field, or if no name is set. -/
theorem inbound_inverts_spelling :
    (∀ (request : Request) (header : Option HeaderName) (text path : List Char),
      Uri.SpellsText text path → request.uri.path = String.ofList ('/' :: path) →
      (request.inbound header).path = String.ofList ('/' :: text)) ∧
    (∀ text path : List Char, Uri.SpellsText text path →
      (String.ofList ('/' :: path)).utf8ByteSize ≤ Uri.maxLength →
      Uri.parse? (String.ofList ('/' :: path)) =
        some ⟨none, none, String.ofList ('/' :: path), none⟩) ∧
    (∀ (request : Request) (header : Option HeaderName),
      (∀ text, Percent.decode (Utf8.ofString request.uri.path) ≠ Utf8.ofString text) →
      (request.inbound header).path = request.uri.path) ∧
    (∀ (request : Request) (header : Option HeaderName),
      (∀ high low, isHexDigit high = true → isHexDigit low = true →
        ¬ ['%', high, low] <:+: request.uri.path.toList) →
      (request.inbound header).path = request.uri.path) ∧
    (∀ (request : Request) (name : HeaderName) (bytes value : List UInt8) (before after : Headers),
      Percent.Spells HeaderValue.isLegalByte bytes value →
      request.headers = before ++ (name, value) :: after → before.has name = false →
      (request.inbound (some name)).credential = ⟨bytes⟩) ∧
    (∀ bytes value : List UInt8, Percent.Spells HeaderValue.isLegalByte bytes value →
      HeaderValue.parse? value = some value) ∧
    (∀ request : Request, (request.inbound none).credential = .empty ∧
      ∀ name, request.headers.has name = false →
        (request.inbound (some name)).credential = .empty) := by
  refine ⟨?_, fun _ _ => Uri.SpellsText.parse?_target, ?_, ?_, ?_,
    fun _ _ => parse?_headerValue, ?_⟩
  · intro request header text path hspells hpath
    show decodePath request.uri.path = _
    rw [hpath]
    exact decodePath_of_spellsText (.plain (by decide) (by decide) hspells)
  · intro request header
    exact decodePath_eq_self_of_forall_ne
  · intro request header
    exact decodePath_eq_self_of_not_escape
  · intro request name bytes value before after hspells hheaders hfirst
    exact credential_of_spells hspells hheaders hfirst
  · intro request
    exact ⟨rfl, fun name => credential_of_has_eq_false⟩

/-- A percent sign and a letter of two bytes in a path, a credential that is no text, behind which
another field of its name stands, and a path of which one escape is no text. -/
theorem inbound_inverts_spelling_mixed :
    let certificate : HeaderName := ⟨"x-client-cert"⟩
    let headers : Headers := [(.contentType, []), (certificate, .ofText "%fF%254"),
      (certificate, .ofText "%00")]
    let request : Request := ⟨.get, ⟨none, none, "/%252f+%c3%A9", none⟩, headers, []⟩
    let other : Request := ⟨.get, ⟨none, none, "/%41/%FF", none⟩, [], []⟩
    (request.inbound (some certificate)).path = "/%2f+é" ∧
    (request.inbound (some certificate)).credential = ⟨[0xFF, 0x25, 0x34]⟩ ∧
    (other.inbound none).path = "/%41/%FF" := by
  intro certificate headers request other
  obtain ⟨hpath, -, hraw, -, hcredential, -, -⟩ := inbound_inverts_spelling
  refine ⟨?_, ?_, ?_⟩
  · have hletter : Percent.Escapes (String.utf8EncodeChar 'é') _ :=
      .escaped false true (.escaped true true .nil)
    have hspells : Uri.SpellsText ['%', '2', 'f', '+', 'é'] _ :=
      .escaped (.escaped true true .nil) (.plain (by decide) (by decide)
        (.plain (by decide) (by decide) (.plain (by decide) (by decide) (.escaped hletter .nil))))
    exact hpath request _ _ _ hspells (by decide)
  · have hspells : Percent.Spells HeaderValue.isLegalByte [0xFF, 0x25, 0x34] _ :=
      .escaped false true (.escaped true true (.plain (by decide) (by decide) .nil))
    exact hcredential request certificate _ _ [(.contentType, [])] [(certificate, .ofText "%00")]
      hspells (by decide) (by decide)
  · refine hraw other none fun text htext => ?_
    have hnone : Utf8.toString? (Percent.decode (Utf8.ofString "/%41/%FF")) = none := by decide
    exact nomatch hnone.symm.trans (Utf8.toString?_eq_some_iff.2 htext)

end Request

end Http

end PatternRouter
