import PatternRouter.Certificate.Resolver
import PatternRouter.Http.RequestId
import PatternRouter.Proofs.Certificate.Framing
import PatternRouter.Proofs.Http.Run
import PatternRouter.Settings.Validation

/-!
# Requests without an identity

A client that presents no credential is served without an identity. There is one exception. A
server that takes the identifiers of requests for credentials gives an identifier to a request that
has none, and then refuses it: what it made up itself is no certificate.

The module introduces:

* `Answer.IsAnonymous answer` — the request was not refused, and no handler was told an identity;
* `Request.Lacks request name` — the request brings no credential in the field of that name;
* `Request.IsGivenCredential request name` — that field is the one in which the server writes an
  identifier, and it will.

The main result is `isAnonymous_of_lacks`. Its exception rests on `Certificate.resolve_ofRandom`: no
identifier that is made up is a certificate.
-/

namespace PatternRouter

/-! ## Identifiers are no certificates -/

/-- A single line that begins no section holds no certificate. -/
theorem Pem.firstCertificate_of_isUnbroken {text : List UInt8} (h : isUnbroken text = true)
    (hmark : ¬ beginMark.isPrefixOf text = true) : firstCertificate text = .error .absent := by
  have hlines : lines (text ++ []) = [text ++ []] := lines_append h rfl
  rw [List.append_nil] at hlines
  rw [firstCertificate, sections, hlines, itemsOf, if_neg hmark, itemsOf]
  rfl

theorem mem_intercalate {α : Type} {separator : List α} {words : List (List α)} {a : α}
    (h : a ∈ separator.intercalate words) : a ∈ separator ∨ ∃ word ∈ words, a ∈ word := by
  induction words with
  | nil => cases h
  | cons word words ih =>
    cases words with
    | nil => exact Or.inr ⟨word, List.mem_singleton_self word, by simpa using h⟩
    | cons next words =>
      rw [List.intercalate_cons_cons, List.mem_append, List.mem_append] at h
      rcases h with (h | h) | h
      · exact Or.inr ⟨word, List.mem_cons_self, h⟩
      · exact Or.inl h
      · rcases ih h with hseparator | ⟨found, hfound, ha⟩
        · exact Or.inl hseparator
        · exact Or.inr ⟨found, List.mem_cons_of_mem word hfound, ha⟩

namespace Http.RequestId

/-- Whether a byte is a dash or a hexadecimal digit in lower case. -/
def isIdByte (b : UInt8) : Bool :=
  b == 0x2D || (0x30 ≤ b && b ≤ 0x39) || (0x61 ≤ b && b ≤ 0x66)

theorem isIdByte_of_mem_hex {bytes : List UInt8} {c : Char} (h : c ∈ (hex bytes).toList) :
    isIdByte (UInt8.ofNat c.toNat) = true := by
  have hdigit : ∀ n : Fin 16, isIdByte (UInt8.ofNat (Json.hexDigit n).toNat) = true := by decide
  rw [hex, String.toList_ofList, List.mem_flatMap] at h
  obtain ⟨b, -, h⟩ := h
  have hb : b.toNat < 256 := b.toNat_lt
  rcases List.mem_pair.1 h with rfl | rfl
  · exact hdigit ⟨b.toNat / 16, by omega⟩
  · exact hdigit ⟨b.toNat % 16, by omega⟩

/-- The identifiers that a server makes consist of digits and dashes. -/
theorem isIdByte_of_mem_ofRandom {random : List UInt8} {b : UInt8} (h : b ∈ ofRandom random) :
    isIdByte b = true := by
  obtain ⟨c, hc, rfl⟩ := List.mem_map.1 h
  rw [String.toList_intercalate] at hc
  rcases mem_intercalate hc with hdash | ⟨group, hgroup, hc⟩
  · obtain rfl : c = '-' := by simpa using hdash
    rfl
  · obtain ⟨text, htext, rfl⟩ := List.mem_map.1 hgroup
    simp only [List.mem_cons, List.not_mem_nil, or_false] at htext
    rcases htext with rfl | rfl | rfl | rfl | rfl <;> exact isIdByte_of_mem_hex hc

theorem ofRandom_ne_nil (random : List UInt8) : ofRandom random ≠ [] := by
  intro h
  have hlength := congrArg List.length h
  simp [ofRandom, HeaderValue.ofText] at hlength

end Http.RequestId

/-- What a server makes up for an identifier is no certificate. -/
theorem Certificate.resolve_ofRandom (certificates : Reader) (random : List UInt8) :
    resolve certificates ⟨Percent.decode (Http.RequestId.ofRandom random)⟩ =
      .error .noCertificate := by
  have hnot (b : UInt8) (hb : Http.RequestId.isIdByte b = false) :
      b ∉ Http.RequestId.ofRandom random := by
    intro hmem
    exact Bool.noConfusion (hb.symm.trans (Http.RequestId.isIdByte_of_mem_ofRandom hmem))
  have hpercent : Percent.mark ∉ Http.RequestId.ofRandom random := hnot _ (by decide)
  have hspace : 0x20 ∉ Http.RequestId.ofRandom random := hnot _ (by decide)
  have hlf : 0x0A ∉ Http.RequestId.ofRandom random := hnot _ (by decide)
  have hcr : 0x0D ∉ Http.RequestId.ofRandom random := hnot _ (by decide)
  have hpresent : Http.RequestId.ofRandom random ≠ [] := Http.RequestId.ofRandom_ne_nil random
  rw [Percent.decode_of_not_mem hpercent]
  generalize Http.RequestId.ofRandom random = text at *
  -- The text is a single line, and without a space it begins no section.
  have hunbroken : Pem.isUnbroken text = true := by
    rw [Pem.isUnbroken, List.all_eq_true]
    rintro b hb
    have hblf : b ≠ 0x0A := fun h => hlf (h ▸ hb)
    have hbcr : b ≠ 0x0D := fun h => hcr (h ▸ hb)
    simp [Pem.isBreak, hblf, hbcr]
  have hmark : ¬ Pem.beginMark.isPrefixOf text = true := by
    intro h
    have hmem : (0x20 : UInt8) ∈ Pem.beginMark := by decide
    exact hspace ((List.isPrefixOf_iff_prefix.1 h).subset hmem)
  have hcredential : ¬ Credential.isEmpty ⟨text⟩ = true := by
    rwa [Credential.isEmpty, List.isEmpty_iff]
  rw [resolve, if_neg hcredential, Pem.firstCertificate_of_isUnbroken hunbroken hmark]

namespace Http

/-! ## Answers without an identity -/

/-- The request was not refused, and no handler was told an identity. -/
structure Answer.IsAnonymous (answer : Answer) : Prop where
  outcome_ne : ∀ error, answer.outcome ≠ .internalError error
  identity_eq : ∀ index context, .call index context ∈ answer.steps → context.identity = none

namespace Server

variable {server : Server} {routes : List Route} {resolver resolver' : Resolver}
  {header : Option HeaderName} {id : HeaderValue} {method : Method} {inbound : InboundRequest}

/-- Where the resolver knows no identity, none is told, and nothing is refused. -/
theorem isAnonymous_answerAs (h : server.router.resolver inbound.credential = .ok none) :
    (server.answerAs id method inbound).IsAnonymous := by
  rcases server.answerAs_cases id method inbound with
    ⟨-, houtcome, hsteps⟩ | ⟨_, _, _, _, -, hresolve, -, -⟩ |
      ⟨_, _, _, identity, -, hresolve, houtcome, hsteps⟩
  · refine ⟨fun error => ?_, fun index context hcall => ?_⟩
    · rw [houtcome]
      exact Outcome.noConfusion
    · simp [hsteps] at hcall
  · exact nomatch h.symm.trans hresolve
  · obtain rfl : none = identity := Except.ok.inj (h.symm.trans hresolve)
    refine ⟨fun error => ?_, fun index context hcall => ?_⟩
    · rw [houtcome]
      exact Outcome.noConfusion
    · rw [hsteps] at hcall
      obtain ⟨-, rfl⟩ : index = _ ∧ context = inbound.context _ none := by simpa using hcall
      rfl

/-- Resolvers that give the same for a credential give the same answer. -/
theorem answerAs_congr_resolver (h : resolver inbound.credential = resolver' inbound.credential) :
    answerAs ⟨⟨routes, resolver⟩, header⟩ id method inbound =
      answerAs ⟨⟨routes, resolver'⟩, header⟩ id method inbound := by
  simp only [answerAs, Router.dispatch, Router.serve, Recorded.apply, h]

/-- A path that no route matches is answered without asking the resolver. -/
theorem answerAs_of_unmatched (h : Unmatched routes inbound.path) :
    answerAs ⟨⟨routes, resolver⟩, header⟩ id method inbound =
      answerAs ⟨⟨routes, resolver'⟩, header⟩ id method inbound := by
  have hdispatch : ∀ resolver : Resolver, Router.dispatch ⟨routes, resolver⟩ inbound =
      ⟨.notFound, [.log (.noRoute inbound.path)]⟩ :=
    fun _ => Router.dispatch_of_unmatched h
  simp only [answerAs, hdispatch]

/-- A request that some route matches is refused if the resolver fails. -/
theorem outcome_answerAs_of_error {error : IdentityError}
    (hmatched : ¬ Unmatched server.router.routes inbound.path)
    (h : server.router.resolver inbound.credential = .error error) :
    (server.answerAs id method inbound).outcome = .internalError error := by
  rcases server.answerAs_cases id method inbound with
    ⟨hnone, -, -⟩ | ⟨_, _, _, error', -, hresolve, houtcome, -⟩ | ⟨_, _, _, _, -, hresolve, -, -⟩
  · exact absurd hnone hmatched
  · obtain rfl : error = error' := Except.error.inj (h.symm.trans hresolve)
    exact houtcome
  · exact nomatch h.symm.trans hresolve

end Server

/-! ## Requests that present nothing -/

/-- A request brings no credential in the field of a name: it has no such field, or the first one is
empty. -/
def Request.Lacks (request : Request) (name : HeaderName) : Prop :=
  request.headers.get? name = none ∨ request.headers.get? name = some []

/-- A request brings no credential, and the field for it is the one that the server fills in. -/
def Request.IsGivenCredential (request : Request) (name : HeaderName) : Prop :=
  name = .requestId ∧ request.headers.get? .requestId = none

theorem Request.Lacks.credential_eq {request : Request} {name : HeaderName}
    (h : request.Lacks name) : request.credential (some name) = .empty := by
  rcases h with h | h <;> simp only [credential, Option.bind_some, h]
  rfl

/-- What the server does to a request adds no credential to it, with one exception. -/
theorem Request.Lacks.credential_seen {request : Request} {name : HeaderName}
    (h : request.Lacks name) (hgiven : ¬ request.IsGivenCredential name) (router : Router)
    (generatedId : HeaderValue) :
    (Server.seen ⟨router, some name⟩ generatedId request).credential = .empty := by
  have hcarried : name = .requestId → request.headers.has .requestId = true := by
    intro hname
    rw [Headers.has, Option.isSome_iff_ne_none]
    exact fun hnone => hgiven ⟨hname, hnone⟩
  exact (credential_identified hcarried).trans h.credential_eq

theorem Request.IsGivenCredential.credential_seen {request : Request} {name : HeaderName}
    (h : request.IsGivenCredential name) (router : Router) (generatedId : HeaderValue) :
    (Server.seen ⟨router, some name⟩ generatedId request).credential =
      ⟨Percent.decode generatedId⟩ := by
  obtain ⟨rfl, hnone⟩ := h
  have hid : request.idOr generatedId = generatedId := by
    rw [idOr, hnone, Option.getD_none]
  show (request.identified generatedId).credential (some .requestId) = _
  rw [credential, Option.bind_some, get?_identified_requestId, hid]

namespace Server

variable {routes : List Route} {request : Request} {name : HeaderName}

/-- A request without a credential is answered as if clients were not identified. -/
theorem answer_eq_of_lacks (certificates : Certificate.Reader) (hlacks : request.Lacks name)
    (h : ¬ request.IsGivenCredential name ∨ Unmatched routes (Request.decodePath request.uri.path))
    (generatedId : HeaderValue) :
    answer ⟨⟨routes, Certificate.resolve certificates⟩, some name⟩ generatedId request =
      answer ⟨.ofRoutes routes, some name⟩ generatedId request := by
  rw [answer_eq, answer_eq]
  rcases h with hgiven | hnone
  · refine answerAs_congr_resolver ?_
    rw [hlacks.credential_seen hgiven]
    rfl
  · exact answerAs_of_unmatched hnone

/-- A request that is given an identifier for a credential is refused. -/
theorem outcome_answer_of_isGivenCredential (certificates : Certificate.Reader)
    (hgiven : request.IsGivenCredential name)
    (hmatched : ¬ Unmatched routes (Request.decodePath request.uri.path)) (random : List UInt8) :
    (answer ⟨⟨routes, Certificate.resolve certificates⟩, some name⟩ (RequestId.ofRandom random)
      request).outcome = .internalError .noCertificate := by
  rw [answer_eq]
  refine outcome_answerAs_of_error hmatched ?_
  show Certificate.resolve _ _ = _
  rw [hgiven.credential_seen, Certificate.resolve_ofRandom]

/-- Settings that are valid and identify clients name a field for credentials. To a request without
a credential in it, the server answers as one without identities does, unless the field is that of
identifiers, the request has none, and some route matches its path. Such a request is refused,
whatever identifier is made up for it. -/
theorem isAnonymous_of_lacks {settings : Settings} (hvalid : settings.validate = [])
    (henabled : settings.identity.enabled = true) :
    ∃ name, HeaderName.parse? settings.identity.header = some name ∧
      ∀ (certificates : Certificate.Reader) (routes : List Route) (request : Request),
        request.Lacks name →
        (¬ request.IsGivenCredential name ∨
            Unmatched routes (Request.decodePath request.uri.path) →
          ∀ generatedId,
            ((ofSettings settings ⟨routes, Certificate.resolve certificates⟩).answer
              generatedId request).IsAnonymous ∧
            (ofSettings settings ⟨routes, Certificate.resolve certificates⟩).answer generatedId
              request = (ofSettings settings (.ofRoutes routes)).answer generatedId request) ∧
        (request.IsGivenCredential name →
          ¬ Unmatched routes (Request.decodePath request.uri.path) →
          ∀ random,
            ((ofSettings settings ⟨routes, Certificate.resolve certificates⟩).answer
              (RequestId.ofRandom random) request).outcome = .internalError .noCertificate) := by
  obtain ⟨-, -, hheader, -⟩ := (Settings.validate_eq_nil_iff settings).1 hvalid
  obtain ⟨name, hname⟩ := Option.isSome_iff_exists.1 (hheader henabled)
  have hserver : ∀ router, ofSettings settings router = ⟨router, some name⟩ := by
    intro router
    rw [ofSettings, credentialHeaderOf_eq_some_iff.2 ⟨henabled, hname⟩]
  refine ⟨name, hname, fun certificates routes request hlacks => ?_⟩
  rw [hserver, hserver]
  refine ⟨fun h generatedId => ?_, outcome_answer_of_isGivenCredential certificates⟩
  have heq := answer_eq_of_lacks certificates hlacks h generatedId
  refine ⟨?_, heq⟩
  rw [heq, answer_eq]
  exact isAnonymous_answerAs rfl

/-- The first certificate field of a request is empty, and a later one holds no certificate. -/
theorem isAnonymous_of_lacks_empty_field :
    let certificate : HeaderName := ⟨"x-client-cert"⟩
    let request : Request := ⟨.get, ⟨none, none, "/a", none⟩,
      [(certificate, []), (certificate, .ofText "none")], []⟩
    let certificates : Certificate.Reader := .x509 ⟨fun _ => "no certificate", fun _ => "no text"⟩
    let server := ofSettings {}
      ⟨[⟨⟨"/:x", [.named "x"]⟩, fun _ => .ofStatus .ok⟩], Certificate.resolve certificates⟩
    request.Lacks certificate ∧ (server.answer (.ofText "1") request).IsAnonymous := by
  intro certificate request certificates server
  have hlacks : request.Lacks certificate := Or.inr rfl
  obtain ⟨name, hname, h⟩ := isAnonymous_of_lacks (show Settings.validate {} = [] by decide) rfl
  obtain rfl : certificate = name := Option.some.inj (Eq.trans (by decide) hname)
  have hgiven : ¬ request.IsGivenCredential certificate := fun hgiven => absurd hgiven.1 (by decide)
  exact ⟨hlacks, ((h _ _ request hlacks).1 (Or.inl hgiven) _).1⟩

/-- Identifiers taken for credentials: a request without any field is refused, although the settings
are valid. -/
theorem lacking_request_refused :
    let settings : Settings := { identity := { header := "X-Request-Id" } }
    let request : Request := ⟨.get, ⟨none, none, "/a", none⟩, [], []⟩
    let routes : List Route := [⟨⟨"/a", [.literal "a"]⟩, fun _ => .ofStatus .ok⟩]
    let id := RequestId.ofRandom (List.replicate 16 0)
    let certificates : Certificate.Reader := .x509 ⟨fun _ => "no certificate", fun _ => "no text"⟩
    settings.validate = [] ∧ settings.identity.enabled = true ∧
    HeaderName.parse? settings.identity.header = some .requestId ∧ request.Lacks .requestId ∧
    ((ofSettings settings ⟨routes, Certificate.resolve certificates⟩).answer id request).outcome =
      .internalError .noCertificate ∧
    ((ofSettings settings ⟨routes, Certificate.resolve certificates⟩).answer id
      request).response.status = .internalServerError ∧
    ((ofSettings settings (.ofRoutes routes)).answer id request).response.status = .ok := by
  refine ⟨by decide, rfl, by decide, Or.inl rfl, by decide +kernel, by decide +kernel, by decide⟩

end Server

end Http

end PatternRouter
