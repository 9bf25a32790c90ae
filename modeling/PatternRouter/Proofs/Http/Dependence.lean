import PatternRouter.Http.Server

/-!
# What an answer depends on

Two requests may differ in scheme and authority, in the spelling of the path, in header fields that
nothing reads, in repeated fields and in the body, and are answered alike. What does matter is named
by `Request.Alike`.

The module introduces:

* `Request.idOr request generatedId` — the identifier under which a request is answered;
* `Request.Alike settings request request'` — the requests agree in all that is read of them;
* `AgreeUpToId id id' answer answer'` — the answers are the same but for the identifier that the
  server adds to the header and the last event tells.

The main result is `answer_agree_of_alike`, with what is told of a failure: nothing.
-/

namespace PatternRouter.Http

/-- The identifier of a request: its own, or the one that is generated for it. -/
def Request.idOr (request : Request) (generatedId : HeaderValue) : HeaderValue :=
  (request.headers.get? .requestId).getD generatedId

/-- An identifier as it is logged. -/
def idText (id : HeaderValue) : String :=
  id.text?.getD "unknown"

/-- A method that changes nothing about how an answer is framed. -/
def Method.IsPlain (method : Method) : Prop :=
  method ≠ .head ∧ method ≠ .connect

instance : DecidablePred Method.IsPlain := fun _ => inferInstanceAs (Decidable (_ ∧ _))

/-- Two requests agree in all that is read of them: the decoded path, the query, the first
identifier, the decoded credential in the field that the settings name, if they name one, and the
method, as far as it matters. -/
structure Request.Alike (settings : IdentitySettings) (request request' : Request) : Prop where
  path : decodePath request.uri.path = decodePath request'.uri.path
  query : request.uri.query.getD "" = request'.uri.query.getD ""
  requestId : request.headers.get? .requestId = request'.headers.get? .requestId
  /-- Nothing is asked of credentials that are not read. -/
  credential : settings.enabled = true → ∀ name, HeaderName.parse? settings.header = some name →
    request.credential (some name) = request'.credential (some name)
  /-- Generated identifiers are not credentials of both. -/
  carried : settings.enabled = true → HeaderName.parse? settings.header = some .requestId →
    request.headers.has .requestId = true ∧ request'.headers.has .requestId = true
  method : request.method = request'.method ∨ request.method.IsPlain ∧ request'.method.IsPlain

/-- Two answers are the same but for an identifier that is added to the header, unless the handler
set one itself, and that the last event tells. -/
structure AgreeUpToId (id id' : HeaderValue) (answer answer' : Answer) : Prop where
  status : answer.response.status = answer'.response.status
  body : answer.response.body = answer'.response.body
  headers : ∃ headers : Headers, answer.response.headers = headers.addNew .requestId id ∧
    answer'.response.headers = headers.addNew .requestId id'
  outcome : answer.outcome = answer'.outcome
  /-- Calls with their contexts, credentials and the other events are the same. -/
  steps : ∃ steps path,
    answer.steps = steps ++ [.log (Server.outcomeEvent (idText id) path answer.outcome)] ∧
    answer'.steps = steps ++ [.log (Server.outcomeEvent (idText id') path answer.outcome)]

/-- Answers that agree up to one identifier are the same. -/
theorem AgreeUpToId.eq {id : HeaderValue} {answer answer' : Answer}
    (h : AgreeUpToId id id answer answer') : answer = answer' := by
  obtain ⟨_, hheaders, hheaders'⟩ := h.headers
  obtain ⟨_, _, hsteps, hsteps'⟩ := h.steps
  obtain ⟨⟨status, headers, body⟩, outcome, steps⟩ := answer
  obtain ⟨⟨status', headers', body'⟩, outcome', steps'⟩ := answer'
  rw [Answer.mk.injEq, Response.mk.injEq]
  exact ⟨⟨h.status, hheaders.trans hheaders'.symm, h.body⟩, h.outcome, hsteps.trans hsteps'.symm⟩

/-! ## The request -/

namespace Request

variable {settings : IdentitySettings} {request request' : Request}
  {generatedId generatedId' : HeaderValue}

/-- A request that is given an identifier if it has none. -/
def identified (request : Request) (generatedId : HeaderValue) : Request :=
  { request with headers := request.headers.addNew .requestId generatedId }

theorem get?_identified_requestId :
    (request.identified generatedId).headers.get? .requestId = some (request.idOr generatedId) :=
  Headers.get?_addNew_self request.headers .requestId generatedId

theorem logId_identified :
    (request.identified generatedId).logId = idText (request.idOr generatedId) := by
  rw [logId, get?_identified_requestId]
  rfl

/-- The credential is read as it was sent if the identifier is no credential or was sent, too. -/
theorem credential_identified {name : HeaderName}
    (hcarried : name = .requestId → request.headers.has .requestId = true) :
    (request.identified generatedId).credential (some name) = request.credential (some name) := by
  have hget : (request.identified generatedId).headers.get? name = request.headers.get? name := by
    by_cases hname : name = .requestId
    · rw [identified, Headers.addNew, if_pos (hcarried hname)]
    · exact Headers.get?_addNew_of_ne request.headers generatedId hname
  rw [credential, credential, Option.bind_some, Option.bind_some, hget]

/-- Identifiers of alike requests differ only if both are generated. -/
theorem Alike.idOr_eq (h : request.Alike settings request')
    (hsent : request.headers.has .requestId = true) :
    request.idOr generatedId = request'.idOr generatedId' := by
  obtain ⟨id, hid⟩ := Option.isSome_iff_exists.1 hsent
  have hid' : request'.headers.get? .requestId = some id := h.requestId.symm.trans hid
  rw [idOr, idOr, hid, hid']
  rfl

end Request

theorem credentialHeaderOf_eq_some_iff {settings : IdentitySettings} {name : HeaderName} :
    Server.credentialHeaderOf settings = some name ↔
      settings.enabled = true ∧ HeaderName.parse? settings.header = some name := by
  rw [Server.credentialHeaderOf]
  split
  · next h => simp [h]
  · next h => simp [h]

/-- Alike requests are the same to the router. -/
theorem Request.Alike.inbound_eq {settings : IdentitySettings} {request request' : Request}
    (h : request.Alike settings request') (generatedId generatedId' : HeaderValue) :
    (request.identified generatedId).inbound (Server.credentialHeaderOf settings) =
      (request'.identified generatedId').inbound (Server.credentialHeaderOf settings) := by
  have hcredential :
      (request.identified generatedId).credential (Server.credentialHeaderOf settings) =
        (request'.identified generatedId').credential (Server.credentialHeaderOf settings) := by
    cases hname : Server.credentialHeaderOf settings with
    | none =>
      -- Nobody is asked for a credential, and both have none.
      rfl
    | some name =>
      obtain ⟨henabled, hparse⟩ := credentialHeaderOf_eq_some_iff.1 hname
      have hcarried : name = .requestId → _ := fun heq => h.carried henabled (heq ▸ hparse)
      rw [credential_identified fun heq => (hcarried heq).1,
        credential_identified fun heq => (hcarried heq).2]
      exact h.credential henabled name hparse
  rw [inbound, inbound, hcredential]
  simp only [identified, h.path, h.query]

/-! ## The answer -/

namespace Server

variable {server : Server}

/-- The answer to a request of which the identifier, the method and what the router sees are
known. -/
def answerAs (server : Server) (id : HeaderValue) (method : Method) (inbound : InboundRequest) :
    Answer :=
  let dispatch := server.router.dispatch inbound
  let response := frame method (respond dispatch.outcome)
  { response := { response with headers := response.headers.addNew .requestId id }
    outcome := dispatch.outcome
    steps := dispatch.steps ++
      [.log (outcomeEvent (idText id) inbound.path dispatch.outcome)] }

/-- Nothing else of a request has a part in its answer. -/
theorem answer_eq_answerAs (server : Server) (generatedId : HeaderValue) (request : Request) :
    server.answer generatedId request =
      server.answerAs (request.idOr generatedId) request.method
        ((request.identified generatedId).inbound server.credentialHeader) := by
  -- The server looks the identifier up after it has been added.
  have hid : ((request.identified generatedId).headers.get? .requestId).getD generatedId =
      request.idOr generatedId := by
    rw [Request.get?_identified_requestId, Option.getD_some]
  rw [answerAs, ← Request.logId_identified, ← hid]
  rfl

/-- The identifier is added to the header and told by the last event. -/
theorem answerAs_agree (server : Server) (id id' : HeaderValue) (method : Method)
    (inbound : InboundRequest) :
    AgreeUpToId id id' (server.answerAs id method inbound)
      (server.answerAs id' method inbound) where
  status := rfl
  body := rfl
  headers := ⟨_, rfl, rfl⟩
  outcome := rfl
  steps := ⟨_, _, rfl, rfl⟩

/-- The size of a body is no identifier. -/
theorem get?_requestId_withSize (headers : Headers) (size : SizeHint) :
    (withSize headers size).get? .requestId = headers.get? .requestId := by
  rw [withSize]
  cases size.known? with
  | none => rfl
  | some size => exact Headers.get?_addNew_of_ne headers _ (by decide)

theorem frame_of_isPlain {method : Method} (h : method.IsPlain) (response : Response) :
    frame method response =
      { response with headers := withSize response.headers response.body.size } := by
  rw [frame, if_neg (fun hconnect => h.2 hconnect.1), if_neg h.1]

theorem frame_congr {method method' : Method}
    (h : method = method' ∨ method.IsPlain ∧ method'.IsPlain) (response : Response) :
    frame method response = frame method' response := by
  rcases h with rfl | ⟨h, h'⟩
  · rfl
  · rw [frame_of_isPlain h, frame_of_isPlain h']

theorem answerAs_congr_method {method method' : Method}
    (h : method = method' ∨ method.IsPlain ∧ method'.IsPlain) (server : Server) (id : HeaderValue)
    (inbound : InboundRequest) :
    server.answerAs id method inbound = server.answerAs id method' inbound := by
  rw [answerAs, answerAs, frame_congr h]

/-- A failure is answered with a status, a text and headers that tell nothing of it. -/
theorem answerAs_of_internalError {id : HeaderValue} {method : Method} {inbound : InboundRequest}
    {error : IdentityError}
    (h : (server.answerAs id method inbound).outcome = .internalError error) :
    (server.answerAs id method inbound).response.status = .internalServerError ∧
    (method ≠ .head →
      (server.answerAs id method inbound).response.body = .ofText internalErrorText ∧
      (server.answerAs id method inbound).response.headers =
        [(.contentType, .ofText "text/plain; charset=utf-8"), (.contentLength, .ofText "21"),
          (.requestId, id)]) := by
  have houtcome : (server.router.dispatch inbound).outcome = .internalError error := h
  have hframe : frame method (.plain .internalServerError internalErrorText) =
      { status := .internalServerError
        headers := [(.contentType, .ofText "text/plain; charset=utf-8"),
          (.contentLength, .ofText "21")]
        body := if method = .head then .empty else .ofText internalErrorText } := by
    -- A tunnel is answered without a body only if it succeeds.
    have hfailed :
        (Response.plain .internalServerError internalErrorText).status.isSuccess ≠ true := by
      decide
    have hsize : withSize (Response.plain .internalServerError internalErrorText).headers
        (Body.ofText internalErrorText).size =
          [(.contentType, .ofText "text/plain; charset=utf-8"),
            (.contentLength, .ofText "21")] := by decide
    rw [frame, if_neg (fun htunnel => hfailed htunnel.2), ← hsize]
    rfl
  simp only [answerAs, houtcome, respond, hframe]
  refine ⟨trivial, fun hhead => ⟨if_neg hhead, ?_⟩⟩
  rfl

/-- With given settings and routes, the answers to alike requests are the same but for identifiers
that are generated, and the same without exception if the requests bring theirs. Whatever server
failed on whatever request, its answer has one status and, unless only the header is asked for, one
text and one header but for the identifier. -/
theorem answer_agree_of_alike :
    (∀ (settings : Settings) (router : Router) (request request' : Request)
      (generatedId generatedId' : HeaderValue), request.Alike settings.identity request' →
      AgreeUpToId (request.idOr generatedId) (request'.idOr generatedId')
        ((ofSettings settings router).answer generatedId request)
        ((ofSettings settings router).answer generatedId' request') ∧
      (request.headers.has .requestId = true →
        (ofSettings settings router).answer generatedId request =
          (ofSettings settings router).answer generatedId' request')) ∧
    (∀ (server : Server) (request : Request) (generatedId : HeaderValue) (error : IdentityError),
      (server.answer generatedId request).outcome = .internalError error →
      (server.answer generatedId request).response.status = .internalServerError ∧
      (request.method ≠ .head →
        (server.answer generatedId request).response.body = .ofText internalErrorText ∧
        (server.answer generatedId request).response.headers =
          [(.contentType, .ofText "text/plain; charset=utf-8"), (.contentLength, .ofText "21"),
            (.requestId, request.idOr generatedId)])) := by
  constructor
  · intro settings router request request' generatedId generatedId' halike
    have hinbound := halike.inbound_eq generatedId generatedId'
    have hagree : AgreeUpToId (request.idOr generatedId) (request'.idOr generatedId')
        ((ofSettings settings router).answer generatedId request)
        ((ofSettings settings router).answer generatedId' request') := by
      rw [answer_eq_answerAs, answer_eq_answerAs, ofSettings, hinbound,
        answerAs_congr_method halike.method]
      exact answerAs_agree _ _ _ _ _
    refine ⟨hagree, fun hsent => ?_⟩
    rw [halike.idOr_eq hsent] at hagree
    exact hagree.eq
  · intro server request generatedId error h
    rw [answer_eq_answerAs] at h ⊢
    exact answerAs_of_internalError h

/-- Two spellings of a path and of a credential, with other fields, bodies and methods, behind a
resolver that fails. -/
theorem answer_agree_of_alike_spellings :
    let certificate : HeaderName := ⟨"x-client-cert"⟩
    let request : Request := ⟨.get, ⟨some "https", some "a:1", "/a%62", some "q"⟩,
      [(certificate, .ofText "%41"), (.contentType, .ofText "b")], [1]⟩
    let request' : Request := ⟨⟨"PUT"⟩, ⟨none, none, "/%61b", some "q"⟩,
      [(certificate, .ofText "A"), (certificate, .ofText "B")], []⟩
    let server := ofSettings {} ⟨[⟨⟨"/:x", [.named "x"]⟩, fun _ => .ofStatus .ok⟩],
      fun _ => .error .noCertificate⟩
    AgreeUpToId (.ofText "1") (.ofText "2")
      (server.answer (.ofText "1") request) (server.answer (.ofText "2") request') ∧
    (server.answer (.ofText "1") request).response.body = .ofText internalErrorText := by
  intro certificate request request' server
  have halike : request.Alike ({} : Settings).identity request' := by
    refine ⟨by decide, rfl, rfl, ?_, ?_, Or.inr ⟨by decide, by decide⟩⟩
    · intro _ name hname
      obtain rfl : certificate = name := Option.some.inj hname
      decide
    · intro _ hname
      exact absurd hname (by decide)
  refine ⟨(answer_agree_of_alike.1 {} _ request request' _ _ halike).1, ?_⟩
  exact ((answer_agree_of_alike.2 server request _ .noCertificate (by decide)).2 (by decide)).1

end Server

end PatternRouter.Http
