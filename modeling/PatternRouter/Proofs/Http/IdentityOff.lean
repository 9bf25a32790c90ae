import PatternRouter.Proofs.Http.Anonymity

/-!
# Servers that do not identify clients

Clients are not identified if the settings say so, if the resolver knows no identities, or if the
field for credentials has a name that no field can have. These switches stand in different places,
and each does the same as the others: nobody can tell which of them is used.

The module introduces:

* `IdentityOff settings resolver` — the settings and the resolver do not identify clients;
* `Answer.withoutCredentials` — an answer without the credentials that were resolved for it.

Whichever switch is used, an answer is that of a server that reads no credential and knows no
identity (`withoutCredentials_answer`). The main result is `run_agree_of_identityOff`, on whole runs.
-/

namespace PatternRouter

/-- A step without the credential that it resolves. -/
def Step.withoutCredential : Step → Step
  | .resolve _ => .resolve .empty
  | step => step

theorem Step.isCallOf_withoutCredential (index : Nat) (step : Step) :
    step.withoutCredential.isCallOf index = step.isCallOf index := by
  cases step <;> rfl

theorem Step.isResolve_withoutCredential (step : Step) :
    step.withoutCredential.isResolve = step.isResolve := by
  cases step <;> rfl

namespace Http

/-- The ways not to identify clients. -/
inductive IdentityOff : IdentitySettings → Resolver → Prop
  /-- The settings say so. -/
  | disabled (header : String) (certificates : Certificate.Reader) :
    IdentityOff ⟨false, header⟩ (Certificate.resolve certificates)
  /-- The settings say so, and no identity is known. -/
  | disabledAnonymous (header : String) : IdentityOff ⟨false, header⟩ .anonymous
  /-- Credentials are read, but no identity is known. -/
  | anonymous (header : String) : IdentityOff ⟨true, header⟩ .anonymous
  /-- No field can have the name of the one for credentials. -/
  | unnamed {header : String} (h : HeaderName.parse? header = none)
    (certificates : Certificate.Reader) :
    IdentityOff ⟨true, header⟩ (Certificate.resolve certificates)

/-- An answer without the credentials that were resolved for it. -/
def Answer.withoutCredentials (answer : Answer) : Answer :=
  { answer with steps := answer.steps.map Step.withoutCredential }

variable {settings settings' : IdentitySettings} {resolver resolver' : Resolver}
  {routes : List Route}

/-- Whatever a request brings, no identity is found in it. -/
theorem IdentityOff.resolve_eq (h : IdentityOff settings resolver) (router : Router)
    (generatedId : HeaderValue) (request : Request) :
    resolver (Server.seen ⟨router, Server.credentialHeaderOf settings⟩ generatedId
      request).credential = .ok none := by
  cases h with
  | disabled header certificates => rfl
  | disabledAnonymous header => rfl
  | anonymous header => rfl
  | unnamed h certificates =>
    rw [Server.credentialHeaderOf, if_pos rfl, h]
    rfl

namespace Server

/-- The server with these routes that reads no credential and knows no identity. -/
def anonymous (routes : List Route) : Server :=
  ⟨.ofRoutes routes, none⟩

/-! ## One answer -/

theorem withoutCredentials_answerAs {header : Option HeaderName} {inbound : InboundRequest}
    (h : resolver inbound.credential = .ok none) (id : HeaderValue) (method : Method) :
    (answerAs ⟨⟨routes, resolver⟩, header⟩ id method inbound).withoutCredentials =
      (anonymous routes).answerAs id method { inbound with credential := .empty } := by
  rcases Router.unmatched_or_firstMatch routes inbound.path with
    hnone | ⟨index, route, params, hfirst⟩
  · have hdispatch : Router.dispatch ⟨routes, resolver⟩ inbound =
        ⟨.notFound, [.log (.noRoute inbound.path)]⟩ := Router.dispatch_of_unmatched hnone
    have hanonymous : Router.dispatch (.ofRoutes routes) { inbound with credential := .empty } =
        ⟨.notFound, [.log (.noRoute inbound.path)]⟩ := Router.dispatch_of_unmatched hnone
    rw [answerAs, answerAs, anonymous, hdispatch, hanonymous]
    rfl
  · have hdispatch : Router.dispatch ⟨routes, resolver⟩ inbound =
        ⟨.handled (route.handler (inbound.context params none)),
          [.log (.routeMatched inbound.path route.pattern.source), .resolve inbound.credential,
            .call index (inbound.context params none)]⟩ := Router.dispatch_of_ok hfirst h
    have hanonymous : Router.dispatch (.ofRoutes routes) { inbound with credential := .empty } =
        ⟨.handled (route.handler (inbound.context params none)),
          [.log (.routeMatched inbound.path route.pattern.source), .resolve .empty,
            .call index (inbound.context params none)]⟩ := Router.dispatch_of_ok hfirst rfl
    rw [answerAs, answerAs, anonymous, hdispatch, hanonymous]
    rfl

/-- But for the credential, which nobody looks into, a server that does not identify clients answers
as one that cannot. -/
theorem withoutCredentials_answer {settings : Settings}
    (h : IdentityOff settings.identity resolver) (generatedId : HeaderValue) (request : Request) :
    ((ofSettings settings ⟨routes, resolver⟩).answer generatedId request).withoutCredentials =
      (anonymous routes).answer generatedId request := by
  rw [answer_eq, answer_eq, ofSettings]
  exact withoutCredentials_answerAs (h.resolve_eq _ _ _) _ _

theorem isAnonymous_answer {settings : Settings} (h : IdentityOff settings.identity resolver)
    (generatedId : HeaderValue) (request : Request) :
    ((ofSettings settings ⟨routes, resolver⟩).answer generatedId request).IsAnonymous := by
  rw [answer_eq]
  exact isAnonymous_answerAs (h.resolve_eq _ _ _)

/-- Servers that do not identify clients answer a request alike, but for identifiers that they make
up and for the credential. -/
theorem answer_agree_of_identityOff {settings settings' : Settings}
    (h : IdentityOff settings.identity resolver) (h' : IdentityOff settings'.identity resolver')
    (id id' : HeaderValue) (request : Request) :
    AgreeUpToId (request.idOr id) (request.idOr id')
      ((ofSettings settings ⟨routes, resolver⟩).answer id request).withoutCredentials
      ((ofSettings settings' ⟨routes, resolver'⟩).answer id' request).withoutCredentials := by
  rw [withoutCredentials_answer h, withoutCredentials_answer h', answer_eq, answer_eq]
  -- Without a field for credentials the router sees the same, whatever identifier is made up.
  exact answerAs_agree _ _ _ _ _

end Server

/-! ## Runs -/

/-- Answers that agree but for an identifier and for credentials take the same steps of a kind that
neither credentials nor events matter for. -/
theorem AgreeUpToId.countP_eq {id id' : HeaderValue} {answer answer' : Answer}
    (h : AgreeUpToId id id' answer.withoutCredentials answer'.withoutCredentials)
    {p : Step → Bool} (hcredential : ∀ step : Step, p step.withoutCredential = p step)
    (hlog : ∀ event, p (.log event) = false) :
    answer.steps.countP p = answer'.steps.countP p := by
  have hmap : ∀ answer : Answer, answer.withoutCredentials.steps.countP p = answer.steps.countP p := by
    intro answer
    rw [Answer.withoutCredentials, List.countP_map]
    exact List.countP_congr fun step _ => by rw [Function.comp_apply, hcredential]
  obtain ⟨steps, path, hsteps, hsteps'⟩ := h.steps
  -- Only the last steps differ, and those are events.
  rw [← hmap answer, ← hmap answer', hsteps, hsteps', List.countP_append, List.countP_append,
    List.countP_singleton, List.countP_singleton, hlog, hlog]

/-- Requests to two servers: before each request stand the identifiers that the servers make up for
it. -/
abbrev PairedRequests := List (HeaderValue × HeaderValue × Request)

/-- The requests to the first of two servers. -/
def PairedRequests.left (requests : PairedRequests) : List (HeaderValue × Request) :=
  requests.map fun (id, _, request) => (id, request)

/-- The requests to the second of two servers. -/
def PairedRequests.right (requests : PairedRequests) : List (HeaderValue × Request) :=
  requests.map fun (_, id, request) => (id, request)

namespace PairedRequests

variable {requests : PairedRequests} {n : Nat} {id id' : HeaderValue} {request : Request}

theorem take_left (requests : PairedRequests) (n : Nat) :
    requests.left.take n = left (requests.take n) :=
  List.map_take.symm

theorem take_right (requests : PairedRequests) (n : Nat) :
    requests.right.take n = right (requests.take n) :=
  List.map_take.symm

theorem getElem?_left (h : requests[n]? = some (id, id', request)) :
    requests.left[n]? = some (id, request) := by
  rw [left, List.getElem?_map, h, Option.map_some]

theorem getElem?_right (h : requests[n]? = some (id, id', request)) :
    requests.right[n]? = some (id', request) := by
  rw [right, List.getElem?_map, h, Option.map_some]

end PairedRequests

namespace Server

/-- Servers that give the same outcomes measure the same. -/
theorem measuredAfter_run_congr {server server' : Server} {requests : PairedRequests}
    (h : ∀ id id' request, (server.answer id request).outcome = (server'.answer id' request).outcome)
    (metrics : Metrics) :
    measuredAfter metrics (server.run metrics requests.left) =
      measuredAfter metrics (server'.run metrics requests.right) := by
  rw [measuredAfter_run, measuredAfter_run, PairedRequests.left, PairedRequests.right,
    List.foldl_map, List.foldl_map]
  congr 1
  funext metrics ⟨id, id', request⟩
  exact congrArg (fun outcome => metrics.record outcome.kind) (h id id' request)

/-- Servers that take the same steps of a kind for each request take the same over a run. -/
theorem countP_stepsOf_run_congr {server server' : Server} {p : Step → Bool}
    (h : ∀ id id' request,
      (server.answer id request).steps.countP p = (server'.answer id' request).steps.countP p)
    (metrics metrics' : Metrics) (requests : PairedRequests) :
    (stepsOf (server.run metrics requests.left)).countP p =
      (stepsOf (server'.run metrics' requests.right)).countP p := by
  -- What is measured so far has no part in the steps, so it may be any on both sides.
  induction requests generalizing metrics metrics' with
  | nil => rfl
  | cons head requests ih =>
    obtain ⟨id, id', request⟩ := head
    rw [PairedRequests.left, PairedRequests.right, List.map_cons, List.map_cons, run, run,
      stepsOf_cons, stepsOf_cons, List.countP_append, List.countP_append, h id id' request]
    exact congrArg _ (ih _ _)

/-- Servers with the same routes that do not identify clients, in whatever ways, cannot be told
apart: on every run they give the same answers with the same handler calls, events and metrics, up
to identifiers that they make up, and have called their handlers and their resolvers equally often.
None refuses a request or tells a handler an identity. -/
theorem run_agree_of_identityOff {settings settings' : Settings} {resolver resolver' : Resolver}
    (h : IdentityOff settings.identity resolver) (h' : IdentityOff settings'.identity resolver')
    (routes : List Route) (requests : PairedRequests) :
    let served := (ofSettings settings ⟨routes, resolver⟩).run {} requests.left
    let served' := (ofSettings settings' ⟨routes, resolver'⟩).run {} requests.right
    served.length = requests.length ∧ served'.length = requests.length ∧
    (∀ (n : Nat) (id id' : HeaderValue) (request : Request),
      requests[n]? = some (id, id', request) →
      ∃ (answer answer' : Answer) (metrics : Metrics),
        served[n]? = some (answer, metrics) ∧ served'[n]? = some (answer', metrics) ∧
        AgreeUpToId (request.idOr id) (request.idOr id')
          answer.withoutCredentials answer'.withoutCredentials ∧
        answer.IsAnonymous ∧ answer'.IsAnonymous) ∧
    (∀ n, resolveCount (stepsOf (served.take n)) = resolveCount (stepsOf (served'.take n)) ∧
      ∀ index, callCount index (stepsOf (served.take n)) =
        callCount index (stepsOf (served'.take n))) := by
  intro served served'
  have hagree := @answer_agree_of_identityOff resolver resolver' routes settings settings' h h'
  refine ⟨?_, ?_, ?_, fun n => ?_⟩
  · rw [length_run, PairedRequests.left, List.length_map]
  · rw [length_run, PairedRequests.right, List.length_map]
  · intro n id id' request hrequest
    refine ⟨_, _, _, getElem?_run (PairedRequests.getElem?_left hrequest), ?_,
      hagree id id' request, isAnonymous_answer h _ _, isAnonymous_answer h' _ _⟩
    -- What is measured up to the request is the same, since all outcomes are.
    rw [getElem?_run (PairedRequests.getElem?_right hrequest), PairedRequests.take_left,
      PairedRequests.take_right,
      measuredAfter_run_congr fun id id' request => (hagree id id' request).outcome]
  · rw [run_take, run_take, PairedRequests.take_left, PairedRequests.take_right]
    refine ⟨?_, fun index => ?_⟩
    · refine countP_stepsOf_run_congr (fun id id' request => ?_) _ _ _
      exact (hagree id id' request).countP_eq Step.isResolve_withoutCredential fun _ => rfl
    · refine countP_stepsOf_run_congr (fun id id' request => ?_) _ _ _
      exact (hagree id id' request).countP_eq (Step.isCallOf_withoutCredential index) fun _ => rfl

/-- A server whose field for credentials has no name of a field, and one that takes identifiers for
credentials but knows no identity, on a request with a broken certificate. -/
theorem run_agree_of_identityOff_broken_certificate :
    let request : Request := ⟨.get, ⟨none, none, "/a", none⟩,
      [(⟨"x-client-cert"⟩, .ofText "-----BEGIN "), (.requestId, .ofText "-----BEGIN ")], []⟩
    let routes : List Route := [⟨⟨"/:x", [.named "x"]⟩, fun _ => .ofStatus .ok⟩]
    let certificates : Certificate.Reader := .x509 ⟨fun _ => "no certificate", fun _ => "no text"⟩
    let unnamed := ofSettings { identity := { header := "x client cert" } }
      ⟨routes, Certificate.resolve certificates⟩
    let anonymous := ofSettings { identity := { header := "x-request-id" } } ⟨routes, .anonymous⟩
    resolveCount (stepsOf (unnamed.run {} [(.ofText "1", request)])) =
      resolveCount (stepsOf (anonymous.run {} [(.ofText "2", request)])) ∧
    ∃ answer metrics, (unnamed.run {} [(.ofText "1", request)])[0]? = some (answer, metrics) ∧
      answer.IsAnonymous := by
  intro request routes certificates unnamed anonymous
  obtain ⟨-, -, hanswers, hcounts⟩ := @run_agree_of_identityOff
    { identity := { header := "x client cert" } } { identity := { header := "x-request-id" } } _ _
    (IdentityOff.unnamed (by decide) certificates) (IdentityOff.anonymous _) routes
    [(.ofText "1", .ofText "2", request)]
  obtain ⟨answer, answer', metrics, hanswer, -, -, hanonymous, -⟩ :=
    hanswers 0 _ _ request rfl
  exact ⟨(hcounts 1).1, answer, metrics, hanswer, hanonymous⟩

end Server

end Http

end PatternRouter
