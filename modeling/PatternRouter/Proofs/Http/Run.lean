import PatternRouter.Proofs.Http.Dependence
import PatternRouter.Proofs.Router.FirstMatch

/-!
# Runs of a server

A server answers requests one after the other and measures what came of each. An answer depends on
its own request alone; what is measured adds up over the run.

The module introduces:

* `Server.seen server generatedId request` — a request as the router of the server sees it;
* `Served` — the answers of a run, each with what was measured up to it;
* `measuredAfter start served` — what is measured when these answers have been given;
* `stepsOf served` — what was done for them, in order.

`Server.answerAs_cases` says all that can come of a request, with every step that is taken for it. The
other facts on answers follow from it. Runs are taken apart by `Server.run_append` and
`Server.run_take`.
-/

namespace PatternRouter.Http

/-! ## One answer -/

namespace Server

variable {server : Server} {generatedId : HeaderValue} {request : Request}

/-- A request as the router sees it. -/
def seen (server : Server) (generatedId : HeaderValue) (request : Request) : InboundRequest :=
  (request.identified generatedId).inbound server.credentialHeader

theorem path_seen :
    (server.seen generatedId request).path = Request.decodePath request.uri.path :=
  rfl

theorem answer_eq (server : Server) (generatedId : HeaderValue) (request : Request) :
    server.answer generatedId request =
      server.answerAs (request.idOr generatedId) request.method
        (server.seen generatedId request) :=
  answer_eq_answerAs server generatedId request

theorem outcome_answer :
    (server.answer generatedId request).outcome =
      (server.router.dispatch (server.seen generatedId request)).outcome := by
  rw [answer_eq]
  rfl

/-- A request is answered by no handler, is refused for its credential, or is answered by the
handler of the first route that matches its path. -/
theorem answerAs_cases (server : Server) (id : HeaderValue) (method : Method)
    (inbound : InboundRequest) :
    (Unmatched server.router.routes inbound.path ∧
      (server.answerAs id method inbound).outcome = .notFound ∧
      (server.answerAs id method inbound).steps =
        [.log (.noRoute inbound.path), .log (.requestUnmatched (idText id) inbound.path)]) ∨
    (∃ index route params error,
      FirstMatch server.router.routes inbound.path index route params ∧
      server.router.resolver inbound.credential = .error error ∧
      (server.answerAs id method inbound).outcome = .internalError error ∧
      (server.answerAs id method inbound).steps =
        [.log (.routeMatched inbound.path route.pattern.source), .resolve inbound.credential,
          .log (.identityFailed inbound.path route.pattern.source error),
          .log (.requestFailed (idText id) inbound.path error)]) ∨
    (∃ index route params identity,
      FirstMatch server.router.routes inbound.path index route params ∧
      server.router.resolver inbound.credential = .ok identity ∧
      (server.answerAs id method inbound).outcome =
        .handled (route.handler (inbound.context params identity)) ∧
      (server.answerAs id method inbound).steps =
        [.log (.routeMatched inbound.path route.pattern.source), .resolve inbound.credential,
          .call index (inbound.context params identity),
          .log (.requestHandled (idText id) inbound.path
            (route.handler (inbound.context params identity)).status)]) := by
  rcases Router.unmatched_or_firstMatch server.router.routes inbound.path with
    hnone | ⟨index, route, params, hfirst⟩
  · refine Or.inl ⟨hnone, ?_⟩
    rw [answerAs, Router.dispatch_of_unmatched hnone]
    exact ⟨rfl, rfl⟩
  · rcases hresolve : server.router.resolver inbound.credential with error | identity
    · refine Or.inr (Or.inl ⟨index, route, params, error, hfirst, rfl, ?_⟩)
      rw [answerAs, Router.dispatch_of_error hfirst hresolve]
      exact ⟨rfl, rfl⟩
    · refine Or.inr (Or.inr ⟨index, route, params, identity, hfirst, rfl, ?_⟩)
      rw [answerAs, Router.dispatch_of_ok hfirst hresolve]
      exact ⟨rfl, rfl⟩

end Server

/-! ## Runs -/

/-- Answers that were given one after the other, each with what was measured up to it. -/
abbrev Served := List (Answer × Metrics)

/-- What is measured when some answers have been given, if it was `start` before. -/
def measuredAfter (start : Metrics) (served : Served) : Metrics :=
  (served.getLast?.map Prod.snd).getD start

theorem measuredAfter_cons (start metrics : Metrics) (answer : Answer) (served : Served) :
    measuredAfter start ((answer, metrics) :: served) = measuredAfter metrics served := by
  rw [measuredAfter, measuredAfter, List.getLast?_cons]
  cases served.getLast? <;> rfl

theorem measuredAfter_concat (start metrics : Metrics) (answer : Answer) (served : Served) :
    measuredAfter start (served ++ [(answer, metrics)]) = metrics := by
  rw [measuredAfter, List.getLast?_concat]
  rfl

/-- What was done for some answers, in order. -/
def stepsOf (served : Served) : List Step :=
  served.flatMap fun (answer, _) => answer.steps

theorem stepsOf_cons (answer : Answer) (metrics : Metrics) (served : Served) :
    stepsOf ((answer, metrics) :: served) = answer.steps ++ stepsOf served :=
  List.flatMap_cons

theorem stepsOf_concat (served : Served) (answer : Answer) (metrics : Metrics) :
    stepsOf (served ++ [(answer, metrics)]) = stepsOf served ++ answer.steps := by
  rw [stepsOf, stepsOf, List.flatMap_append, List.flatMap_singleton]

namespace Server

variable {server : Server} {metrics : Metrics}

/-- The answers of a run are those to its requests. -/
theorem map_fst_run (server : Server) (metrics : Metrics)
    (requests : List (HeaderValue × Request)) :
    (server.run metrics requests).map Prod.fst =
      requests.map fun (generatedId, request) => server.answer generatedId request := by
  induction requests generalizing metrics with
  | nil => rfl
  | cons head requests ih => rw [run, List.map_cons, List.map_cons, ih]

theorem length_run (server : Server) (metrics : Metrics)
    (requests : List (HeaderValue × Request)) :
    (server.run metrics requests).length = requests.length := by
  rw [← List.length_map Prod.fst, map_fst_run, List.length_map]

/-- A run goes on with what was measured so far. -/
theorem run_append (server : Server) (metrics : Metrics)
    (first second : List (HeaderValue × Request)) :
    server.run metrics (first ++ second) =
      server.run metrics first ++
        server.run (measuredAfter metrics (server.run metrics first)) second := by
  induction first generalizing metrics with
  | nil => rfl
  | cons head first ih =>
    rw [List.cons_append, run, run, ih, measuredAfter_cons, List.cons_append]

/-- What a run does for its first requests is a run of its own. -/
theorem run_take (server : Server) (metrics : Metrics) (requests : List (HeaderValue × Request))
    (n : Nat) : (server.run metrics requests).take n = server.run metrics (requests.take n) := by
  induction requests generalizing metrics n with
  | nil => rw [List.take_nil, run, List.take_nil]
  | cons head requests ih =>
    cases n with
    | zero => rfl
    | succ n => rw [run, List.take_succ_cons, List.take_succ_cons, run, ih]

/-- One more request is answered and measured behind the others. -/
theorem run_concat (server : Server) (metrics : Metrics) (requests : List (HeaderValue × Request))
    (generatedId : HeaderValue) (request : Request) :
    server.run metrics (requests ++ [(generatedId, request)]) =
      server.run metrics requests ++
        [(server.answer generatedId request,
          (measuredAfter metrics (server.run metrics requests)).record
            (server.answer generatedId request).outcome.kind)] := by
  rw [run_append]
  rfl

/-- The next request of a run is answered and measured behind those before it. -/
theorem run_take_succ {requests : List (HeaderValue × Request)} {n : Nat}
    {generatedId : HeaderValue} {request : Request}
    (h : requests[n]? = some (generatedId, request)) :
    server.run metrics (requests.take (n + 1)) =
      server.run metrics (requests.take n) ++
        [(server.answer generatedId request,
          (measuredAfter metrics (server.run metrics (requests.take n))).record
            (server.answer generatedId request).outcome.kind)] := by
  rw [List.take_add_one, h, Option.toList_some, run_concat]

/-- The answer to a request of a run, and what is measured up to it. -/
theorem getElem?_run {requests : List (HeaderValue × Request)} {n : Nat}
    {generatedId : HeaderValue} {request : Request}
    (h : requests[n]? = some (generatedId, request)) :
    (server.run metrics requests)[n]? =
      some (server.answer generatedId request,
        measuredAfter metrics (server.run metrics (requests.take (n + 1)))) := by
  obtain ⟨hn, -⟩ := List.getElem?_eq_some_iff.1 h
  have hlength : (server.run metrics (requests.take n)).length = n := by
    rw [length_run, List.length_take, Nat.min_eq_left (Nat.le_of_lt hn)]
  -- In the run on one request more than `n`, the answer is the last.
  rw [← List.getElem?_take_of_lt (Nat.lt_succ_self n), run_take, run_take_succ h,
    measuredAfter_concat, List.getElem?_append_right (Nat.le_of_eq hlength), hlength, Nat.sub_self]
  rfl

/-- What is measured over a run is a matter of the outcomes. -/
theorem measuredAfter_run (server : Server) (metrics : Metrics)
    (requests : List (HeaderValue × Request)) :
    measuredAfter metrics (server.run metrics requests) =
      requests.foldl (fun metrics (generatedId, request) =>
        metrics.record (server.answer generatedId request).outcome.kind) metrics := by
  induction requests generalizing metrics with
  | nil => rfl
  | cons head requests ih => rw [run, measuredAfter_cons, ih, List.foldl_cons]

end Server

end PatternRouter.Http
