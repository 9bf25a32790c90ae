import Mathlib.Algebra.BigOperators.Group.Finset.Piecewise
import PatternRouter.Proofs.Http.Run

/-!
# Requests accounted for

Four things are counted about requests: their outcomes, the durations that were taken, the calls of
handlers and the credentials that were resolved. Each is counted where it happens, and the counts
agree after every request of a run.

The module introduces:

* `Balanced routes served` — the counts agree when some answers have been given;
* `Accounted server generatedId request before after answer` — what one more request changes about
  the counts, and what becomes of the response of a handler;
* `PassedThrough method id response sent` — a response is sent as the handler gave it, but for the
  fields that every answer has and for the body where the method allows none.

What one request does to the counts is `Balanced.concat`, and with it they agree over every run
(`balanced_run`). The main result is `run_accounts`.
-/

namespace PatternRouter.Http

namespace OutcomeCounts

/-- How many dispatches there were. -/
def total (counts : OutcomeCounts) : Nat :=
  counts.handled + counts.notFound + counts.internalError

theorem get_add (counts : OutcomeCounts) (kind kind' : OutcomeKind) :
    (counts.add kind).get kind' = counts.get kind' + if kind = kind' then 1 else 0 := by
  cases kind <;> cases kind' <;> rfl

theorem handled_add (counts : OutcomeCounts) (kind : OutcomeKind) :
    (counts.add kind).handled = counts.handled + if kind = .handled then 1 else 0 :=
  counts.get_add kind .handled

theorem total_add (counts : OutcomeCounts) (kind : OutcomeKind) :
    (counts.add kind).total = counts.total + 1 := by
  cases kind <;> simp only [add, total] <;> omega

end OutcomeCounts

/-! ## The response of a handler -/

/-- A response to a request of some method opens a tunnel. -/
def Response.OpensTunnel (response : Response) (method : Method) : Prop :=
  method = .connect ∧ response.status.isSuccess = true

instance (response : Response) (method : Method) : Decidable (response.OpensTunnel method) :=
  inferInstanceAs (Decidable (_ ∧ _))

/-- A response states that bytes follow its header. -/
def Response.AnnouncesBody (response : Response) : Prop :=
  response.headers.has .contentLength = true ∨ response.headers.has .transferEncoding = true ∨
    0 < response.body.size.lower

instance (response : Response) : Decidable response.AnnouncesBody :=
  inferInstanceAs (Decidable (_ ∨ _ ∨ _))

theorem Server.announcesBody_iff {response : Response} :
    announcesBody response = true ↔ response.AnnouncesBody := by
  simp [announcesBody, Response.AnnouncesBody, Nat.pos_iff_ne_zero, or_assoc]

/-- The field for the size of the body of a response, if the size is known. -/
def sizeField (response : Response) : Headers :=
  match response.body.size.known? with
  | some size => [(.contentLength, .ofText (toString size))]
  | none => []

/-- The fields that are added to a response: the size of its body if it is known, unless a tunnel is
opened, and the identifier of the request. Neither is added to one that has it. -/
def addedFields (method : Method) (id : HeaderValue) (response : Response) : Headers :=
  (if response.OpensTunnel method ∨ response.headers.has .contentLength = true then []
    else sizeField response) ++
  (if response.headers.has .requestId = true then [] else [(.requestId, id)])

/-- A response is sent as it is, but for the added fields and for a body that the method does not
allow: none is sent to a request for the header alone, and none through a tunnel if one is
announced. -/
structure PassedThrough (method : Method) (id : HeaderValue) (response sent : Response) : Prop where
  status : sent.status = response.status
  headers : sent.headers = response.headers ++ addedFields method id response
  body : sent.body =
    if method = .head ∨ (response.OpensTunnel method ∧ response.AnnouncesBody) then .empty
    else response.body

theorem Server.withSize_eq (response : Response) :
    withSize response.headers response.body.size =
      response.headers ++
        if response.headers.has .contentLength = true then [] else sizeField response := by
  rw [withSize, sizeField]
  cases response.body.size.known? with
  | none => rw [ite_self, List.append_nil]
  | some size => exact Headers.addNew_eq _ _ _

theorem passedThrough_frame (method : Method) (id : HeaderValue) (response : Response) :
    PassedThrough method id response
      { Server.frame method response with
        headers := (Server.frame method response).headers.addNew .requestId id } := by
  by_cases htunnel : response.OpensTunnel method
  · have hframe : Server.frame method response =
        { response with
          body := if Server.announcesBody response then .empty else response.body } :=
      if_pos htunnel
    -- A request to open a tunnel is none for the header alone.
    have hhead : method ≠ .head := by
      rw [htunnel.1]
      decide
    rw [hframe]
    refine ⟨rfl, ?_, ?_⟩
    · rw [Headers.addNew_eq, addedFields, if_pos (Or.inl htunnel), List.nil_append]
    · simp only [Server.announcesBody_iff, hhead, htunnel, false_or, true_and]
  · have hframe : Server.frame method response =
        { response with
          headers := Server.withSize response.headers response.body.size
          body := if method = .head then .empty else response.body } := if_neg htunnel
    rw [hframe]
    refine ⟨rfl, ?_, ?_⟩
    · show (Server.withSize response.headers response.body.size).addNew .requestId id = _
      -- The size does not keep the identifier out.
      rw [Headers.addNew_eq, Headers.has, Server.get?_requestId_withSize, ← Headers.has,
        Server.withSize_eq, List.append_assoc, addedFields]
      simp only [htunnel, false_or]
    · simp only [htunnel, false_and, or_false]

/-- A body of which only the beginning is known gets no size. -/
example : Server.frame .get ⟨.ok, [], ⟨[0xFF, 0x00], ⟨1, none⟩⟩⟩ =
    ⟨.ok, [], ⟨[0xFF, 0x00], ⟨1, none⟩⟩⟩ := by
  decide

/-! ## One answer -/

namespace Server

variable (server : Server) (generatedId : HeaderValue) (request : Request)

/-- An answer calls the handler of the first route that matches, once, if it is handled. -/
theorem callCount_answer (index : Nat) :
    callCount index (server.answer generatedId request).steps =
      if (server.answer generatedId request).outcome.kind = .handled ∧
        firstIndex? server.router.routes (Request.decodePath request.uri.path) = some index
      then 1 else 0 := by
  rw [answer_eq, ← @path_seen server generatedId]
  rcases server.answerAs_cases (request.idOr generatedId) request.method
    (server.seen generatedId request) with
    ⟨-, houtcome, hsteps⟩ | ⟨_, _, _, _, -, -, houtcome, hsteps⟩ |
      ⟨first, _, _, _, hfirst, -, houtcome, hsteps⟩
  · rw [houtcome, hsteps]
    rfl
  · rw [houtcome, hsteps]
    rfl
  · rw [houtcome, hsteps, hfirst.firstIndex?_eq_some]
    by_cases hindex : first = index
    · simp [callCount, Step.isCallOf, Step.call?, Outcome.kind, hindex]
    · simp [callCount, Step.isCallOf, Step.call?, Outcome.kind, hindex]

/-- The response to a handled request is that of the handler of the first route that matches. -/
theorem exists_firstMatch_of_handled {response : Response}
    (h : (server.answer generatedId request).outcome = .handled response) :
    ∃ index route params context,
      FirstMatch server.router.routes (Request.decodePath request.uri.path) index route params ∧
      .call index context ∈ (server.answer generatedId request).steps ∧
      response = route.handler context := by
  rw [answer_eq] at h ⊢
  rcases server.answerAs_cases (request.idOr generatedId) request.method
    (server.seen generatedId request) with
    ⟨-, houtcome, -⟩ | ⟨_, _, _, _, -, -, houtcome, -⟩ |
      ⟨index, route, params, identity, hfirst, -, houtcome, hsteps⟩
  · exact nomatch houtcome.symm.trans h
  · exact nomatch houtcome.symm.trans h
  · refine ⟨index, route, params, _, hfirst, ?_, Outcome.handled.inj (h.symm.trans houtcome)⟩
    rw [hsteps]
    simp

/-- A handled answer calls one of the handlers. -/
theorem sum_callCount_answer :
    ∑ index ∈ Finset.range server.router.routes.length,
        callCount index (server.answer generatedId request).steps =
      if (server.answer generatedId request).outcome.kind = .handled then 1 else 0 := by
  simp only [callCount_answer]
  rcases houtcome : (server.answer generatedId request).outcome with response | _ | error
  · -- The only summand that counts is that of the first match, which is in the table.
    obtain ⟨first, _, _, _, hfirst, -, -⟩ :=
      server.exists_firstMatch_of_handled generatedId request houtcome
    have hlt : first < server.router.routes.length :=
      (List.getElem?_eq_some_iff.1 hfirst.getElem?).1
    simp [Outcome.kind, hfirst.firstIndex?_eq_some, hlt]
  · simp [Outcome.kind]
  · simp [Outcome.kind]

/-- An answer resolves a credential, once, if some route matches. -/
theorem resolveCount_answer :
    resolveCount (server.answer generatedId request).steps =
      if (server.answer generatedId request).outcome.kind = .notFound then 0 else 1 := by
  rw [answer_eq]
  rcases server.answerAs_cases (request.idOr generatedId) request.method
    (server.seen generatedId request) with
    ⟨-, houtcome, hsteps⟩ | ⟨_, _, _, _, -, -, houtcome, hsteps⟩ |
      ⟨_, _, _, _, -, -, houtcome, hsteps⟩ <;>
  · rw [houtcome, hsteps]
    rfl

theorem passedThrough_of_handled {response : Response}
    (h : (server.answer generatedId request).outcome = .handled response) :
    PassedThrough request.method (request.idOr generatedId) response
      (server.answer generatedId request).response := by
  rw [answer_eq] at h ⊢
  have hdispatch : (server.router.dispatch (server.seen generatedId request)).outcome =
      .handled response := h
  rw [answerAs, hdispatch]
  exact passedThrough_frame request.method (request.idOr generatedId) response

end Server

/-! ## Runs -/

/-- What is counted about some answers agrees: every request has one outcome, every outcome a
duration, every handled request a call of a handler, and every request that some route matches a
credential that was resolved. -/
structure Balanced (routes : List Route) (served : Served) : Prop where
  total : (measuredAfter {} served).dispatches.total = served.length
  durations : ∀ kind, (measuredAfter {} served).durations.get kind =
    (measuredAfter {} served).dispatches.get kind
  handled : (measuredAfter {} served).dispatches.handled =
    ∑ index ∈ Finset.range routes.length, callCount index (stepsOf served)
  resolved : resolveCount (stepsOf served) = (measuredAfter {} served).dispatches.handled +
    (measuredAfter {} served).dispatches.internalError

theorem balanced_nil (routes : List Route) : Balanced routes [] where
  total := rfl
  durations _ := rfl
  handled := (Finset.sum_const_zero).symm
  resolved := rfl

/-- One more answer keeps the balance. -/
theorem Balanced.concat {server : Server} {served : Served}
    (h : Balanced server.router.routes served) (generatedId : HeaderValue) (request : Request) :
    Balanced server.router.routes
      (served ++ [(server.answer generatedId request,
        (measuredAfter {} served).record (server.answer generatedId request).outcome.kind)]) := by
  have hcalls := server.sum_callCount_answer generatedId request
  have hresolve := server.resolveCount_answer generatedId request
  refine ⟨?_, fun kind => ?_, ?_, ?_⟩
  · rw [measuredAfter_concat, Metrics.record, OutcomeCounts.total_add, h.total, List.length_append]
    rfl
  · rw [measuredAfter_concat, Metrics.record, OutcomeCounts.get_add, OutcomeCounts.get_add,
      h.durations kind]
  · -- All handlers together are called once more if the request is handled.
    simp only [stepsOf_concat, callCount_append, Finset.sum_add_distrib, hcalls]
    rw [measuredAfter_concat, Metrics.record, OutcomeCounts.handled_add, h.handled]
  · -- Only a request that no route matches has no credential resolved.
    rw [stepsOf_concat, resolveCount_append, hresolve, measuredAfter_concat, h.resolved]
    generalize (server.answer generatedId request).outcome.kind = kind
    cases kind <;>
      simp only [Metrics.record, OutcomeCounts.add, reduceCtorEq, if_true, if_false] <;> omega

theorem balanced_run (server : Server) (requests : List (HeaderValue × Request)) :
    Balanced server.router.routes (server.run {} requests) := by
  induction requests using List.reverseRecOn with
  | nil => exact balanced_nil server.router.routes
  | append_singleton requests head ih =>
    rw [Server.run_concat]
    exact ih.concat head.1 head.2

/-- What one more request changes about the counts and what becomes of the response of a handler:
only the counters of its outcome and the calls of the handler that it reaches are raised. -/
structure Accounted (server : Server) (generatedId : HeaderValue) (request : Request)
    (before after : Served) (answer : Answer) : Prop where
  outcome : answer.outcome =
    (server.router.dispatch (server.seen generatedId request)).outcome
  dispatches : ∀ kind, (measuredAfter {} after).dispatches.get kind =
    (measuredAfter {} before).dispatches.get kind + if answer.outcome.kind = kind then 1 else 0
  durations : ∀ kind, (measuredAfter {} after).durations.get kind =
    (measuredAfter {} before).durations.get kind + if answer.outcome.kind = kind then 1 else 0
  calls : ∀ index, callCount index (stepsOf after) =
    callCount index (stepsOf before) +
      if answer.outcome.kind = .handled ∧
        firstIndex? server.router.routes (Request.decodePath request.uri.path) = some index
      then 1 else 0
  resolutions : resolveCount (stepsOf after) =
    resolveCount (stepsOf before) + if answer.outcome.kind = .notFound then 0 else 1
  /-- Whatever its status, the response of a handler is sent. -/
  handled : ∀ response, answer.outcome = .handled response →
    (∃ index route context, server.router.routes[index]? = some route ∧
      .call index context ∈ answer.steps ∧ response = route.handler context) ∧
    PassedThrough request.method (request.idOr generatedId) response answer.response

theorem accounted_concat (server : Server) (served : Served) (generatedId : HeaderValue)
    (request : Request) :
    Accounted server generatedId request served
      (served ++ [(server.answer generatedId request,
        (measuredAfter {} served).record (server.answer generatedId request).outcome.kind)])
      (server.answer generatedId request) where
  outcome := Server.outcome_answer
  dispatches kind := by
    rw [measuredAfter_concat]
    exact OutcomeCounts.get_add _ _ kind
  durations kind := by
    rw [measuredAfter_concat]
    exact OutcomeCounts.get_add _ _ kind
  calls index := by
    rw [stepsOf_concat, callCount_append, server.callCount_answer]
  resolutions := by
    rw [stepsOf_concat, resolveCount_append, server.resolveCount_answer]
  handled response h := by
    refine ⟨?_, server.passedThrough_of_handled generatedId request h⟩
    obtain ⟨index, route, _, context, hfirst, hcall, hresponse⟩ :=
      server.exists_firstMatch_of_handled generatedId request h
    exact ⟨index, route, context, hfirst.getElem?, hcall, hresponse⟩

/-- After any number of requests of a run, there are as many outcomes as requests, as many durations
as outcomes of each kind, as many calls of handlers as handled requests, and as many credentials
that were resolved as requests that were handled or failed. The next request raises the counters of
its own outcome and the calls of the handler that it reaches, and nothing else. A response of a
handler is sent whatever its status is, with the size of its body, if it is known, and the
identifier of the request added. -/
theorem run_accounts (server : Server) (requests : List (HeaderValue × Request)) (n : Nat) :
    let served := (server.run {} requests).take n
    served.length = (requests.take n).length ∧ Balanced server.router.routes served ∧
    ∀ generatedId request, requests[n]? = some (generatedId, request) →
      ∃ answer metrics, (server.run {} requests)[n]? = some (answer, metrics) ∧
        Accounted server generatedId request served ((server.run {} requests).take (n + 1))
          answer := by
  intro served
  have hserved : served = server.run {} (requests.take n) := server.run_take {} requests n
  rw [hserved]
  refine ⟨server.length_run {} _, balanced_run server _, fun generatedId request h => ?_⟩
  refine ⟨_, _, Server.getElem?_run h, ?_⟩
  rw [Server.run_take, Server.run_take_succ h]
  exact accounted_concat server _ generatedId request

/-- A handler that answers that nothing was found has handled its request, and its text is kept from
a request for the header alone. -/
theorem run_accounts_not_found_handler :
    let response : Response := .plain .notFound "gone"
    let server : Server := ⟨.ofRoutes [⟨⟨"/a", [.literal "a"]⟩, fun _ => response⟩], none⟩
    let request : Request := ⟨.head, ⟨none, none, "/a", none⟩, [], []⟩
    let requests := [(HeaderValue.ofText "1", request), (.ofText "2", request)]
    requests[1]? = some (.ofText "2", request) ∧
    callCount 0 (stepsOf ((server.run {} requests).take 2)) =
      callCount 0 (stepsOf ((server.run {} requests).take 1)) + 1 ∧
    ∃ answer metrics, (server.run {} requests)[1]? = some (answer, metrics) ∧
      PassedThrough .head (.ofText "2") response answer.response := by
  intro response server request requests
  obtain ⟨-, -, hnext⟩ := run_accounts server requests 1
  obtain ⟨answer, metrics, hanswer, haccounted⟩ := hnext (.ofText "2") request rfl
  have houtcome : answer.outcome = .handled response := haccounted.outcome.trans (by decide)
  refine ⟨rfl, ?_, answer, metrics, hanswer, (haccounted.handled response houtcome).2⟩
  rw [haccounted.calls 0, houtcome]
  decide

/-- The response of a handler does not keep its header fields alone: a size is added to them, even
if the method is a plain one. -/
theorem handled_response_gains_contentLength :
    let server : Server := ⟨.ofRoutes [⟨⟨"/a", [.literal "a"]⟩, fun _ => .ofStatus .notFound⟩], none⟩
    let request : Request := ⟨.get, ⟨none, none, "/a", none⟩, [], []⟩
    let answer := server.answer (.ofText "1") request
    answer.outcome = .handled (.ofStatus .notFound) ∧
    answer.response.headers = [(.contentLength, .ofText "0"), (.requestId, .ofText "1")] ∧
    answer.response.headers ≠
      (Response.ofStatus .notFound).headers.addNew .requestId (.ofText "1") := by
  refine ⟨by decide, by decide, by decide⟩

end PatternRouter.Http
